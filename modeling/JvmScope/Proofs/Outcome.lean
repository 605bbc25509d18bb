import JvmScope.Resolution.Error
import Mathlib.Data.List.Forall2

/-!
# Outcomes

Questions about a program are answered in `Except`. The lemmas here take a successful answer
apart into the answers it was made of. `Refines` compares two ways of asking: the second
succeeds, with the same value, wherever the first does. It passes through `>>=`, so that a rule
refines another as soon as the questions it asks do. So do `FailsOnly`, which says what all
failures are like, and `EqUnless`, which compares an answer with one that was given up early.

A traversal succeeds when all that it passes does (`mapM_ok_iff_forall₂`), and else fails as the
first that does not (`mapM_error_iff`).
-/

namespace JvmScope

variable {ε α β : Type}

theorem bind_ok_iff {x : Except ε α} {f : α → Except ε β} {b : β} :
    (x >>= f) = .ok b ↔ ∃ a, x = .ok a ∧ f a = .ok b := by
  cases x <;> simp [bind, Except.bind]

theorem bind_of_ok {x : Except ε α} {f : α → Except ε β} {a : α} (h : x = .ok a) :
    (x >>= f) = f a := by
  rw [h]
  rfl

theorem bind_of_error {x : Except ε α} {f : α → Except ε β} {e : ε} (h : x = .error e) :
    (x >>= f) = .error e := by
  rw [h]
  rfl

/-- What is done with an answer only matters for the answer that there is. -/
theorem bind_congr_of_ok {x : Except ε α} {f g : α → Except ε β}
    (h : ∀ a, x = .ok a → f a = g a) : (x >>= f) = (x >>= g) := by
  cases x with
  | error e => rfl
  | ok a => exact h a rfl

theorem map_ok_iff {x : Except ε α} {f : α → β} {b : β} :
    (f <$> x) = .ok b ↔ ∃ a, x = .ok a ∧ f a = b := by
  cases x <;> simp [Functor.map, Except.map]

theorem map_error_iff {x : Except ε α} {f : α → β} {e : ε} :
    (f <$> x) = .error e ↔ x = .error e := by
  cases x <;> simp [Functor.map, Except.map]

@[simp] theorem pure_ok_iff {a b : α} : (pure a : Except ε α) = .ok b ↔ a = b := by
  simp [pure, Except.pure]

@[simp] theorem throw_ok_iff {e : ε} {a : α} : (throw e : Except ε α) = .ok a ↔ False :=
  ⟨fun h => Except.noConfusion rfl rfl (heq_of_eq h), False.elim⟩

theorem mapError_ok_iff {x : Except ε α} {g : ε → β} {a : α} :
    x.mapError g = .ok a ↔ x = .ok a := by
  cases x with
  | ok b =>
      show (.ok b : Except β α) = .ok a ↔ (.ok b : Except ε α) = .ok a
      rw [Except.ok.injEq, Except.ok.injEq]
  | error e => exact iff_of_false nofun nofun

@[simp] theorem atRange_ok_iff {range : TextRange} {x : Except TypeError α} {a : α} :
    atRange range x = .ok a ↔ x = .ok a := mapError_ok_iff

theorem toOption_eq_some_iff {x : Except ε α} {a : α} : x.toOption = some a ↔ x = .ok a := by
  cases x with
  | ok b =>
      show some b = some a ↔ _
      rw [Option.some.injEq, Except.ok.injEq]
  | error e => exact iff_of_false nofun nofun

theorem exists_of_isOk {x : Except ε α} (h : x.isOk = true) : ∃ a, x = .ok a := by
  cases x with
  | ok a => exact ⟨a, rfl⟩
  | error e => cases h

/-- A step that keeps a state goes on from where the one before has left it. -/
theorem run_bind_of_steps {σ : Type} (x : ExceptT ε (StateM σ) α) (f : α → ExceptT ε (StateM σ) β)
    (s : σ) :
    (x >>= f).run.run s =
      match x.run.run s with
      | (.ok a, s') => (f a).run.run s'
      | (.error e, s') => (.error e, s') := by
  rw [ExceptT.run_bind, StateT.run_bind]
  show (fun step : Except ε α × σ => _) (x.run.run s) = _
  rcases x.run.run s with ⟨answer, s'⟩
  cases answer with
  | ok a => rfl
  | error e => rfl

/-! ## Traversals -/

section Traversals

variable {γ : Type} {f : α → Except ε β} {l front back : List α} {results : List β} {a : α} {e : ε}

/-- The results of a traversal are results of what it passes. -/
theorem mem_of_mapM_ok (h : l.mapM f = .ok results) :
    ∀ b ∈ results, ∃ a ∈ l, f a = .ok b := by
  induction l generalizing results with
  | nil =>
      rw [List.mapM_nil, pure_ok_iff] at h
      subst h
      intro b hb
      exact absurd hb List.not_mem_nil
  | cons a rest ih =>
      rw [List.mapM_cons] at h
      obtain ⟨first, hfirst, h⟩ := bind_ok_iff.1 h
      obtain ⟨more, hmore, h⟩ := bind_ok_iff.1 h
      rw [pure_ok_iff] at h
      subst h
      intro b hb
      rcases List.mem_cons.1 hb with rfl | hb
      · exact ⟨a, List.mem_cons_self, hfirst⟩
      · obtain ⟨c, hc, hcb⟩ := ih hmore b hb
        exact ⟨c, List.mem_cons_of_mem _ hc, hcb⟩

/-- What a traversal passes has a result each. -/
theorem exists_of_mapM_ok (h : l.mapM f = .ok results) :
    ∀ a ∈ l, ∃ b ∈ results, f a = .ok b := by
  induction l generalizing results with
  | nil => exact fun a ha => absurd ha List.not_mem_nil
  | cons a rest ih =>
      rw [List.mapM_cons] at h
      obtain ⟨first, hfirst, h⟩ := bind_ok_iff.1 h
      obtain ⟨more, hmore, h⟩ := bind_ok_iff.1 h
      obtain rfl := pure_ok_iff.1 h
      intro c hc
      rcases List.mem_cons.1 hc with rfl | hc
      · exact ⟨first, List.mem_cons_self, hfirst⟩
      · obtain ⟨b, hb, hcb⟩ := ih hmore c hc
        exact ⟨b, List.mem_cons_of_mem _ hb, hcb⟩

/-- A traversal succeeds when everything it passes does, and collects the results in order. -/
theorem mapM_ok_iff_forall₂ :
    l.mapM f = .ok results ↔ List.Forall₂ (fun a b => f a = .ok b) l results := by
  induction l generalizing results with
  | nil =>
      rw [List.mapM_nil, pure_ok_iff, List.forall₂_nil_left_iff]
      exact eq_comm
  | cons a rest ih =>
      simp only [List.mapM_cons, bind_ok_iff, pure_ok_iff, ih, List.forall₂_cons_left_iff]
      constructor
      · rintro ⟨b, hb, more, hmore, rfl⟩
        exact ⟨b, more, hb, hmore, rfl⟩
      · rintro ⟨b, more, hb, hmore, rfl⟩
        exact ⟨b, hb, more, hmore, rfl⟩

/-- The same for results that are wrapped up. -/
theorem mapM_map_ok_iff {g : β → γ} {results : List γ} :
    (l.mapM fun a => g <$> f a) = .ok results ↔
      ∃ found, List.Forall₂ (fun a b => f a = .ok b) l found ∧ results = found.map g := by
  simp only [mapM_ok_iff_forall₂, map_ok_iff]
  induction l generalizing results with
  | nil => simp
  | cons a rest ih =>
      simp only [List.forall₂_cons_left_iff, ih]
      constructor
      · rintro ⟨_, _, ⟨b, hb, rfl⟩, ⟨found, hfound, rfl⟩, rfl⟩
        exact ⟨b :: found, ⟨b, found, hb, hfound, rfl⟩, rfl⟩
      · rintro ⟨_, ⟨b, found, hb, hfound, rfl⟩, rfl⟩
        exact ⟨g b, found.map g, ⟨b, hb, rfl⟩, ⟨found, hfound, rfl⟩, rfl⟩

/-- Where elements correspond to each other, they contribute the same. -/
theorem filterMap_eq_of_forall₂ {g : α → Option γ} {g' : β → Option γ}
    (h : List.Forall₂ (fun a b => g a = g' b) l results) :
    l.filterMap g = results.filterMap g' := by
  induction h with
  | nil => rfl
  | cons first _ ih => rw [List.filterMap_cons, List.filterMap_cons, first, ih]

/-- A traversal of things that succeed succeeds. -/
theorem exists_mapM_ok (h : ∀ a ∈ l, ∃ b, f a = .ok b) : ∃ results, l.mapM f = .ok results := by
  induction l with
  | nil => exact ⟨[], List.mapM_nil⟩
  | cons a rest ih =>
      obtain ⟨b, hb⟩ := h a List.mem_cons_self
      obtain ⟨more, hmore⟩ := ih fun c hc => h c (List.mem_cons_of_mem _ hc)
      refine ⟨b :: more, ?_⟩
      rw [List.mapM_cons, bind_of_ok hb, bind_of_ok hmore]
      rfl

/-- What fails first is the failure of a traversal, whatever comes after it. -/
theorem mapM_of_first_error (hfront : ∀ b ∈ front, ∃ result, f b = .ok result)
    (failed : f a = .error e) : (front ++ a :: back).mapM f = .error e := by
  obtain ⟨results, hresults⟩ := exists_mapM_ok hfront
  rw [List.mapM_append, bind_of_ok hresults, List.mapM_cons, bind_of_error failed]
  rfl

end Traversals

/-! ## Refinement -/

/-- Wherever `x` succeeds, `y` succeeds with the same value. -/
def Refines (x y : Except ε α) : Prop := ∀ a, x = .ok a → y = .ok a

namespace Refines

theorem refl (x : Except ε α) : Refines x x := fun _ h => h

/-- A failure is refined by anything. -/
theorem throw (e : ε) (y : Except ε α) : Refines (throw e) y := fun _ h => (throw_ok_iff.1 h).elim

theorem bind {x y : Except ε α} {f g : α → Except ε β} (hxy : Refines x y)
    (hfg : ∀ a, Refines (f a) (g a)) : Refines (x >>= f) (y >>= g) := by
  intro b h
  obtain ⟨a, hx, hf⟩ := bind_ok_iff.1 h
  exact bind_ok_iff.2 ⟨a, hxy a hx, hfg a b hf⟩

end Refines

/-! ## Failures -/

/-- All failures of `x` are as `P` says. -/
def FailsOnly (P : ε → Prop) (x : Except ε α) : Prop := ∀ e, x = .error e → P e

namespace FailsOnly

variable {P Q : ε → Prop} {x : Except ε α}

theorem pure (a : α) : FailsOnly P (pure a : Except ε α) := fun _ h => by cases h

theorem throw {e : ε} (h : P e) : FailsOnly P (throw e : Except ε α) := by
  intro e' he
  cases he
  exact h

theorem mono (h : FailsOnly P x) (weaker : ∀ e, P e → Q e) : FailsOnly Q x :=
  fun e he => weaker e (h e he)

/-- What comes after a successful question only has to fail as `P` says for its answer. -/
theorem bind {f : α → Except ε β} (hx : FailsOnly P x)
    (hf : ∀ a, x = .ok a → FailsOnly P (f a)) : FailsOnly P (x >>= f) := by
  intro e h
  cases x with
  | error cause =>
      cases h
      exact hx e rfl
  | ok a => exact hf a rfl e h

theorem map {f : α → β} (hx : FailsOnly P x) : FailsOnly P (f <$> x) := by
  intro e h
  cases x with
  | error cause =>
      cases h
      exact hx e rfl
  | ok a => cases h

theorem mapM {f : α → Except ε β} {l : List α} (h : ∀ a ∈ l, FailsOnly P (f a)) :
    FailsOnly P (l.mapM f) := by
  induction l with
  | nil =>
      rw [List.mapM_nil]
      exact .pure _
  | cons a rest ih =>
      rw [List.mapM_cons]
      refine bind (h a List.mem_cons_self) fun _ _ => ?_
      refine bind (ih fun b hb => h b (List.mem_cons_of_mem _ hb)) fun _ _ => ?_
      exact .pure _

theorem findSomeM? {f : α → Except ε (Option β)} {l : List α}
    (h : ∀ a ∈ l, FailsOnly P (f a)) : FailsOnly P (l.findSomeM? f) := by
  induction l with
  | nil => exact .pure _
  | cons a rest ih =>
      rw [List.findSomeM?_cons]
      refine bind (h a List.mem_cons_self) fun found _ => ?_
      cases found with
      | some b => exact .pure _
      | none => exact ih fun b hb => h b (List.mem_cons_of_mem _ hb)

end FailsOnly

theorem FailsOnly.atRange {P : ResolveError → Prop} {range : TextRange}
    {x : Except TypeError α} (h : ∀ cause, P (.ofType range cause)) :
    FailsOnly P (atRange range x) := by
  intro e he
  cases x with
  | ok a => cases he
  | error cause =>
      cases he
      exact h cause

/-! ## Giving up -/

/-- `x` is `y`, if it is not given up for the reason `c`. -/
def EqUnless (c : ε) (x y : Except ε α) : Prop := x = .error c ∨ x = y

namespace EqUnless

variable {c : ε} {x y : Except ε α}

theorem refl (x : Except ε α) : EqUnless c x x := .inr rfl

theorem bind {f g : α → Except ε β} (hxy : EqUnless c x y)
    (hfg : ∀ a, EqUnless c (f a) (g a)) : EqUnless c (x >>= f) (y >>= g) := by
  rcases hxy with rfl | rfl
  · exact .inl rfl
  · cases x with
    | error e => exact .inr rfl
    | ok a => exact hfg a

theorem map {f : α → β} (hxy : EqUnless c x y) : EqUnless c (f <$> x) (f <$> y) := by
  rcases hxy with rfl | rfl
  · exact .inl rfl
  · exact .inr rfl

theorem mapError {c' : β} {g : ε → β} (hxy : EqUnless c x y) (hc : g c = c') :
    EqUnless c' (x.mapError g) (y.mapError g) := by
  rcases hxy with rfl | rfl
  · exact .inl (congrArg Except.error hc)
  · exact .inr rfl

theorem mapM {f g : α → Except ε β} (h : ∀ a, EqUnless c (f a) (g a)) (l : List α) :
    EqUnless c (l.mapM f) (l.mapM g) := by
  induction l with
  | nil =>
      rw [List.mapM_nil, List.mapM_nil]
      exact .refl _
  | cons a rest ih =>
      rw [List.mapM_cons, List.mapM_cons]
      exact bind (h a) fun _ => bind ih fun _ => .refl _

theorem findSomeM? {f g : α → Except ε (Option β)} (h : ∀ a, EqUnless c (f a) (g a))
    (l : List α) : EqUnless c (l.findSomeM? f) (l.findSomeM? g) := by
  induction l with
  | nil => exact .refl _
  | cons a rest ih =>
      rw [List.findSomeM?_cons, List.findSomeM?_cons]
      refine bind (h a) fun found => ?_
      cases found with
      | some b => exact .refl _
      | none => exact ih

end EqUnless

/-! ## Searches -/

/-- Where not all elements of a list have a property, there is a first one that has not. -/
theorem exists_first_not {p : α → Prop} {l : List α} (h : ¬∀ a ∈ l, p a) :
    ∃ front a back, l = front ++ a :: back ∧ (∀ b ∈ front, p b) ∧ ¬p a := by
  induction l with
  | nil => exact absurd (fun _ ha => absurd ha List.not_mem_nil) h
  | cons first rest ih =>
      by_cases hfirst : p first
      · obtain ⟨front, a, back, rfl, hfront, ha⟩ := ih fun hrest => h fun b hb => by
          rcases List.mem_cons.1 hb with rfl | hb
          · exact hfirst
          · exact hrest b hb
        refine ⟨first :: front, a, back, rfl, fun b hb => ?_, ha⟩
        rcases List.mem_cons.1 hb with rfl | hb
        · exact hfirst
        · exact hfront b hb
      · exact ⟨[], first, rest, rfl, fun _ hb => absurd hb List.not_mem_nil, hfirst⟩

/-- There is one such first element. -/
theorem eq_of_first_not {p : α → Prop} {l front back front' back' : List α} {a a' : α}
    (split : l = front ++ a :: back) (before : ∀ b ∈ front, p b) (here : ¬p a)
    (split' : l = front' ++ a' :: back') (before' : ∀ b ∈ front', p b) (here' : ¬p a') :
    a = a' := by
  rw [split] at split'
  rcases List.append_eq_append_iff.1 split' with ⟨more, rfl, same⟩ | ⟨more, rfl, same⟩
  · cases more with
    | nil => exact (List.cons.inj same).1
    | cons b more =>
        obtain ⟨rfl, -⟩ := List.cons.inj same
        exact absurd (before' a (by simp)) here
  · cases more with
    | nil => exact (List.cons.inj same).1.symm
    | cons b more =>
        obtain ⟨rfl, -⟩ := List.cons.inj same
        exact absurd (before a' (by simp)) here'

/-- With distinct keys nothing stands under the key of an entry in front of it. -/
theorem exists_split_of_distinct {l : List (α × β)} (distinct : (l.map Prod.fst).Nodup) {a : α}
    {b : β} (h : (a, b) ∈ l) :
    ∃ front back, l = front ++ (a, b) :: back ∧ ∀ e ∈ front, e.1 ≠ a := by
  obtain ⟨front, back, rfl⟩ := List.append_of_mem h
  refine ⟨front, back, rfl, fun e he => ?_⟩
  rw [List.map_append, List.map_cons] at distinct
  exact (List.nodup_append.1 distinct).2.2 e.1 (List.mem_map_of_mem he) a List.mem_cons_self

/-- A traversal fails where it first comes upon a failure, and as it does. -/
theorem mapM_error_iff {f : α → Except ε β} {l : List α} {e : ε} :
    l.mapM f = .error e ↔
      ∃ front a back, l = front ++ a :: back ∧ (∀ b ∈ front, ∃ result, f b = .ok result) ∧
        f a = .error e := by
  constructor
  · intro h
    have failing : ¬∀ a ∈ l, ∃ b, f a = .ok b := by
      intro all
      obtain ⟨results, hresults⟩ := exists_mapM_ok all
      rw [hresults] at h
      cases h
    obtain ⟨front, a, back, rfl, hfront, ha⟩ := exists_first_not failing
    cases hfirst : f a with
    | ok b => exact absurd ⟨b, hfirst⟩ ha
    | error cause =>
        rw [mapM_of_first_error hfront hfirst] at h
        cases h
        exact ⟨front, a, back, rfl, hfront, hfirst⟩
  · rintro ⟨front, a, back, rfl, hfront, ha⟩
    exact mapM_of_first_error hfront ha

variable {f : α → Except ε (Option β)}

/-- Elements that say nothing are passed over. -/
theorem findSomeM?_append_of_none {front rest : List α} (h : ∀ a ∈ front, f a = .ok none) :
    (front ++ rest).findSomeM? f = rest.findSomeM? f := by
  induction front with
  | nil => rfl
  | cons a front ih =>
      rw [List.cons_append, List.findSomeM?_cons, h a List.mem_cons_self]
      exact ih fun b hb => h b (List.mem_cons_of_mem _ hb)

theorem findSomeM?_cons_of_some {a : α} {rest : List α} {b : β} (h : f a = .ok (some b)) :
    (a :: rest).findSomeM? f = .ok (some b) := by
  rw [List.findSomeM?_cons, h]
  rfl

theorem findSomeM?_cons_of_error {a : α} {rest : List α} {e : ε} (h : f a = .error e) :
    (a :: rest).findSomeM? f = .error e := by
  rw [List.findSomeM?_cons, h]
  rfl

/-- A search of one thing is a question about it. -/
theorem findSomeM?_singleton {m : Type → Type} [Monad m] [LawfulMonad m] (f : α → m (Option β))
    (a : α) : [a].findSomeM? f = f a := by
  rw [List.findSomeM?_cons]
  refine (bind_congr fun found => ?_).trans (bind_pure (f a))
  cases found <;> rfl

/-- A list is searched part by part. -/
theorem findSomeM?_append {m : Type → Type} [Monad m] [LawfulMonad m] (f : α → m (Option β))
    (front rest : List α) :
    (front ++ rest).findSomeM? f = (do
      match ← front.findSomeM? f with
      | some b => pure (some b)
      | none => rest.findSomeM? f) := by
  induction front with
  | nil =>
      rw [List.findSomeM?_nil, pure_bind]
      rfl
  | cons a front ih =>
      rw [List.cons_append, List.findSomeM?_cons, List.findSomeM?_cons, bind_assoc, ih]
      refine bind_congr fun found => ?_
      cases found with
      | some b =>
          rw [pure_bind]
      | none => rfl

/-- A search is empty-handed exactly when every element says nothing. -/
theorem findSomeM?_none_iff {l : List α} :
    l.findSomeM? f = .ok none ↔ ∀ a ∈ l, f a = .ok none := by
  constructor
  · induction l with
    | nil => intro _ a ha; exact absurd ha List.not_mem_nil
    | cons a rest ih =>
        intro h
        rw [List.findSomeM?_cons] at h
        obtain ⟨found, hfound, h⟩ := bind_ok_iff.1 h
        cases found with
        | some b => cases h
        | none =>
            intro c hc
            rcases List.mem_cons.1 hc with rfl | hc
            · exact hfound
            · exact ih h c hc
  · intro h
    have found : (l ++ []).findSomeM? f = .ok none := findSomeM?_append_of_none h
    rwa [List.append_nil] at found

/-- A search finds what the first element has to say that says anything. -/
theorem findSomeM?_some_iff {l : List α} {b : β} :
    l.findSomeM? f = .ok (some b) ↔
      ∃ front a back, l = front ++ a :: back ∧ (∀ c ∈ front, f c = .ok none) ∧
        f a = .ok (some b) := by
  constructor
  · induction l with
    | nil => intro h; cases h
    | cons a rest ih =>
        intro h
        rw [List.findSomeM?_cons] at h
        obtain ⟨found, hfound, h⟩ := bind_ok_iff.1 h
        cases found with
        | some c =>
            cases h
            exact ⟨[], a, rest, rfl, fun _ hc => absurd hc List.not_mem_nil, hfound⟩
        | none =>
            obtain ⟨front, c, back, rfl, hfront, hc⟩ := ih h
            refine ⟨a :: front, c, back, rfl, fun d hd => ?_, hc⟩
            rcases List.mem_cons.1 hd with rfl | hd
            · exact hfound
            · exact hfront d hd
  · rintro ⟨front, a, back, rfl, hfront, ha⟩
    rw [findSomeM?_append_of_none hfront]
    exact findSomeM?_cons_of_some ha

end JvmScope
