import JvmScope.Proofs.Types.Walk
import Mathlib.Data.List.Forall2

/-!
# Selecting what a call invokes

A candidate is selected exactly if it takes the arguments and no other one does
(`select_unique_iff`), which is what it means for a call or creation to find its method or
constructor (`findMethod_ok_iff`, `findConstructor_ok_iff`). It takes the arguments one by one
(`accepts_of_isApplicable`), so it has as many parameters as there are arguments. Since `void`
is converted to nothing and nothing to it, a parameter is `void` exactly where the argument is
(`accepts_void`).

`TypeDefinition.Over` says of which types the members of a definition are made.
-/

namespace JvmScope

variable {source : TypeSource (Except TypeError)} {α : Type} {params : α → List JvmType}
  {args : List JvmType}

/-! ## Passing -/

theorem JvmType.accepts_of_acceptAll {ps : List JvmType}
    (h : acceptAll source ps args = .ok true) :
    List.Forall₂ (fun p a => p.accepts source a = .ok true) ps args := by
  induction ps generalizing args with
  | nil =>
      cases args with
      | nil => exact .nil
      | cons a args => simp [acceptAll] at h
  | cons p ps ih =>
      cases args with
      | nil => simp [acceptAll] at h
      | cons a args =>
          rw [acceptAll] at h
          obtain ⟨fits, hfits, h⟩ := bind_ok_iff.1 h
          cases fits with
          | false => simp at h
          | true => exact .cons hfits (ih h)

/-- Arguments that can be passed are accepted one by one. -/
theorem accepts_of_isApplicable {ps : List JvmType}
    (h : isApplicable source ps args = .ok true) :
    List.Forall₂ (fun p a => p.accepts source a = .ok true) ps args := by
  unfold isApplicable at h
  split at h
  · exact JvmType.accepts_of_acceptAll h
  · simp at h

/-- Only `void` is passed for `void`, and `void` only for `void`. -/
theorem JvmType.accepts_void {p a : JvmType} (h : p.accepts source a = .ok true) :
    p = .primitive .void ↔ a = .primitive .void := by
  by_cases same : p = a
  · rw [same]
  · -- what else is accepted is a class or an array for a class or an array
    constructor
    · intro hp
      subst hp
      cases a with
      | primitive k => simp [accepts, same] at h
      | object n => simp [accepts] at h
      | array c => simp [accepts, ofDotted] at h
    · intro ha
      subst ha
      cases p with
      | primitive k => simp [accepts, same] at h
      | object n => simp [accepts] at h
      | array c => simp [accepts] at h

/-! ## Selecting -/

/-- The candidates that are known to take the arguments. -/
def fitting (source : TypeSource (Except TypeError)) (params : α → List JvmType)
    (args : List JvmType) (candidates : List α) : List α :=
  candidates.filter fun c => decide (isApplicable source (params c) args = .ok true)

theorem mem_fitting_iff {candidates : List α} {c : α} :
    c ∈ fitting source params args candidates ↔
      c ∈ candidates ∧ isApplicable source (params c) args = .ok true := by
  simp [fitting]

/-- Of all candidates it has to be known whether they take the arguments. -/
theorem applicable_ok_iff {candidates found : List α} :
    applicable source params args candidates = .ok found ↔
      (∀ c ∈ candidates, ∃ fits, isApplicable source (params c) args = .ok fits) ∧
        found = fitting source params args candidates := by
  induction candidates generalizing found with
  | nil =>
      rw [applicable, pure_ok_iff]
      simp [fitting, eq_comm]
  | cons a rest ih =>
      rw [applicable, List.forall_mem_cons]
      constructor
      · intro h
        obtain ⟨fits, hfits, h⟩ := bind_ok_iff.1 h
        obtain ⟨more, hmore, h⟩ := bind_ok_iff.1 h
        obtain ⟨known, rfl⟩ := ih.1 hmore
        obtain rfl := pure_ok_iff.1 h
        refine ⟨⟨⟨fits, hfits⟩, known⟩, ?_⟩
        cases fits <;> simp [fitting, hfits]
      · rintro ⟨⟨⟨fits, hfits⟩, known⟩, rfl⟩
        apply bind_ok_iff.2
        refine ⟨fits, hfits, ?_⟩
        apply bind_ok_iff.2
        refine ⟨_, ih.2 ⟨known, rfl⟩, ?_⟩
        cases fits <;> simp [fitting, hfits]

/-- The candidate `c` takes the arguments, and no other one does. -/
def OnlyApplicable (source : TypeSource (Except TypeError)) (params : α → List JvmType)
    (args : List JvmType) (candidates : List α) (c : α) : Prop :=
  ∃ front back, candidates = front ++ c :: back ∧
    isApplicable source (params c) args = .ok true ∧
    ∀ other ∈ front ++ back, isApplicable source (params other) args = .ok false

namespace OnlyApplicable

variable {candidates : List α} {c : α}

theorem mem (h : OnlyApplicable source params args candidates c) : c ∈ candidates := by
  obtain ⟨front, back, rfl, -⟩ := h
  exact List.mem_append_right _ List.mem_cons_self

theorem applies (h : OnlyApplicable source params args candidates c) :
    isApplicable source (params c) args = .ok true := by
  obtain ⟨-, -, -, happlies, -⟩ := h
  exact happlies

end OnlyApplicable

theorem applicable_nil_iff {candidates : List α} :
    applicable source params args candidates = .ok [] ↔
      ∀ c ∈ candidates, isApplicable source (params c) args = .ok false := by
  induction candidates with
  | nil => exact iff_of_true rfl fun _ h => absurd h List.not_mem_nil
  | cons a rest ih =>
      rw [applicable, List.forall_mem_cons, ← ih]
      constructor
      · intro h
        obtain ⟨fits, hfits, h⟩ := bind_ok_iff.1 h
        obtain ⟨more, hmore, h⟩ := bind_ok_iff.1 h
        cases fits with
        | false =>
            obtain rfl : more = [] := pure_ok_iff.1 h
            exact ⟨hfits, hmore⟩
        | true => cases pure_ok_iff.1 h
      · rintro ⟨hfits, hmore⟩
        exact bind_ok_iff.2 ⟨false, hfits, bind_ok_iff.2 ⟨[], hmore, rfl⟩⟩

theorem applicable_singleton_iff {candidates : List α} {c : α} :
    applicable source params args candidates = .ok [c] ↔
      OnlyApplicable source params args candidates c := by
  induction candidates with
  | nil =>
      refine iff_of_false nofun fun h => ?_
      exact absurd h.mem List.not_mem_nil
  | cons a rest ih =>
      rw [applicable]
      constructor
      · intro h
        obtain ⟨fits, hfits, h⟩ := bind_ok_iff.1 h
        obtain ⟨more, hmore, h⟩ := bind_ok_iff.1 h
        cases fits with
        | true =>
            obtain ⟨rfl, rfl⟩ : a = c ∧ more = [] := List.cons.inj (pure_ok_iff.1 h)
            exact ⟨[], rest, rfl, hfits, applicable_nil_iff.1 hmore⟩
        | false =>
            obtain rfl : more = [c] := pure_ok_iff.1 h
            obtain ⟨front, back, rfl, happlies, hothers⟩ := ih.1 hmore
            exact ⟨a :: front, back, rfl, happlies, List.forall_mem_cons.2 ⟨hfits, hothers⟩⟩
      · rintro ⟨front, back, hsplit, happlies, hothers⟩
        cases front with
        | nil =>
            obtain ⟨rfl, rfl⟩ := List.cons.inj hsplit
            have hmore := applicable_nil_iff.2 hothers
            exact bind_ok_iff.2 ⟨true, happlies, bind_ok_iff.2 ⟨[], hmore, rfl⟩⟩
        | cons b front =>
            obtain ⟨rfl, rfl⟩ := List.cons.inj hsplit
            obtain ⟨hfits, hothers⟩ := List.forall_mem_cons.1 hothers
            have hmore := ih.2 ⟨front, back, rfl, happlies, hothers⟩
            exact bind_ok_iff.2 ⟨false, hfits, bind_ok_iff.2 ⟨[c], hmore, rfl⟩⟩

/-- A candidate is selected exactly if it is the only one that takes the arguments. -/
theorem select_unique_iff {candidates : List α} {c : α} :
    selectApplicable source params candidates args = .ok (.unique c) ↔
      OnlyApplicable source params args candidates c := by
  rw [← applicable_singleton_iff]
  constructor
  · intro h
    obtain ⟨found, hfound, h⟩ := bind_ok_iff.1 h
    have hselected : Selection.ofApplicable found = .unique c := pure_ok_iff.1 h
    rw [hfound]
    match found, hselected with
    | [_], rfl => rfl
  · intro h
    exact bind_ok_iff.2 ⟨[c], h, rfl⟩

namespace TypeDefinition

variable {d : TypeDefinition} {name : String}

/-- A call selects a method, on a value or on a type, exactly if it is the only one of its name
there that takes the arguments. -/
theorem findMethod_ok_iff {isStatic : Bool} {target : MethodTarget} :
    d.findMethod source name args isStatic = .ok target ↔
      ∃ methods c, d.methodsNamed source name = .ok methods ∧
        OnlyApplicable source (·.method.params) args
          (methods.filter (·.method.isStatic == isStatic)) c ∧
        target = .ofSignature c.owner c.method.name c.method.params c.method.result isStatic := by
  constructor
  · intro h
    obtain ⟨methods, hmethods, h⟩ := bind_ok_iff.1 h
    obtain ⟨selection, hselection, h⟩ := bind_ok_iff.1 h
    cases selection with
    | nothing => exact (throw_ok_iff.1 h).elim
    | ambiguous => exact (throw_ok_iff.1 h).elim
    | unique c =>
        have only := select_unique_iff.1 hselection
        refine ⟨methods, c, hmethods, only, ?_⟩
        rw [← beq_iff_eq.1 (List.mem_filter.1 only.mem).2]
        exact (pure_ok_iff.1 h).symm
  · rintro ⟨methods, c, hmethods, only, rfl⟩
    refine bind_ok_iff.2 ⟨methods, hmethods, bind_ok_iff.2 ⟨_, select_unique_iff.2 only, ?_⟩⟩
    rw [← beq_iff_eq.1 (List.mem_filter.1 only.mem).2]
    rfl

/-- A creation selects a constructor exactly if it is the only one that takes the arguments. -/
theorem findConstructor_ok_iff {target : ConstructorTarget} :
    d.findConstructor source args = .ok target ↔
      ∃ c, OnlyApplicable source Constructor.params args d.constructors c ∧
        target = .ofParams d.qualifiedName c.params := by
  constructor
  · intro h
    obtain ⟨selection, hselection, h⟩ := bind_ok_iff.1 h
    cases selection with
    | nothing => exact (throw_ok_iff.1 h).elim
    | ambiguous => exact (throw_ok_iff.1 h).elim
    | unique c => exact ⟨c, select_unique_iff.1 hselection, (pure_ok_iff.1 h).symm⟩
  · rintro ⟨c, only, rfl⟩
    exact bind_ok_iff.2 ⟨_, select_unique_iff.2 only, rfl⟩

end TypeDefinition

/-! ## What definitions are made of -/

namespace TypeDefinition

/-- Fields, parameters and constructors have types in `A`, and methods results in `R`. -/
structure Over (A R : JvmType → Prop) (d : TypeDefinition) : Prop where
  fields : ∀ f ∈ d.fields, A f.type
  params : ∀ m ∈ d.methods, ∀ p ∈ m.params, A p
  results : ∀ m ∈ d.methods, R m.result
  created : ∀ c ∈ d.constructors, ∀ p ∈ c.params, A p

theorem Over.mono {A B R S : JvmType → Prop} {d : TypeDefinition} (h : d.Over A R)
    (hA : ∀ t, A t → B t) (hR : ∀ t, R t → S t) : d.Over B S where
  fields f hf := hA _ (h.fields f hf)
  params m hm p hp := hA p (h.params m hm p hp)
  results m hm := hR _ (h.results m hm)
  created c hc p hp := hA p (h.created c hc p hp)

end TypeDefinition

end JvmScope
