import JvmScope.Proofs.Types.Walk
import Mathlib.Data.List.Nodup

/-!
# Hiding

A walk that nothing stops comes to the type itself and to `allSupertypes`, and what it computes
is a fold over these (`walk_eq_foldl`). So the methods of a name on a type are a matter of one
list, the methods that the hierarchy declares, nearest first (`declaredIn`): a method of this
list is visible if none in front of it has its descriptor, and the visible ones are listed
(`methodsNamed_of_allSupertypes`). So no descriptor is listed twice, and every one that the
hierarchy declares is listed once (`exists_visible`). Its method is inherited exactly when the
type itself does not declare it (`exists_inherits_iff`).
-/

namespace JvmScope.TypeDefinition

variable {source : TypeSource (Except TypeError)} {d : TypeDefinition} {σ : Type}

/-! ## Walks as folds -/

/-- The supertypes that a walk comes to, nearest first. -/
def allSupertypes (source : TypeSource (Except TypeError)) (d : TypeDefinition) :
    Except TypeError (List TypeDefinition) :=
  walkFrom source (fun seen e => .next (seen ++ [e])) [d.qualifiedName] d.supertypes []

/-- A walk that nothing stops goes on above a name that has an answer. -/
theorem walkFrom_cons {f : σ → TypeDefinition → σ} {visited queue : List String} {state : σ}
    {name : String} {e : TypeDefinition} (fresh : name ∉ visited)
    (h : source.resolve name = .ok (some e)) :
    walkFrom source (fun state e => .next (f state e)) visited (name :: queue) state =
      walkFrom source (fun state e => .next (f state e)) (name :: visited)
        (queue ++ e.supertypes) (f state e) := by
  obtain ⟨known, hknown⟩ := TypeSource.requireKnown_of_resolve h
  rw [walkFrom, dif_neg fresh, hknown]
  rfl

theorem walkFrom_eq_foldl (f : σ → TypeDefinition → σ) (start : σ) (visited queue : List String)
    (seen : List TypeDefinition) :
    walkFrom source (fun state e => .next (f state e)) visited queue (seen.foldl f start) =
      (·.foldl f start) <$>
        walkFrom source (fun seen e => .next (seen ++ [e])) visited queue seen := by
  -- both walks come to the same names, and the one's state is the fold over what the other saw
  fun_induction walkFrom source (fun (seen : List TypeDefinition) e => .next (seen ++ [e]))
      visited queue seen with
  | case1 visited seen =>
      rw [walkFrom]
      rfl
  | case2 visited seen name queue hseen ih =>
      rw [walkFrom, dif_pos hseen]
      exact ih
  | case3 visited seen name queue fresh ih =>
      rw [walkFrom, dif_neg fresh, map_bind]
      refine bind_congr fun answer => ?_
      have next := ih answer.1 answer.2 (seen ++ [answer.1])
      rw [List.foldl_append] at next
      exact next

/-- A walk that nothing stops is a fold over the type itself and its supertypes. -/
theorem walk_eq_foldl (f : σ → TypeDefinition → σ) (start : σ) :
    d.walk source (fun state e => .next (f state e)) start =
      (fun supers => (d :: supers).foldl f start) <$> d.allSupertypes source :=
  walkFrom_eq_foldl f (f start d) [d.qualifiedName] d.supertypes []

/-! ## First occurrences -/

/-- No method in front of `c` has its descriptor. -/
def Visible (all : List OwnedMethod) (c : OwnedMethod) : Prop :=
  ∃ front back, all = front ++ c :: back ∧
    ∀ x ∈ front, x.method.descriptor ≠ c.method.descriptor

variable {all found : List OwnedMethod} {c x : OwnedMethod}

theorem Visible.mem (h : Visible all c) : c ∈ all := by
  obtain ⟨front, back, rfl, -⟩ := h
  exact List.mem_append_right _ List.mem_cons_self

/-- Every descriptor has a first method. -/
theorem exists_visible (h : x ∈ all) :
    ∃ c, Visible all c ∧ c.method.descriptor = x.method.descriptor := by
  have occurs : ¬∀ y ∈ all, y.method.descriptor ≠ x.method.descriptor :=
    fun none => none x h rfl
  obtain ⟨front, c, back, hall, hfront, hc⟩ := exists_first_not occurs
  have same : c.method.descriptor = x.method.descriptor := Decidable.not_not.1 hc
  refine ⟨c, ⟨front, back, hall, ?_⟩, same⟩
  rw [same]
  exact hfront

/-- Where a visible method is not one of the first methods, none of these has its descriptor. -/
theorem Visible.descriptor_ne {own : List OwnedMethod} (h : Visible (own ++ all) c)
    (hc : c ∉ own) : ∀ x ∈ own, x.method.descriptor ≠ c.method.descriptor := by
  obtain ⟨front, back, hall, hfront⟩ := h
  rcases List.append_eq_append_iff.1 hall with ⟨more, rfl, -⟩ | ⟨more, rfl, hback⟩
  · exact fun x hx => hfront x (List.mem_append_left _ hx)
  · cases more with
    | nil =>
        rw [List.append_nil]
        exact hfront
    | cons y more =>
        obtain rfl := (List.cons.inj hback).1
        exact absurd (List.mem_append_right _ List.mem_cons_self) hc

/-- What is visible in a longer list was visible before, or is the last method and has a new
descriptor. -/
theorem visible_concat_iff :
    Visible (all ++ [x]) c ↔
      Visible all c ∨ c = x ∧ ∀ y ∈ all, y.method.descriptor ≠ x.method.descriptor := by
  constructor
  · rintro ⟨front, back, hall, hfront⟩
    rcases List.eq_nil_or_concat back with rfl | ⟨back, y, rfl⟩
    · obtain ⟨rfl, hx⟩ := List.append_inj' hall rfl
      obtain rfl := (List.cons.inj hx).1
      exact .inr ⟨rfl, hfront⟩
    · have shorter : all = front ++ c :: back := by
        have split : all ++ [x] = (front ++ c :: back) ++ [y] := by
          rw [hall, List.append_assoc, List.cons_append, List.concat_eq_append]
        exact (List.append_inj' split rfl).1
      exact .inl ⟨front, back, shorter, hfront⟩
  · rintro (⟨front, back, rfl, hfront⟩ | ⟨rfl, new⟩)
    · exact ⟨front, back ++ [x], by rw [List.append_assoc, List.cons_append], hfront⟩
    · exact ⟨all, [], rfl, new⟩

/-! ## Collecting methods -/

/-- The methods found are those of `all` that are visible in it, in its order. -/
structure Collects (all found : List OwnedMethod) : Prop where
  mem_iff : ∀ c, c ∈ found ↔ Visible all c
  sublist : found.Sublist all
  nodup : (found.map (·.method.descriptor)).Nodup

theorem Collects.nil : Collects [] [] where
  mem_iff c := by
    refine iff_of_false List.not_mem_nil ?_
    exact fun h => absurd h.mem List.not_mem_nil
  sublist := .slnil
  nodup := .nil

/-- One more method is found if its descriptor is new. -/
theorem Collects.addVisible (h : Collects all found) (owner : String) (methods : List Method) :
    Collects (all ++ methods.map (OwnedMethod.mk owner))
      (TypeDefinition.addVisible owner found methods) := by
  induction methods generalizing all found with
  | nil =>
      rw [List.map_nil, List.append_nil]
      exact h
  | cons method rest ih =>
      have shift : all ++ (method :: rest).map (OwnedMethod.mk owner) =
          (all ++ [⟨owner, method⟩]) ++ rest.map (OwnedMethod.mk owner) := by
        rw [List.map_cons, List.append_assoc, List.singleton_append]
      rw [shift, TypeDefinition.addVisible]
      -- a hidden method is visible neither before nor after, a new one is the last visible one
      by_cases known : found.any (·.method.descriptor == method.descriptor) = true
      · rw [if_pos known]
        obtain ⟨y, hy, same⟩ := List.any_eq_true.1 known
        have hidden : ¬∀ y ∈ all, y.method.descriptor ≠ method.descriptor := fun new =>
          new y (h.sublist.subset hy) (beq_iff_eq.1 same)
        refine ih ⟨fun c => ?_, h.sublist.trans (List.sublist_append_left _ _), h.nodup⟩
        rw [h.mem_iff, visible_concat_iff]
        exact ⟨.inl, fun either => either.resolve_right fun new => hidden new.2⟩
      · rw [if_neg known]
        have new : ∀ y ∈ all, y.method.descriptor ≠ method.descriptor := by
          intro y hy same
          obtain ⟨z, hz, hzy⟩ := exists_visible hy
          refine known (List.any_eq_true.2 ⟨z, (h.mem_iff z).2 hz, ?_⟩)
          exact beq_iff_eq.2 (hzy.trans same)
        refine ih ⟨fun c => ?_, h.sublist.append_right _, ?_⟩
        · rw [List.mem_append, List.mem_singleton, h.mem_iff, visible_concat_iff]
          exact or_congr_right ⟨fun hc => ⟨hc, new⟩, fun hc => hc.1⟩
        · rw [List.map_append, List.nodup_append]
          refine ⟨h.nodup, List.nodup_singleton _, ?_⟩
          intro s hs t ht
          obtain ⟨y, hy, rfl⟩ := List.mem_map.1 hs
          rw [List.map_singleton, List.mem_singleton] at ht
          rw [ht]
          exact new y (h.sublist.subset hy)

/-- The methods of a name that definitions declare, in order. -/
def declaredIn (name : String) (defs : List TypeDefinition) : List OwnedMethod :=
  defs.flatMap fun e => (e.methods.filter (·.name == name)).map (OwnedMethod.mk e.qualifiedName)

/-- The methods of a name that a walk over the definitions finds. -/
def visibleIn (name : String) (defs : List TypeDefinition) : List OwnedMethod :=
  defs.foldl (fun found e =>
    addVisible e.qualifiedName found (e.methods.filter (·.name == name))) []

variable {name : String} {supers : List TypeDefinition}

theorem collects_visibleIn (defs : List TypeDefinition) :
    Collects (declaredIn name defs) (visibleIn name defs) := by
  have run : ∀ {all found : List OwnedMethod}, Collects all found →
      Collects (all ++ declaredIn name defs)
        (defs.foldl (fun found e =>
          addVisible e.qualifiedName found (e.methods.filter (·.name == name))) found) := by
    induction defs with
    | nil =>
        intro all found h
        rw [declaredIn, List.flatMap_nil, List.append_nil]
        exact h
    | cons e defs ih =>
        intro all found h
        have next := ih (h.addVisible e.qualifiedName (e.methods.filter (·.name == name)))
        rw [List.append_assoc] at next
        exact next
  exact run .nil

/-- The methods of a name on a type are the visible ones among those that the type and its
supertypes declare. -/
theorem methodsNamed_of_allSupertypes (h : d.allSupertypes source = .ok supers) :
    d.methodsNamed source name = .ok (visibleIn name (d :: supers)) := by
  unfold methodsNamed
  rw [walk_eq_foldl, h]
  rfl

theorem declaredIn_append (defs others : List TypeDefinition) :
    declaredIn name (defs ++ others) = declaredIn name defs ++ declaredIn name others :=
  List.flatMap_append

/-- A declared method belongs to one of the definitions. -/
theorem mem_declaredIn_iff {defs : List TypeDefinition} :
    c ∈ declaredIn name defs ↔
      ∃ e ∈ defs, c.owner = e.qualifiedName ∧ c.method ∈ e.methods ∧ c.method.name = name := by
  simp only [declaredIn, List.mem_flatMap, List.mem_map, List.mem_filter, beq_iff_eq]
  constructor
  · rintro ⟨e, he, method, ⟨hmethod, hname⟩, rfl⟩
    exact ⟨e, he, rfl, hmethod, hname⟩
  · rintro ⟨e, he, howner, hmethod, hname⟩
    refine ⟨e, he, c.method, ⟨hmethod, hname⟩, ?_⟩
    rw [← howner]

/-! ## Inherited methods -/

/-- The type itself declares a method of the name and descriptor. -/
def Declares (d : TypeDefinition) (name descriptor : String) : Prop :=
  ∃ method ∈ d.methods, method.name = name ∧ method.descriptor = descriptor

/-- The method is one of a supertype and not one of the type itself. -/
structure Inherits (d : TypeDefinition) (supers : List TypeDefinition) (c : OwnedMethod) :
    Prop where
  foreign : c.method ∉ d.methods
  owned : ∃ e ∈ supers, c.owner = e.qualifiedName ∧ c.method ∈ e.methods

/-- What every answer of the source has, all supertypes have. -/
theorem of_mem_allSupertypes {P : TypeDefinition → Prop}
    (answers : ∀ name e, source.resolve name = .ok (some e) → P e)
    (h : d.allSupertypes source = .ok supers) : ∀ e ∈ supers, P e := by
  refine walkFrom_invariant (I := fun seen : List TypeDefinition => ∀ e ∈ seen, P e) answers ?_
    (fun e he => absurd he List.not_mem_nil) h
  intro seen e he hseen x hx
  rcases List.mem_append.1 hx with hx | hx
  · exact hseen x hx
  · rw [List.mem_singleton.1 hx]
    exact he

/-- A method of a supertype is listed with a descriptor exactly when the type itself declares
none with the name and the descriptor and a supertype does. -/
theorem exists_inherits_iff {descriptor : String} :
    (∃ c ∈ visibleIn name (d :: supers), c.method.descriptor = descriptor ∧ d.Inherits supers c) ↔
      ¬d.Declares name descriptor ∧ ∃ e ∈ supers, e.Declares name descriptor := by
  have collects : Collects (declaredIn name (d :: supers)) _ := collects_visibleIn _
  constructor
  · rintro ⟨c, hc, rfl, foreign, e, he, howner, hmethod⟩
    have visible := (collects.mem_iff c).1 hc
    obtain ⟨-, -, -, -, hname⟩ := mem_declaredIn_iff.1 visible.mem
    refine ⟨?_, e, he, c.method, hmethod, hname, rfl⟩
    rintro ⟨own, hown, ownName, same⟩
    -- the type's own methods come first: one with this descriptor would hide `c`
    have inFront : (⟨d.qualifiedName, own⟩ : OwnedMethod) ∈ declaredIn name [d] :=
      mem_declaredIn_iff.2 ⟨d, List.mem_cons_self, rfl, hown, ownName⟩
    have behind : c ∉ declaredIn name [d] := by
      intro hc
      obtain ⟨e, he, -, hc, -⟩ := mem_declaredIn_iff.1 hc
      exact foreign (List.mem_singleton.1 he ▸ hc)
    rw [← List.singleton_append, declaredIn_append] at visible
    exact visible.descriptor_ne behind _ inFront same
  · rintro ⟨undeclared, e, he, method, hmethod, hname, rfl⟩
    have declared : (⟨e.qualifiedName, method⟩ : OwnedMethod) ∈ declaredIn name (d :: supers) :=
      mem_declaredIn_iff.2 ⟨e, List.mem_cons_of_mem _ he, rfl, hmethod, hname⟩
    obtain ⟨c, visible, same⟩ := exists_visible declared
    obtain ⟨f, hf, howner, hc, hcname⟩ := mem_declaredIn_iff.1 visible.mem
    -- the first method with the descriptor is listed, and it is not one of the type's own
    have foreign : c.method ∉ d.methods := fun own => undeclared ⟨c.method, own, hcname, same⟩
    have above : f ∈ supers := by
      rcases List.mem_cons.1 hf with rfl | hf
      · exact absurd hc foreign
      · exact hf
    exact ⟨c, (collects.mem_iff c).2 visible, same, foreign, f, above, howner, hc⟩

/-! ## A redeclaration with another return type -/

def root : TypeDefinition := .empty QualifiedName.object .classType

/-- A class whose method returns an instance of it. -/
def shape : TypeDefinition :=
  { TypeDefinition.empty "lib.Shape" .classType with
    superClass := some QualifiedName.object
    methods := [⟨"copy", [], .object "lib/Shape", false, []⟩] }

/-- A subclass whose method of that name returns an instance of the subclass. -/
def circle : TypeDefinition :=
  { TypeDefinition.empty "lib.Circle" .classType with
    superClass := some "lib.Shape"
    methods := [⟨"copy", [], .object "lib/Circle", false, []⟩] }

def copyable : TypeTable := ⟨[root, shape, circle]⟩

theorem circle_supertypes :
    circle.allSupertypes (copyable.source : TypeSource (Except TypeError)) =
      .ok [shape, root] := by
  have above : (copyable.source : TypeSource (Except TypeError)).resolve "lib.Shape" =
      .ok (some shape) := rfl
  have top : (copyable.source : TypeSource (Except TypeError)).resolve QualifiedName.object =
      .ok (some root) := rfl
  show walkFrom _ (fun seen e => .next (seen ++ [e])) ["lib.Circle"] ["lib.Shape"] [] = _
  rw [walkFrom_cons (by decide) above]
  show walkFrom _ _ _ [QualifiedName.object] _ = _
  rw [walkFrom_cons (by decide) top]
  show walkFrom _ _ _ [] _ = _
  rw [walkFrom]
  rfl

/-- The return type is part of the descriptor, so the inherited method is not hidden. -/
theorem circle_copy_methods :
    circle.methodsNamed (copyable.source : TypeSource (Except TypeError)) "copy" =
      .ok [⟨"lib.Circle", ⟨"copy", [], .object "lib/Circle", false, []⟩⟩,
        ⟨"lib.Shape", ⟨"copy", [], .object "lib/Shape", false, []⟩⟩] := by
  rw [methodsNamed_of_allSupertypes circle_supertypes]
  rfl

end JvmScope.TypeDefinition
