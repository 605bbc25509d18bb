import JvmScope.Proofs.Types.Failures
import JvmScope.Proofs.Types.MethodLists

/-!
# The order of declarations

The order in which a definition lists its methods is no part of what the definition says. Two
sources that differ in this order alone (`TypeSource.Reordered`) fail alike, and they give the
same answers about names and supertypes, so the same arguments can be passed
(`isApplicable_reordered`). A walk comes to the same definitions, but for the order of their
methods (`walkFrom_reordered`).

The methods of a name become a permutation (`visibleIn_reordered`): where a descriptor is declared
first does not depend on the order, and if no definition declares it twice, its first declaration
is what is visible of it (`mem_visibleIn_iff`).
-/

namespace JvmScope

/-! ## Corresponding results -/

/-- Both computations fail alike, or both have a result and the results are related. -/
inductive Alike {ε α β : Type} (R : α → β → Prop) : Except ε α → Except ε β → Prop
  | error (e : ε) : Alike R (.error e) (.error e)
  | ok {a : α} {b : β} (related : R a b) : Alike R (.ok a) (.ok b)

namespace Alike

variable {ε α β α' β' : Type} {R : α → β → Prop} {S : α' → β' → Prop} {x : Except ε α}
  {y : Except ε β}

theorem bind {f : α → Except ε α'} {g : β → Except ε β'} (h : Alike R x y)
    (next : ∀ a b, R a b → Alike S (f a) (g b)) : Alike S (x >>= f) (y >>= g) := by
  cases h with
  | error e => exact .error e
  | ok related => exact next _ _ related

theorem map {f : α → α'} {g : β → β'} (h : Alike R x y)
    (next : ∀ a b, x = .ok a → R a b → S (f a) (g b)) : Alike S (f <$> x) (g <$> y) := by
  cases h with
  | error e => exact .error e
  | ok related => exact .ok (next _ _ rfl related)

/-- What is related after it was looked at was related before. -/
theorem of_bind_pure {f : α → α'} {g : β → β'}
    (h : Alike S (x >>= fun a => pure (f a)) (y >>= fun b => pure (g b))) :
    Alike (fun a b => S (f a) (g b)) x y := by
  cases x with
  | error e =>
      cases y with
      | error e' =>
          cases h
          exact .error _
      | ok b => cases h
  | ok a =>
      cases y with
      | error e' => cases h
      | ok b =>
          cases h with
          | ok related => exact .ok related

theorem bind_eq {f : α → Except ε α'} {g : β → Except ε α'} (h : Alike R x y)
    (next : ∀ a b, R a b → f a = g b) : (x >>= f) = (y >>= g) := by
  cases h with
  | error e => rfl
  | ok related => exact next _ _ related

end Alike

variable {source source' : TypeSource (Except TypeError)} {d d' e e' : TypeDefinition}
  {name : String}

/-! ## Reordered definitions -/

namespace TypeDefinition

/-- The definitions are the same, but for the order in which methods are listed. -/
structure Reordered (d d' : TypeDefinition) : Prop where
  rest : { d with methods := [] } = { d' with methods := [] }
  methods : d.methods.Perm d'.methods

/-- No definition declares two methods of one name with the same descriptor. -/
def DescriptorsDistinct (d : TypeDefinition) : Prop :=
  d.methods.Pairwise fun m n => m.name = n.name → m.descriptor ≠ n.descriptor

namespace Reordered

theorem qualifiedName_eq (h : d.Reordered d') : d.qualifiedName = d'.qualifiedName := by
  have rest := congrArg TypeDefinition.qualifiedName h.rest
  exact rest

theorem supertypes_eq (h : d.Reordered d') : d.supertypes = d'.supertypes := by
  have rest := congrArg TypeDefinition.supertypes h.rest
  exact rest

theorem symm (h : d.Reordered d') : d'.Reordered d := ⟨h.rest.symm, h.methods.symm⟩

theorem declares_iff (h : d.Reordered d') {descriptor : String} :
    d.Declares name descriptor ↔ d'.Declares name descriptor := by
  unfold Declares
  constructor
  · rintro ⟨m, hm, same⟩
    exact ⟨m, h.methods.mem_iff.1 hm, same⟩
  · rintro ⟨m, hm, same⟩
    exact ⟨m, h.methods.mem_iff.2 hm, same⟩

theorem descriptorsDistinct (h : d.Reordered d') (distinct : d.DescriptorsDistinct) :
    d'.DescriptorsDistinct := by
  refine (h.methods.pairwise_iff ?_).1 distinct
  intro m n apart names
  exact (apart names.symm).symm

end Reordered

end TypeDefinition

namespace TypeSource

/-- The sources give the same answers, but for the order in which methods are listed. -/
def Reordered (source source' : TypeSource (Except TypeError)) : Prop :=
  ∀ name, Alike (Option.Rel TypeDefinition.Reordered) (source.resolve name) (source'.resolve name)

/-- A name that has to exist is answered alike. -/
theorem Reordered.requireKnown (h : source.Reordered source') (name : String) :
    Alike (fun a b => a.1.Reordered b.1) (source.requireKnown name)
      (source'.requireKnown name) := by
  apply (Alike.of_bind_pure (h name)).bind
  intro found found' related
  cases found with
  | none =>
      cases found' with
      | none => exact .error _
      | some b => cases related
  | some a =>
      cases found' with
      | none => cases related
      | some b =>
          cases related with
          | some reordered => exact .ok reordered

theorem Reordered.require (h : source.Reordered source') (name : String) :
    Alike TypeDefinition.Reordered (source.require name) (source'.require name) :=
  (h.requireKnown name).bind fun _ _ reordered => .ok reordered

end TypeSource

/-- Tables of reordered definitions are reordered sources. -/
theorem TypeTable.reordered {t t' : TypeTable}
    (h : List.Forall₂ TypeDefinition.Reordered t.types t'.types) :
    (t.source : TypeSource (Except TypeError)).Reordered t'.source := by
  intro name
  rw [resolve_eq, resolve_eq]
  split
  · refine .ok ?_
    unfold find?
    generalize t.types = types at h
    generalize t'.types = types' at h
    induction h with
    | nil => exact .none
    | @cons e e' types types' first _ ih =>
        rw [List.find?_cons, List.find?_cons, ← first.qualifiedName_eq]
        cases e.qualifiedName == name with
        | true => exact .some first
        | false => exact ih
  · exact .error _

/-! ## What does not depend on the order -/

namespace TypeDefinition

theorem reaches_reordered (h : source.Reordered source') (target : String)
    (visited queue : List String) :
    reaches source target visited queue = reaches source' target visited queue := by
  fun_induction reaches source target visited queue with
  | case1 visited =>
      rw [reaches]
  | case2 visited queue =>
      rw [reaches, if_pos rfl]
  | case3 visited name queue other passed ih =>
      rw [ih, reaches.eq_def source' target visited (name :: queue)]
      simp only [if_neg other, dif_pos passed]
  | case4 visited name queue other fresh ih =>
      rw [reaches.eq_def source' target visited (name :: queue)]
      simp only [if_neg other, dif_neg fresh]
      apply (h.requireKnown name).bind_eq
      rintro ⟨e, known⟩ ⟨e', known'⟩ reordered
      show reaches source target (name :: visited) (queue ++ e.supertypes) =
        reaches source' target (name :: visited) (queue ++ e'.supertypes)
      rw [ih e known, reordered.supertypes_eq]

theorem isSubtypeOf_reordered (h : source.Reordered source') (hd : d.Reordered d')
    (target : String) : d.isSubtypeOf source target = d'.isSubtypeOf source' target := by
  unfold isSubtypeOf
  rw [hd.qualifiedName_eq, hd.supertypes_eq, reaches_reordered h]

end TypeDefinition

namespace JvmType

theorem accepts_reordered (h : source.Reordered source') (expected actual : JvmType) :
    expected.accepts source actual = expected.accepts source' actual := by
  induction expected generalizing actual with
  | primitive k => cases actual <;> simp [accepts]
  | object n =>
      cases actual with
      | object m =>
          -- only the type of a class is looked up, and of it only what is above it
          have subtype : (do
              let d ← source.require (QualifiedName.ofInternal m)
              d.isSubtypeOf source (QualifiedName.ofInternal n)) = (do
              let d ← source'.require (QualifiedName.ofInternal m)
              d.isSubtypeOf source' (QualifiedName.ofInternal n)) := by
            apply (h.require _).bind_eq
            intro e e' reordered
            exact TypeDefinition.isSubtypeOf_reordered h reordered _
          simp only [accepts, subtype]
      | _ => simp [accepts]
  | array c ih =>
      cases actual with
      | array c' => simp [accepts, ih]
      | _ => simp [accepts]

theorem acceptAll_reordered (h : source.Reordered source') (params args : List JvmType) :
    acceptAll source params args = acceptAll source' params args := by
  induction params generalizing args with
  | nil => cases args <;> rfl
  | cons p params ih =>
      cases args with
      | nil => rfl
      | cons a args =>
          rw [acceptAll, acceptAll, accepts_reordered h]
          apply bind_congr
          intro fits
          rw [ih]

end JvmType

theorem isApplicable_reordered (h : source.Reordered source') (params args : List JvmType) :
    isApplicable source params args = isApplicable source' params args := by
  unfold isApplicable
  rw [JvmType.acceptAll_reordered h]

/-! ## Methods of a name -/

namespace TypeDefinition

variable {defs defs' : List TypeDefinition} {c : OwnedMethod}

/-- A first declaration is one of the first definition, or this one does not declare the
descriptor and it is a first declaration among the others. -/
theorem firstDeclared_cons_iff :
    FirstDeclared name (e :: defs) c ↔
      (c.owner = e.qualifiedName ∧ c.method ∈ e.methods ∧ c.method.name = name) ∨
        ¬e.Declares name c.method.descriptor ∧ FirstDeclared name defs c := by
  constructor
  · rintro ⟨front, f, back, split, owner, declared, named, none⟩
    cases front with
    | nil =>
        obtain ⟨rfl, rfl⟩ := List.cons.inj split
        exact .inl ⟨owner, declared, named⟩
    | cons g front =>
        obtain ⟨rfl, rfl⟩ := List.cons.inj split
        obtain ⟨first, others⟩ := List.forall_mem_cons.1 none
        exact .inr ⟨first, front, f, back, rfl, owner, declared, named, others⟩
  · rintro (⟨owner, declared, named⟩ | ⟨first, front, f, back, rfl, owner, declared, named, none⟩)
    · exact ⟨[], e, defs, rfl, owner, declared, named, fun _ h => absurd h List.not_mem_nil⟩
    · exact ⟨e :: front, f, back, rfl, owner, declared, named,
        List.forall_mem_cons.2 ⟨first, none⟩⟩

/-- The order of methods does not change where a descriptor is declared first. -/
theorem FirstDeclared.reordered (h : FirstDeclared name defs c)
    (reordered : List.Forall₂ Reordered defs defs') : FirstDeclared name defs' c := by
  induction reordered with
  | nil => exact h
  | cons first _ ih =>
      rcases firstDeclared_cons_iff.1 h with ⟨owner, declared, named⟩ | ⟨none, later⟩
      · refine firstDeclared_cons_iff.2 (.inl ⟨?_, first.methods.mem_iff.1 declared, named⟩)
        rw [← first.qualifiedName_eq]
        exact owner
      · refine firstDeclared_cons_iff.2 (.inr ⟨?_, ih later⟩)
        rw [← first.declares_iff]
        exact none

/-- A definition that declares a descriptor once shows every method it declares. -/
theorem visible_of_descriptorsDistinct (distinct : e.DescriptorsDistinct) {m : Method}
    (hm : m ∈ e.methods) (named : m.name = name) :
    Visible (declaredIn name [e]) ⟨e.qualifiedName, m⟩ := by
  have listed : m ∈ e.methods.filter (·.name == name) :=
    List.mem_filter.2 ⟨hm, beq_iff_eq.2 named⟩
  have apart : (e.methods.filter (·.name == name)).Pairwise
      fun m n => m.name = n.name → m.descriptor ≠ n.descriptor :=
    distinct.sublist List.filter_sublist
  -- what the definition lists in front of `m` under this name has other descriptors
  obtain ⟨front, back, split⟩ := List.append_of_mem listed
  rw [split] at apart
  obtain ⟨-, -, across⟩ := List.pairwise_append.1 apart
  refine ⟨front.map (OwnedMethod.mk e.qualifiedName), back.map (OwnedMethod.mk e.qualifiedName),
    by simp [declaredIn, split], ?_⟩
  intro x hx
  obtain ⟨n, hn, rfl⟩ := List.mem_map.1 hx
  have nNamed : n ∈ e.methods.filter (·.name == name) := by
    rw [split]
    exact List.mem_append_left _ hn
  apply across n hn m List.mem_cons_self
  rw [named]
  exact beq_iff_eq.1 (List.mem_filter.1 nNamed).2

theorem FirstDeclared.visible (distinct : ∀ e ∈ defs, e.DescriptorsDistinct)
    (h : FirstDeclared name defs c) : Visible (declaredIn name defs) c := by
  obtain ⟨front, e, back, rfl, owner, declared, named, none⟩ := h
  have own : Visible (declaredIn name [e]) ⟨e.qualifiedName, c.method⟩ :=
    visible_of_descriptorsDistinct (distinct e (by simp)) declared named
  obtain ⟨before, after, split, hidden⟩ := own
  refine ⟨declaredIn name front ++ before, after ++ declaredIn name back, ?_, ?_⟩
  · have shift : front ++ e :: back = front ++ ([e] ++ back) := rfl
    rw [shift, declaredIn_append, declaredIn_append, split, ← owner]
    simp
  · intro x hx
    rcases List.mem_append.1 hx with hx | hx
    · obtain ⟨f, hf, -, fDeclares, fNamed⟩ := mem_declaredIn_iff.1 hx
      exact fun same => none f hf ⟨x.method, fDeclares, fNamed, same⟩
    · exact hidden x hx

/-- The visible methods are the first declarations, if every definition declares a descriptor
once. -/
theorem mem_visibleIn_iff (distinct : ∀ e ∈ defs, e.DescriptorsDistinct) :
    c ∈ visibleIn name defs ↔ FirstDeclared name defs c := by
  have collects : Collects (declaredIn name defs) _ := collects_visibleIn _
  rw [collects.mem_iff]
  exact ⟨Visible.firstDeclared, FirstDeclared.visible distinct⟩

theorem descriptorsDistinct_reordered (reordered : List.Forall₂ Reordered defs defs')
    (distinct : ∀ e ∈ defs, e.DescriptorsDistinct) : ∀ e ∈ defs', e.DescriptorsDistinct := by
  induction reordered with
  | nil => exact distinct
  | cons first _ ih =>
      obtain ⟨head, rest⟩ := List.forall_mem_cons.1 distinct
      exact List.forall_mem_cons.2 ⟨first.descriptorsDistinct head, ih rest⟩

theorem visibleIn_reordered (distinct : ∀ e ∈ defs, e.DescriptorsDistinct)
    (reordered : List.Forall₂ Reordered defs defs') :
    (visibleIn name defs).Perm (visibleIn name defs') := by
  have back : List.Forall₂ Reordered defs' defs := reordered.flip.imp fun _ _ => Reordered.symm
  have once : ∀ defs, (visibleIn name defs).Nodup := by
    intro defs
    have collects : Collects (declaredIn name defs) _ := collects_visibleIn _
    exact .of_map _ collects.nodup
  -- neither list repeats itself, so it is enough that they have the same members
  apply (List.perm_ext_iff_of_nodup (once defs) (once defs')).2
  intro c
  rw [mem_visibleIn_iff distinct,
    mem_visibleIn_iff (descriptorsDistinct_reordered reordered distinct)]
  exact ⟨fun first => first.reordered reordered, fun first => first.reordered back⟩

/-! ## Walks -/

/-- A walk comes to the same names, and to reordered definitions. -/
theorem walkFrom_reordered (h : source.Reordered source') (visited queue : List String)
    {seen seen' : List TypeDefinition} (reordered : List.Forall₂ Reordered seen seen') :
    Alike (List.Forall₂ Reordered)
      (walkFrom source (fun seen e => .next (seen ++ [e])) visited queue seen)
      (walkFrom source' (fun seen e => .next (seen ++ [e])) visited queue seen') := by
  fun_induction walkFrom source (fun (seen : List TypeDefinition) e => .next (seen ++ [e]))
      visited queue seen generalizing seen' with
  | case1 visited seen =>
      rw [walkFrom]
      exact .ok reordered
  | case2 visited seen name queue old ih =>
      rw [walkFrom, dif_pos old]
      exact ih reordered
  | case3 visited seen name queue fresh ih =>
      rw [walkFrom, dif_neg fresh]
      apply (h.requireKnown name).bind
      rintro ⟨e, known⟩ ⟨e', known'⟩ same
      show Alike _ (walkFrom source _ (name :: visited) (queue ++ e.supertypes) (seen ++ [e]))
        (walkFrom source' _ (name :: visited) (queue ++ e'.supertypes) (seen' ++ [e']))
      rw [← same.supertypes_eq]
      apply ih e known
      exact List.rel_append reordered (.cons same .nil)

theorem allSupertypes_reordered (h : source.Reordered source') (hd : d.Reordered d') :
    Alike (List.Forall₂ Reordered) (d.allSupertypes source) (d'.allSupertypes source') := by
  unfold allSupertypes
  rw [hd.qualifiedName_eq, hd.supertypes_eq]
  exact walkFrom_reordered h _ _ .nil

end TypeDefinition

end JvmScope
