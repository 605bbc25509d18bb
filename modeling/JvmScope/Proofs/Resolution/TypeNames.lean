import JvmScope.Proofs.Resolution.CleanCheck
import JvmScope.Proofs.Resolution.Provenance

/-!
# Names of types among expressions

An expression may stand for a type instead of having a value: a type identifier does, and so does
a name that nothing binds. `Resolver.NamesType` says of which name it does. Such an expression
has a type of its own all the same, namely the type it stands for (`denotesType_of_typed`), as if
it were an instance.

Where values belong, nothing else about it is looked at. So a check lets names of types pass as
values (`valuesDenoting_of_check`), and the members that can be reached through the name of a
type are those of an instance. An access to a static field that is written as one is more
careful; `typeOf_through_type` tells when the two agree.
-/

namespace JvmScope

/-! ## Places of values -/

/-- Where an expression has to have a value. -/
inductive Tree.IsValue (t : Tree) (e : NodeId) : Prop
  | initialiser {v : NodeId} {name : String} {type : Option TypeRef} :
      t.kind v = .localVar name type → (t.children v).head? = some e → IsValue t e
  | returned {s : NodeId} : t.kind s = .returnStatement → (t.children s).head? = some e →
      IsValue t e
  | assigned {a : NodeId} : t.kind a = .assignment → (t.children a)[1]? = some e → IsValue t e
  | argument {call : NodeId} : e ∈ t.arguments call → IsValue t e

namespace Tree

variable {t : Tree} {e p : NodeId}

/-- The first child stands in no other place below its parent. -/
theorem ne_of_mem_tail {c : NodeId} (h : (t.children p).head? = some c)
    (he : e ∈ (t.children p).tail) : c ≠ e := by
  have ordered := t.children_pairwise p
  cases hc : t.children p with
  | nil =>
      rw [hc] at h
      cases h
  | cons first rest =>
      rw [hc] at h he ordered
      obtain rfl := Option.some.inj h
      exact Nat.ne_of_lt (List.rel_of_pairwise_cons ordered he)

/-- A value stands behind another child, or below something that needs no value first. -/
theorem IsValue.place (h : t.IsValue e) :
    ∃ p, e ∈ t.children p ∧
      (e ∈ (t.children p).tail ∨ t.kind p ≠ .call ∧ t.kind p ≠ .assignment) := by
  cases h with
  | @initialiser v _ _ hv he =>
      refine ⟨v, List.mem_of_mem_head? he, .inr ?_⟩
      rw [hv]
      exact ⟨nofun, nofun⟩
  | @returned s hs he =>
      refine ⟨s, List.mem_of_mem_head? he, .inr ?_⟩
      rw [hs]
      exact ⟨nofun, nofun⟩
  | @assigned a _ he =>
      rw [← List.getElem?_tail] at he
      have behind := List.mem_of_getElem? he
      exact ⟨a, List.mem_of_mem_tail behind, .inl behind⟩
  | @argument call he =>
      -- The callee stands in front of the arguments of a call; a creation has arguments only.
      unfold arguments at he
      split at he
      · exact ⟨call, List.mem_of_mem_tail he, .inl he⟩
      · rename_i hk
        refine ⟨call, he, .inr ?_⟩
        rw [hk]
        exact ⟨nofun, nofun⟩
      · cases he

theorem IsValue.not_first (h : t.IsValue e) (hk : t.kind p = .call ∨ t.kind p = .assignment) :
    (t.children p).head? ≠ some e := by
  intro hfirst
  obtain ⟨q, under, behind | ⟨notCall, notAssignment⟩⟩ := h.place
  · obtain rfl := parent_unique under (List.mem_of_mem_head? hfirst)
    exact ne_of_mem_tail hfirst behind rfl
  · obtain rfl := parent_unique under (List.mem_of_mem_head? hfirst)
    rcases hk with hk | hk
    · exact notCall hk
    · exact notAssignment hk

theorem IsValue.not_isCallee (h : t.IsValue e) : ¬t.IsCallee e :=
  fun ⟨_, hk, hfirst⟩ => h.not_first (.inl hk) hfirst

theorem IsValue.not_isTarget (h : t.IsValue e) : ¬t.IsTarget e :=
  fun ⟨_, hk, hfirst⟩ => h.not_first (.inr hk) hfirst

end Tree

namespace TypeScope

variable {s : TypeScope} {name : String}

theorem typeOutside_refines (s : TypeScope) (name : String) (range other : TextRange) :
    Refines (s.typeOutside name range) (s.typeOutside name other) := by
  intro target h
  obtain ⟨implicit, himplicit, h⟩ := bind_ok_iff.1 h
  refine bind_ok_iff.2 ⟨implicit, atRange_ok_iff.2 (atRange_ok_iff.1 himplicit), ?_⟩
  cases implicit with
  | some d => exact h
  | none =>
      obtain ⟨literal, hliteral, h⟩ := bind_ok_iff.1 h
      refine bind_ok_iff.2 ⟨literal, atRange_ok_iff.2 (atRange_ok_iff.1 hliteral), ?_⟩
      cases literal with
      | some d => exact h
      | none => exact (throw_ok_iff.1 h).elim

/-- At a node without children, a name denotes what it denotes at the node above. -/
theorem lookupType_of_leaf {p c : NodeId} (hc : c ∈ s.tree.children p)
    (leaf : s.tree.children c = []) : Refines (s.lookupType name c) (s.lookupType name p) := by
  have silent : s.typeIn name c = .ok none := by
    unfold typeIn
    rw [leaf]
    rfl
  have outward : (s.tree.ancestors c).findSomeM? (s.typeIn name) =
      (s.tree.ancestors p).findSomeM? (s.typeIn name) := by
    rw [Tree.ancestors_of_mem_children hc]
    show ([c] ++ s.tree.ancestors p).findSomeM? (s.typeIn name) = _
    exact findSomeM?_append_of_none (by simpa using silent)
  have around : Refines (s.typeAround name c) (s.typeAround name p) := by
    intro target h
    obtain ⟨_, -, h⟩ := bind_ok_iff.1 h
    obtain ⟨inScope, hscopes, h⟩ := bind_ok_iff.1 h
    have here : s.tree.has p = true :=
      Tree.has_eq_true.2 (Tree.lt_size_of_mem_children hc)
    refine bind_ok_iff.2 ⟨(), requireNode_ok_iff.2 here, ?_⟩
    refine bind_ok_iff.2 ⟨inScope, outward ▸ hscopes, ?_⟩
    cases inScope with
    | some found => exact h
    | none => exact typeOutside_refines s name _ _ target h
  unfold lookupType
  split
  · exact .refl _
  · exact .refl _
  · split
    · exact around
    · exact .refl _

end TypeScope

namespace Resolver

variable {r : Resolver} {e : NodeId} {t : TypeUsage}

/-! ## What a name of a type is typed as -/

/-- The expression stands for the type of this name: it is written as one, or as a name that
nothing binds. -/
def NamesType (r : Resolver) (e : NodeId) (name : String) : Prop :=
  r.tree.kind e = .typeIdentifier name ∨
    r.tree.kind e = .valueRef name ∧
      ∃ unbound range, r.scope.findSymbol name e = .error (.unresolved unbound range)

/-- A typed expression denotes a type if it names one, and has the type that it names. -/
theorem denotesType_of_typed (h : r.typeOf e = .ok t) :
    (r.denotesType e = .ok false ∧ ∀ name, ¬r.NamesType e name) ∨
      r.denotesType e = .ok true ∧ ∃ name target, r.NamesType e name ∧
        r.scope.lookupType name e = .ok target ∧ r.usageOf target = .ok t := by
  obtain ⟨here, hstep⟩ := typeOf_ok_iff.1 h
  have node : r.tree.requireNode e = .ok () := if_pos here
  unfold typeOfStep at hstep
  unfold denotesType NamesType
  rw [bind_of_ok node]
  cases hk : r.tree.kind e with
  | typeIdentifier name =>
      simp only [hk] at hstep
      obtain ⟨target, htarget, usage⟩ := bind_ok_iff.1 hstep
      exact .inr ⟨rfl, name, target, .inl rfl, htarget, usage⟩
  | valueRef name =>
      simp only [hk] at hstep
      cases hsymbol : r.scope.findSymbol name e with
      | ok symbol =>
          refine .inl ⟨?_, ?_⟩
          · dsimp only
            rw [hsymbol]
            rfl
          · rintro other (he | ⟨he, unbound, range, hother⟩)
            · cases he
            · obtain rfl := NodeKind.valueRef.inj he
              rw [hsymbol] at hother
              cases hother
      | error cause =>
          rw [hsymbol] at hstep
          cases cause with
          | unresolved unbound range =>
              -- the one error after which the name is tried as that of a type
              obtain ⟨named, hnamed, hstep⟩ := bind_ok_iff.1 hstep
              cases named with
              | none => exact (throw_ok_iff.1 hstep).elim
              | some target =>
                  refine .inr ⟨?_, name, target, .inr ⟨rfl, unbound, range, hsymbol⟩,
                    lookupType_of_typeNamedBy hnamed, hstep⟩
                  dsimp only
                  rw [hsymbol]
                  exact bind_of_ok hnamed
          | _ => exact (throw_ok_iff.1 hstep).elim
  | _ =>
      refine .inl ⟨rfl, ?_⟩
      rintro name (he | ⟨he, -⟩) <;> cases he

theorem NamesType.unique {name other : String} (h : r.NamesType e name)
    (h' : r.NamesType e other) : name = other := by
  rcases h with hk | ⟨hk, -⟩ <;> rcases h' with hk' | ⟨hk', -⟩ <;> rw [hk] at hk' <;> cases hk'
  · rfl
  · rfl

/-! ## In the places of values -/

/-- After a check without a mistake, the expressions in the places of values that denote types
are just those that are written as one or as a name that nothing binds. Nothing keeps such a one
out: it passes as an instance of the type that it names. -/
theorem valuesDenoting_of_check (r : Resolver) (shaped : r.tree.WellShaped) (root : NodeId)
    (hroot : (r.tree.kind root).isExpression = false) (clean : (r.check root).result = .ok 0) :
    ∀ e, r.tree.Below root e → (r.tree.kind e).isExpression = true → r.tree.IsValue e →
      (r.denotesType e = .ok false ↔ ∀ name, ¬r.NamesType e name) ∧
        ∀ name, r.NamesType e name → r.denotesType e = .ok true ∧
          ∃ target t, r.scope.lookupType name e = .ok target ∧ r.usageOf target = .ok t ∧
            r.typeOf e = .ok t := by
  have passed : ∀ id, r.tree.Below root id → (r.tree.kind id).isExpression = false →
      r.checkNode id = .ok () := fun id below hid =>
    checkNode_of_checkPending shaped clean List.mem_cons_self below hid
  intro e below he value
  have typed : ∃ t, r.typeOf e = .ok t := by
    -- What is left without a type is the callee of a call or the target of an assignment.
    rcases settled_of_below shaped hroot passed below he with typed | ⟨callee | target, -⟩
    · exact typed
    · exact absurd callee value.not_isCallee
    · exact absurd target value.not_isTarget
  obtain ⟨t, ht⟩ := typed
  rcases denotesType_of_typed ht with ⟨hasValue, unnamed⟩ | ⟨denotes, name, target, named, found⟩
  · exact ⟨iff_of_true hasValue unnamed, fun name named => absurd named (unnamed name)⟩
  · constructor
    · rw [denotes]
      exact iff_of_false nofun fun unnamed => unnamed name named
    · intro other hother
      obtain rfl := hother.unique named
      exact ⟨denotes, target, t, found.1, found.2, ht⟩

/-- A class `Pet`, and a program with the variables `x = Pet` and `y = x`. -/
def petAsValue : Resolver where
  tree := .ofListing "app"
    [(0, .typeDecl "Pet"), (0, .program "main"), (2, .block), (3, .localVar "x" none),
      (4, .valueRef "Pet"), (3, .localVar "y" none), (6, .valueRef "x")]
  classpath := TypeTable.empty.source

theorem petAsValue_clean : (petAsValue.check Tree.root).result = .ok 0 := by decide +kernel

/-- The first initialiser is taken for a pet; the second one has the value of the first. -/
theorem petAsValue_denotes :
    petAsValue.tree.WellShaped ∧ (petAsValue.check Tree.root).result = .ok 0 ∧
      petAsValue.denotesType 5 = .ok true ∧ petAsValue.denotesType 7 = .ok false := by
  have shaped : petAsValue.tree.WellShaped := by decide
  have denoting := valuesDenoting_of_check petAsValue shaped Tree.root rfl petAsValue_clean
  refine ⟨shaped, petAsValue_clean, ?_, ?_⟩
  · have value : petAsValue.tree.IsValue 5 :=
      .initialiser (show petAsValue.tree.kind 4 = .localVar "x" none from rfl) (by decide)
    have named : petAsValue.NamesType 5 "Pet" :=
      .inr ⟨rfl, "Pet", default, by decide +kernel⟩
    obtain ⟨-, names⟩ := denoting 5 (Tree.below_iff.2 (by decide +kernel)) rfl value
    exact (names "Pet" named).1
  · have value : petAsValue.tree.IsValue 7 :=
      .initialiser (show petAsValue.tree.kind 6 = .localVar "y" none from rfl) rfl
    have bound : petAsValue.scope.findSymbol "x" 7 = .ok (.localVar 4) := by decide +kernel
    obtain ⟨iff, -⟩ := denoting 7 (Tree.below_iff.2 (by decide +kernel)) rfl value
    refine iff.2 ?_
    rintro name (hk | ⟨hk, unbound, range, hfind⟩)
    · cases hk
    · obtain rfl : "x" = name := NodeKind.valueRef.inj hk
      rw [bound] at hfind
      cases hfind

/-- A check without a mistake does not keep names of types out of the places of values. -/
theorem values_not_always_values :
    ¬∀ r : Resolver, r.tree.WellShaped → (r.check Tree.root).result = .ok 0 →
      ∀ e, r.tree.Below Tree.root e → (r.tree.kind e).isExpression = true → r.tree.IsValue e →
        r.denotesType e = .ok false := by
  intro always
  have shaped : petAsValue.tree.WellShaped := by decide
  have value : petAsValue.tree.IsValue 5 :=
    .initialiser (show petAsValue.tree.kind 4 = .localVar "x" none from rfl) (by decide +kernel)
  have never := always petAsValue shaped petAsValue_clean 5 (Tree.below_iff.2 (by decide +kernel))
    rfl value
  exact absurd never (by decide +kernel)

/-! ## Access to members -/

/-- What an access to a static field has for a type. -/
def staticAccess (r : Resolver) (type field : String) (context : NodeId) :
    Except ResolveError TypeUsage := do
  let found ← r.staticField type field context
  atRange (r.tree.range context) (TypeUsage.ofJvmType r.source found.type)

theorem typeOf_of_staticFieldAccess {type field : String} (here : r.tree.has e = true)
    (hk : r.tree.kind e = .staticFieldAccess type field) :
    r.typeOf e = r.staticAccess type field e := by
  rw [typeOf, typeOfWithin, dif_pos here, dif_neg List.not_mem_nil]
  unfold typeOfStep
  simp only [hk]
  rfl

/-- A typed access finds a field of the type of its subject. -/
theorem field_of_typeOf {s : NodeId} {field : String}
    (hk : r.tree.kind e = .fieldAccess field) (hs : (r.tree.children e).head? = some s)
    (h : r.typeOf e = .ok t) :
    ∃ u, r.typeOf s = .ok u ∧ u.fieldType r.source field = .ok (some t) := by
  have hstep := (typeOf_ok_iff.1 h).2
  simp only [typeOfStep, hk] at hstep
  obtain ⟨first, hfirst, hstep⟩ := bind_ok_iff.1 hstep
  obtain ⟨u, hu, hstep⟩ := bind_ok_iff.1 hstep
  obtain ⟨found, hfound, hstep⟩ := bind_ok_iff.1 hstep
  rw [subject_ok_iff, hs] at hfirst
  obtain rfl := Option.some.inj hfirst
  refine ⟨u, typeOf_of_within hu, ?_⟩
  cases found with
  | none => exact (throw_ok_iff.1 hstep).elim
  | some v =>
      obtain rfl := pure_ok_iff.1 hstep
      exact atRange_ok_iff.1 hfound

/-- Among what names denote, only classes and interfaces have fields. -/
theorem field_of_usageOf {target : TypeTarget} {u : TypeUsage} {field : String}
    (usage : r.usageOf target = .ok u) (h : u.fieldType r.source field = .ok (some t)) :
    ∃ d f, r.definitionOf target = .ok (some d) ∧ d.findField r.source field = .ok (some f) ∧
      TypeUsage.ofJvmType r.source f.type = .ok t := by
  have reference : ∃ d, r.definitionOf target = .ok (some d) ∧ u = .ofDefinition d := by
    cases target with
    | primitive kind =>
        obtain rfl := pure_ok_iff.1 usage
        cases h
    | basic type =>
        obtain rfl := pure_ok_iff.1 usage
        cases h
    | source declaration =>
        obtain ⟨d, hd, rfl⟩ := map_ok_iff.1 usage
        exact ⟨d, definitionOf_ok_iff.2 (.inl ⟨declaration, rfl, hd⟩), rfl⟩
    | external d =>
        obtain rfl := pure_ok_iff.1 usage
        exact ⟨d, rfl, rfl⟩
  obtain ⟨d, hd, rfl⟩ := reference
  obtain ⟨f, hfound, ht⟩ := fieldType_ok_iff.1 h
  exact ⟨d, f, hd, hfound, ht⟩

/-- An access to a static field finds the nearest field of the name, if it is static. -/
theorem staticField_of_findField {type field : String} {context : NodeId} {target : TypeTarget}
    {d : TypeDefinition} {f : Field} (hname : r.scope.lookupType type context = .ok target)
    (hd : r.definitionOf target = .ok (some d))
    (hf : d.findField r.source field = .ok (some f)) :
    r.staticField type field context =
      if f.isStatic = true then .ok f
      else .error (.semantic (r.tree.range context) (.noStaticField type field)) := by
  unfold staticField
  dsimp only
  rw [bind_of_ok hname, bind_of_ok hd]
  dsimp only
  have found : r.staticFieldOf d field = .ok ((some f).filter (·.isStatic)) := by
    unfold staticFieldOf
    rw [bind_of_ok hf]
    rfl
  rw [found]
  cases hstatic : f.isStatic with
  | true =>
      simp only [Option.filter, hstatic, if_true]
      rfl
  | false =>
      simp only [Option.filter, hstatic]
      rfl

/-- An access to a field whose subject is the name of a type finds the nearest field of that name
in the type, static or not. What is written as an access to a static field, wherever the name
stands for the same type, has the same type if the field is static and is a mistake otherwise. -/
theorem typeOf_through_type (r : Resolver) (e s : NodeId) (field : String) (t : TypeUsage)
    (hk : r.tree.kind e = .fieldAccess field) (hs : (r.tree.children e).head? = some s)
    (denotes : r.denotesType s = .ok true) (h : r.typeOf e = .ok t) :
    ∃ name target d f, r.NamesType s name ∧ r.scope.lookupType name s = .ok target ∧
      r.definitionOf target = .ok (some d) ∧ d.findField r.source field = .ok (some f) ∧
      TypeUsage.ofJvmType r.source f.type = .ok t ∧
      (∀ context, r.scope.lookupType name context = .ok target →
        (r.staticAccess name field context = .ok t ↔ f.isStatic = true) ∧
          (f.isStatic = false → r.staticAccess name field context =
            .error (.semantic (r.tree.range context) (.noStaticField name field)))) ∧
      (r.tree.children s = [] → r.scope.lookupType name e = .ok target) := by
  obtain ⟨u, hu, access⟩ := field_of_typeOf hk hs h
  rcases denotesType_of_typed hu with ⟨hasValue, -⟩ | ⟨-, name, target, named, hname, usage⟩
  · rw [denotes] at hasValue
    cases hasValue
  obtain ⟨d, f, hd, hf, type⟩ := field_of_usageOf usage access
  refine ⟨name, target, d, f, named, hname, hd, hf, type, ?_, ?_⟩
  · intro context there
    have found := staticField_of_findField there hd hf
    unfold staticAccess
    rw [found]
    cases hstatic : f.isStatic with
    | true => exact ⟨iff_of_true (atRange_ok_iff.2 type) rfl, nofun⟩
    | false => exact ⟨iff_of_false nofun nofun, fun _ => rfl⟩
  · intro leaf
    exact TypeScope.lookupType_of_leaf (List.mem_of_mem_head? hs) leaf _ hname

/-- A class with a property, as it is declared below. -/
def petWithAge : TypeDefinition :=
  TypeScope.assemble "app.Pet" [.field ⟨"age", .primitive .int, false, false⟩]

/-- A class of the classpath with a static field. -/
def limits : TypeDefinition :=
  { TypeDefinition.empty "lib.Limits" .classType with
    fields := [⟨"most", .primitive .int, true, true⟩] }

/-- A class `Pet` with a property, which a program reads from `Pet` itself, and the static field
above, read from its type. -/
def petAsSubject : Resolver where
  tree := .ofLines "app"
    [(0, .typeDecl "Pet"), (1, .property "age" (.named "int")), (0, .program "main"), (3, .block),
      (4, .expressionStatement), (5, .fieldAccess "age"), (6, .valueRef "Pet"),
      (4, .expressionStatement), (8, .fieldAccess "most"), (9, .typeIdentifier "lib.Limits")]
  classpath := (TypeTable.ofList [limits]).source

theorem petAsSubject_age : TypeUsage.display <$> petAsSubject.typeOf 6 = .ok "int" := by
  decide +kernel

/-- The first access has a type that an access to a static field does not have; for the second
one, the two agree. -/
theorem petAsSubject_accesses :
    (∃ t, petAsSubject.typeOf 6 = .ok t ∧ petAsSubject.staticAccess "Pet" "age" 6 =
        .error (.semantic (.ofLine 6 0 80) (.noStaticField "Pet" "age"))) ∧
      ∃ t, petAsSubject.typeOf 9 = .ok t ∧
        petAsSubject.staticAccess "lib.Limits" "most" 9 = .ok t := by
  have most : TypeUsage.display <$> petAsSubject.typeOf 9 = .ok "int" := by decide +kernel
  constructor
  · obtain ⟨t, typed, -⟩ := map_ok_iff.1 petAsSubject_age
    obtain ⟨name, target, d, f, named, hname, hd, hf, -, accesses, outward⟩ :=
      typeOf_through_type petAsSubject 6 7 "age" t rfl (by decide) (by decide +kernel)
        typed
    obtain rfl : name = "Pet" :=
      named.unique (.inr ⟨rfl, "Pet", .ofLine 7 0 80, by decide +kernel⟩)
    have denoted : petAsSubject.scope.lookupType "Pet" 7 = .ok (.source 1) := by decide +kernel
    obtain rfl : TypeTarget.source 1 = target := Except.ok.inj (denoted.symm.trans hname)
    have defined : petAsSubject.definitionOf (.source 1) = .ok (some petWithAge) := by
      decide
    obtain rfl : petWithAge = d := Option.some.inj (Except.ok.inj (defined.symm.trans hd))
    have field : petWithAge.findField petAsSubject.source "age" =
        .ok (some ⟨"age", .primitive .int, false, false⟩) := by decide
    obtain rfl : (⟨"age", .primitive .int, false, false⟩ : Field) = f :=
      Option.some.inj (Except.ok.inj (field.symm.trans hf))
    exact ⟨t, typed, (accesses 6 (outward (by decide))).2 rfl⟩
  · obtain ⟨t, typed, -⟩ := map_ok_iff.1 most
    obtain ⟨name, target, d, f, named, hname, hd, hf, -, accesses, outward⟩ :=
      typeOf_through_type petAsSubject 9 10 "most" t rfl (by decide) (by decide)
        typed
    obtain rfl : name = "lib.Limits" := named.unique (.inl rfl)
    have denoted : petAsSubject.scope.lookupType "lib.Limits" 10 = .ok (.external limits) := by
      decide +kernel
    obtain rfl : TypeTarget.external limits = target := Except.ok.inj (denoted.symm.trans hname)
    obtain rfl : limits = d := Option.some.inj (pure_ok_iff.1 hd)
    have field : limits.findField petAsSubject.source "most" =
        .ok (some ⟨"most", .primitive .int, true, true⟩) := by decide
    obtain rfl : (⟨"most", .primitive .int, true, true⟩ : Field) = f :=
      Option.some.inj (Except.ok.inj (field.symm.trans hf))
    exact ⟨t, typed, (accesses 9 (outward (by decide))).1.2 rfl⟩

/-- Not all that can be reached through the name of a type is a static field. -/
theorem fields_not_always_static :
    ¬∀ (r : Resolver) (e s : NodeId) (field name : String) (t : TypeUsage),
      r.tree.kind e = .fieldAccess field → (r.tree.children e).head? = some s →
      r.denotesType s = .ok true → r.NamesType s name → r.typeOf e = .ok t →
      (∀ target d f, r.scope.lookupType name s = .ok target →
        r.definitionOf target = .ok (some d) → d.findField r.source field = .ok (some f) →
        f.isStatic = true) ∧ r.staticAccess name field e = .ok t := by
  intro always
  obtain ⟨t, typed, -⟩ := map_ok_iff.1 petAsSubject_age
  obtain ⟨static, -⟩ := always petAsSubject 6 7 "age" "Pet" t rfl (by decide)
    (by decide +kernel) (.inr ⟨rfl, "Pet", .ofLine 7 0 80, by decide +kernel⟩) typed
  have flag := static (.source 1) petWithAge ⟨"age", .primitive .int, false, false⟩
    (by decide +kernel) (by decide) (by decide)
  cases flag

end Resolver

end JvmScope
