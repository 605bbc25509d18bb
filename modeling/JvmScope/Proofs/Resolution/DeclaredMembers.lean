import JvmScope.Proofs.Program.Below
import JvmScope.Proofs.Resolution.FileTrail

/-!
# Declared members

What the definition of a type of the file has in it, said of the declaration alone: a property
whose written type has a JVM type is a field, a method all of whose types have one is a method,
both in the order in which they stand there, and nothing else is a member. There is a constructor
if no property was left out, and it takes what the fields hold. This is `members_of_declaration`.

A definition is established with a trail that has the declaration in it, while types are projected
without any where this is stated. A definition that was established did not meet its trail
(`Resolver.definitionAt_of_sourceDefinition`), so the projections are the same.
-/

namespace JvmScope

namespace TypeScope

variable {s : TypeScope} {id c : NodeId}

/-- The field that a property is, where its written type has a JVM type. -/
def declaredField? (s : TypeScope) (c : NodeId) : Option Field :=
  match s.tree.kind c with
  | .property name type =>
    (s.jvmTypeOf c type).toOption.map fun t => ⟨name, t, false, false⟩
  | _ => none

/-- The method that is declared at a node, where its parameters and its result have JVM types. -/
def declaredMethod? (s : TypeScope) (c : NodeId) : Option Method :=
  match s.tree.kind c with
  | .method name result isStatic => do
    let params ← (s.tree.parameterTypes c).mapM fun p => (s.jvmTypeOf p.1 p.2).toOption
    let t ← (s.jvmTypeOf c result).toOption
    pure ⟨name, params, t, isStatic, []⟩
  | _ => none

/-- If a property is declared at the node, its written type has a JVM type. -/
def KeepsProperty (s : TypeScope) (c : NodeId) : Prop :=
  ∀ name type, s.tree.kind c = .property name type → ∃ t, s.jvmTypeOf c type = .ok t

/-! ## Single members -/

/-- A member that does not make the definition fail has the type that it is written with, or
none. -/
theorem memberType_ok {type : TypeRef} {found : Option JvmType}
    (h : s.memberType c type = .ok found) : (s.jvmTypeOf c type).toOption = found := by
  unfold memberType at h
  cases projected : s.jvmTypeOf c type with
  | ok t =>
      rw [projected] at h
      exact Except.ok.inj h
  | error e =>
      rw [projected] at h
      dsimp only at h
      split at h
      · exact Except.ok.inj h
      · cases h

/-- Though parameters behind the first one without a type are not asked for, there are types for
all of them or none. -/
theorem parameterTypes_ok {parameters : List (NodeId × TypeRef)} {found : Option (List JvmType)}
    (h : s.parameterTypes parameters = .ok found) :
    parameters.mapM (fun p => (s.jvmTypeOf p.1 p.2).toOption) = found := by
  induction parameters generalizing found with
  | nil => exact pure_ok_iff.1 h
  | cons parameter rest ih =>
      obtain ⟨id, type⟩ := parameter
      obtain ⟨first, hfirst, h⟩ := bind_ok_iff.1 h
      rw [List.mapM_cons, memberType_ok hfirst]
      cases first with
      | none => exact pure_ok_iff.1 h
      | some t =>
          obtain ⟨more, hmore, h⟩ := bind_ok_iff.1 h
          rw [ih hmore, ← pure_ok_iff.1 h]
          cases more <;> rfl

/-- What a child of a declaration contributes is the field or the method that it declares, and
only a property that is no field is lost. -/
theorem sourceMember_ok {member : SourceMember} (h : s.sourceMember c = .ok member) :
    member.field? = s.declaredField? c ∧ member.method? = s.declaredMethod? c ∧
      (member = .lostProperty ↔ ¬s.KeepsProperty c) := by
  unfold sourceMember at h
  unfold declaredField? declaredMethod? KeepsProperty
  cases kind : s.tree.kind c with
  | property name type =>
      rw [kind] at h
      obtain ⟨found, hfound, h⟩ := bind_ok_iff.1 h
      have projected := memberType_ok hfound
      dsimp only
      rw [projected]
      cases found with
      | some t =>
          obtain rfl := pure_ok_iff.1 h
          refine ⟨rfl, rfl, iff_of_false nofun fun lost => lost ?_⟩
          rintro _ _ ⟨rfl, rfl⟩
          exact ⟨t, toOption_eq_some_iff.1 projected⟩
      | none =>
          obtain rfl := pure_ok_iff.1 h
          refine ⟨rfl, rfl, iff_of_true rfl fun kept => ?_⟩
          obtain ⟨t, ht⟩ := kept name type rfl
          rw [ht] at projected
          cases projected
  | method name result isStatic =>
      rw [kind] at h
      obtain ⟨params, hparams, h⟩ := bind_ok_iff.1 h
      obtain ⟨found, hfound, h⟩ := bind_ok_iff.1 h
      dsimp only
      rw [parameterTypes_ok hparams, memberType_ok hfound]
      -- No method is a property, so it is not that a property was lost.
      have kept : ¬¬∀ n t, NodeKind.method name result isStatic = .property n t →
          ∃ j, s.jvmTypeOf c t = .ok j := fun lost => lost nofun
      cases params with
      | none =>
          obtain rfl := pure_ok_iff.1 h
          exact ⟨rfl, rfl, iff_of_false nofun kept⟩
      | some params =>
          cases found with
          | none =>
              obtain rfl := pure_ok_iff.1 h
              exact ⟨rfl, rfl, iff_of_false nofun kept⟩
          | some t =>
              obtain rfl := pure_ok_iff.1 h
              exact ⟨rfl, rfl, iff_of_false nofun kept⟩
  | _ =>
      rw [kind] at h
      obtain rfl := pure_ok_iff.1 h
      exact ⟨rfl, rfl, iff_of_false nofun fun lost => lost nofun⟩

/-! ## All members -/

/-- A property is lost in a traversal of the members exactly if there is one that is not kept. -/
theorem lostProperty_mem_iff {children : List NodeId} {members : List SourceMember}
    (h : children.mapM s.sourceMember = .ok members) :
    .lostProperty ∈ members ↔ ¬∀ c ∈ children, s.KeepsProperty c := by
  constructor
  · intro mem kept
    obtain ⟨c, hc, hmember⟩ := mem_of_mapM_ok h _ mem
    exact (sourceMember_ok hmember).2.2.1 rfl (kept c hc)
  · intro notAll
    obtain ⟨front, c, back, rfl, -, lost⟩ := exists_first_not notAll
    obtain ⟨member, hmem, hmember⟩ :=
      exists_of_mapM_ok h c (List.mem_append_right _ List.mem_cons_self)
    rw [← (sourceMember_ok hmember).2.2.2 lost]
    exact hmem

/-- The members of a definition are those of the declaration. -/
theorem members_of_definitionAt {d : TypeDefinition} (h : s.definitionAt id = .ok d) :
    d.fields = (s.tree.children id).filterMap s.declaredField? ∧
      d.methods = (s.tree.children id).filterMap s.declaredMethod? ∧
      ((∀ c ∈ s.tree.children id, s.KeepsProperty c) →
        d.constructors = [⟨d.fields.map (·.type)⟩]) ∧
      ((¬∀ c ∈ s.tree.children id, s.KeepsProperty c) → d.constructors = []) := by
  obtain ⟨_, -, h⟩ := bind_ok_iff.1 h
  cases named : s.tree.qualifiedTypeName? id with
  | none =>
      rw [named] at h
      exact (throw_ok_iff.1 h).elim
  | some name =>
      rw [named] at h
      obtain ⟨members, hmembers, h⟩ := bind_ok_iff.1 h
      obtain rfl := pure_ok_iff.1 h
      have each := mapM_ok_iff_forall₂.1 hmembers
      refine ⟨?_, ?_, ?_, ?_⟩
      · refine (filterMap_eq_of_forall₂ (each.imp fun c member hc => ?_)).symm
        exact (sourceMember_ok hc).1.symm
      · refine (filterMap_eq_of_forall₂ (each.imp fun c member hc => ?_)).symm
        exact (sourceMember_ok hc).2.1.symm
      · intro kept
        exact if_neg fun mem => (lostProperty_mem_iff hmembers).1 mem kept
      · intro notAll
        exact if_pos ((lostProperty_mem_iff hmembers).2 notAll)

end TypeScope

namespace Resolver

variable {r : Resolver} {id : NodeId} {d : TypeDefinition}

/-- A definition that is established is the one that is established as if there were no trail. -/
theorem definitionAt_of_sourceDefinition (h : r.sourceDefinition id = .ok d) :
    r.scope.definitionAt id = .ok d := by
  have compared : EqUnless (.invalid .circular) ((r.scopeWithin [id]).definitionAt id)
      (r.scope.definitionAt id) :=
    TypeScope.definitionAt_eqUnless (s := r.scopeWithin [id])
      (fun name => findInFile_eqUnless (List.nil_subset [id]) name) id
  rcases compared with circular | same
  · cases h.symm.trans circular
  · exact same.symm.trans h

/-- The fields of a definition are, in order, the properties of the declaration that have JVM types,
and its methods those methods all of whose types have one. If every property has one, there is one
constructor, which takes the types of the fields in order; otherwise there is none. -/
theorem members_of_declaration (r : Resolver) (id : NodeId) (d : TypeDefinition)
    (h : r.sourceDefinition id = .ok d) :
    d.fields = (r.tree.children id).filterMap r.scope.declaredField? ∧
      d.methods = (r.tree.children id).filterMap r.scope.declaredMethod? ∧
      (d.constructors = [⟨d.fields.map (·.type)⟩] ↔
        ∀ c ∈ r.tree.children id, r.scope.KeepsProperty c) ∧
      (d.constructors = [] ↔ ¬∀ c ∈ r.tree.children id, r.scope.KeepsProperty c) := by
  obtain ⟨fields, methods, one, none⟩ :=
    TypeScope.members_of_definitionAt (definitionAt_of_sourceDefinition h)
  refine ⟨fields, methods, ⟨?_, one⟩, ⟨?_, none⟩⟩
  · intro constructed
    by_contra notAll
    rw [none notAll] at constructed
    cases constructed
  · intro nothing kept
    rw [one kept] at nothing
    cases nothing

/-- A file with a type `Shelf`, whose second property and whose first method have mistakes. -/
def shelfFile : Resolver where
  tree := .ofListing "app"
    [(0, .typeDecl "Shelf"), (1, .property "books" (.array (.named "Shelf"))),
      (1, .method "put" (.named "void") false), (1, .property "owner" (.named "Person")),
      (3, .parameter "book" (.named "Book")), (1, .method "size" (.named "uint") true),
      (6, .parameter "from" (.named "int")), (1, .property "width" (.named "double"))]
  classpath := (TypeTable.ofList []).source

theorem shelfFile_members :
    ∃ d, shelfFile.sourceDefinition 1 = .ok d ∧
      d.fields = [⟨"books", .array (.object "app/Shelf"), false, false⟩,
        ⟨"width", .primitive .double, false, false⟩] ∧
      d.methods = [⟨"size", [.primitive .int], .primitive .int, true, []⟩] ∧
      d.constructors = [] := by
  obtain ⟨d, defined⟩ : ∃ d, shelfFile.sourceDefinition 1 = .ok d :=
    exists_of_isOk (by decide +kernel)
  obtain ⟨fields, methods, -, none⟩ := members_of_declaration shelfFile 1 d defined
  have lost : ¬shelfFile.scope.KeepsProperty 4 := by
    intro kept
    obtain ⟨t, ht⟩ := kept "owner" (.named "Person") rfl
    have refused : shelfFile.scope.jvmTypeOf 4 (.named "Person") =
        .error (.unresolved "Person" default) := by
      decide +kernel
    rw [refused] at ht
    cases ht
  refine ⟨d, defined, ?_, ?_, none.2 fun kept => lost (kept 4 (by decide +kernel))⟩
  · rw [fields]
    decide +kernel
  · rw [methods]
    decide +kernel

end Resolver

end JvmScope
