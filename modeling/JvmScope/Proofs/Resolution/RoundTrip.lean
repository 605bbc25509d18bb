import JvmScope.Proofs.Program.Below
import JvmScope.Proofs.QualifiedName
import JvmScope.Proofs.Resolution.FileSource
import JvmScope.Proofs.Types.Erasure
import Mathlib.Tactic.Common

/-!
# Written types and back

A written type is looked up in scopes and projected to the type of the virtual machine, which
has only a name left. `jvmTypeOf_maps_back` says that the resolver, asked for that name, comes
back with the type that was written, but for unsigned types, of which the storage is left: the
search through scopes, imports and the default package, the projection, and the search by
qualified name agree.

Where a class of the library has the name of a declaration, the two searches may come to
different ones of these. That does not matter for the result, since types of one name are the
same type.
-/

namespace JvmScope

namespace TypeUsage

mutual

/-- The usage with the storage of unsigned types in their place. -/
def stored : TypeUsage → TypeUsage
  | primitive k => primitive k
  | basic t => primitive t.storage
  | reference d args => reference d (storedAll args)
  | array e => array (stored e)
  | function params result => function (storedAll params) (stored result)
  | typeVar name site bounds => typeVar name site (storedAll bounds)

/-- Several usages with the storage of unsigned types in their place. -/
def storedAll : List TypeUsage → List TypeUsage
  | [] => []
  | t :: rest => stored t :: storedAll rest

end

end TypeUsage

namespace Resolver

variable {r : Resolver} {name full : String} {context : NodeId}

/-- The namespace is empty or a qualified name, and every type declaration stands directly in the
file, under a name, and makes a definition. -/
structure Declares (r : Resolver) : Prop where
  space : r.tree.space = "" ∨ QualifiedName.isValid r.tree.space = true
  placed : ∀ id name, r.tree.kind id = .typeDecl name → id ∈ r.tree.children Tree.root
  named : ∀ id name, r.tree.kind id = .typeDecl name → QualifiedName.isValid name = true
  defined : ∀ id name, r.tree.kind id = .typeDecl name → ∃ d, r.sourceDefinition id = .ok d

/-! ## Back by name -/

/-- A name that the file declares is answered with a definition of that name. -/
theorem resolve_declared (declares : r.Declares) (valid : QualifiedName.isValid full = true)
    {id : NodeId} (h : r.tree.typeNamed? full = some id) :
    ∃ d, r.source.resolve full = .ok (some d) ∧ d.qualifiedName = full := by
  have hname := Tree.qualifiedTypeName?_of_typeNamed? h
  obtain ⟨declared, hk, -⟩ := Tree.qualifiedTypeName?_some_iff.1 hname
  obtain ⟨d, hd⟩ := declares.defined id declared hk
  have hself := (TypeScope.definitionAt_ok hd).1
  rw [show (r.scopeWithin [id]).tree = r.tree from rfl, hname] at hself
  exact ⟨d, resolve_ok_iff.2 ⟨valid, .inl ⟨id, h, hd⟩⟩, (Option.some.inj hself).symm⟩

/-- A name that the classpath answers is answered with a definition of that name. -/
theorem resolve_library (declares : r.Declares) (exact : r.classpath.Exact)
    {d : TypeDefinition} (h : r.classpath.resolve full = .ok (some d)) :
    ∃ e, r.source.resolve full = .ok (some e) ∧ e.qualifiedName = full := by
  have valid := (TypeSource.resolve_some_iff.1 h).1
  cases hfile : r.tree.typeNamed? full with
  | some id =>
      -- the file hides the class of the library
      exact resolve_declared declares valid hfile
  | none => exact ⟨d, resolve_ok_iff.2 ⟨valid, .inr ⟨hfile, h⟩⟩, exact full d h⟩

/-- The JVM type of a class whose name is answered with a definition of that name stands for
the class. -/
theorem ofJvmType_ofDotted
    (h : ∃ e, r.source.resolve full = .ok (some e) ∧ e.qualifiedName = full)
    {d : TypeDefinition} (hd : d.qualifiedName = full) :
    ∃ u, TypeUsage.ofJvmType r.source (.ofDotted full) = .ok u ∧
      u.same (TypeUsage.ofDefinition d).stored = true := by
  obtain ⟨e, he, hname⟩ := h
  refine ⟨.ofDefinition e, TypeUsage.ofJvmType_of_resolve he, ?_⟩
  simp [TypeUsage.ofDefinition, TypeUsage.stored, TypeUsage.storedAll, TypeUsage.same,
    TypeUsage.sameAll, hname, hd]

/-! ## Named types -/

/-- A declaration comes back, or one in front of it with the same name. -/
theorem source_maps_back (declares : r.Declares) {id : NodeId} {declared : String}
    (hk : r.tree.kind id = .typeDecl declared) :
    ∃ u u', r.usageOf (.source id) = .ok u ∧
      TypeUsage.ofJvmType r.source (r.scope.jvmTypeOfTarget (.source id)) = .ok u' ∧
      u'.same u.stored = true := by
  have hname : r.tree.qualifiedTypeName? id = some (r.tree.qualify declared) :=
    Tree.qualifiedTypeName?_some_iff.2 ⟨declared, hk, rfl⟩
  have valid : QualifiedName.isValid (r.tree.qualify declared) = true :=
    QualifiedName.isValid_qualify declares.space (declares.named id declared hk)
  obtain ⟨d, hd⟩ := declares.defined id declared hk
  have hself : d.qualifiedName = r.tree.qualify declared :=
    Option.some.inj ((TypeScope.definitionAt_ok hd).1.symm.trans hname)
  -- the search by name ends at the first declaration of this name, not always at `id`
  have hfile : ∃ first, r.tree.typeNamed? (r.tree.qualify declared) = some first := by
    refine Option.isSome_iff_exists.1 (List.find?_isSome.2 ⟨id, ?_, ?_⟩)
    · exact declares.placed id declared hk
    · rw [hname]
      exact beq_self_eq_true _
  obtain ⟨first, hfirst⟩ := hfile
  obtain ⟨u, hu, hsame⟩ := ofJvmType_ofDotted (resolve_declared declares valid hfirst) hself
  refine ⟨.ofDefinition d, u, map_ok_iff.2 ⟨d, hd, rfl⟩, ?_, hsame⟩
  show TypeUsage.ofJvmType r.source
    (.ofDotted ((r.tree.qualifiedTypeName? id).getD "")) = .ok u
  rw [hname]
  exact hu

/-- A class of the library comes back, or a declaration with the same name. -/
theorem external_maps_back (exact : r.classpath.Exact) (declares : r.Declares)
    {d : TypeDefinition} (hd : r.classpath.resolve full = .ok (some d)) :
    ∃ u u', r.usageOf (.external d) = .ok u ∧
      TypeUsage.ofJvmType r.source (r.scope.jvmTypeOfTarget (.external d)) = .ok u' ∧
      u'.same u.stored = true := by
  have hself : d.qualifiedName = full := exact full d hd
  obtain ⟨u, hu, hsame⟩ := ofJvmType_ofDotted (resolve_library declares exact hd) hself
  refine ⟨.ofDefinition d, u, rfl, ?_, hsame⟩
  show TypeUsage.ofJvmType r.source (.ofDotted d.qualifiedName) = .ok u
  rw [hself]
  exact hu

theorem target_maps_back (exact : r.classpath.Exact) (declares : r.Declares)
    {target : TypeTarget} (h : r.scope.lookupType name context = .ok target) :
    ∃ u u', r.usageOf target = .ok u ∧
      TypeUsage.ofJvmType r.source (r.scope.jvmTypeOfTarget target) = .ok u' ∧
      u'.same u.stored = true := by
  cases target with
  | primitive kind => exact ⟨.primitive kind, .primitive kind, rfl, rfl, beq_self_eq_true kind⟩
  | basic type =>
      exact ⟨.basic type, .primitive type.storage, rfl, rfl, beq_self_eq_true type.storage⟩
  | source id =>
      obtain ⟨declared, hk⟩ := TypeScope.kind_of_source h
      exact source_maps_back declares hk
  | external d =>
      obtain ⟨full, hd⟩ := TypeScope.resolve_of_external h
      exact external_maps_back exact declares hd

/-! ## Written types -/

/-- A written type that has a JVM type stands for a usage, and the JVM type stands for the same
usage, but for unsigned types, of which the storage is left. -/
theorem jvmTypeOf_maps_back (r : Resolver) (exact : r.classpath.Exact) (declares : r.Declares)
    (context : NodeId) (type : TypeRef) (j : JvmType)
    (h : r.scope.jvmTypeOf context type = .ok j) :
    ∃ u u', r.resolveTypeRef context type = .ok u ∧
      TypeUsage.ofJvmType r.source j = .ok u' ∧ u'.same u.stored = true := by
  fun_induction TypeScope.jvmTypeOf r.scope context type generalizing j with
  | case1 name =>
      obtain ⟨target, htarget, rfl⟩ := map_ok_iff.1 h
      obtain ⟨u, u', hu, hback, hsame⟩ := target_maps_back exact declares htarget
      refine ⟨u, u', ?_, hback, hsame⟩
      rw [resolveTypeRef]
      exact bind_ok_iff.2 ⟨target, htarget, hu⟩
  | case2 element ih =>
      obtain ⟨component, hcomponent, h⟩ := bind_ok_iff.1 h
      obtain ⟨u, u', hu, hback, hsame⟩ := ih component hcomponent
      split at h
      · exact (throw_ok_iff.1 h).elim
      · obtain rfl := pure_ok_iff.1 h
        refine ⟨.array u, .array u', ?_, ?_, ?_⟩
        · rw [resolveTypeRef]
          exact bind_ok_iff.2 ⟨u, hu, rfl⟩
        · exact bind_ok_iff.2 ⟨u', hback, rfl⟩
        · rw [TypeUsage.stored, TypeUsage.same]
          exact hsame
  | case3 params result => exact (throw_ok_iff.1 h).elim

/-- A file that declares a class `Person` with a property, against a library of strings. -/
def registry : Resolver where
  tree := .ofListing "registry" [(0, .typeDecl "Person"), (1, .property "name" (.named "String"))]
  classpath := (TypeTable.ofList [.empty "java.lang.String" .classType]).source

theorem registry_maps_back :
    registry.scope.jvmTypeOf 2 (.array (.named "Person")) =
        .ok (.array (.object "registry/Person")) ∧
      ∃ u u', registry.resolveTypeRef 2 (.array (.named "Person")) = .ok u ∧
        TypeUsage.ofJvmType registry.source (.array (.object "registry/Person")) = .ok u' ∧
        u'.same u.stored = true := by
  have projected : registry.scope.jvmTypeOf 2 (.array (.named "Person")) =
      .ok (.array (.object "registry/Person")) := by
    decide +kernel
  have only : ∀ id name, registry.tree.kind id = .typeDecl name → id = 1 ∧ name = "Person" := by
    intro id name hk
    have one : ∀ c < registry.tree.size, (registry.tree.kind c).isTypeDecl = true → c = 1 := by
      decide +kernel
    exact Tree.eq_of_only_typeDecl one rfl hk
  have declares : registry.Declares := by
    refine ⟨.inr (by decide +kernel), ?_, ?_, ?_⟩
    · intro id name hk
      rw [(only id name hk).1]
      decide +kernel
    · intro id name hk
      rw [(only id name hk).2]
      decide +kernel
    · intro id name hk
      rw [(only id name hk).1]
      have isOk : (registry.sourceDefinition 1).isOk = true := by decide +kernel
      cases hd : registry.sourceDefinition 1 with
      | ok d => exact ⟨d, rfl⟩
      | error e =>
          rw [hd] at isOk
          cases isOk
  exact ⟨projected, jvmTypeOf_maps_back registry (TypeTable.exact _) declares 2
    (.array (.named "Person")) (.array (.object "registry/Person")) projected⟩

end Resolver

end JvmScope
