import JvmScope.Proofs.Program.Below
import JvmScope.Proofs.Resolution.FileSource
import JvmScope.Proofs.Types.Erasure

/-!
# Three ways through a written type

A written type is resolved to a usage, projected to the type of the virtual machine, or just
checked. A check only looks up the names in it (`checkTypeRef_ok_iff`), a projection asks for no
definitions, and to resolve a type is to establish them. `traversals_agree` says how the three are
related: what can be resolved or projected passes the check, and what was resolved is projected
like the usage that it was resolved to. Without function types there is but one name, and where
the check of it fails, so do the other two, in the same way.
-/

namespace JvmScope

namespace TypeRef

mutual

/-- The names in a written type, from left to right. -/
def names : TypeRef → List String
  | named name => [name]
  | array element => names element
  | function params result => namesAll params ++ names result

/-- The names in several written types. -/
def namesAll : List TypeRef → List String
  | [] => []
  | type :: rest => names type ++ namesAll rest

end

/-- A name, or an array of types without functions. -/
def FunctionFree : TypeRef → Prop
  | named _ => True
  | array element => element.FunctionFree
  | function _ _ => False

end TypeRef

/-! ## Arrays of `void` -/

theorem JvmType.isVoid_iff {t : JvmType} : t.isVoid = true ↔ t = .primitive .void := by
  unfold JvmType.isVoid
  split
  · exact iff_of_true rfl rfl
  · rename_i h
    exact iff_of_false Bool.false_ne_true h

/-- Whatever is projected, an array of it is, unless it is `void`. -/
theorem TypeUsage.jvmType_array_ok_iff {e : TypeUsage} {j : JvmType} :
    (TypeUsage.array e).jvmType = .ok j ↔
      ∃ component, e.jvmType = .ok component ∧
        component ≠ .primitive .void ∧ .array component = j := by
  rw [TypeUsage.jvmType]
  split
  · rename_i isVoid
    refine iff_of_false (fun h => throw_ok_iff.1 h) ?_
    rintro ⟨component, projected, notVoid, -⟩
    exact notVoid ((TypeUsage.jvmType_void projected).1 (TypeUsage.isVoid_iff.1 isVoid))
  · rename_i notVoid
    rw [bind_ok_iff]
    refine exists_congr fun component => and_congr_right fun projected => ?_
    have other : component ≠ .primitive .void := fun same =>
      notVoid (TypeUsage.isVoid_iff.2 ((TypeUsage.jvmType_void projected).2 same))
    rw [pure_ok_iff, and_iff_right other]

/-! ## Checks -/

namespace TypeScope

variable {s : TypeScope} {context : NodeId}

/-- The name denotes a type at the node. -/
def Denotes (s : TypeScope) (context : NodeId) (name : String) : Prop :=
  ∃ target, s.lookupType name context = .ok target

mutual

/-- A written type passes the check if every name in it denotes a type. -/
theorem checkTypeRef_ok_iff (type : TypeRef) :
    s.checkTypeRef context type = .ok () ↔ ∀ name ∈ type.names, s.Denotes context name := by
  cases type with
  | named name =>
      rw [checkTypeRef, bind_ok_iff, TypeRef.names, List.forall_mem_singleton]
      simp only [pure_ok_iff, and_true]
      exact Iff.rfl
  | array element =>
      rw [checkTypeRef, TypeRef.names]
      exact checkTypeRef_ok_iff element
  | function params result =>
      rw [checkTypeRef, bind_ok_iff, TypeRef.names, List.forall_mem_append,
        ← checkTypeRefs_ok_iff params, ← checkTypeRef_ok_iff result]
      exact ⟨fun ⟨_, h⟩ => h, fun h => ⟨(), h⟩⟩

theorem checkTypeRefs_ok_iff (types : List TypeRef) :
    s.checkTypeRefs context types = .ok () ↔
      ∀ name ∈ TypeRef.namesAll types, s.Denotes context name := by
  cases types with
  | nil => exact iff_of_true rfl fun _ h => absurd h List.not_mem_nil
  | cons type rest =>
      rw [checkTypeRefs, bind_ok_iff, TypeRef.namesAll, List.forall_mem_append,
        ← checkTypeRef_ok_iff type, ← checkTypeRefs_ok_iff rest]
      exact ⟨fun ⟨_, h⟩ => h, fun h => ⟨(), h⟩⟩

end

/-- What is projected passes the check. -/
theorem checkTypeRef_of_jvmTypeOf {type : TypeRef} {j : JvmType}
    (h : s.jvmTypeOf context type = .ok j) : s.checkTypeRef context type = .ok () := by
  cases type with
  | named name =>
      obtain ⟨target, found, -⟩ := map_ok_iff.1 h
      exact bind_of_ok found
  | array element =>
      obtain ⟨component, projected, -⟩ := bind_ok_iff.1 h
      rw [checkTypeRef]
      exact checkTypeRef_of_jvmTypeOf projected
  | function params result => exact (throw_ok_iff.1 h).elim

/-- The check of a name fails as the name is looked up. -/
theorem lookupType_of_checkTypeRef {name : String} {e : ResolveError}
    (h : s.checkTypeRef context (.named name) = .error e) :
    s.lookupType name context = .error e := by
  rw [checkTypeRef] at h
  cases found : s.lookupType name context with
  | ok target =>
      rw [found] at h
      cases h
  | error cause =>
      rw [found] at h
      cases h
      rfl

/-- Without functions, a type fails to be projected where its check fails, and as it does. -/
theorem jvmTypeOf_of_checkTypeRef {type : TypeRef} (free : type.FunctionFree) {e : ResolveError}
    (h : s.checkTypeRef context type = .error e) : s.jvmTypeOf context type = .error e := by
  cases type with
  | named name =>
      rw [jvmTypeOf, lookupType_of_checkTypeRef h]
      rfl
  | array element =>
      rw [checkTypeRef] at h
      have element : element.FunctionFree := free
      exact bind_of_error (jvmTypeOf_of_checkTypeRef element h)
  | function params result => exact free.elim

/-- The same for arrays as they are written. -/
theorem jvmTypeOf_array_ok_iff {element : TypeRef} {j : JvmType} :
    s.jvmTypeOf context (.array element) = .ok j ↔
      ∃ component, s.jvmTypeOf context element = .ok component ∧
        component ≠ .primitive .void ∧ .array component = j := by
  rw [jvmTypeOf, bind_ok_iff]
  refine exists_congr fun component => and_congr_right fun _ => ?_
  rw [ne_eq, ← JvmType.isVoid_iff]
  split
  · rename_i isVoid
    exact iff_of_false (fun h => throw_ok_iff.1 h) fun h => h.1 isVoid
  · rename_i notVoid
    rw [pure_ok_iff, and_iff_right notVoid]

end TypeScope

/-! ## Resolution -/

namespace Resolver

variable {r : Resolver} {context : NodeId}

mutual

/-- What is resolved passes the check. -/
theorem checkTypeRef_of_resolveTypeRef {type : TypeRef} {u : TypeUsage}
    (h : r.resolveTypeRef context type = .ok u) : r.scope.checkTypeRef context type = .ok () := by
  cases type with
  | named name =>
      rw [resolveTypeRef] at h
      obtain ⟨target, htarget, -⟩ := bind_ok_iff.1 h
      exact bind_ok_iff.2 ⟨target, htarget, rfl⟩
  | array element =>
      rw [resolveTypeRef] at h
      obtain ⟨_, helement, -⟩ := bind_ok_iff.1 h
      show r.scope.checkTypeRef context element = .ok ()
      exact checkTypeRef_of_resolveTypeRef helement
  | function params result =>
      rw [resolveTypeRef] at h
      obtain ⟨_, hparams, h⟩ := bind_ok_iff.1 h
      obtain ⟨_, hresult, -⟩ := bind_ok_iff.1 h
      exact bind_ok_iff.2 ⟨(), checkTypeRefs_of_resolveTypeRefs hparams,
        checkTypeRef_of_resolveTypeRef hresult⟩

theorem checkTypeRefs_of_resolveTypeRefs {types : List TypeRef} {us : List TypeUsage}
    (h : r.resolveTypeRefs context types = .ok us) :
    r.scope.checkTypeRefs context types = .ok () := by
  cases types with
  | nil => rfl
  | cons type rest =>
      rw [resolveTypeRefs] at h
      obtain ⟨_, htype, h⟩ := bind_ok_iff.1 h
      obtain ⟨_, hrest, -⟩ := bind_ok_iff.1 h
      exact bind_ok_iff.2 ⟨(), checkTypeRef_of_resolveTypeRef htype,
        checkTypeRefs_of_resolveTypeRefs hrest⟩

end

/-- Without functions, a type fails to be resolved where its check fails, and as it does. -/
theorem resolveTypeRef_of_checkTypeRef {type : TypeRef} (free : type.FunctionFree)
    {e : ResolveError} (h : r.scope.checkTypeRef context type = .error e) :
    r.resolveTypeRef context type = .error e := by
  cases type with
  | named name =>
      rw [resolveTypeRef]
      exact bind_of_error (TypeScope.lookupType_of_checkTypeRef h)
  | array element =>
      rw [TypeScope.checkTypeRef] at h
      rw [resolveTypeRef]
      have element : element.FunctionFree := free
      exact bind_of_error (resolveTypeRef_of_checkTypeRef element h)
  | function params result => exact free.elim

/-- The usage that a type name stands for is projected to what the name alone is projected to. A
declaration of the file has the name of the definition that it makes. -/
theorem jvmType_of_usageOf {target : TypeTarget} {u : TypeUsage} (h : r.usageOf target = .ok u) :
    u.jvmType = .ok (r.scope.jvmTypeOfTarget target) := by
  cases target with
  | primitive kind =>
      obtain rfl := pure_ok_iff.1 h
      rfl
  | basic type =>
      obtain rfl := pure_ok_iff.1 h
      rfl
  | source declaration =>
      obtain ⟨d, defined, rfl⟩ := map_ok_iff.1 h
      have named : r.tree.qualifiedTypeName? declaration = some d.qualifiedName :=
        (TypeScope.definitionAt_ok defined).1
      show Except.ok (JvmType.ofDotted d.qualifiedName) =
        .ok (.ofDotted ((r.tree.qualifiedTypeName? declaration).getD ""))
      rw [named]
      rfl
  | external d =>
      obtain rfl := pure_ok_iff.1 h
      rfl

/-- A type that was resolved is projected as it is written like the usage that it was resolved
to. -/
theorem jvmTypeOf_iff_of_resolveTypeRef {type : TypeRef} {u : TypeUsage}
    (h : r.resolveTypeRef context type = .ok u) (j : JvmType) :
    r.scope.jvmTypeOf context type = .ok j ↔ u.jvmType = .ok j := by
  cases type with
  | named name =>
      rw [resolveTypeRef] at h
      obtain ⟨target, found, used⟩ := bind_ok_iff.1 h
      have projected : r.scope.jvmTypeOf context (.named name) =
          .ok (r.scope.jvmTypeOfTarget target) := map_ok_iff.2 ⟨target, found, rfl⟩
      rw [projected, jvmType_of_usageOf used, Except.ok.injEq, Except.ok.injEq]
  | array element =>
      rw [resolveTypeRef] at h
      obtain ⟨e, resolved, h⟩ := bind_ok_iff.1 h
      obtain rfl := pure_ok_iff.1 h
      rw [TypeScope.jvmTypeOf_array_ok_iff, TypeUsage.jvmType_array_ok_iff]
      simp only [jvmTypeOf_iff_of_resolveTypeRef resolved]
  | function params result =>
      rw [resolveTypeRef] at h
      obtain ⟨ps, -, h⟩ := bind_ok_iff.1 h
      obtain ⟨t, -, h⟩ := bind_ok_iff.1 h
      obtain rfl := pure_ok_iff.1 h
      exact iff_of_false (fun h => throw_ok_iff.1 h) nofun

/-- The check of a written type is a matter of the names in it. A type that can be resolved passes
the check, and is projected exactly if the usage is, to the same; what is projected passes the
check as well. If a type without functions does not pass, neither can it be resolved nor
projected, and the error is the same. -/
theorem traversals_agree (r : Resolver) (context : NodeId) (type : TypeRef) :
    (r.scope.checkTypeRef context type = .ok () ↔
      ∀ name ∈ type.names, r.scope.Denotes context name) ∧
    (∀ u, r.resolveTypeRef context type = .ok u →
      r.scope.checkTypeRef context type = .ok () ∧
        ∀ j, r.scope.jvmTypeOf context type = .ok j ↔ u.jvmType = .ok j) ∧
    (∀ j, r.scope.jvmTypeOf context type = .ok j →
      r.scope.checkTypeRef context type = .ok ()) ∧
    (type.FunctionFree → ∀ e, r.scope.checkTypeRef context type = .error e →
      r.resolveTypeRef context type = .error e ∧ r.scope.jvmTypeOf context type = .error e) := by
  refine ⟨TypeScope.checkTypeRef_ok_iff type, ?_, ?_, ?_⟩
  · intro u resolved
    exact ⟨checkTypeRef_of_resolveTypeRef resolved, jvmTypeOf_iff_of_resolveTypeRef resolved⟩
  · intro j projected
    exact TypeScope.checkTypeRef_of_jvmTypeOf projected
  · intro free e refused
    exact ⟨resolveTypeRef_of_checkTypeRef free refused,
      TypeScope.jvmTypeOf_of_checkTypeRef free refused⟩

/-- A file that declares a type `Pet`, against a classpath without types. -/
def petFile : Resolver where
  tree := .ofListing "app" [(0, .typeDecl "Pet"), (1, .property "age" (.named "int"))]
  classpath := (TypeTable.ofList []).source

theorem petFile_traversals_agree :
    (∃ u, petFile.resolveTypeRef 2 (.array (.named "Pet")) = .ok u ∧
      petFile.scope.checkTypeRef 2 (.array (.named "Pet")) = .ok () ∧
      u.jvmType = .ok (.array (.object "app/Pet"))) ∧
    ∃ e, petFile.scope.checkTypeRef 2 (.array (.named "Dog")) = .error e ∧
      petFile.resolveTypeRef 2 (.array (.named "Dog")) = .error e ∧
      petFile.scope.jvmTypeOf 2 (.array (.named "Dog")) = .error e := by
  constructor
  · obtain ⟨u, resolved⟩ : ∃ u, petFile.resolveTypeRef 2 (.array (.named "Pet")) = .ok u :=
      exists_of_isOk (by decide +kernel)
    obtain ⟨passes, projected⟩ :=
      (traversals_agree petFile 2 (.array (.named "Pet"))).2.1 u resolved
    exact ⟨u, resolved, passes, (projected _).1 (by decide +kernel)⟩
  · have refused : petFile.scope.checkTypeRef 2 (.array (.named "Dog")) =
        .error (.unresolved "Dog" (petFile.tree.range 2)) := by
      decide +kernel
    exact ⟨_, refused,
      (traversals_agree petFile 2 (.array (.named "Dog"))).2.2.2 trivial _ refused⟩

end Resolver

end JvmScope
