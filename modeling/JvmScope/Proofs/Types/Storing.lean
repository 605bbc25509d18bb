import JvmScope.Proofs.Types.Passing

/-!
# What can be stored can be passed

Assignments are judged on usages, and arguments of calls on the JVM types that the usages are
projected to. The two judgements differ: only on usages do primitives widen, are unsigned types
told from their storage and are type arguments looked at; only on JVM types does
`java.lang.Object` take arrays.

For references and arrays the first is the stricter one, as long as every class in them is the
one that the source delivers under its name (`Delivered`): what can be stored in a variable can
be passed for a parameter of the variable's type. This is `accepts_of_assignableTo`.
-/

namespace JvmScope.TypeUsage

variable {source : TypeSource (Except TypeError)} {t u : TypeUsage}

/-- Usages of values that are no functions, where each class is the one that the source delivers
under its name. -/
inductive Delivered (source : TypeSource (Except TypeError)) : TypeUsage → Prop
  | primitive {k : Primitive} (notVoid : k ≠ .void) : Delivered source (primitive k)
  | basic (t : Unsigned) : Delivered source (basic t)
  | reference {d : TypeDefinition} (args : List TypeUsage) (own : source.Delivers d) :
      Delivered source (reference d args)
  | array {e : TypeUsage} (element : Delivered source e) : Delivered source (array e)

theorem Delivered.not_void (h : t.Delivered source) : t.isVoid = false := by
  cases h with
  | @primitive k notVoid =>
      cases k with
      | void => exact absurd rfl notVoid
      | _ => rfl
  | basic | reference | array => rfl

/-- Delivered usages may be elements of arrays. -/
theorem Delivered.jvmType_array {j : JvmType} (h : t.Delivered source)
    (project : t.jvmType = .ok j) : (TypeUsage.array t).jvmType = .ok (.array j) := by
  rw [jvmType, h.not_void, if_neg Bool.false_ne_true, project]
  rfl

/-- A delivered usage has a descriptor. -/
theorem Delivered.exists_jvmType (h : t.Delivered source) : ∃ j, t.jvmType = .ok j := by
  induction h with
  | @primitive k notVoid => exact ⟨.primitive k, rfl⟩
  | basic t => exact ⟨.primitive t.storage, rfl⟩
  | @reference d args own => exact ⟨d.jvmType, rfl⟩
  | @array e element ih =>
      obtain ⟨j, project⟩ := ih
      exact ⟨.array j, element.jvmType_array project⟩

/-- The descriptor of a delivered usage is that of a primitive exactly if the usage is one. -/
theorem Delivered.isPrimitive_jvmType {j : JvmType} (h : t.Delivered source)
    (project : t.jvmType = .ok j) : j.isPrimitive = t.isPrimitive := by
  cases h with
  | @primitive k notVoid =>
      obtain rfl := Except.ok.inj project
      cases k <;> rfl
  | basic u =>
      obtain rfl := Except.ok.inj project
      cases u <;> rfl
  | reference =>
      obtain rfl := Except.ok.inj project
      rfl
  | array element =>
      obtain ⟨component, hcomponent⟩ := element.exists_jvmType
      obtain rfl := Except.ok.inj (project.symm.trans (element.jvmType_array hcomponent))
      rfl

/-- Delivered usages that are no primitives are references and arrays. -/
theorem Delivered.shape (h : t.Delivered source) (notPrimitive : t.isPrimitive = false) :
    t.isReference = true ∨ t.isArray = true := by
  cases h with
  | @primitive k notVoid =>
      rw [isPrimitive, bne_eq_false_iff_eq] at notPrimitive
      exact absurd notPrimitive notVoid
  | basic => cases notPrimitive
  | reference => exact .inl rfl
  | array => exact .inr rfl

/-- A parameter takes the value of a type that can be stored, whatever the type arguments. -/
theorem accepts_of_references {d e : TypeDefinition} {args targetArgs : List TypeUsage}
    (own : source.Delivers d) (target : source.Delivers e)
    (h : assignableTo source (reference d args) (reference e targetArgs) = .ok true) :
    e.jvmType.accepts source d.jvmType = .ok true := by
  by_cases alike : e.qualifiedName = d.qualifiedName
  · -- type arguments are compared under one name, and erased
    have one : e.jvmType = d.jvmType := congrArg JvmType.ofDotted alike
    rw [one]
    exact JvmType.accepts_self _
  · rw [assignableTo, if_neg (fun compared => alike compared.1.symm)] at h
    have valid := (TypeSource.resolve_some_iff.1 target).1
    rw [TypeDefinition.jvmType, JvmType.accepts_jvmType own valid alike]
    exact h

/-- A parameter takes an array that can be stored, if its component takes those elements that can
be stored and are no primitives. -/
theorem accepts_of_arrays {expected actual : JvmType} (ht : t.Delivered source)
    (hu : u.Delivered source) (project : t.jvmType = .ok actual)
    (targetProject : u.jvmType = .ok expected)
    (element : t.isPrimitive = false → u.isPrimitive = false →
      assignableTo source t u = .ok true → expected.accepts source actual = .ok true)
    (h : assignableTo source (array t) (array u) = .ok true) :
    (JvmType.array expected).accepts source (.array actual) = .ok true := by
  cases either : t.isPrimitive || u.isPrimitive with
  | true =>
      -- such arrays are only stored where they are of one type
      obtain ⟨b, answer, same⟩ := assignableTo_arrays_exact source either
      obtain rfl := Except.ok.inj (answer.symm.trans h)
      rw [← same.1 rfl, project] at targetProject
      obtain rfl := Except.ok.inj targetProject
      exact JvmType.accepts_self _
  | false =>
      rw [assignableTo_arrays source either] at h
      obtain ⟨actualRef, expectedRef⟩ := (Bool.or_eq_false_iff ..).1 either
      rw [JvmType.accepts_array (hu.isPrimitive_jvmType targetProject ▸ expectedRef)
        (ht.isPrimitive_jvmType project ▸ actualRef)]
      exact element actualRef expectedRef h

/-- What can be stored in a variable can be passed for a parameter of its type: references and
arrays whose classes the source delivers have descriptors, and where the one usage is assignable
to the other, the descriptor of the other accepts that of the one. -/
theorem accepts_of_assignableTo (ht : t.Delivered source) (hu : u.Delivered source)
    (shape : t.isReference = true ∨ t.isArray = true)
    (targetShape : u.isReference = true ∨ u.isArray = true)
    (h : assignableTo source t u = .ok true) :
    ∃ actual expected, t.jvmType = .ok actual ∧ u.jvmType = .ok expected ∧
      expected.accepts source actual = .ok true := by
  induction ht generalizing u with
  | primitive | basic => cases shape <;> contradiction
  | @reference d args own =>
      cases hu with
      | primitive | basic => cases targetShape <;> contradiction
      | array => cases h
      | @reference e targetArgs target =>
          exact ⟨d.jvmType, e.jvmType, rfl, rfl, accepts_of_references own target h⟩
  | @array s element ih =>
      cases hu with
      | primitive | basic => cases targetShape <;> contradiction
      | reference => cases h
      | @array r targetElement =>
          obtain ⟨actual, project⟩ := element.exists_jvmType
          obtain ⟨expected, targetProject⟩ := targetElement.exists_jvmType
          refine ⟨.array actual, .array expected, element.jvmType_array project,
            targetElement.jvmType_array targetProject, ?_⟩
          refine accepts_of_arrays element targetElement project targetProject ?_ h
          intro elementRef targetRef stored
          -- elements that are no primitives are references or arrays again
          obtain ⟨actual', expected', project', targetProject', accepted⟩ :=
            ih targetElement (element.shape elementRef) (targetElement.shape targetRef) stored
          obtain rfl := Except.ok.inj (project.symm.trans project')
          obtain rfl := Except.ok.inj (targetProject.symm.trans targetProject')
          exact accepted

/-- Arrays of arrays of quads with a type argument. -/
def quadArrays : TypeUsage :=
  array (array (reference JvmType.quad [basic .ubyte]))

def shapeArrays : TypeUsage :=
  array (array (ofDefinition (.empty "lib.Shape" .interfaceType)))

theorem quads_stored_as_shapes :
    assignableTo JvmType.shapeLibrary quadArrays shapeArrays = .ok true := by
  show JvmType.quad.isSubtypeOf JvmType.shapeLibrary "lib.Shape" = .ok true
  exact TypeDefinition.isSubtypeOf_first (by decide) (by decide) rfl

theorem quads_passed_as_shapes :
    ∃ actual expected, quadArrays.jvmType = .ok actual ∧ shapeArrays.jvmType = .ok expected ∧
      expected.accepts JvmType.shapeLibrary actual = .ok true := by
  refine accepts_of_assignableTo (.array (.array ?_)) (.array (.array ?_)) (.inr rfl) (.inr rfl)
    quads_stored_as_shapes
  · exact .reference _ JvmType.quad_delivered
  · exact .reference _ rfl

end JvmScope.TypeUsage
