import JvmScope.ClassFile.Error
import JvmScope.Descriptor.Basic

/-!
# Reading descriptors

The descriptor grammar: a field type is a letter for a primitive, `L` name `;` for a class, or
`[` and a field type for an array; a method type is `(` field types `)` and a field type or `V`.
A class name is any non-empty text without `;`: which packages and classes exist is not a
matter of the grammar.

A reader takes the characters at hand and gives the value with the characters left over.
`text_of_fieldType?` says that what was read is what would be written, `fieldType?_chars` that
whatever is written is read back, in front of any text.
-/

namespace JvmScope

/-- The parameter and return types of a method; only the latter may be `void`. -/
structure MethodDescriptor where
  params : List JvmType
  result : JvmType
  deriving DecidableEq, Repr

namespace MethodDescriptor

/-- The descriptor text. -/
def text (d : MethodDescriptor) : String := JvmType.methodText d.params d.result

end MethodDescriptor

namespace Descriptor

/-- Reads one field type. -/
def fieldType? : List Char → Option (JvmType × List Char)
  | [] => none
  | '[' :: rest => (fieldType? rest).map fun (t, after) => (.array t, after)
  | 'L' :: rest =>
    match rest.takeWhile (· != ';'), rest.dropWhile (· != ';') with
    | c :: name, _ :: after => some (.object (String.ofList (c :: name)), after)
    | _, _ => none
  | c :: rest => (Primitive.ofFieldCode? c).map fun k => (.primitive k, rest)

/-- What was read is the written form of the type, and the rest is untouched. -/
theorem eq_of_fieldType? {cs after : List Char} {t : JvmType}
    (h : fieldType? cs = some (t, after)) : cs = t.chars ++ after := by
  fun_induction fieldType? cs generalizing t with
  | case1 => simp at h
  | case2 rest ih =>
    obtain ⟨⟨u, r⟩, hu, he⟩ := Option.map_eq_some_iff.1 h
    obtain ⟨rfl, rfl⟩ := Prod.mk.inj he
    simp [JvmType.chars, ih hu]
  | case3 rest c name d after' hdrop htake =>
    obtain ⟨rfl, rfl⟩ := Prod.mk.inj (Option.some.inj h)
    have hd : d = ';' := by
      have := List.head_dropWhile_not (p := (· != ';')) (l := rest) (by simp [hdrop])
      simpa [hdrop] using this
    have := List.takeWhile_append_dropWhile (p := (· != ';')) (l := rest)
    rw [htake, hdrop, hd] at this
    simp [JvmType.chars, ← this]
  | case4 => simp at h
  | case5 c rest hb hl =>
    obtain ⟨k, hk, he⟩ := Option.map_eq_some_iff.1 h
    obtain ⟨rfl, rfl⟩ := Prod.mk.inj he
    simp [JvmType.chars, (Primitive.ofFieldCode?_eq_some.1 hk).1]

theorem length_lt_of_fieldType? {cs after : List Char} {t : JvmType}
    (h : fieldType? cs = some (t, after)) : after.length < cs.length := by
  rw [eq_of_fieldType? h, List.length_append]
  have := List.length_pos_iff.2 t.chars_ne_nil
  omega

/-- Types that a field may have: no `void` anywhere, and class names that a `;` can end. -/
def IsField : JvmType → Prop
  | .primitive k => k ≠ .void
  | .object name => name ≠ "" ∧ ';' ∉ name.toList
  | .array component => IsField component

/-- A written field type is read back, whatever follows it. -/
theorem fieldType?_chars {t : JvmType} (h : IsField t) (after : List Char) :
    fieldType? (t.chars ++ after) = some (t, after) := by
  induction t with
  | primitive k =>
    have hne := JvmType.code_ne k
    have hk : Primitive.ofFieldCode? k.code = some k :=
      Primitive.ofFieldCode?_eq_some.2 ⟨rfl, h⟩
    simp only [JvmType.chars, List.cons_append, List.nil_append]
    rw [fieldType?.eq_4 _ _ (by simpa using hne.2) (by simpa using hne.1), hk]
    rfl
  | object name =>
    have hall : ∀ c ∈ name.toList, (c != ';') = true := by
      intro c hc
      have : c ≠ ';' := fun he => h.2 (he ▸ hc)
      simpa using this
    have htake : (name.toList ++ ';' :: after).takeWhile (· != ';') = name.toList := by
      rw [List.takeWhile_append_of_pos hall]; simp
    have hdrop : (name.toList ++ ';' :: after).dropWhile (· != ';') = ';' :: after := by
      rw [List.dropWhile_append_of_pos hall]; simp
    simp only [JvmType.chars, List.cons_append, List.append_assoc, List.nil_append, fieldType?]
    rw [htake, hdrop]
    cases hn : name.toList with
    | nil => exact absurd (String.toList_injective (by simpa using hn)) h.1
    | cons c r => simp [← hn]
  | array component ih => simp [JvmType.chars, fieldType?, ih h]

/-- Reads field types up to the closing parenthesis, which is consumed. -/
def parameters? (cs : List Char) : Option (List JvmType × List Char) :=
  match cs with
  | ')' :: rest => some ([], rest)
  | cs =>
    match h : fieldType? cs with
    | none => none
    | some (t, after) =>
      have := length_lt_of_fieldType? h
      (parameters? after).map fun (ts, rest) => (t :: ts, rest)
termination_by cs.length

/-- Reads a return type, `void` included. -/
def returnType? : List Char → Option (JvmType × List Char)
  | 'V' :: rest => some (.primitive .void, rest)
  | cs => fieldType? cs

/-- Reads a method type. -/
def methodType? : List Char → Option (MethodDescriptor × List Char)
  | '(' :: rest => do
    let (params, rest) ← parameters? rest
    let (result, rest) ← returnType? rest
    pure (⟨params, result⟩, rest)
  | _ => none

/-- The value of a reader that has to use up the whole text. -/
def whole {α : Type} (read : List Char → Option (α × List Char)) (text : String) :
    Except FormatError α :=
  match read text.toList with
  | some (a, []) => .ok a
  | _ => .error (.invalidDescriptor text)

/-- The field type with the given descriptor. -/
def parseField (text : String) : Except FormatError JvmType := whole fieldType? text

/-- The method type with the given descriptor. -/
def parseMethod (text : String) : Except FormatError MethodDescriptor := whole methodType? text

end Descriptor

end JvmScope
