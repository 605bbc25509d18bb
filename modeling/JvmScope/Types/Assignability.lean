import JvmScope.Text.Affix
import JvmScope.Types.Applicability
import JvmScope.Types.Usage

/-!
# Usages and sources

What needs a source to be said about usages: which usage a JVM type stands for, or the text of
its descriptor, and which values can be stored where.

Storing is more liberal than passing. Primitives widen, an unsigned type widens as its storage
does, and a function type is assignable to another component by component. Inside an array a
primitive or unsigned element has to match exactly. References with type arguments on both sides
and one name have to agree in them; otherwise arguments are ignored. Where a type variable is met
the comparison fails, but the elements of arrays are not looked into as soon as one of them is a
primitive or unsigned type.
-/

namespace JvmScope.TypeUsage

variable {m : Type → Type} [Monad m] [MonadExceptOf TypeError m]

/-- The usage a JVM type stands for. A class the source does not know is an error. -/
def ofJvmType (source : TypeSource m) : JvmType → m TypeUsage
  | .primitive k => pure (primitive k)
  | .object name => do
    let d ← source.require (QualifiedName.ofInternal name)
    pure (ofDefinition d)
  | .array component => do
    let e ← ofJvmType source component
    pure (array e)

/-- The usage that a text stands for that starts with no bracket: a class by its name between
`L` and `;`, and a primitive by its letter. -/
def ofScalarText (source : TypeSource m) (text : String) : m TypeUsage :=
  match (Text.dropStart? "L" text).bind (Text.dropTail? ";") with
  | some name => do
    let d ← source.require (QualifiedName.ofInternal name)
    pure (ofDefinition d)
  | none =>
    match text.toList with
    | [code] =>
      match Primitive.ofCode? code with
      | some k => pure (primitive k)
      | none => throw (.unsupportedDescriptor text)
    | _ => throw (.unsupportedDescriptor text)

/-- The usage that the characters of a descriptor stand for, one array for every bracket. -/
def ofChars (source : TypeSource m) : List Char → m TypeUsage
  | '[' :: rest => do
    let e ← ofChars source rest
    pure (array e)
  | cs => ofScalarText source (String.ofList cs)

/-- The usage that the text of a descriptor stands for. -/
def ofText (source : TypeSource m) (text : String) : m TypeUsage := ofChars source text.toList

mutual

/-- Whether a value of the first type can be stored where the second is expected. -/
def assignableTo (source : TypeSource m) : TypeUsage → TypeUsage → m Bool
  | typeVar n s bs, _ => throw (.unsupported .assignability (typeVar n s bs).display)
  | _, typeVar n s bs => throw (.unsupported .assignability (typeVar n s bs).display)
  | primitive k, primitive l => pure (k.widensTo l)
  | basic s, primitive l => pure (s.storage.widensTo l)
  | primitive k, basic t => pure (k == t.storage)
  | basic s, basic t => pure (s == t)
  | reference d as, reference e bs =>
    if d.qualifiedName = e.qualifiedName ∧ ¬as.isEmpty ∧ ¬bs.isEmpty then pure (sameAll as bs)
    else d.isSubtypeOf source e.qualifiedName
  | array s, array t =>
    if s.isPrimitive || t.isPrimitive then
      pure (s.storage? == t.storage? && s.isBasic == t.isBasic)
    else assignableTo source s t
  | function ps r, function qs s => do
    if ps.length = qs.length then
      if ← assignableAll source ps qs then assignableTo source r s else pure false
    else pure false
  | _, _ => pure false

/-- Whether usages of equal number are assignable one by one. -/
def assignableAll (source : TypeSource m) : List TypeUsage → List TypeUsage → m Bool
  | s :: ss, t :: ts => do
    if ← assignableTo source s t then assignableAll source ss ts else pure false
  | _, _ => pure true

end

/-! ## Arrays and functions -/

variable {e f : TypeUsage}

/-- Arrays with a primitive or unsigned element are of one type or have nothing to do with each
other. -/
theorem assignableTo_arrays_exact (source : TypeSource m)
    (either : (e.isPrimitive || f.isPrimitive) = true) :
    ∃ b, assignableTo source (array e) (array f) = pure b ∧ (b = true ↔ e = f) := by
  rw [assignableTo, if_pos either]
  refine ⟨_, rfl, ?_⟩
  rw [Bool.and_eq_true, beq_iff_eq, beq_iff_eq]
  constructor
  · rintro ⟨storage, basic⟩
    cases e <;> cases f <;> simp_all [isPrimitive, storage?, isBasic, Unsigned.storage_inj]
  · rintro rfl
    exact ⟨rfl, rfl⟩

/-- Other arrays are compared as their elements are. -/
theorem assignableTo_arrays (source : TypeSource m)
    (neither : (e.isPrimitive || f.isPrimitive) = false) :
    assignableTo source (array e) (array f) = assignableTo source e f := by
  rw [assignableTo, neither, if_neg Bool.false_ne_true]

theorem assignableTo_functions (source : TypeSource m) {ps qs : List TypeUsage}
    (number : ps.length = qs.length) :
    assignableTo source (function ps e) (function qs f) = (do
      if ← assignableAll source ps qs then assignableTo source e f else pure false) := by
  rw [assignableTo, if_pos number]

end TypeUsage

end JvmScope
