import JvmScope.Primitive
import JvmScope.QualifiedName

/-!
# JVM types

A type as the virtual machine sees it: a primitive, a class named in internal form, or an array.
`text` writes the descriptor of a type (`I`, `[J`, `Ljava/lang/String;`), and `text_inj` says
that a descriptor determines its type, so comparing types is comparing descriptors.

An `object` may hold any string as its name, and an array any component; which values are
descriptors of the platform's grammar is the business of `Descriptor.Parser`.
-/

namespace JvmScope

/-- A type of the virtual machine. -/
inductive JvmType
  | primitive (kind : Primitive)
  | object (internalName : String)
  | array (component : JvmType)
  deriving DecidableEq, Repr

namespace JvmType

/-- The kind of slot a value takes, which selects load, store and return instructions. -/
inductive Category
  /-- `boolean`, `byte`, `char`, `short` and `int` share the `int` instructions. -/
  | int
  | long | float | double | reference | void
  deriving DecidableEq, Repr

/-- The class with the given dotted name. -/
def ofDotted (name : String) : JvmType := .object (QualifiedName.toInternal name)

/-- The descriptor as characters. -/
def chars : JvmType → List Char
  | primitive k => [k.code]
  | object name => 'L' :: (name.toList ++ [';'])
  | array component => '[' :: component.chars

/-- The descriptor. -/
def text (t : JvmType) : String := String.ofList t.chars

/-- The name a class constant has for the type: a class is named in internal form, anything
else by its descriptor. -/
def constantName : JvmType → String
  | object name => name
  | t => t.text

def isVoid : JvmType → Bool
  | primitive .void => true
  | _ => false

def isArray : JvmType → Bool
  | array _ => true
  | _ => false

/-- Classes and arrays. -/
def isReference : JvmType → Bool
  | primitive _ => false
  | _ => true

/-- Primitives other than `void`. -/
def isPrimitive (t : JvmType) : Bool := !t.isReference && !t.isVoid

/-- The component type of an array. -/
def component? : JvmType → Option JvmType
  | array component => some component
  | _ => none

def category : JvmType → Category
  | primitive .long => .long
  | primitive .float => .float
  | primitive .double => .double
  | primitive .void => .void
  | primitive _ => .int
  | object _ | array _ => .reference

/-- The descriptor of a method: parameters in parentheses, then the return type. -/
def methodText (params : List JvmType) (result : JvmType) : String :=
  String.ofList ('(' :: (params.flatMap chars ++ ')' :: result.chars))

@[simp] theorem toList_text (t : JvmType) : t.text.toList = t.chars := String.toList_ofList

/-- No descriptor has a type code that starts another shape. -/
theorem code_ne (k : Primitive) : k.code ≠ 'L' ∧ k.code ≠ '[' := by cases k <;> decide

theorem chars_ne_nil (t : JvmType) : t.chars ≠ [] := by cases t <;> simp [chars]

/-- A descriptor determines its type. -/
theorem chars_inj {s t : JvmType} (h : s.chars = t.chars) : s = t := by
  induction s generalizing t with
  | primitive k =>
    cases t with
    | primitive j =>
      have hc : Primitive.ofCode? k.code = Primitive.ofCode? j.code := by
        simp only [chars, List.cons.injEq, and_true] at h
        rw [h]
      simpa using hc
    | object _ => exact absurd (List.cons.inj h).1 (code_ne k).1
    | array _ => exact absurd (List.cons.inj h).1 (code_ne k).2
  | object n =>
    cases t with
    | primitive j => exact absurd (List.cons.inj h).1.symm (code_ne j).1
    | object m =>
      simp only [chars, List.cons.injEq, true_and, List.append_cancel_right_eq] at h
      rw [String.toList_injective h]
    | array _ => simp [chars] at h
  | array c ih =>
    cases t with
    | primitive j => exact absurd (List.cons.inj h).1.symm (code_ne j).2
    | object _ => simp [chars] at h
    | array d => rw [ih (List.cons.inj h).2]

theorem text_inj {s t : JvmType} (h : s.text = t.text) : s = t :=
  chars_inj (by simpa using congrArg String.toList h)

end JvmType

end JvmScope
