/-!
# Written types

A type as it is written in a program: a name, an array of a type, or a function type. Names are
whatever stands in the program; what they denote is found out by resolution.
-/

namespace JvmScope

/-- A type as written. -/
inductive TypeRef
  | named (name : String)
  | array (element : TypeRef)
  | function (params : List TypeRef) (result : TypeRef)
  deriving Repr

namespace TypeRef

instance : Inhabited TypeRef := ⟨.named ""⟩

mutual

/-- The text of a written type. -/
def display : TypeRef → String
  | named name => name
  | array e => display e ++ "[]"
  | function params result => "(" ++ displayAll params ++ ") -> " ++ display result

/-- Written types separated by commas. -/
def displayAll : List TypeRef → String
  | [] => ""
  | [t] => display t
  | t :: rest => display t ++ ", " ++ displayAll rest

end

end TypeRef

end JvmScope
