import JvmScope.Signature

/-!
# The grammar of type parameters

What a generic signature may say of its type parameters, as trees. A bound is a reference type: a
class with its packages, type arguments and inner classes, a type variable, or an array. Type
arguments are reference types again, so they nest. `chars` writes a tree as the platform has it,
and `erased` is what is left of a bound where types are no longer generic.
-/

namespace JvmScope.Signature

/-- A name in a signature: no character in it means something to those who read signatures. -/
structure Identifier where
  chars : List Char
  nonempty : chars ≠ []
  plain : ∀ c ∈ chars, c ∉ ['.', ';', '[', '/', '<', '>', ':']

/-- Wildcards that are bounded by a type. -/
inductive Wildcard
  /-- Any type that extends the bound. -/
  | upper
  /-- Any type that the bound extends. -/
  | lower

def Wildcard.sign : Wildcard → Char
  | upper => '+'
  | lower => '-'

mutual

/-- Reference types as signatures have them. -/
inductive ReferenceType
  /-- A class in its packages, or a class inside of it, or one inside of that. -/
  | ofClass (packages : List Identifier) (outermost : SimpleClass) (inner : List SimpleClass)
  | typeVariable (name : Identifier)
  | arrayOfPrimitive (kind : Primitive) (notVoid : kind ≠ .void)
  | array (component : ReferenceType)

/-- A class by its simple name, with type arguments, if it has any. -/
inductive SimpleClass
  | mk (name : Identifier) (args : List TypeArgument)

inductive TypeArgument
  /-- A wildcard without a bound. -/
  | any
  | exactly (type : ReferenceType)
  | bounded (wildcard : Wildcard) (type : ReferenceType)

end

def SimpleClass.name : SimpleClass → Identifier
  | mk name _ => name

/-- A type parameter with its bounds, of which there is at least one. -/
structure FormalParameter where
  name : Identifier
  classBound : Option ReferenceType
  interfaceBounds : List ReferenceType
  bounded : classBound ≠ none ∨ interfaceBounds ≠ []

/-! ## Texts -/

mutual

def ReferenceType.chars : ReferenceType → List Char
  | .ofClass packages outermost inner =>
    'L' :: (packages.flatMap (·.chars ++ ['/']) ++ (outermost.chars ++ (innerChars inner ++ [';'])))
  | .typeVariable name => 'T' :: (name.chars ++ [';'])
  | .arrayOfPrimitive kind _ => ['[', kind.code]
  | .array component => '[' :: component.chars

def SimpleClass.chars : SimpleClass → List Char
  | .mk name args => name.chars ++ argumentChars args

/-- Inner classes, each after a dot. -/
def innerChars : List SimpleClass → List Char
  | [] => []
  | c :: inner => '.' :: (c.chars ++ innerChars inner)

def TypeArgument.chars : TypeArgument → List Char
  | .any => ['*']
  | .exactly type => type.chars
  | .bounded wildcard type => wildcard.sign :: type.chars

/-- Type arguments in angle brackets, which are left out if there are none. -/
def argumentChars : List TypeArgument → List Char
  | [] => []
  | a :: args => '<' :: (a.chars ++ (moreChars args ++ ['>']))

/-- Type arguments behind the first one. -/
def moreChars : List TypeArgument → List Char
  | [] => []
  | a :: args => a.chars ++ moreChars args

end

namespace FormalParameter

/-- The bounds, that by a class first. -/
def bounds (p : FormalParameter) : List ReferenceType := p.classBound.toList ++ p.interfaceBounds

/-- The name, a colon and the class bound, then a colon and a bound for each interface. -/
def chars (p : FormalParameter) : List Char :=
  p.name.chars ++ ':' :: (p.classBound.toList.flatMap ReferenceType.chars ++
    p.interfaceBounds.flatMap (':' :: ·.chars))

end FormalParameter

/-- Type parameters in angle brackets. -/
def header (params : List FormalParameter) : String :=
  String.ofList ('<' :: (params.flatMap FormalParameter.chars ++ ['>']))

/-! ## Erasure -/

/-- A class loses its type arguments, and inner classes follow a `$`; a type variable may be any
object; an array is one of what its component is erased to. -/
def ReferenceType.erased : ReferenceType → JvmType
  | .ofClass packages outermost inner =>
    .object (String.ofList (packages.flatMap (·.chars ++ ['/']) ++
      (outermost.name.chars ++ inner.flatMap ('$' :: ·.name.chars))))
  | .typeVariable _ => .object "java/lang/Object"
  | .arrayOfPrimitive kind _ => .array (.primitive kind)
  | .array component => .array component.erased

/-- The type parameter with its bounds erased. -/
def FormalParameter.erased (p : FormalParameter) : TypeParameter :=
  ⟨String.ofList p.name.chars, p.bounds.map ReferenceType.erased⟩

end JvmScope.Signature
