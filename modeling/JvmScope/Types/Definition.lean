import JvmScope.Descriptor.Parser
import JvmScope.Signature
import JvmScope.Types.Error

/-!
# Type definitions

What is known of a class or interface, wherever it was declared: its binary name, kind, origin,
supertypes by name, type parameters and members with their JVM types. A call that has been
resolved is a `MethodTarget` or `ConstructorTarget`, which names its owner in internal form and
carries the descriptor as text.
-/

namespace JvmScope

/-- Classes and interfaces. -/
inductive TypeKind
  | classType | interfaceType
  deriving DecidableEq, Repr

/-- Where a definition was read. -/
inductive Origin
  /-- Declared in the compilation unit at hand. -/
  | source
  | jdk
  | archive (path : String)
  | directory (path : String)
  /-- Put together by hand. -/
  | memory
  deriving DecidableEq, Repr

structure Field where
  name : String
  type : JvmType
  isStatic : Bool
  isFinal : Bool
  deriving DecidableEq, Repr

structure Method where
  name : String
  params : List JvmType
  result : JvmType
  isStatic : Bool
  typeParameters : List TypeParameter
  deriving DecidableEq, Repr

namespace Method

def descriptor (m : Method) : String := JvmType.methodText m.params m.result

end Method

/-- A constructor is told apart by its parameters alone. -/
structure Constructor where
  params : List JvmType
  deriving DecidableEq, Repr

namespace Constructor

def descriptor (c : Constructor) : String := JvmType.methodText c.params (.primitive .void)

end Constructor

/-- A class or interface. -/
structure TypeDefinition where
  /-- The dotted binary name, such as `a.b.Outer$Inner`. -/
  qualifiedName : String
  kind : TypeKind
  origin : Origin
  superClass : Option String
  interfaces : List String
  typeParameters : List TypeParameter
  fields : List Field
  methods : List Method
  constructors : List Constructor
  deriving DecidableEq, Repr

namespace TypeDefinition

/-- A type with nothing but a name and a kind. -/
def empty (qualifiedName : String) (kind : TypeKind) : TypeDefinition where
  qualifiedName := qualifiedName
  kind := kind
  origin := .memory
  superClass := none
  interfaces := []
  typeParameters := []
  fields := []
  methods := []
  constructors := []

def simpleName (d : TypeDefinition) : String := QualifiedName.simpleName d.qualifiedName

def packageName (d : TypeDefinition) : String := QualifiedName.packageName d.qualifiedName

def internalName (d : TypeDefinition) : String := QualifiedName.toInternal d.qualifiedName

def jvmType (d : TypeDefinition) : JvmType := .ofDotted d.qualifiedName

def isInterface (d : TypeDefinition) : Bool := d.kind == .interfaceType

/-- The names of the direct supertypes, the superclass first. -/
def supertypes (d : TypeDefinition) : List String := d.superClass.toList ++ d.interfaces

/-- The declared field of the given name. -/
def field? (d : TypeDefinition) (name : String) : Option Field :=
  d.fields.find? (·.name == name)

/-- Whether a method of the given name is declared. -/
def declaresMethod (d : TypeDefinition) (name : String) : Bool :=
  d.methods.any (·.name == name)

end TypeDefinition

/-- The JVM type with the given descriptor, `V` included. -/
def JvmType.ofDescriptor (text : String) : Except TypeError JvmType :=
  if text = "V" then .ok (.primitive .void)
  else
    match Descriptor.parseField text with
    | .ok t => .ok t
    | .error _ => .error (.unsupportedDescriptor text)

/-! ## Invocation targets -/

/-- The method a call invokes. -/
structure MethodTarget where
  /-- The owner's internal name. -/
  owner : String
  name : String
  descriptor : String
  isStatic : Bool
  deriving DecidableEq, Repr

namespace MethodTarget

/-- The target for a method of the type with the given dotted name. -/
def ofSignature (owner name : String) (params : List JvmType) (result : JvmType)
    (isStatic : Bool) : MethodTarget where
  owner := QualifiedName.toInternal owner
  name := name
  descriptor := JvmType.methodText params result
  isStatic := isStatic

/-- The return type that the descriptor states. -/
def returnType (t : MethodTarget) : Except TypeError JvmType :=
  match Descriptor.parseMethod t.descriptor with
  | .ok d => .ok d.result
  | .error _ => .error (.unsupportedDescriptor t.descriptor)

end MethodTarget

/-- The constructor an instance creation invokes. -/
structure ConstructorTarget where
  /-- The owner's internal name. -/
  owner : String
  descriptor : String
  deriving DecidableEq, Repr

namespace ConstructorTarget

/-- The name constructors have in class files. -/
def name : String := "<init>"

/-- The target for a constructor of the type with the given dotted name. -/
def ofParams (owner : String) (params : List JvmType) : ConstructorTarget where
  owner := QualifiedName.toInternal owner
  descriptor := JvmType.methodText params (.primitive .void)

end ConstructorTarget

end JvmScope
