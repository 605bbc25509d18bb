import JvmScope.Types.Definition

/-!
# Type usages

A type as it is used in source: more than a JVM type, since it tells unsigned types from their
storage, carries type arguments and type variables, and has function types.

Two references are the same when their definitions have one name and their arguments are the
same, so a definition that was loaded twice is one type. `display` writes a usage the way
messages show it. `jvmType` projects it to the virtual machine, which erases type arguments;
function types and type variables have no projection. `substitute` replaces type variables.
-/

namespace JvmScope

/-- The declaration that introduces a type variable. -/
inductive GenericSite
  | ofClass (className : String)
  | ofMethod (className descriptor : String)
  | ofConstructor (className descriptor : String)
  deriving DecidableEq, Repr

/-- A type at the place of its use. -/
inductive TypeUsage
  | primitive (kind : Primitive)
  | basic (type : Unsigned)
  | reference (definition : TypeDefinition) (args : List TypeUsage)
  | array (element : TypeUsage)
  | function (params : List TypeUsage) (result : TypeUsage)
  /-- Bounds are kept as declared. -/
  | typeVar (name : String) (site : GenericSite) (bounds : List TypeUsage)
  deriving Repr

namespace TypeUsage

instance : Inhabited TypeUsage := ⟨.primitive .void⟩

/-- A reference without type arguments. -/
def ofDefinition (d : TypeDefinition) : TypeUsage := .reference d []

def void : TypeUsage := .primitive .void

/-! ## Equality -/

mutual

/-- Whether two usages are the same type. -/
def same : TypeUsage → TypeUsage → Bool
  | primitive k, primitive l => k == l
  | basic s, basic t => s == t
  | reference d as, reference e bs => d.qualifiedName == e.qualifiedName && sameAll as bs
  | array s, array t => same s t
  | function ps r, function qs s => sameAll ps qs && same r s
  | typeVar n s bs, typeVar o t cs => n == o && s == t && sameAll bs cs
  | _, _ => false

/-- Whether two lists of usages are the same, one by one. -/
def sameAll : List TypeUsage → List TypeUsage → Bool
  | [], [] => true
  | s :: ss, t :: ts => same s t && sameAll ss ts
  | _, _ => false

end

/-! ## Shape -/

/-- Machine primitives other than `void`, and unsigned types. -/
def isPrimitive : TypeUsage → Bool
  | primitive k => k != .void
  | basic _ => true
  | _ => false

def isBasic : TypeUsage → Bool
  | basic _ => true
  | _ => false

def isReference : TypeUsage → Bool
  | reference _ _ => true
  | _ => false

def isArray : TypeUsage → Bool
  | array _ => true
  | _ => false

def isVoid : TypeUsage → Bool
  | primitive .void => true
  | _ => false

def isFunction : TypeUsage → Bool
  | function _ _ => true
  | _ => false

def isVariable : TypeUsage → Bool
  | typeVar _ _ _ => true
  | _ => false

/-- The primitive that values are stored in, for primitives and unsigned types. -/
def storage? : TypeUsage → Option Primitive
  | primitive k => some k
  | basic t => some t.storage
  | _ => none

/-- The element type of an array. -/
def element? : TypeUsage → Option TypeUsage
  | array e => some e
  | _ => none

/-! ## Text -/

mutual

/-- The text of a usage in messages. -/
def display : TypeUsage → String
  | primitive k => k.name
  | basic t => t.name
  | reference d [] => d.qualifiedName
  | reference d (a :: args) => d.qualifiedName ++ "<" ++ displayAll (a :: args) ++ ">"
  | array e => display e ++ "[]"
  | function params result => "(" ++ displayAll params ++ ") -> " ++ display result
  | typeVar name _ _ => name

/-- Usages separated by commas. -/
def displayAll : List TypeUsage → String
  | [] => ""
  | [t] => display t
  | t :: rest => display t ++ ", " ++ displayAll rest

end

/-! ## Projection -/

/-- The type the virtual machine sees. An array of `void` has none, and neither have function
types and type variables. -/
def jvmType : TypeUsage → Except TypeError JvmType
  | primitive k => .ok (.primitive k)
  | basic t => .ok (.primitive t.storage)
  | reference d _ => .ok d.jvmType
  | array e =>
    if e.isVoid then .error (.unsupported .jvmDescriptor (array e).display)
    else do
      let component ← jvmType e
      pure (.array component)
  | t => .error (.unsupported .jvmDescriptor t.display)

/-! ## Substitution -/

mutual

/-- Replaces the type variables that `bindings` binds, bounds excepted. -/
def substitute (bindings : String → Option TypeUsage) : TypeUsage → TypeUsage
  | typeVar name site bounds => (bindings name).getD (typeVar name site bounds)
  | array e => array (substitute bindings e)
  | function params result =>
    function (substituteAll bindings params) (substitute bindings result)
  | reference d args => reference d (substituteAll bindings args)
  | primitive k => primitive k
  | basic t => basic t

/-- Replaces type variables in each of several usages. -/
def substituteAll (bindings : String → Option TypeUsage) : List TypeUsage → List TypeUsage
  | [] => []
  | t :: rest => substitute bindings t :: substituteAll bindings rest

end

end TypeUsage

end JvmScope
