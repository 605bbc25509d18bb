import JvmScope.Types.Assignability

/-!
# Members

Fields and methods of a type, the inherited ones included. A field is the nearest one of its
name. A method hides the methods of the same name and descriptor that are declared further up
the hierarchy, and a call selects among the methods that are not hidden; whether it is made on a
value or on a type decides whether instance or static methods are looked at.
-/

namespace JvmScope

variable {m : Type → Type} [Monad m] [MonadExceptOf TypeError m]

namespace TypeDefinition

/-- The nearest field of the given name. The hierarchy is not looked at beyond it. -/
def findField (source : TypeSource m) (d : TypeDefinition) (name : String) : m (Option Field) :=
  d.walk source (fun _ e =>
    match e.field? name with
    | some f => .stop (some f)
    | none => .next none) none

/-- The usage that the type of the nearest field of the given name stands for. -/
def fieldType (source : TypeSource m) (d : TypeDefinition) (name : String) :
    m (Option TypeUsage) := do
  match ← d.findField source name with
  | some f => do
    let t ← TypeUsage.ofJvmType source f.type
    pure (some t)
  | none => pure none

/-- A method together with the qualified name of the type that declares it. -/
structure OwnedMethod where
  owner : String
  method : Method
  deriving DecidableEq, Repr

/-- Adds the methods that no collected one hides. -/
def addVisible (owner : String) (found : List OwnedMethod) : List Method → List OwnedMethod
  | [] => found
  | method :: rest =>
    if found.any (·.method.descriptor == method.descriptor) then addVisible owner found rest
    else addVisible owner (found ++ [⟨owner, method⟩]) rest

/-- The methods of the given name that are not hidden, nearest first. -/
def methodsNamed (source : TypeSource m) (d : TypeDefinition) (name : String) :
    m (List OwnedMethod) :=
  d.walk source (fun found e =>
    .next (addVisible e.qualifiedName found (e.methods.filter (·.name == name)))) []

/-- The one method a call with the given arguments invokes. -/
def findMethod (source : TypeSource m) (d : TypeDefinition) (name : String)
    (args : List JvmType) (isStatic : Bool) : m MethodTarget := do
  let methods ← d.methodsNamed source name
  let candidates := methods.filter (·.method.isStatic == isStatic)
  match ← selectApplicable source (·.method.params) candidates args with
  | .unique c =>
    pure (.ofSignature c.owner c.method.name c.method.params c.method.result c.method.isStatic)
  | .nothing => throw (.noApplicableMethod d.qualifiedName name (args.map JvmType.text))
  | .ambiguous found =>
    throw (.ambiguousCall d.qualifiedName name (found.map (·.method.descriptor)))

/-- The one constructor an instance creation with the given arguments invokes. -/
def findConstructor (source : TypeSource m) (d : TypeDefinition) (args : List JvmType) :
    m ConstructorTarget := do
  match ← selectApplicable source Constructor.params d.constructors args with
  | .unique c => pure (.ofParams d.qualifiedName c.params)
  | .nothing =>
    throw (.noApplicableMethod d.qualifiedName ConstructorTarget.name (args.map JvmType.text))
  | .ambiguous found =>
    throw (.ambiguousCall d.qualifiedName ConstructorTarget.name
      (found.map Constructor.descriptor))

/-- Type parameters as type variables of their declaration. -/
def typeVariablesOf (source : TypeSource m) (site : GenericSite)
    (parameters : List TypeParameter) : m (List TypeUsage) :=
  parameters.mapM fun p => do
    let bounds ← p.bounds.mapM (TypeUsage.ofJvmType source)
    pure (.typeVar p.name site bounds)

/-- The type variables a type declares. -/
def typeVariables (source : TypeSource m) (d : TypeDefinition) : m (List TypeUsage) :=
  typeVariablesOf source (.ofClass d.qualifiedName) d.typeParameters

/-- The type variables a method of a type declares. -/
def methodTypeVariables (source : TypeSource m) (d : TypeDefinition) (method : Method) :
    m (List TypeUsage) :=
  typeVariablesOf source (.ofMethod d.qualifiedName method.descriptor) method.typeParameters

end TypeDefinition

namespace TypeUsage

/-- The method a call on a receiver of this type invokes. -/
def findMethod (source : TypeSource m) (t : TypeUsage) (name : String) (args : List JvmType)
    (isStatic : Bool) : m MethodTarget :=
  match t with
  | reference d _ => d.findMethod source name args isStatic
  | t => throw (.unsupported .methodLookup t.display)

/-- The type of a field of this type. Arrays have a `length`. -/
def fieldType (source : TypeSource m) (t : TypeUsage) (name : String) : m (Option TypeUsage) :=
  match t with
  | reference d _ => d.fieldType source name
  | array _ => pure (if name = "length" then some (primitive .int) else none)
  | typeVar n s bs => throw (.unsupported .fieldLookup (typeVar n s bs).display)
  | _ => pure none

end TypeUsage

end JvmScope
