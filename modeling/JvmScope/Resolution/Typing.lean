import JvmScope.Resolution.SourceType
import JvmScope.Resolution.Symbol

/-!
# Types of expressions

The type of an expression follows from the types of its parts and, for a reference to a variable
without a written type, from that of the variable's initialiser. `typeOfStep` is this rule for one
node, over the types of other nodes; `typeOfWithin` applies it with a trail of the nodes whose
types are being established. A node that needs its own type has none: by the rule alone, the
search for it would not end (`TypeError.circular`).

A call is resolved to the method it invokes, an instance creation to the constructor. Whether a
method is called on a value or on a type is told by `denotesType`.
-/

namespace JvmScope

/-- What a call or an instance creation invokes. -/
inductive InvocationTarget
  | method (target : MethodTarget)
  | constructor (target : ConstructorTarget)
  deriving DecidableEq, Repr

namespace Resolver

/-- The types of other nodes, for the rules about one. -/
abbrev Typing := NodeId → Except ResolveError TypeUsage

/-! ## Parts of the rules -/

/-- The nearest field of this name, if it is static. -/
def staticFieldOf (r : Resolver) (owner : TypeDefinition) (field : String) :
    Except TypeError (Option Field) := do
  let found ← owner.findField r.source field
  pure (found.filter (·.isStatic))

/-- The static field `type.field` as it is written at a node. -/
def staticField (r : Resolver) (type field : String) (context : NodeId) :
    Except ResolveError Field := do
  let range := r.tree.range context
  let target ← r.scope.lookupType type context
  match ← r.definitionOf target with
  | none => throw (.semantic range (.noStaticField type field))
  | some owner =>
    match ← atRange range (r.staticFieldOf owner field) with
    | none => throw (.semantic range (.noStaticField type field))
    | some found => pure found

/-- The static field that was imported from its owner. -/
def importedField (r : Resolver) (owner : TypeDefinition) (field : String) (range : TextRange) :
    Except ResolveError Field := do
  match ← atRange range (r.staticFieldOf owner field) with
  | none => throw (.semantic range (.noStaticField owner.qualifiedName field))
  | some found => pure found

/-- The class or interface that `name` denotes at a node where it is no symbol. -/
def typeNamedBy (r : Resolver) (name : String) (context : NodeId) :
    Except ResolveError (Option TypeTarget) :=
  match r.scope.lookupType name context with
  | .ok (.source declaration) => .ok (some (.source declaration))
  | .ok (.external d) => .ok (some (.external d))
  | .ok _ | .error (.unresolved _ _) => .ok none
  | .error e => .error e

/-- Whether an expression names a type instead of having a value. -/
def denotesType (r : Resolver) (e : NodeId) : Except ResolveError Bool := do
  r.tree.requireNode e
  match r.tree.kind e with
  | .typeIdentifier _ => pure true
  | .valueRef name =>
    match r.scope.findSymbol name e with
    | .ok _ => pure false
    | .error (.unresolved _ _) => do
      let target ← r.typeNamedBy name e
      pure target.isSome
    | .error e => throw e
  | _ => pure false

/-- The expression whose member is accessed. -/
def subject (r : Resolver) (access : NodeId) : Except ResolveError NodeId :=
  match r.tree.children access with
  | [] => throw (.unsupported .memberAccess "access without a subject")
  | e :: _ => pure e

/-! ## Symbols -/

/-- The types of a function's parameters in order. -/
def parameterUsages (r : Resolver) : List (NodeId × TypeRef) →
    Except ResolveError (List TypeUsage)
  | [] => pure []
  | (id, type) :: rest => do
    let t ← r.resolveTypeRef id type
    let ts ← r.parameterUsages rest
    pure (t :: ts)

/-- The function type of a function of the file. -/
def functionType (r : Resolver) (function : NodeId) : Except ResolveError TypeUsage :=
  match r.tree.kind function with
  | .function _ result => do
    let params ← r.parameterUsages (r.tree.parameterTypes function)
    let result ← r.resolveTypeRef function result
    pure (.function params result)
  | other => throw (.unsupported .functionType other.describe)

/-- The type of what a symbol denotes when it is used at a node. -/
def typeOfSymbolBy (r : Resolver) (typeOf : Typing) (symbol : Symbol) (context : NodeId) :
    Except ResolveError TypeUsage :=
  match symbol with
  | .parameter id | .property id => do
    r.tree.requireNode id
    match r.tree.kind id with
    | .parameter _ type | .property _ type => r.resolveTypeRef id type
    | other => throw (.unsupported .symbolTyping other.describe)
  | .localVar id => do
    r.tree.requireNode id
    match r.tree.kind id, r.tree.children id with
    | .localVar _ (some type), _ => r.resolveTypeRef id type
    | .localVar _ none, initialiser :: _ => typeOf initialiser
    | .localVar name none, [] =>
      throw (.unsupported .symbolTyping ("untyped local `" ++ name ++ "`"))
    | other, _ => throw (.unsupported .symbolTyping other.describe)
  | .function id => do
    r.tree.requireNode id
    r.functionType id
  | .staticMember owner member => do
    r.tree.requireNode context
    let range := r.tree.range context
    let field ← r.importedField owner member range
    atRange range (TypeUsage.ofJvmType r.source field.type)

/-! ## Calls -/

/-- The JVM types of arguments in order. -/
def argumentTypes (r : Resolver) (typeOf : Typing) : List NodeId →
    Except ResolveError (List JvmType)
  | [] => pure []
  | e :: rest => do
    let t ← typeOf e
    let j ← atRange (r.tree.range e) t.jvmType
    let more ← r.argumentTypes typeOf rest
    pure (j :: more)

/-- The JVM types of the parameters of a function of the file. -/
def parameterJvmTypes (r : Resolver) : List (NodeId × TypeRef) →
    Except ResolveError (List JvmType)
  | [] => pure []
  | (id, type) :: rest => do
    let t ← r.scope.jvmTypeOf id type
    let ts ← r.parameterJvmTypes rest
    pure (t :: ts)

/-- The class that a function of the file is compiled to. -/
def functionClass (r : Resolver) (name : String) : String := r.tree.qualify ("Function_" ++ name)

/-- The method that a call of a function of the file invokes: the static method `invoke` of the
function's class. -/
def functionTarget (r : Resolver) (function : NodeId) (args : List JvmType) (range : TextRange) :
    Except ResolveError MethodTarget :=
  match r.tree.kind function with
  | .function name result => do
    let params ← r.parameterJvmTypes (r.tree.parameterTypes function)
    if ← atRange range (isApplicable r.source params args) then
      let result ← r.scope.jvmTypeOf function result
      pure (.ofSignature (r.functionClass name) "invoke" params result true)
    else
      throw (.ofType range (.noApplicableMethod r.tree.space name (args.map JvmType.text)))
  | other => throw (.unsupported .callResolution other.describe)

/-- The method that a callee stands for, given the types of the arguments. -/
def calleeTarget (r : Resolver) (typeOf : Typing) (callee : NodeId) (args : List JvmType)
    (range : TextRange) : Except ResolveError MethodTarget :=
  match r.tree.kind callee with
  | .valueRef name => do
    match ← r.scope.findSymbol name callee with
    | .function function => r.functionTarget function args range
    | .staticMember owner member =>
      atRange range (owner.findMethod r.source member args true)
    | _ => throw (.semantic range (.notInvokable name))
  | .fieldAccess name => do
    let receiver ← r.subject callee
    let onType ← r.denotesType receiver
    let t ← typeOf receiver
    if t.isReference then atRange range (t.findMethod r.source name args onType)
    else throw (.semantic range (.noMethods t.display))
  | .staticFieldAccess type name => do
    let target ← r.scope.lookupType type callee
    match ← r.definitionOf target with
    | some owner => atRange range (owner.findMethod r.source name args true)
    | none => throw (.semantic range (.noMethods type))
  | other => throw (.semantic range (.nodeNotInvokable other.describe))

/-- The method that a call invokes. -/
def methodTargetBy (r : Resolver) (typeOf : Typing) (call : NodeId) :
    Except ResolveError MethodTarget :=
  match r.tree.children call with
  | [] => throw (.unsupported .callResolution "call without a callee")
  | callee :: args => do
    let args ← r.argumentTypes typeOf args
    r.calleeTarget typeOf callee args (r.tree.range call)

/-- The constructor that the creation of an instance of the named type invokes. -/
def constructorTargetBy (r : Resolver) (typeOf : Typing) (type : String) (creation : NodeId) :
    Except ResolveError ConstructorTarget := do
  let range := r.tree.range creation
  let args ← r.argumentTypes typeOf (r.tree.children creation)
  let target ← r.scope.lookupType type creation
  match ← r.definitionOf target with
  | none => throw (.semantic range (.notInstantiable type))
  | some d =>
    if d.isInterface then throw (.semantic range (.notInstantiable type))
    else atRange range (d.findConstructor r.source args)

/-! ## Expressions -/

/-- The type of an expression, over the types of other expressions. -/
def typeOfStep (r : Resolver) (typeOf : Typing) (e : NodeId) : Except ResolveError TypeUsage :=
  let range := r.tree.range e
  match r.tree.kind e with
  | .intLiteral _ => pure (.primitive .int)
  | .boolLiteral _ => pure (.primitive .boolean)
  | .stringLiteral _ => do
    let d ← atRange range (r.classpath.require QualifiedName.string)
    pure (.ofDefinition d)
  | .valueRef name =>
    match r.scope.findSymbol name e with
    | .ok symbol => r.typeOfSymbolBy typeOf symbol e
    | .error (.unresolved unknown place) => do
      match ← r.typeNamedBy name e with
      | some target => r.usageOf target
      | none => throw (.unresolved unknown place)
    | .error e => throw e
  | .typeIdentifier name => r.namedUsage name e
  | .fieldAccess field => do
    let receiver ← r.subject e
    let t ← typeOf receiver
    match ← atRange range (t.fieldType r.source field) with
    | some u => pure u
    | none => throw (.semantic range (.noField t.display field))
  | .staticFieldAccess type field => do
    let found ← r.staticField type field e
    atRange range (TypeUsage.ofJvmType r.source found.type)
  | .call => do
    let target ← r.methodTargetBy typeOf e
    let result ← atRange range target.returnType
    atRange range (TypeUsage.ofJvmType r.source result)
  | .creation type => do
    let _ ← r.constructorTargetBy typeOf type e
    r.namedUsage type e
  | .thisRef =>
    match r.tree.enclosing? e NodeKind.isTypeDecl with
    | none => throw (.semantic range .misplacedThis)
    | some declaration => .ofDefinition <$> r.sourceDefinition declaration
  | other => throw (.unsupported .expressionTyping other.describe)

/-- The type of an expression while the types of those in `trail` are being established. -/
def typeOfWithin (r : Resolver) (trail : List NodeId) (e : NodeId) :
    Except ResolveError TypeUsage :=
  if _here : r.tree.has e then
    if _met : e ∈ trail then throw (.invalid .circular)
    else r.typeOfStep (fun other => r.typeOfWithin (e :: trail) other) e
  else throw (.noSuchNode e)
termination_by r.tree.unmet trail
decreasing_by exact Tree.unmet_cons_lt _here _met

/-- The type of an expression. -/
def typeOf (r : Resolver) (e : NodeId) : Except ResolveError TypeUsage := r.typeOfWithin [] e

/-- The type of what a symbol denotes when it is used at a node. -/
def typeOfSymbol (r : Resolver) (symbol : Symbol) (context : NodeId) :
    Except ResolveError TypeUsage :=
  r.typeOfSymbolBy r.typeOf symbol context

/-- What a call or an instance creation invokes, over the types of other expressions. -/
def resolveCallBy (r : Resolver) (typeOf : Typing) (call : NodeId) :
    Except ResolveError InvocationTarget := do
  r.tree.requireNode call
  match r.tree.kind call with
  | .call => .method <$> r.methodTargetBy typeOf call
  | .creation type => .constructor <$> r.constructorTargetBy typeOf type call
  | other => throw (.unsupported .callResolution other.describe)

/-- What a call or an instance creation invokes. -/
def resolveCall (r : Resolver) (call : NodeId) : Except ResolveError InvocationTarget :=
  r.resolveCallBy (r.typeOfWithin [call]) call

end Resolver

end JvmScope
