import JvmScope.Resolution.Typing

/-!
# Assignments

An assignment stores a value in a variable, a property or a field. Its target has to be writable
— no function, no final field — and has to accept the type of the value.
-/

namespace JvmScope.Resolver

/-- The type of a field that is written to. -/
def writableField (r : Resolver) (field : Field) (range : TextRange) :
    Except ResolveError TypeUsage :=
  if field.isFinal then throw (.semantic range (.finalField field.name))
  else atRange range (TypeUsage.ofJvmType r.source field.type)

/-- The type of values that the target of an assignment takes, over the types of expressions. -/
def writableTypeBy (r : Resolver) (typeOf : Typing) (target : NodeId) :
    Except ResolveError TypeUsage :=
  let range := r.tree.range target
  match r.tree.kind target with
  | .valueRef name => do
    match ← r.scope.findSymbol name target with
    | .function _ => throw (.semantic range (.functionAssigned name))
    | .staticMember owner member => do
      let field ← r.importedField owner member range
      r.writableField field range
    | symbol => r.typeOfSymbolBy typeOf symbol target
  | .fieldAccess name => do
    let receiver ← r.subject target
    let t ← typeOf receiver
    let found ← match t with
      | .reference d _ => atRange range (d.findField r.source name)
      | _ => pure none
    match found with
    | some field => r.writableField field range
    | none => throw (.semantic range (.noAssignableField t.display name))
  | .staticFieldAccess type name => do
    let field ← r.staticField type name target
    r.writableField field range
  | other => throw (.semantic range (.notWritable other.describe))

/-- The type of values that the target of an assignment takes. -/
def writableType (r : Resolver) (target : NodeId) : Except ResolveError TypeUsage :=
  r.writableTypeBy r.typeOf target

/-- Fails unless a value of the first type can be stored where the second is expected. -/
def expectAssignable (r : Resolver) (actual expected : TypeUsage) (range : TextRange) :
    Except ResolveError Unit := do
  if ← atRange range (actual.assignableTo r.source expected) then pure ()
  else throw (.semantic range (.unassignable actual.display expected.display))

/-- Fails for an assignment that the program may not make, over the types of expressions. -/
def checkAssignmentBy (r : Resolver) (typeOf : Typing) (assignment : NodeId) :
    Except ResolveError Unit := do
  r.tree.requireNode assignment
  match r.tree.children assignment with
  | [target, value] => do
    let expected ← r.writableTypeBy typeOf target
    let actual ← typeOf value
    r.expectAssignable actual expected (r.tree.range assignment)
  | _ => throw (.unsupported .assignment "assignment without target and value")

/-- Fails for an assignment that the program may not make. -/
def checkAssignment (r : Resolver) (assignment : NodeId) : Except ResolveError Unit :=
  r.checkAssignmentBy r.typeOf assignment

end JvmScope.Resolver
