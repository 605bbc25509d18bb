import JvmScope.Resolution.TypeScope

/-!
# Written types at the level of the virtual machine

`jvmTypeOf` maps a written type to the type the virtual machine sees, and `checkTypeRef` only
finds out whether the names in it denote something. Neither needs the definitions of the types
of the file, so both can be used to make them.
-/

namespace JvmScope.TypeScope

/-- The JVM type of what a type name denotes. -/
def jvmTypeOfTarget (s : TypeScope) : TypeTarget → JvmType
  | .primitive kind => .primitive kind
  | .basic type => .primitive type.storage
  | .source declaration => .ofDotted ((s.tree.qualifiedTypeName? declaration).getD "")
  | .external d => d.jvmType

/-- The JVM type of a type written at a node. Function types and arrays of `void` have none. -/
def jvmTypeOf (s : TypeScope) (context : NodeId) : TypeRef → Except ResolveError JvmType
  | .named name => s.jvmTypeOfTarget <$> s.lookupType name context
  | .array element => do
    let component ← s.jvmTypeOf context element
    if component.isVoid then throw (.unsupported .jvmDescriptor (TypeRef.array element).display)
    else pure (.array component)
  | .function params result =>
    throw (.unsupported .jvmDescriptor (TypeRef.function params result).display)

mutual

/-- Fails for a written type that has a name in it that denotes nothing. -/
def checkTypeRef (s : TypeScope) (context : NodeId) : TypeRef → Except ResolveError Unit
  | .named name => do
    let _ ← s.lookupType name context
    pure ()
  | .array element => s.checkTypeRef context element
  | .function params result => do
    s.checkTypeRefs context params
    s.checkTypeRef context result

/-- Fails for the first of several written types that has a name in it that denotes nothing. -/
def checkTypeRefs (s : TypeScope) (context : NodeId) : List TypeRef → Except ResolveError Unit
  | [] => pure ()
  | type :: rest => do
    s.checkTypeRef context type
    s.checkTypeRefs context rest

end

/-- The JVM type of a member's written type; none if a mistake of the program is in the way. -/
def memberType (s : TypeScope) (member : NodeId) (type : TypeRef) :
    Except ResolveError (Option JvmType) :=
  match s.jvmTypeOf member type with
  | .ok t => .ok (some t)
  | .error e => if e.isRecoverable then .ok none else .error e

end JvmScope.TypeScope
