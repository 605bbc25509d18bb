/-!
# Type errors

Why a type could not be found, projected, compared or called. An error holds its cause; the
text shown for it is `TypeError.message`.
-/

namespace JvmScope

/-- What was attempted on something that does not support it. -/
inductive Operation
  | jvmDescriptor | assignability | methodLookup | fieldLookup
  | expressionTyping | callResolution | typeDefinition | symbolTyping | functionType
  | memberAccess | assignment | localVariable | returnStatement
  deriving DecidableEq, Repr

namespace Operation

/-- The name of an operation in messages. -/
def name : Operation → String
  | jvmDescriptor => "jvm descriptor"
  | assignability => "assignability"
  | methodLookup => "method lookup"
  | fieldLookup => "field lookup"
  | expressionTyping => "expression typing"
  | callResolution => "call resolution"
  | typeDefinition => "type definition"
  | symbolTyping => "symbol typing"
  | functionType => "function type"
  | memberAccess => "member access"
  | assignment => "assignment"
  | localVariable => "local variable"
  | returnStatement => "return"

end Operation

/-- A failure at the level of types. -/
inductive TypeError
  /-- The text is no qualified name. -/
  | invalidQualifiedName (name : String)
  /-- The subject, as written, does not support the operation. -/
  | unsupported (operation : Operation) (subject : String)
  /-- A type that binaries refer to is not on the classpath. -/
  | missingType (name : String)
  /-- A name written in source stands for nothing. -/
  | unresolved (name : String)
  /-- The text is no descriptor. -/
  | unsupportedDescriptor (text : String)
  /-- No method or constructor takes the arguments. -/
  | noApplicableMethod (owner name : String) (args : List String)
  /-- More than one method or constructor takes the arguments. -/
  | ambiguousCall (owner name : String) (candidates : List String)
  /-- The definition of `name` exists and could not be read. -/
  | provider (name reason : String)
  /-- A definition is needed to establish itself, or the type of an expression is. No rule of the
  language makes this an error: by the rules alone the search would go round for ever, and the
  value stands for a search without an end. -/
  | circular
  deriving DecidableEq, Repr, Inhabited

namespace TypeError

/-- The text shown for an error. -/
def message : TypeError → String
  | invalidQualifiedName name => "`" ++ name ++ "` is not a valid qualified name"
  | unsupported operation subject =>
    operation.name ++ " is not supported on `" ++ subject ++ "`"
  | missingType name => "unable to find definition of type `" ++ name ++ "`"
  | unresolved name => "unresolved type name `" ++ name ++ "`"
  | unsupportedDescriptor text => "unsupported binary type format `" ++ text ++ "`"
  | noApplicableMethod owner name args =>
    "no applicable method `" ++ owner ++ "." ++ name ++ "` for argument types (" ++
      ", ".intercalate args ++ ")"
  | ambiguousCall owner name candidates =>
    "ambiguous call to `" ++ owner ++ "." ++ name ++ "`: candidates " ++
      ", ".intercalate candidates
  | provider name reason => "failed to load `" ++ name ++ "`: " ++ reason
  | circular => "a type definition depends on itself"

end TypeError

end JvmScope
