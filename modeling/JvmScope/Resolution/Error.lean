import JvmScope.Program.Tree
import JvmScope.Types.Error

/-!
# Resolution errors

What can be wrong with a program, and what can keep a question about it from being answered.
Mistakes of the program, unresolved names and semantic errors, are *recoverable*: they have a
place in the text, are reported there, and let a check go on. All others end it.
-/

namespace JvmScope

/-- The classes that semantic errors fall into. -/
inductive SemanticKind
  | ambiguousCall | noApplicableMethod | notAType | notAssignable | notInvokable | unknownField
  | misplacedThis
  deriving DecidableEq, Repr

/-- A mistake in a program other than an unknown name. Types are given as they are displayed. -/
inductive SemanticError
  | ambiguousCall (owner name : String) (candidates : List String)
  | noApplicableMethod (owner name : String) (args : List String)
  /-- A name in the place of a type denotes a static member. -/
  | notAType (name : String)
  | unassignable (value target : String)
  | missingReturnValue (expected : String)
  | unexpectedReturnValue
  | functionAssigned (name : String)
  /-- A node of this description is the target of an assignment. -/
  | notWritable (what : String)
  | noAssignableField (type field : String)
  | finalField (name : String)
  | notInvokable (name : String)
  /-- A node of this description is the callee of a call. -/
  | nodeNotInvokable (what : String)
  | noMethods (type : String)
  | notInstantiable (name : String)
  | noField (type field : String)
  | noStaticField (type field : String)
  | misplacedThis
  deriving DecidableEq, Repr

namespace SemanticError

/-- The class of an error. -/
def kind : SemanticError → SemanticKind
  | ambiguousCall _ _ _ => .ambiguousCall
  | noApplicableMethod _ _ _ => .noApplicableMethod
  | notAType _ => .notAType
  | unassignable _ _ | missingReturnValue _ | unexpectedReturnValue | functionAssigned _
  | notWritable _ | noAssignableField _ _ | finalField _ => .notAssignable
  | notInvokable _ | nodeNotInvokable _ | noMethods _ | notInstantiable _ => .notInvokable
  | noField _ _ | noStaticField _ _ => .unknownField
  | misplacedThis => .misplacedThis

/-- The text shown for an error. -/
def message : SemanticError → String
  | ambiguousCall owner name candidates => (TypeError.ambiguousCall owner name candidates).message
  | noApplicableMethod owner name args => (TypeError.noApplicableMethod owner name args).message
  | notAType name => "`" ++ name ++ "` is not a type"
  | unassignable value target => "cannot assign `" ++ value ++ "` to `" ++ target ++ "`"
  | missingReturnValue expected => "missing return value of type `" ++ expected ++ "`"
  | unexpectedReturnValue => "cannot return a value from a `void` invokable"
  | functionAssigned name => "function `" ++ name ++ "` cannot be assigned"
  | notWritable what => "a " ++ what ++ " cannot be assigned"
  | noAssignableField type field =>
    "`" ++ type ++ "` has no assignable field `" ++ field ++ "`"
  | finalField name => "field `" ++ name ++ "` is final"
  | notInvokable name => "`" ++ name ++ "` is not invokable"
  | nodeNotInvokable what => "a " ++ what ++ " is not invokable"
  | noMethods type => "`" ++ type ++ "` has no methods"
  | notInstantiable name => "`" ++ name ++ "` cannot be instantiated"
  | noField type field => "`" ++ type ++ "` has no field `" ++ field ++ "`"
  | noStaticField type field => "`" ++ type ++ "` has no static field `" ++ field ++ "`"
  | misplacedThis => "`this` used outside a type declaration"

end SemanticError

/-- A failure to resolve something in a program. -/
inductive ResolveError
  /-- The question has no sense for what it was asked about. -/
  | invalid (cause : TypeError)
  | unresolved (name : String) (range : TextRange)
  | semantic (range : TextRange) (cause : SemanticError)
  /-- The classpath failed. -/
  | provider (cause : TypeError)
  /-- No node has this number. -/
  | noSuchNode (id : NodeId)
  deriving DecidableEq, Repr

namespace ResolveError

instance : Inhabited ResolveError := ⟨.invalid default⟩

/-- The text shown for an error. -/
def message : ResolveError → String
  | invalid cause => cause.message
  | unresolved name range => "unresolved symbol `" ++ name ++ "` at " ++ range.display
  | semantic _ cause => cause.message
  | provider cause => cause.message
  | noSuchNode id => "no node " ++ toString id

/-- Whether a check reports the error and goes on. -/
def isRecoverable : ResolveError → Bool
  | unresolved _ _ | semantic _ _ => true
  | _ => false

/-- The place of an error in the text. -/
def range? : ResolveError → Option TextRange
  | unresolved _ range => some range
  | semantic range _ => some range
  | _ => none

/-- The error that a failure at the level of types is for the node at `range`. -/
def ofType (range : TextRange) : TypeError → ResolveError
  | .unresolved name => unresolved name range
  | .ambiguousCall owner name candidates => semantic range (.ambiguousCall owner name candidates)
  | .noApplicableMethod owner name args => semantic range (.noApplicableMethod owner name args)
  | e@(.missingType _) | e@(.provider _ _) => provider e
  | e => invalid e

/-- The error as a type source reports it when asked for `name`. -/
def toTypeError (name : String) : ResolveError → TypeError
  | invalid cause | provider cause => cause
  | unresolved unknown _ => .unresolved unknown
  | e => .provider name e.message

/-- The error for an operation that its subject does not support. -/
def unsupported (operation : Operation) (subject : String) : ResolveError :=
  invalid (.unsupported operation subject)

end ResolveError

/-- Attaches the place of the node at hand to a failure at the level of types. -/
def atRange {α : Type} (range : TextRange) (result : Except TypeError α) :
    Except ResolveError α :=
  result.mapError (.ofType range)

end JvmScope
