import JvmScope.Types.Hierarchy

/-!
# Passing values

Which JVM types a parameter accepts, and which candidates of a call accept its arguments. A
parameter accepts its own type; a class accepts its subtypes, an array of references what its
component accepts, and `java.lang.Object` every array. Primitives are never converted.

A call selects a candidate when exactly one is applicable. There is no order of preference among
applicable ones.
-/

namespace JvmScope

variable {m : Type → Type} [Monad m] [MonadExceptOf TypeError m]

namespace JvmType

/-- Whether a value of type `actual` can be passed where `expected` is declared. -/
def accepts (source : TypeSource m) (expected actual : JvmType) : m Bool :=
  if expected = actual then pure true
  else
    match expected, actual with
    | array expected, array actual =>
      if expected.isPrimitive || actual.isPrimitive then pure false
      else expected.accepts source actual
    | expected, array _ => pure (expected == .ofDotted QualifiedName.object)
    | array _, _ => pure false
    | object expected, object actual => do
      let d ← source.require (QualifiedName.ofInternal actual)
      d.isSubtypeOf source (QualifiedName.ofInternal expected)
    | _, _ => pure false

/-- Whether parameters and arguments agree in number and every parameter accepts its argument. -/
def acceptAll (source : TypeSource m) : (params args : List JvmType) → m Bool
  | [], [] => pure true
  | p :: params, a :: args => do
    if ← p.accepts source a then acceptAll source params args else pure false
  | _, _ => pure false

end JvmType

/-- Whether the arguments can be passed for the parameters. The numbers are compared first, so
that types are only compared when they agree. -/
def isApplicable (source : TypeSource m) (params args : List JvmType) : m Bool :=
  if params.length = args.length then JvmType.acceptAll source params args else pure false

/-- What became of a call among its candidates. -/
inductive Selection (α : Type)
  | nothing
  | unique (candidate : α)
  | ambiguous (candidates : List α)
  deriving Repr

namespace Selection

/-- The selection that the applicable candidates make. -/
def ofApplicable {α : Type} : List α → Selection α
  | [] => nothing
  | [a] => unique a
  | candidates => ambiguous candidates

end Selection

/-- The candidates whose parameters take the arguments. -/
def applicable {α : Type} (source : TypeSource m) (params : α → List JvmType)
    (args : List JvmType) : (candidates : List α) → m (List α)
  | [] => pure []
  | a :: rest => do
    let fits ← isApplicable source (params a) args
    let more ← applicable source params args rest
    pure (if fits then a :: more else more)

/-- Selects among candidates. -/
def selectApplicable {α : Type} (source : TypeSource m) (params : α → List JvmType)
    (candidates : List α) (args : List JvmType) : m (Selection α) := do
  let found ← applicable source params args candidates
  pure (.ofApplicable found)

end JvmScope
