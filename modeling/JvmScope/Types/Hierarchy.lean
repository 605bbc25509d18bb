import JvmScope.Types.Source

/-!
# Hierarchies

Supertypes are known by name, so a hierarchy is walked through a type source: breadth first,
the superclass before the interfaces, every name once. A name that the source cannot answer is
an error, but only if the walk comes to it.

`TypeDefinition.walk` visits the definitions of a hierarchy, the type itself first, and may be
stopped by its visitor. `TypeDefinition.isSubtypeOf` searches for a name; it never looks
`java.lang.Object` up, which every type has above it and which has nothing above itself.

Both end on every source: each step either shortens the queue or uses up one of the finitely
many known names.
-/

namespace JvmScope.TypeDefinition

variable {m : Type → Type} [Monad m] [MonadExceptOf TypeError m] {σ : Type}

/-- What a visitor says after a definition: the new state, and whether to go on. -/
inductive Visit (σ : Type)
  | next (state : σ)
  | stop (state : σ)

/-- Walks the names in `queue` and what is above them, except those in `visited`. -/
def walkFrom (source : TypeSource m) (visit : σ → TypeDefinition → Visit σ)
    (visited queue : List String) (state : σ) : m σ :=
  match queue with
  | [] => pure state
  | name :: queue =>
    if _seen : name ∈ visited then walkFrom source visit visited queue state
    else do
      let ⟨d, _known⟩ ← source.requireKnown name
      match visit state d with
      | .stop state => pure state
      | .next state =>
        walkFrom source visit (name :: visited) (queue ++ d.supertypes) state
termination_by (source.remaining visited, queue.length)
decreasing_by
  · exact Prod.Lex.right _ (by simp)
  · exact Prod.Lex.left _ _ (source.remaining_cons_lt _known _seen)

/-- Walks a type and its supertypes, nearest first. -/
def walk (source : TypeSource m) (visit : σ → TypeDefinition → Visit σ) (d : TypeDefinition)
    (state : σ) : m σ :=
  match visit state d with
  | .stop state => pure state
  | .next state => walkFrom source visit [d.qualifiedName] d.supertypes state

/-- Whether `target` is among the names in `queue` or above them. -/
def reaches (source : TypeSource m) (target : String) (visited queue : List String) : m Bool :=
  match queue with
  | [] => pure false
  | name :: queue =>
    if name = target then pure true
    else if _seen : name = QualifiedName.object ∨ name ∈ visited then
      reaches source target visited queue
    else do
      let ⟨d, _known⟩ ← source.requireKnown name
      reaches source target (name :: visited) (queue ++ d.supertypes)
termination_by (source.remaining visited, queue.length)
decreasing_by
  · exact Prod.Lex.right _ (by simp)
  · exact Prod.Lex.left _ _ (source.remaining_cons_lt _known fun h => _seen (Or.inr h))

/-- Whether a type is, extends or implements the type with the dotted name `target`. -/
def isSubtypeOf (source : TypeSource m) (d : TypeDefinition) (target : String) : m Bool :=
  if target = QualifiedName.object ∨ d.qualifiedName = target then pure true
  else reaches source target [] d.supertypes

end JvmScope.TypeDefinition
