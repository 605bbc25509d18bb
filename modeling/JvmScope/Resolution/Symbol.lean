import JvmScope.Resolution.TypeScope

/-!
# Symbols

What a name denotes in the place of a value: a parameter, a local variable, a property, a
function of the file or an imported static member. Scopes are searched from the inside out. A
method, function or program binds its parameters, any other scope its children of the other
kinds; the variables of a block are bound only after the statement that declares them.
-/

namespace JvmScope

/-- What a name denotes in the place of a value. -/
inductive Symbol
  | parameter (declaration : NodeId)
  | localVar (declaration : NodeId)
  | property (declaration : NodeId)
  | function (declaration : NodeId)
  /-- A static member that is imported by name. -/
  | staticMember (owner : TypeDefinition) (member : String)
  deriving DecidableEq, Repr

/-- The children of a scope that may bind a name for code below the child `cameFrom`, or for the
scope itself. -/
def Tree.binders (t : Tree) (scope : NodeId) (cameFrom : Option NodeId) : List NodeId :=
  if (t.kind scope).isInvokable then t.parameters scope
  else
    let declarations := (t.children scope).filter fun c => !(t.kind c).isParameter
    if (t.kind scope).isBlock then declarations.filter fun c => cameFrom.all (c < ·)
    else declarations

namespace TypeScope

/-- The symbol that a node binds to `name`, if it binds it. -/
def symbolAt (s : TypeScope) (name : String) (id : NodeId) :
    Except ResolveError (Option Symbol) :=
  match s.tree.kind id with
  | .parameter n _ => pure (if n = name then some (.parameter id) else none)
  | .localVar n _ => pure (if n = name then some (.localVar id) else none)
  | .property n _ => pure (if n = name then some (.property id) else none)
  | .function n _ => pure (if n = name then some (.function id) else none)
  | .importDecl (.staticMember type member renamed) =>
    if (Import.staticMember type member renamed).localName? = some name then do
      let owner ← s.staticOwner type member (s.tree.range id)
      pure (some (.staticMember owner member))
    else pure none
  | _ => pure none

/-- The symbol bound to `name` in the nearest of `scopes` that binds it. -/
def symbolAmong (s : TypeScope) (name : String) (cameFrom : Option NodeId) :
    (scopes : List NodeId) → Except ResolveError (Option Symbol)
  | [] => pure none
  | scope :: outer => do
    match ← (s.tree.binders scope cameFrom).findSomeM? (s.symbolAt name) with
    | some symbol => pure (some symbol)
    | none => s.symbolAmong name (some scope) outer

/-- The symbol that `name` denotes at a node. -/
def findSymbol (s : TypeScope) (name : String) (context : NodeId) :
    Except ResolveError Symbol := do
  s.tree.requireNode context
  match ← s.symbolAmong name none (s.tree.ancestors context) with
  | some symbol => pure symbol
  | none => throw (.unresolved name (s.tree.range context))

end TypeScope

end JvmScope
