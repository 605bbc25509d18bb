import JvmScope.Resolution.Error
import JvmScope.Types.Members

/-!
# Type names in scope

What a type name denotes at a node. Names of primitives and unsigned types always denote these.
Any other name is looked for in the scopes around the node, nearest first. The children of a
scope are asked in their order: a type declaration answers to its simple and its qualified name,
an import to what it introduces. Outside all scopes the name is a type of the default package,
and last of all a qualified name of the classpath.

Imports name types of the file or of the classpath. They may also name static members, for which
the members of a type have to be known; so a `TypeScope` has, beside the classpath, the source
`all` that knows the definitions of the types of the file. How such definitions come about is
left open here.
-/

namespace JvmScope

/-- What type names of a program are looked up in. -/
structure TypeScope where
  tree : Tree
  /-- The types outside the file. -/
  classpath : TypeSource (Except TypeError)
  /-- The types of the file and, behind them, those of the classpath. -/
  all : TypeSource (Except TypeError)

/-- What a type name denotes. -/
inductive TypeTarget
  | primitive (kind : Primitive)
  | basic (type : Unsigned)
  /-- A type that is declared at this node. -/
  | source (declaration : NodeId)
  | external (definition : TypeDefinition)
  deriving DecidableEq, Repr

/-- What a name stands for by an import. -/
inductive Imported
  | type (target : TypeTarget)
  /-- A static member, which is no type. -/
  | member
  deriving DecidableEq, Repr

/-- Fails for a number that no node has. -/
def Tree.requireNode (t : Tree) (id : NodeId) : Except ResolveError Unit :=
  if t.has id then .ok () else .error (.noSuchNode id)

namespace TypeScope

/-- The package whose types need no import. -/
def defaultPackage : String := "java.lang"

/-! ## Static members -/

/-- Whether the nearest field or any method of this name is static. -/
def hasStaticMember (s : TypeScope) (owner : TypeDefinition) (member : String) :
    Except TypeError Bool := do
  let field ← owner.findField s.all member
  if field.any (·.isStatic) then pure true
  else
    let methods ← owner.methodsNamed s.all member
    pure (methods.any (·.method.isStatic))

/-- The type a static member is imported from. It has to have such a member. -/
def staticOwner (s : TypeScope) (type member : String) (range : TextRange) :
    Except ResolveError TypeDefinition := do
  match ← atRange range (s.all.resolve type) with
  | none => throw (.unresolved type range)
  | some owner =>
    if ← atRange range (s.hasStaticMember owner member) then pure owner
    else throw (.unresolved (type ++ "." ++ member) range)

/-! ## Imports -/

/-- The type of the file, or else of the classpath, that a qualified name stands for. -/
def qualifiedTarget (s : TypeScope) (name : String) (range : TextRange) :
    Except ResolveError (Option TypeTarget) :=
  match s.tree.typeNamed? name with
  | some declaration => pure (some (.source declaration))
  | none => do
    let found ← atRange range (s.classpath.resolve name)
    pure (found.map .external)

/-- Whether a name without a type of its own is that of a static member, as `c` in `a.B.c`. -/
def namesStaticMember (s : TypeScope) (name : String) : Except TypeError Bool :=
  if '.' ∈ name.toList then do
    match ← s.all.resolve (QualifiedName.packageName name) with
    | some owner => s.hasStaticMember owner (QualifiedName.simpleName name)
    | none => pure false
  else pure false

/-- What an import of one name introduces. -/
def importedName (s : TypeScope) (name : String) (range : TextRange) :
    Except ResolveError Imported := do
  match ← s.qualifiedTarget name range with
  | some target => pure (.type target)
  | none =>
    if ← atRange range (s.namesStaticMember name) then pure .member
    else throw (.unresolved name range)

/-- What `name` stands for by an import, if the import has to do with it. -/
def imported (s : TypeScope) (name : String) (range : TextRange) (what : Import) :
    Except ResolveError (Option Imported) :=
  match what with
  | .singleType full _ =>
    if what.localName? = some name ∨ full = name then some <$> s.importedName full range
    else pure none
  | .onDemand package =>
    if '.' ∈ name.toList then pure none
    else do
      let target ← s.qualifiedTarget (package ++ "." ++ name) range
      pure (target.map .type)
  | .staticMember type member _ =>
    if what.localName? = some name then do
      let _ ← s.staticOwner type member range
      pure (some .member)
    else pure none

/-! ## Scopes -/

/-- The type that `name` denotes by what stands at one node, if it denotes any by it. -/
def typeAt (s : TypeScope) (name : String) (id : NodeId) :
    Except ResolveError (Option TypeTarget) :=
  match s.tree.kind id with
  | .typeDecl declared =>
    if declared = name ∨ s.tree.qualify declared = name then pure (some (.source id))
    else pure none
  | .importDecl what => do
    match ← s.imported name (s.tree.range id) what with
    | some (.type target) => pure (some target)
    | some .member => throw (.semantic (s.tree.range id) (.notAType name))
    | none => pure none
  | _ => pure none

/-- The type that `name` denotes by the first child of a scope that says so. -/
def typeIn (s : TypeScope) (name : String) (scope : NodeId) :
    Except ResolveError (Option TypeTarget) :=
  (s.tree.children scope).findSomeM? (s.typeAt name)

/-- The type of the classpath that `name` denotes without any scope. -/
def typeOutside (s : TypeScope) (name : String) (range : TextRange) :
    Except ResolveError TypeTarget := do
  match ← atRange range (s.classpath.resolve (defaultPackage ++ "." ++ name)) with
  | some d => pure (.external d)
  | none =>
    match ← atRange range (s.classpath.resolve name) with
    | some d => pure (.external d)
    | none => throw (.unresolved name range)

/-- The type that `name` denotes in the scopes around a node or outside of them. -/
def typeAround (s : TypeScope) (name : String) (context : NodeId) :
    Except ResolveError TypeTarget := do
  s.tree.requireNode context
  match ← (s.tree.ancestors context).findSomeM? (s.typeIn name) with
  | some target => pure target
  | none => s.typeOutside name (s.tree.range context)

/-- What the type name `name` denotes at a node. -/
def lookupType (s : TypeScope) (name : String) (context : NodeId) :
    Except ResolveError TypeTarget :=
  match Primitive.ofName? name, Unsigned.ofName? name with
  | some kind, _ => pure (.primitive kind)
  | none, some type => pure (.basic type)
  | none, none =>
    if QualifiedName.isValid name then s.typeAround name context
    else throw (.invalid (.invalidQualifiedName name))

end TypeScope

end JvmScope
