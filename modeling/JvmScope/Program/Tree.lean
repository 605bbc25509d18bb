import JvmScope.Fresh
import JvmScope.Program.TypeRef
import JvmScope.QualifiedName

/-!
# Program trees

The tree of one compilation unit. Nodes are numbered in the order in which they are added, the
file itself being node 0, and a node only knows its parent, which is there before it. So numbers
fall on the way to the root and rise on the way down, and the children of a node are the nodes
that name it as their parent, in order of addition.

A number that no node has gets harmless answers from the accessors below; whoever takes numbers
from outside asks `Tree.has` first.
-/

namespace JvmScope

/-! ## Positions -/

/-- A place in the text, counted from 0. -/
structure Position where
  line : Nat
  column : Nat
  deriving DecidableEq, Repr, Inhabited

/-- A stretch of the text. -/
structure TextRange where
  start : Position
  stop : Position
  deriving DecidableEq, Repr, Inhabited

namespace TextRange

/-- A range in one line. -/
def ofLine (line startColumn stopColumn : Nat) : TextRange :=
  ⟨⟨line, startColumn⟩, ⟨line, stopColumn⟩⟩

/-- The text of a range in messages. -/
def display (r : TextRange) : String :=
  toString r.start.line ++ ":" ++ toString r.start.column ++ "-" ++
    toString r.stop.line ++ ":" ++ toString r.stop.column

end TextRange

/-! ## Kinds of nodes -/

/-- What an import brings into its scope. -/
inductive Import
  /-- One type, under its simple name or another. -/
  | singleType (name : String) (renamed : Option String)
  /-- Every type of a package. -/
  | onDemand (package : String)
  /-- One static member of a type, under its name or another. -/
  | staticMember (type member : String) (renamed : Option String)
  deriving DecidableEq, Repr

namespace Import

/-- The name an import introduces; none for imports on demand. -/
def localName? : Import → Option String
  | singleType name renamed => some (renamed.getD (QualifiedName.simpleName name))
  | onDemand _ => none
  | staticMember _ member renamed => some (renamed.getD member)

end Import

/-- What stands at a node. -/
inductive NodeKind
  /-- A compilation unit. -/
  | file (space : String)
  | importDecl (what : Import)
  | typeDecl (name : String)
  | property (name : String) (type : TypeRef)
  /-- Children: the parameters, then possibly a block. -/
  | method (name : String) (result : TypeRef) (isStatic : Bool)
  /-- A function of the file. Children as for methods. -/
  | function (name : String) (result : TypeRef)
  /-- An entry point. Children: the parameters, then a block. -/
  | program (name : String)
  | parameter (name : String) (type : TypeRef)
  | block
  /-- Child: the expression. -/
  | expressionStatement
  /-- Child: possibly an initialiser, which is needed if no type is written. -/
  | localVar (name : String) (type : Option TypeRef)
  /-- Children: target and value. -/
  | assignment
  /-- Child: possibly a value. -/
  | returnStatement
  | intLiteral (value : Int)
  | stringLiteral (value : String)
  | boolLiteral (value : Bool)
  | valueRef (name : String)
  /-- A type in the place of an expression, such as the receiver of a static call. -/
  | typeIdentifier (name : String)
  /-- Child: the subject. -/
  | fieldAccess (field : String)
  | staticFieldAccess (type field : String)
  /-- Children: the callee, then the arguments. -/
  | call
  /-- Children: the arguments. -/
  | creation (type : String)
  | thisRef
  deriving Repr

namespace NodeKind

def isExpression : NodeKind → Bool
  | intLiteral _ | stringLiteral _ | boolLiteral _ | valueRef _ | typeIdentifier _
  | fieldAccess _ | staticFieldAccess _ _ | call | creation _ | thisRef => true
  | _ => false

/-- The kinds that have parameters. -/
def isInvokable : NodeKind → Bool
  | method _ _ _ | function _ _ | program _ => true
  | _ => false

def isParameter : NodeKind → Bool
  | parameter _ _ => true
  | _ => false

def isBlock : NodeKind → Bool
  | block => true
  | _ => false

def isTypeDecl : NodeKind → Bool
  | typeDecl _ => true
  | _ => false

/-- What a kind is called in messages. -/
def describe : NodeKind → String
  | file _ => "file"
  | importDecl _ => "import"
  | typeDecl _ => "type declaration"
  | property _ _ => "property"
  | method _ _ _ => "method"
  | function _ _ => "function"
  | program _ => "program"
  | parameter _ _ => "formal parameter"
  | block => "block"
  | expressionStatement => "expression statement"
  | localVar _ _ => "local variable declaration"
  | assignment => "assignment"
  | returnStatement => "return statement"
  | intLiteral _ => "int literal"
  | stringLiteral _ => "string literal"
  | boolLiteral _ => "boolean literal"
  | valueRef _ => "value reference"
  | typeIdentifier _ => "type identifier"
  | fieldAccess _ => "field access"
  | staticFieldAccess _ _ => "static field access"
  | call => "function call"
  | creation _ => "creation"
  | thisRef => "this"

/-- The type that is written at a node: its own or that of its result. -/
def writtenType? : NodeKind → Option TypeRef
  | property _ type | parameter _ type => some type
  | method _ result _ | function _ result => some result
  | localVar _ type => type
  | _ => none

end NodeKind

/-! ## Trees -/

/-- The number of a node. -/
abbrev NodeId := Nat

structure Node where
  kind : NodeKind
  /-- None for the root alone. -/
  parent : Option NodeId
  range : TextRange
  deriving Repr

/-- The tree of a compilation unit. -/
structure Tree where
  nodes : Array Node
  deriving Repr

namespace Tree

/-- The node of the file. -/
def root : NodeId := 0

/-- A tree of nothing but the file. -/
def ofFile (space : String) (range : TextRange) : Tree := ⟨#[⟨.file space, none, range⟩]⟩

def size (t : Tree) : Nat := t.nodes.size

/-- Whether a node has this number. -/
def has (t : Tree) (id : NodeId) : Bool := id < t.size

/-- Adds a node below one that is there; its number is the size of the tree before. -/
def add? (t : Tree) (parent : NodeId) (kind : NodeKind) (range : TextRange) : Option Tree :=
  if t.has parent then some ⟨t.nodes.push ⟨kind, some parent, range⟩⟩ else none

def kind (t : Tree) (id : NodeId) : NodeKind := (t.nodes[id]?.map (·.kind)).getD .block

def parent? (t : Tree) (id : NodeId) : Option NodeId := t.nodes[id]?.bind (·.parent)

def range (t : Tree) (id : NodeId) : TextRange := (t.nodes[id]?.map (·.range)).getD default

/-- The nodes directly below a node, in order. -/
def children (t : Tree) (id : NodeId) : List NodeId :=
  (List.range t.size).filter fun c => id < c && t.parent? c == some id

theorem has_eq_true {t : Tree} {id : NodeId} : t.has id = true ↔ id < t.size := by simp [has]

theorem lt_of_mem_children {t : Tree} {id c : NodeId} (h : c ∈ t.children id) :
    id < c ∧ c < t.size := by
  simp only [children, List.mem_filter, List.mem_range, Bool.and_eq_true, decide_eq_true_eq] at h
  exact ⟨h.2.1, h.1⟩

/-- A node and the nodes above it, up to the root. -/
def ancestors (t : Tree) (id : NodeId) : List NodeId :=
  match t.parent? id with
  | none => [id]
  | some p => if p < id then id :: ancestors t p else [id]
termination_by id

/-- The children of a node are in order of addition. -/
theorem children_pairwise (t : Tree) (id : NodeId) : (t.children id).Pairwise (· < ·) :=
  List.pairwise_lt_range.filter _

/-- The nearest node at or above a node whose kind satisfies `p`. -/
def enclosing? (t : Tree) (id : NodeId) (p : NodeKind → Bool) : Option NodeId :=
  (t.ancestors id).find? fun a => p (t.kind a)

/-- The parameters of a method, function or program, in order. -/
def parameters (t : Tree) (id : NodeId) : List NodeId :=
  (t.children id).filter fun c => (t.kind c).isParameter

/-- The parameters of a method, function or program with their written types. -/
def parameterTypes (t : Tree) (id : NodeId) : List (NodeId × TypeRef) :=
  (t.children id).filterMap fun c =>
    match t.kind c with
    | .parameter _ type => some (c, type)
    | _ => none

/-- The namespace of the file. -/
def space (t : Tree) : String :=
  match t.kind root with
  | .file space => space
  | _ => ""

/-- The name in the namespace of the file. -/
def qualify (t : Tree) (name : String) : String := QualifiedName.qualify t.space name

/-- The binary name of a type that is declared at a node. -/
def qualifiedTypeName? (t : Tree) (id : NodeId) : Option String :=
  match t.kind id with
  | .typeDecl name => some (t.qualify name)
  | _ => none

/-- The type of the file with the given qualified name. -/
def typeNamed? (t : Tree) (name : String) : Option NodeId :=
  (t.children root).find? fun c => t.qualifiedTypeName? c == some name

/-- The qualified names of the types of the file. -/
def typeNames (t : Tree) : List String := (t.children root).filterMap t.qualifiedTypeName?

theorem has_of_typeNamed? {t : Tree} {name : String} {id : NodeId}
    (h : t.typeNamed? name = some id) : t.has id = true :=
  has_eq_true.2 (lt_of_mem_children (List.mem_of_find?_eq_some h)).2

theorem mem_typeNames_of_typeNamed? {t : Tree} {name : String} {id : NodeId}
    (h : t.typeNamed? name = some id) : name ∈ t.typeNames := by
  have hmem := List.mem_of_find?_eq_some h
  have hname := List.find?_some h
  exact List.mem_filterMap.2 ⟨id, hmem, by simpa using hname⟩

/-! ## Counting the nodes not met yet -/

/-- How many nodes are not in `trail`. -/
def unmet (t : Tree) (trail : List NodeId) : Nat := fresh (List.range t.size) trail

theorem unmet_cons_lt {t : Tree} {id : NodeId} {trail : List NodeId} (here : t.has id = true)
    (notMet : id ∉ trail) : t.unmet (id :: trail) < t.unmet trail :=
  fresh_cons_lt (List.mem_range.2 (has_eq_true.1 here)) notMet

end Tree

end JvmScope
