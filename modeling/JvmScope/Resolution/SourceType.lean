import JvmScope.Resolution.WrittenType

/-!
# Types of the file

The definition of a type declared in the file: its properties are fields, its methods are
methods, and one constructor takes a value for every property. A member with a mistake in its
written type is left out, and with a property the constructor goes too.

Written types may rest on imports of static members, hence on members of other types of the
file. `fileSource` therefore keeps a trail of the declarations whose definitions are being
established and refuses to start with one of them again; as a file has finitely many
declarations, it always answers. The rules themselves know no trail: where one of these
declarations comes up again, following them would never end, and that is what
`TypeError.circular` stands for. A `Resolver` is what questions about a program are asked: the
tree and the classpath, with no trail.
-/

namespace JvmScope

/-! ## Members -/

/-- What a child of a type declaration contributes. -/
inductive SourceMember
  | field (field : Field)
  | method (method : Method)
  /-- A property that was left out. -/
  | lostProperty
  /-- A method that was left out, or no member at all. -/
  | nothing
  deriving DecidableEq, Repr

namespace SourceMember

def field? : SourceMember → Option Field
  | field f => some f
  | _ => none

def method? : SourceMember → Option Method
  | method m => some m
  | _ => none

end SourceMember

namespace TypeScope

/-- The types of parameters in order; none from the first on that was left out. -/
def parameterTypes (s : TypeScope) : List (NodeId × TypeRef) →
    Except ResolveError (Option (List JvmType))
  | [] => pure (some [])
  | (id, type) :: rest => do
    match ← s.memberType id type with
    | none => pure none
    | some t => do
      let more ← s.parameterTypes rest
      pure (more.map (t :: ·))

/-- The contribution of a child of a type declaration. -/
def sourceMember (s : TypeScope) (id : NodeId) : Except ResolveError SourceMember :=
  match s.tree.kind id with
  | .property name type => do
    match ← s.memberType id type with
    | some t => pure (.field ⟨name, t, false, false⟩)
    | none => pure .lostProperty
  | .method name result isStatic => do
    let params ← s.parameterTypes (s.tree.parameterTypes id)
    let result ← s.memberType id result
    match params, result with
    | some params, some result => pure (.method ⟨name, params, result, isStatic, []⟩)
    | _, _ => pure .nothing
  | _ => pure .nothing

/-- The definition that a type declaration's members make. -/
def assemble (name : String) (members : List SourceMember) : TypeDefinition :=
  let fields := members.filterMap SourceMember.field?
  { TypeDefinition.empty name .classType with
    origin := .source
    superClass := some QualifiedName.object
    fields := fields
    methods := members.filterMap SourceMember.method?
    constructors := if .lostProperty ∈ members then [] else [⟨fields.map (·.type)⟩] }

/-- The definition of the type declared at a node. -/
def definitionAt (s : TypeScope) (id : NodeId) : Except ResolveError TypeDefinition := do
  s.tree.requireNode id
  match s.tree.qualifiedTypeName? id with
  | none => throw (.unsupported .typeDefinition (s.tree.kind id).describe)
  | some name => do
    let members ← (s.tree.children id).mapM s.sourceMember
    pure (assemble name members)

end TypeScope

/-! ## The file as a source -/

/-- The names of the file and of the classpath. -/
def FileKnown (tree : Tree) (classpath : TypeSource (Except TypeError)) (name : String) : Prop :=
  name ∈ tree.typeNames ∨ classpath.Known name

theorem finite_fileKnown (tree : Tree) (classpath : TypeSource (Except TypeError)) :
    ∃ names : List String, ∀ name, FileKnown tree classpath name → name ∈ names := by
  obtain ⟨names, h⟩ := classpath.finite
  refine ⟨tree.typeNames ++ names, fun name known => ?_⟩
  rcases known with known | known
  · exact List.mem_append_left _ known
  · exact List.mem_append_right _ (h name known)

/-- The definition of a type of the file, or else of the classpath, while the definitions of the
declarations in `trail` are being established. -/
def findInFile (tree : Tree) (classpath : TypeSource (Except TypeError)) (trail : List NodeId)
    (name : String) :
    Except TypeError (Option { _d : TypeDefinition // FileKnown tree classpath name }) :=
  match found : tree.typeNamed? name with
  | none => do
    let d ← classpath.find name
    pure (d.map fun ⟨d, h⟩ => ⟨d, Or.inr h⟩)
  | some id =>
    if _met : id ∈ trail then throw .circular
    else do
      let scope : TypeScope := ⟨tree, classpath, ⟨_, finite_fileKnown tree classpath,
        fun other => findInFile tree classpath (id :: trail) other⟩⟩
      let d ← (scope.definitionAt id).mapError (ResolveError.toTypeError name)
      pure (some ⟨d, Or.inl (Tree.mem_typeNames_of_typeNamed? found)⟩)
termination_by tree.unmet trail
decreasing_by exact Tree.unmet_cons_lt (Tree.has_of_typeNamed? found) _met

/-- The types of the file before those of the classpath. -/
def fileSource (tree : Tree) (classpath : TypeSource (Except TypeError)) (trail : List NodeId) :
    TypeSource (Except TypeError) :=
  ⟨FileKnown tree classpath, finite_fileKnown tree classpath, findInFile tree classpath trail⟩

/-! ## Resolvers -/

/-- A program and the classpath it is compiled against. -/
structure Resolver where
  tree : Tree
  classpath : TypeSource (Except TypeError)

namespace Resolver

/-- The type names in scope while some declarations are being established. -/
def scopeWithin (r : Resolver) (trail : List NodeId) : TypeScope :=
  ⟨r.tree, r.classpath, fileSource r.tree r.classpath trail⟩

/-- The type names in scope. -/
def scope (r : Resolver) : TypeScope := r.scopeWithin []

/-- The types of the file before those of the classpath. -/
def source (r : Resolver) : TypeSource (Except TypeError) := r.scope.all

/-- The definition of the type declared at a node. -/
def sourceDefinition (r : Resolver) (id : NodeId) : Except ResolveError TypeDefinition :=
  (r.scopeWithin [id]).definitionAt id

/-- The definition behind a type name; none for primitives and unsigned types, which have no
members. -/
def definitionOf (r : Resolver) : TypeTarget → Except ResolveError (Option TypeDefinition)
  | .primitive _ | .basic _ => pure none
  | .source declaration => some <$> r.sourceDefinition declaration
  | .external d => pure (some d)

/-- The usage that a type name stands for. -/
def usageOf (r : Resolver) : TypeTarget → Except ResolveError TypeUsage
  | .primitive kind => pure (.primitive kind)
  | .basic type => pure (.basic type)
  | .source declaration => .ofDefinition <$> r.sourceDefinition declaration
  | .external d => pure (.ofDefinition d)

/-- The usage that the type name `name` stands for at a node. -/
def namedUsage (r : Resolver) (name : String) (context : NodeId) :
    Except ResolveError TypeUsage := do
  let target ← r.scope.lookupType name context
  r.usageOf target

mutual

/-- The usage that a type written at a node stands for. -/
def resolveTypeRef (r : Resolver) (context : NodeId) : TypeRef → Except ResolveError TypeUsage
  | .named name => r.namedUsage name context
  | .array element => do
    let e ← r.resolveTypeRef context element
    pure (.array e)
  | .function params result => do
    let ps ← r.resolveTypeRefs context params
    let t ← r.resolveTypeRef context result
    pure (.function ps t)

/-- The usages that several types written at a node stand for. -/
def resolveTypeRefs (r : Resolver) (context : NodeId) :
    List TypeRef → Except ResolveError (List TypeUsage)
  | [] => pure []
  | type :: rest => do
    let t ← r.resolveTypeRef context type
    let ts ← r.resolveTypeRefs context rest
    pure (t :: ts)

end

end Resolver

end JvmScope
