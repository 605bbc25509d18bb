import JvmScope.ClassFile.Parser
import JvmScope.Classpath.Error
import JvmScope.Text.Affix
import JvmScope.Types.Source

/-!
# From class files to definitions

A definition keeps what can be referred to by name: fields, methods and constructors that are
neither private nor generated. Names lose their internal form; descriptors become JVM types.
Nothing is read of the members that are left out, so a malformed one does no harm.

A dotted name may be that of a nested class. `load` tries its spellings in order and takes the
first one that has a class file, whether or not that file can be read.
-/

namespace JvmScope.Loader

/-! ## Members -/

/-- Members that may be referred to. -/
def isVisible (member : ClassMember) : Bool := !member.isPrivate && !member.isGenerated

/-- The name of static initialisers, which nothing refers to. -/
def staticInitializer : String := "<clinit>"

/-- A defect in the class file of `owner`. -/
def ofFormat {α : Type} (owner : String) (result : Except FormatError α) :
    Except ClasspathError α :=
  result.mapError (.classFile owner)

def field (member : ClassMember) : Except ClasspathError Field := do
  let type ← (JvmType.ofDescriptor member.descriptor).mapError .type
  pure { name := member.name, type, isStatic := member.isStatic, isFinal := member.isFinal }

def typeParameters (owner : String) : Option String → Except ClasspathError (List TypeParameter)
  | none => pure []
  | some signature => ofFormat owner (Signature.typeParameters signature)

/-- A constructor or a method, told apart by their name. -/
def callable (owner : String) (member : ClassMember) :
    Except ClasspathError (Constructor ⊕ Method) := do
  let d ← ofFormat owner (Descriptor.parseMethod member.descriptor)
  if member.name = ConstructorTarget.name then pure (.inl ⟨d.params⟩)
  else
    let typeParameters ← typeParameters owner member.signature
    pure (.inr { name := member.name, params := d.params, result := d.result,
                 isStatic := member.isStatic, typeParameters })

/-- The definition that a class file holds. -/
def definition (c : ClassFile) (origin : Origin) : Except ClasspathError TypeDefinition := do
  let qualifiedName := QualifiedName.ofInternal c.thisClass
  let typeParameters ← typeParameters qualifiedName c.signature
  let fields ← (c.fields.filter isVisible).mapM field
  let callables ← (c.methods.filter fun m => isVisible m && m.name != staticInitializer).mapM
    (callable qualifiedName)
  pure {
    qualifiedName
    kind := if c.isInterface then .interfaceType else .classType
    origin
    superClass := c.superClass.map QualifiedName.ofInternal
    interfaces := c.interfaces.map QualifiedName.ofInternal
    typeParameters
    fields
    methods := callables.filterMap fun | .inr m => some m | .inl _ => none
    constructors := callables.filterMap fun | .inl c => some c | .inr _ => none }

/-! ## Classes by name -/

/-- Class files that describe modules and packages, or that archives keep for themselves. -/
def isIgnored (internalName : String) : Bool :=
  internalName == "module-info" || internalName == "package-info" ||
    (Text.dropTail? "/package-info" internalName).isSome ||
    (Text.dropStart? "META-INF/" internalName).isSome

/-- Loads the first of several spellings that has a class file. -/
def loadFirst (read : String → Except ClasspathError (Option (List UInt8))) (origin : Origin) :
    (spellings : List String) → Except ClasspathError (Option TypeDefinition)
  | [] => pure none
  | name :: rest => do
    let internal := QualifiedName.toInternal name
    if isIgnored internal then loadFirst read origin rest
    else
      match ← read internal with
      | none => loadFirst read origin rest
      | some bytes => do
        let c ← ofFormat name (ClassFile.parse bytes)
        let d ← definition c origin
        pure (some d)

/-- Loads the class that a dotted name stands for. `read` gives the class file with an internal
name, if there is one. -/
def load (read : String → Except ClasspathError (Option (List UInt8))) (origin : Origin)
    (name : String) : Except ClasspathError (Option TypeDefinition) :=
  loadFirst read origin (QualifiedName.nestedSpellings name)

end JvmScope.Loader
