import JvmScope.ClassFile.Basic
import JvmScope.ClassFile.Layout

/-!
# Assembling class files

The way back from a `ClassFile` to bytes. Strings and class names go to the constant pool in
the order of their first use, each once: the class, its superclass and interfaces, then name,
descriptor and generic signature of every field and method, and the class's own signature last.
-/

namespace JvmScope.ClassFile

/-- A step that may add constants to the pool. -/
abbrev Pooling := StateM (List Constant)

namespace Pooling

/-- The index of a constant, which is added unless it is there. -/
def intern (c : Constant) : Pooling UInt16 := fun pool =>
  match pool.findIdx? (· == c) with
  | some i => ((i + 1).toUInt16, pool)
  | none => ((pool.length + 1).toUInt16, pool ++ [c])

def text (value : String) : Pooling UInt16 := intern (.utf8 value)

def className (internalName : String) : Pooling UInt16 := do
  let name ← text internalName
  intern (.classRef name)

/-- The attribute that holds a generic signature. -/
def signature : Option String → Pooling (List RawAttribute)
  | none => pure []
  | some s => do
    let name ← text "Signature"
    let index ← text s
    pure [{ name, body := bytes2 index }]

def member (m : ClassMember) : Pooling RawMember := do
  let name ← text m.name
  let descriptor ← text m.descriptor
  let attributes ← signature m.signature
  pure { flags := m.flags, name, descriptor, attributes }

/-- The index of the superclass; 0 stands for none. -/
def superClass : Option String → Pooling UInt16
  | none => pure 0
  | some name => className name

/-- Everything but the pool itself. -/
def layout (c : ClassFile) : Pooling (List Constant → Layout) := do
  let thisClass ← className c.thisClass
  let superClass ← superClass c.superClass
  let interfaces ← c.interfaces.mapM className
  let fields ← c.fields.mapM member
  let methods ← c.methods.mapM member
  let attributes ← signature c.signature
  pure fun constants =>
    { minorVersion := c.minorVersion, majorVersion := c.majorVersion, constants,
      flags := c.flags, thisClass, superClass, interfaces, fields, methods, attributes }

end Pooling

/-- The layout of a class file, constant pool included. -/
def toLayout (c : ClassFile) : Layout :=
  let (layout, constants) := (Pooling.layout c).run []
  layout constants

/-- The bytes of a class file, with its strings in plain UTF-8. -/
def assemble (c : ClassFile) : List UInt8 :=
  c.toLayout.encode fun text => text.toUTF8.toList

/-! ## Describing classes -/

/-- The version of class files that are assembled from a description. -/
def assembledVersion : UInt16 := 52

/-- A class of the given internal name with no members. -/
def ofName (internalName : String) (isInterface : Bool) (superClass : Option String) :
    ClassFile where
  minorVersion := 0
  majorVersion := assembledVersion
  flags :=
    if isInterface then Access.isPublic ||| Access.isInterface ||| Access.isAbstract
    else Access.isPublic ||| Access.isSuper
  thisClass := internalName
  superClass := superClass
  interfaces := []
  fields := []
  methods := []
  signature := none

/-- One thing that is said of a class. What is said of its kind, its superclass or its generic
signature replaces what was said before; interfaces and members add up. -/
inductive Detail
  | asInterface
  | superClass (name : Option String)
  | implements (name : String)
  | signature (text : String)
  | field (name descriptor : String) (flags : UInt16)
  | method (name descriptor : String) (signature : Option String) (flags : UInt16)
  deriving DecidableEq, Repr

/-- The class with one more thing said of it. -/
def withDetail (c : ClassFile) : Detail → ClassFile
  | .asInterface =>
    { c with flags := Access.isPublic ||| Access.isInterface ||| Access.isAbstract }
  | .superClass name => { c with superClass := name }
  | .implements name => { c with interfaces := c.interfaces ++ [name] }
  | .signature text => { c with signature := some text }
  | .field name descriptor flags =>
    { c with fields := c.fields ++ [⟨flags, name, descriptor, none⟩] }
  | .method name descriptor signature flags =>
    { c with methods := c.methods ++ [⟨flags, name, descriptor, signature⟩] }

/-- The class of the given internal name of which these things are said, in this order. -/
def ofDetails (internalName : String) (details : List Detail) : ClassFile :=
  details.foldl withDetail (ofName internalName false (some "java/lang/Object"))

end JvmScope.ClassFile
