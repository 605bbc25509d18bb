import JvmScope.ClassFile.Basic
import JvmScope.ClassFile.ByteReader
import JvmScope.ClassFile.Layout
import JvmScope.ClassFile.ModifiedUtf8

/-!
# Reading class files

`ClassFile.parse` reads the bytes of one class file from the first to the last: header,
constant pool, hierarchy, members, attributes. A class file ends where its last attribute does;
a byte more is an error, as is a byte less.

References into the constant pool are looked up as they are read, so of two faults the one that
stands first in the file is reported.
-/

namespace JvmScope.ClassFile

/-! ## The constant pool -/

/-- The constants by index. Index 0 and the second index of a wide constant hold nothing. -/
abbrev ConstantPool := List (Option Constant)

namespace ConstantPool

/-- Reads one constant. -/
def readConstant : ByteReader Constant := do
  let tag ← ByteReader.byte
  match tag.toNat with
  | 1 => do
    let length ← ByteReader.word
    let bytes ← ByteReader.take length.toNat
    match ModifiedUtf8.decode? bytes with
    | some value => pure (.utf8 value)
    | none => throw .invalidModifiedUtf8
  | 3 => return .integer (← ByteReader.doubleWord)
  | 4 => return .float (← ByteReader.doubleWord)
  | 5 => return .long (← ByteReader.doubleWord) (← ByteReader.doubleWord)
  | 6 => return .double (← ByteReader.doubleWord) (← ByteReader.doubleWord)
  | 7 => return .classRef (← ByteReader.word)
  | 8 => return .string (← ByteReader.word)
  | 9 => return .fieldRef (← ByteReader.word) (← ByteReader.word)
  | 10 => return .methodRef (← ByteReader.word) (← ByteReader.word)
  | 11 => return .interfaceMethodRef (← ByteReader.word) (← ByteReader.word)
  | 12 => return .nameAndType (← ByteReader.word) (← ByteReader.word)
  | 15 => return .methodHandle (← ByteReader.byte) (← ByteReader.word)
  | 16 => return .methodType (← ByteReader.word)
  | 17 => return .dynamic (← ByteReader.word) (← ByteReader.word)
  | 18 => return .invokeDynamic (← ByteReader.word) (← ByteReader.word)
  | 19 => return .moduleRef (← ByteReader.word)
  | 20 => return .packageRef (← ByteReader.word)
  | other => throw (.invalidConstantTag other)

/-- Reads constants until `n` indices are taken. A wide constant at the last index still takes
two. -/
def readSlots (n : Nat) : ByteReader ConstantPool :=
  match n with
  | 0 => pure []
  | n + 1 => do
    let c ← readConstant
    if c.isWide then
      let rest ← readSlots (n - 1)
      pure (some c :: none :: rest)
    else
      let rest ← readSlots n
      pure (some c :: rest)
termination_by n

/-- Reads the pool: its count is one more than its last index. -/
def read : ByteReader ConstantPool := do
  let count ← ByteReader.word
  let slots ← readSlots (count.toNat - 1)
  pure (none :: slots)

/-- The constant at an index. -/
def get (pool : ConstantPool) (index : UInt16) : Except FormatError Constant :=
  match pool[index.toNat]? with
  | some (some c) => .ok c
  | _ => .error (.invalidConstantIndex index.toNat)

/-- The text of the string constant at an index. -/
def getText (pool : ConstantPool) (index : UInt16) : Except FormatError String := do
  match ← pool.get index with
  | .utf8 value => pure value
  | other => throw (.constantMismatch index.toNat "Utf8" other.kind)

/-- The internal name of the class constant at an index. -/
def getClassName (pool : ConstantPool) (index : UInt16) : Except FormatError String := do
  match ← pool.get index with
  | .classRef name => pool.getText name
  | other => throw (.constantMismatch index.toNat "Class" other.kind)

/-- Reads an index and gives the text it refers to. -/
def readText (pool : ConstantPool) : ByteReader String := do
  let index ← ByteReader.word
  pool.getText index

/-- Reads an index and gives the class name it refers to. -/
def readClassName (pool : ConstantPool) : ByteReader String := do
  let index ← ByteReader.word
  pool.getClassName index

end ConstantPool

/-! ## Attributes and members -/

/-- Reads an attribute: the generic signature it holds, if it is named for one. -/
def readAttribute (pool : ConstantPool) : ByteReader (Option String) := do
  let name ← pool.readText
  let length ← ByteReader.doubleWord
  let body ← ByteReader.take length.toNat
  if name = "Signature" then
    let signature ← ByteReader.runAll pool.readText body
    pure (some signature)
  else pure none

/-- Reads a table of attributes: the last generic signature in it. -/
def readAttributes (pool : ConstantPool) : ByteReader (Option String) := do
  let found ← ByteReader.table (readAttribute pool)
  pure (found.filterMap id).getLast?

/-- Reads a field or method. -/
def readMember (pool : ConstantPool) : ByteReader ClassMember := do
  let flags ← ByteReader.word
  let name ← pool.readText
  let descriptor ← pool.readText
  let signature ← readAttributes pool
  pure { flags, name, descriptor, signature }

/-- Reads the index of the superclass; 0 stands for none. -/
def readSuperClass (pool : ConstantPool) : ByteReader (Option String) := do
  let index ← ByteReader.word
  if index = 0 then pure none
  else
    let name ← pool.getClassName index
    pure (some name)

/-- Reads a class file. -/
def read : ByteReader ClassFile := do
  let found ← ByteReader.doubleWord
  if found ≠ magic then throw (.invalidMagic found.toNat)
  let minorVersion ← ByteReader.word
  let majorVersion ← ByteReader.word
  let pool ← ConstantPool.read
  let flags ← ByteReader.word
  let thisClass ← pool.readClassName
  let superClass ← readSuperClass pool
  let interfaces ← ByteReader.table pool.readClassName
  let fields ← ByteReader.table (readMember pool)
  let methods ← ByteReader.table (readMember pool)
  let signature ← readAttributes pool
  pure { minorVersion, majorVersion, flags, thisClass, superClass, interfaces, fields, methods,
         signature }

/-- The class file that exactly these bytes hold. -/
def parse (bytes : List UInt8) : Except FormatError ClassFile := ByteReader.runAll read bytes

end JvmScope.ClassFile
