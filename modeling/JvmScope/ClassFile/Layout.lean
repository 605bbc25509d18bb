/-!
# The layout of class files

The byte-level items of a class file and how they are written: constants, members and
attributes that refer to the constant pool by index, big-endian numbers, and counted tables.
`Layout.encode` is the whole file. How the characters of a string constant become bytes is a
parameter, since files in modified UTF-8 and files in plain UTF-8 differ in nothing else.
-/

namespace JvmScope.ClassFile

/-! ## Numbers -/

/-- Two bytes, the high one first. -/
def bytes2 (v : UInt16) : List UInt8 := [(v.toNat / 0x100).toUInt8, v.toNat.toUInt8]

/-- Four bytes, the high one first. -/
def bytes4 (v : UInt32) : List UInt8 :=
  [(v.toNat / 0x1000000).toUInt8, (v.toNat / 0x10000).toUInt8, (v.toNat / 0x100).toUInt8,
    v.toNat.toUInt8]

/-- A count as it is stored: two bytes, what exceeds them lost. -/
def count2 (n : Nat) : List UInt8 := bytes2 n.toUInt16

/-- The number the first four bytes of a class file spell. -/
def magic : UInt32 := 0xCAFEBABE

/-! ## Items -/

/-- A constant. References to other constants are indices into the pool. -/
inductive Constant
  | utf8 (value : String)
  | integer (bits : UInt32)
  | float (bits : UInt32)
  | long (high low : UInt32)
  | double (high low : UInt32)
  | classRef (name : UInt16)
  | string (value : UInt16)
  | fieldRef (owner nameAndType : UInt16)
  | methodRef (owner nameAndType : UInt16)
  | interfaceMethodRef (owner nameAndType : UInt16)
  | nameAndType (name descriptor : UInt16)
  | methodHandle (kind : UInt8) (reference : UInt16)
  | methodType (descriptor : UInt16)
  | dynamic (bootstrap nameAndType : UInt16)
  | invokeDynamic (bootstrap nameAndType : UInt16)
  | moduleRef (name : UInt16)
  | packageRef (name : UInt16)
  deriving DecidableEq, Repr

namespace Constant

/-- The name of a constant's kind. -/
def kind : Constant → String
  | utf8 _ => "Utf8"
  | integer _ => "Integer"
  | float _ => "Float"
  | long _ _ => "Long"
  | double _ _ => "Double"
  | classRef _ => "Class"
  | string _ => "String"
  | fieldRef _ _ => "Fieldref"
  | methodRef _ _ => "Methodref"
  | interfaceMethodRef _ _ => "InterfaceMethodref"
  | nameAndType _ _ => "NameAndType"
  | methodHandle _ _ => "MethodHandle"
  | methodType _ => "MethodType"
  | dynamic _ _ => "Dynamic"
  | invokeDynamic _ _ => "InvokeDynamic"
  | moduleRef _ => "Module"
  | packageRef _ => "Package"

/-- Eight-byte constants take two indices of the pool. -/
def isWide : Constant → Bool
  | long _ _ | double _ _ => true
  | _ => false

/-- The bytes of a constant, its tag first. -/
def encode (ofText : String → List UInt8) : Constant → List UInt8
  | utf8 value => 1 :: (count2 (ofText value).length ++ ofText value)
  | integer bits => 3 :: bytes4 bits
  | float bits => 4 :: bytes4 bits
  | long high low => 5 :: (bytes4 high ++ bytes4 low)
  | double high low => 6 :: (bytes4 high ++ bytes4 low)
  | classRef name => 7 :: bytes2 name
  | string value => 8 :: bytes2 value
  | fieldRef owner nt => 9 :: (bytes2 owner ++ bytes2 nt)
  | methodRef owner nt => 10 :: (bytes2 owner ++ bytes2 nt)
  | interfaceMethodRef owner nt => 11 :: (bytes2 owner ++ bytes2 nt)
  | nameAndType name descriptor => 12 :: (bytes2 name ++ bytes2 descriptor)
  | methodHandle kind reference => 15 :: kind :: bytes2 reference
  | methodType descriptor => 16 :: bytes2 descriptor
  | dynamic bootstrap nt => 17 :: (bytes2 bootstrap ++ bytes2 nt)
  | invokeDynamic bootstrap nt => 18 :: (bytes2 bootstrap ++ bytes2 nt)
  | moduleRef name => 19 :: bytes2 name
  | packageRef name => 20 :: bytes2 name

/-- The indices that constants occupy, index 0 left out: a wide one is followed by an index
without a constant. -/
def slots : List Constant → List (Option Constant)
  | [] => []
  | c :: rest => if c.isWide then some c :: none :: slots rest else some c :: slots rest

end Constant

/-- An attribute: the index of its name and its uninterpreted body. -/
structure RawAttribute where
  name : UInt16
  body : List UInt8
  deriving DecidableEq, Repr

/-- A field or method: name and descriptor are indices. -/
structure RawMember where
  flags : UInt16
  name : UInt16
  descriptor : UInt16
  attributes : List RawAttribute
  deriving DecidableEq, Repr

/-- A class file as it is laid out in bytes. -/
structure Layout where
  minorVersion : UInt16
  majorVersion : UInt16
  constants : List Constant
  flags : UInt16
  thisClass : UInt16
  /-- 0 for a class without a superclass. -/
  superClass : UInt16
  interfaces : List UInt16
  fields : List RawMember
  methods : List RawMember
  attributes : List RawAttribute
  deriving DecidableEq, Repr

/-! ## Writing -/

/-- A counted table. -/
def encodeTable {α : Type} (item : α → List UInt8) (items : List α) : List UInt8 :=
  count2 items.length ++ items.flatMap item

def RawAttribute.encode (a : RawAttribute) : List UInt8 :=
  bytes2 a.name ++ bytes4 a.body.length.toUInt32 ++ a.body

def RawMember.encode (m : RawMember) : List UInt8 :=
  bytes2 m.flags ++ bytes2 m.name ++ bytes2 m.descriptor ++
    encodeTable RawAttribute.encode m.attributes

/-- The bytes of a class file. The count of the constant pool is one more than its last index. -/
def Layout.encode (ofText : String → List UInt8) (f : Layout) : List UInt8 :=
  bytes4 magic ++ bytes2 f.minorVersion ++ bytes2 f.majorVersion ++
    count2 ((Constant.slots f.constants).length + 1) ++
    f.constants.flatMap (Constant.encode ofText) ++
    bytes2 f.flags ++ bytes2 f.thisClass ++ bytes2 f.superClass ++
    encodeTable bytes2 f.interfaces ++
    encodeTable RawMember.encode f.fields ++
    encodeTable RawMember.encode f.methods ++
    encodeTable RawAttribute.encode f.attributes

end JvmScope.ClassFile
