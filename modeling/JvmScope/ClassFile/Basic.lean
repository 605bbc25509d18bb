/-!
# Class files

The part of a class file that types are made of: versions, access flags, names of the class and
its supertypes, members with their descriptors, and generic signatures. Code, annotations and
the other attributes carry no types and are left out.
-/

namespace JvmScope

/-- A field or a method of a class file. -/
structure ClassMember where
  flags : UInt16
  name : String
  descriptor : String
  signature : Option String
  deriving DecidableEq, Repr

/-- A class file. All class names are internal ones. -/
structure ClassFile where
  minorVersion : UInt16
  majorVersion : UInt16
  flags : UInt16
  thisClass : String
  superClass : Option String
  interfaces : List String
  fields : List ClassMember
  methods : List ClassMember
  signature : Option String
  deriving DecidableEq, Repr

/-! ## Access flags -/

namespace Access

def isPublic : UInt16 := 0x0001
def isPrivate : UInt16 := 0x0002
def isStatic : UInt16 := 0x0008
def isFinal : UInt16 := 0x0010
/-- On a class: method calls use the modern meaning of `invokespecial`. -/
def isSuper : UInt16 := 0x0020
/-- On a method: generated to keep an overridden signature reachable. -/
def isBridge : UInt16 := 0x0040
def isInterface : UInt16 := 0x0200
def isAbstract : UInt16 := 0x0400
/-- Not present in source. -/
def isSynthetic : UInt16 := 0x1000

/-- Whether any bit of `mask` is set. -/
def has (flags mask : UInt16) : Bool := flags &&& mask != 0

end Access

namespace ClassMember

def isStatic (m : ClassMember) : Bool := Access.has m.flags Access.isStatic

def isFinal (m : ClassMember) : Bool := Access.has m.flags Access.isFinal

def isPrivate (m : ClassMember) : Bool := Access.has m.flags Access.isPrivate

/-- Generated by a compiler: synthetic accessors and bridge methods. -/
def isGenerated (m : ClassMember) : Bool :=
  Access.has m.flags (Access.isSynthetic ||| Access.isBridge)

end ClassMember

namespace ClassFile

def isInterface (c : ClassFile) : Bool := Access.has c.flags Access.isInterface

end ClassFile

end JvmScope
