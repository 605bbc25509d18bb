import JvmScope.Types.Source

/-!
# The core catalog

A small set of platform types, enough to check programs that use strings, boxes, streams and
lists where no JDK is installed. It is closed: every supertype and every class that a member
mentions is in it.

`PrintStream` has no `print` and `println` for objects: a string argument would suit them as
well as the variants for strings, and calls with several applicable methods are ambiguous.
-/

namespace JvmScope.Catalog

/-! ## Shorthand -/

def boolean : JvmType := .primitive .boolean
def char : JvmType := .primitive .char
def int : JvmType := .primitive .int
def long : JvmType := .primitive .long
def float : JvmType := .primitive .float
def double : JvmType := .primitive .double
def void : JvmType := .primitive .void
def anyObject : JvmType := .object "java/lang/Object"
def text : JvmType := .object "java/lang/String"
def builder : JvmType := .object "java/lang/StringBuilder"
def boxedInt : JvmType := .object "java/lang/Integer"
def boxedLong : JvmType := .object "java/lang/Long"
def boxedBoolean : JvmType := .object "java/lang/Boolean"
def printStream : JvmType := .object "java/io/PrintStream"
def outputStream : JvmType := .object "java/io/OutputStream"

/-- A method called on a value. -/
def onValue (name : String) (params : List JvmType) (result : JvmType) : Method :=
  ⟨name, params, result, false, []⟩

/-- A method called on the type. -/
def onType (name : String) (params : List JvmType) (result : JvmType) : Method :=
  ⟨name, params, result, true, []⟩

/-- A field of the type that is never written. -/
def constant (name : String) (type : JvmType) : Field := ⟨name, type, true, true⟩

/-- A type parameter that any class is good for. -/
def unbounded (name : String) : TypeParameter := ⟨name, [anyObject]⟩

/-- A platform class directly below the root. -/
def platformClass (name : String) : TypeDefinition :=
  { TypeDefinition.empty name .classType with
    origin := .jdk
    superClass := some QualifiedName.object }

/-- A platform interface. -/
def platformInterface (name : String) : TypeDefinition :=
  { TypeDefinition.empty name .interfaceType with
    origin := .jdk
    superClass := some QualifiedName.object }

/-! ## Types -/

def objectType : TypeDefinition :=
  { platformClass "java.lang.Object" with
    superClass := none
    methods := [
      onValue "toString" [] text, onValue "hashCode" [] int,
      onValue "equals" [anyObject] boolean]
    constructors := [⟨[]⟩] }

def serializableType : TypeDefinition :=
  platformInterface "java.io.Serializable"

def comparableType : TypeDefinition :=
  { platformInterface "java.lang.Comparable" with
    typeParameters := [unbounded "T"]
    methods := [
      onValue "compareTo" [anyObject] int] }

def charSequenceType : TypeDefinition :=
  { platformInterface "java.lang.CharSequence" with
    methods := [
      onValue "length" [] int, onValue "charAt" [int] char, onValue "toString" [] text] }

def runnableType : TypeDefinition :=
  { platformInterface "java.lang.Runnable" with
    methods := [
      onValue "run" [] void] }

def iterableType : TypeDefinition :=
  { platformInterface "java.lang.Iterable" with
    typeParameters := [unbounded "T"] }

def stringType : TypeDefinition :=
  { platformClass "java.lang.String" with
    interfaces := ["java.io.Serializable", "java.lang.Comparable", "java.lang.CharSequence"]
    methods := [
      onValue "length" [] int, onValue "charAt" [int] char, onValue "isEmpty" [] boolean,
      onValue "substring" [int] text, onValue "substring" [int, int] text,
      onValue "concat" [text] text, onValue "toUpperCase" [] text,
      onValue "toLowerCase" [] text, onValue "trim" [] text, onValue "compareTo" [text] int,
      onValue "toString" [] text, onType "valueOf" [int] text, onType "valueOf" [long] text,
      onType "valueOf" [boolean] text, onType "valueOf" [char] text,
      onType "valueOf" [double] text]
    constructors := [⟨[]⟩, ⟨[text]⟩] }

def stringBuilderType : TypeDefinition :=
  { platformClass "java.lang.StringBuilder" with
    interfaces := ["java.io.Serializable", "java.lang.CharSequence"]
    methods := [
      onValue "append" [text] builder, onValue "append" [int] builder,
      onValue "append" [long] builder, onValue "append" [boolean] builder,
      onValue "append" [char] builder, onValue "append" [double] builder,
      onValue "length" [] int, onValue "charAt" [int] char, onValue "toString" [] text]
    constructors := [⟨[]⟩, ⟨[text]⟩] }

def numberType : TypeDefinition :=
  { platformClass "java.lang.Number" with
    interfaces := ["java.io.Serializable"]
    methods := [
      onValue "intValue" [] int, onValue "longValue" [] long, onValue "doubleValue" [] double]
    constructors := [⟨[]⟩] }

def integerType : TypeDefinition :=
  { platformClass "java.lang.Integer" with
    superClass := some "java.lang.Number"
    interfaces := ["java.lang.Comparable"]
    fields := [
      constant "MAX_VALUE" int, constant "MIN_VALUE" int]
    methods := [
      onType "valueOf" [int] boxedInt, onType "parseInt" [text] int,
      onType "toString" [int] text, onValue "toString" [] text]
    constructors := [⟨[int]⟩] }

def longType : TypeDefinition :=
  { platformClass "java.lang.Long" with
    superClass := some "java.lang.Number"
    interfaces := ["java.lang.Comparable"]
    fields := [
      constant "MAX_VALUE" long, constant "MIN_VALUE" long]
    methods := [
      onType "valueOf" [long] boxedLong, onType "parseLong" [text] long,
      onType "toString" [long] text, onValue "toString" [] text]
    constructors := [⟨[long]⟩] }

def booleanType : TypeDefinition :=
  { platformClass "java.lang.Boolean" with
    interfaces := ["java.io.Serializable", "java.lang.Comparable"]
    fields := [
      constant "TRUE" boxedBoolean, constant "FALSE" boxedBoolean]
    methods := [
      onValue "booleanValue" [] boolean, onType "valueOf" [boolean] boxedBoolean,
      onType "parseBoolean" [text] boolean]
    constructors := [⟨[boolean]⟩] }

def mathType : TypeDefinition :=
  { platformClass "java.lang.Math" with
    fields := [
      constant "PI" double, constant "E" double]
    methods := [
      onType "max" [int, int] int, onType "max" [long, long] long,
      onType "max" [double, double] double, onType "min" [int, int] int,
      onType "min" [long, long] long, onType "min" [double, double] double,
      onType "abs" [int] int, onType "abs" [long] long, onType "abs" [double] double,
      onType "sqrt" [double] double] }

def systemType : TypeDefinition :=
  { platformClass "java.lang.System" with
    fields := [
      constant "out" printStream, constant "err" printStream]
    methods := [
      onType "currentTimeMillis" [] long, onType "nanoTime" [] long, onType "exit" [int] void,
      onType "lineSeparator" [] text] }

def throwableType : TypeDefinition :=
  { platformClass "java.lang.Throwable" with
    interfaces := ["java.io.Serializable"]
    methods := [
      onValue "getMessage" [] text]
    constructors := [⟨[]⟩, ⟨[text]⟩] }

def exceptionType : TypeDefinition :=
  { platformClass "java.lang.Exception" with
    superClass := some "java.lang.Throwable"
    constructors := [⟨[]⟩, ⟨[text]⟩] }

def runtimeExceptionType : TypeDefinition :=
  { platformClass "java.lang.RuntimeException" with
    superClass := some "java.lang.Exception"
    constructors := [⟨[]⟩, ⟨[text]⟩] }

def outputStreamType : TypeDefinition :=
  { platformClass "java.io.OutputStream" with
    methods := [
      onValue "write" [int] void, onValue "flush" [] void, onValue "close" [] void]
    constructors := [⟨[]⟩] }

def filterOutputStreamType : TypeDefinition :=
  { platformClass "java.io.FilterOutputStream" with
    superClass := some "java.io.OutputStream"
    constructors := [⟨[outputStream]⟩] }

def printStreamType : TypeDefinition :=
  { platformClass "java.io.PrintStream" with
    superClass := some "java.io.FilterOutputStream"
    methods := [
      onValue "println" [] void, onValue "println" [text] void, onValue "println" [int] void,
      onValue "println" [long] void, onValue "println" [boolean] void,
      onValue "println" [char] void, onValue "println" [float] void,
      onValue "println" [double] void, onValue "print" [text] void, onValue "print" [int] void,
      onValue "print" [long] void, onValue "print" [boolean] void, onValue "print" [char] void,
      onValue "print" [float] void, onValue "print" [double] void]
    constructors := [⟨[outputStream]⟩] }

def collectionType : TypeDefinition :=
  { platformInterface "java.util.Collection" with
    interfaces := ["java.lang.Iterable"]
    typeParameters := [unbounded "E"]
    methods := [
      onValue "size" [] int, onValue "isEmpty" [] boolean, onValue "add" [anyObject] boolean,
      onValue "contains" [anyObject] boolean] }

def listType : TypeDefinition :=
  { platformInterface "java.util.List" with
    interfaces := ["java.util.Collection"]
    typeParameters := [unbounded "E"]
    methods := [
      onValue "get" [int] anyObject] }

def arrayListType : TypeDefinition :=
  { platformClass "java.util.ArrayList" with
    interfaces := ["java.util.List", "java.io.Serializable"]
    typeParameters := [unbounded "E"]
    methods := [
      onValue "get" [int] anyObject, onValue "size" [] int, onValue "add" [anyObject] boolean]
    constructors := [⟨[]⟩, ⟨[int]⟩] }

/-- Every type of the catalog. -/
def types : List TypeDefinition := [
  objectType, serializableType, comparableType, charSequenceType, runnableType, iterableType,
  stringType, stringBuilderType, numberType, integerType, longType, booleanType, mathType,
  systemType, throwableType, exceptionType, runtimeExceptionType, outputStreamType,
  filterOutputStreamType, printStreamType, collectionType, listType, arrayListType]

/-- The catalog as a table. -/
def table : TypeTable := ⟨types⟩

end JvmScope.Catalog
