/-!
# Class-file errors

Why a class file, a descriptor or a generic signature could not be read.
-/

namespace JvmScope

/-- A defect of a class file or of a text stored in one. -/
inductive FormatError
  /-- The bytes end inside an item. -/
  | unexpectedEnd
  /-- `count` bytes follow the last item. -/
  | trailingBytes (count : Nat)
  /-- The first four bytes are not the magic number. -/
  | invalidMagic (found : Nat)
  /-- No constant has this index. -/
  | invalidConstantIndex (index : Nat)
  /-- No constant kind has this tag. -/
  | invalidConstantTag (tag : Nat)
  /-- The constant at `index` has another kind than its use asks for. -/
  | constantMismatch (index : Nat) (expected found : String)
  /-- A string constant is not modified UTF-8. -/
  | invalidModifiedUtf8
  /-- The text is no descriptor; the whole of it is kept. -/
  | invalidDescriptor (text : String)
  /-- The text is no generic signature; the whole of it is kept. -/
  | invalidSignature (text : String)
  deriving DecidableEq, Repr

namespace FormatError

/-- `n` in lower-case hexadecimal, padded with zeros to eight digits. -/
def hex8 (n : Nat) : String :=
  let digits := Nat.toDigits 16 n
  String.ofList (List.replicate (8 - digits.length) '0' ++ digits)

/-- The text shown for an error. -/
def message : FormatError → String
  | unexpectedEnd => "class file ends early"
  | trailingBytes count => toString count ++ " bytes left over after the last attribute"
  | invalidMagic found => "not a class file (magic 0x" ++ hex8 found ++ ")"
  | invalidConstantIndex index => "constant pool has no entry #" ++ toString index
  | invalidConstantTag tag => "unknown constant pool tag " ++ toString tag
  | constantMismatch index expected found =>
    "constant pool entry #" ++ toString index ++ " is a " ++ found ++ ", wanted a " ++ expected
  | invalidModifiedUtf8 => "malformed modified UTF-8 in constant pool"
  | invalidDescriptor text => "malformed descriptor `" ++ text ++ "`"
  | invalidSignature text => "malformed generic signature `" ++ text ++ "`"

end FormatError

end JvmScope
