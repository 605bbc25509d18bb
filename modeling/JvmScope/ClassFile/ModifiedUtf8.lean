/-!
# Modified UTF-8

String constants are UTF-8 with two changes: U+0000 takes two bytes, and a supplementary
character is written as its two UTF-16 surrogates, three bytes each. So text is read through
16-bit units: `units?` decodes one-, two- and three-byte groups to units, `charsOfUnits?` pairs
the surrogates.

Encoders also leave plain UTF-8 behind, four-byte groups included, and such text is accepted as
it stands unless it holds a zero byte.
-/

namespace JvmScope.ModifiedUtf8

/-- A byte that continues a group. -/
def isContinuation (b : UInt8) : Bool := 0x80 ≤ b.toNat && b.toNat < 0xC0

/-- The 16-bit units that the groups of a byte string stand for. A zero byte, a stray
continuation byte and a byte that starts a longer group are refused. -/
def units? : List UInt8 → Option (List Nat)
  | [] => some []
  | a :: rest =>
    if a.toNat < 0x80 then
      if a.toNat = 0 then none else (units? rest).map (a.toNat :: ·)
    else if 0xC0 ≤ a.toNat ∧ a.toNat < 0xE0 then
      match rest with
      | b :: rest =>
        if isContinuation b then
          (units? rest).map ((a.toNat % 0x20 * 0x40 + b.toNat % 0x40) :: ·)
        else none
      | _ => none
    else if 0xE0 ≤ a.toNat ∧ a.toNat < 0xF0 then
      match rest with
      | b :: c :: rest =>
        if isContinuation b && isContinuation c then
          (units? rest).map
            ((a.toNat % 0x10 * 0x1000 + b.toNat % 0x40 * 0x40 + c.toNat % 0x40) :: ·)
        else none
      | _ => none
    else none

/-- The first half of a supplementary character. -/
def isHighSurrogate (u : Nat) : Bool := 0xD800 ≤ u && u < 0xDC00

/-- The second half of a supplementary character. -/
def isLowSurrogate (u : Nat) : Bool := 0xDC00 ≤ u && u < 0xE000

/-- The characters a sequence of 16-bit units stands for; a lone surrogate is refused. -/
def charsOfUnits? : List Nat → Option (List Char)
  | [] => some []
  | u :: rest =>
    if isHighSurrogate u then
      match rest with
      | v :: rest =>
        if isLowSurrogate v then
          (charsOfUnits? rest).map
            (Char.ofNat (0x10000 + (u - 0xD800) * 0x400 + (v - 0xDC00)) :: ·)
        else none
      | [] => none
    else if isLowSurrogate u then none
    else (charsOfUnits? rest).map (Char.ofNat u :: ·)

/-- The text that plain UTF-8 bytes stand for, if they are that and hold no zero byte. -/
def decodePlain? (bytes : List UInt8) : Option String :=
  (String.fromUTF8? ⟨bytes.toArray⟩).filter fun s => !s.toList.contains '\x00'

/-- The text that groups of at most three bytes stand for. -/
def decodeGroups? (bytes : List UInt8) : Option String :=
  ((units? bytes).bind charsOfUnits?).map String.ofList

/-- The text of a string constant. -/
def decode? (bytes : List UInt8) : Option String :=
  decodePlain? bytes <|> decodeGroups? bytes

/-! ## Writing -/

/-- The group of a 16-bit unit. -/
def encodeUnit (u : Nat) : List UInt8 :=
  if 0 < u ∧ u < 0x80 then [u.toUInt8]
  else if u < 0x800 then [(0xC0 + u / 0x40).toUInt8, (0x80 + u % 0x40).toUInt8]
  else [(0xE0 + u / 0x1000).toUInt8, (0x80 + u / 0x40 % 0x40).toUInt8, (0x80 + u % 0x40).toUInt8]

/-- The 16-bit units of a character: two surrogates above U+FFFF. -/
def unitsOfChar (c : Char) : List Nat :=
  if c.toNat < 0x10000 then [c.toNat]
  else [0xD800 + (c.toNat - 0x10000) / 0x400, 0xDC00 + (c.toNat - 0x10000) % 0x400]

/-- The modified UTF-8 form of a text. -/
def encode (text : String) : List UInt8 :=
  text.toList.flatMap fun c => (unitsOfChar c).flatMap encodeUnit

end JvmScope.ModifiedUtf8
