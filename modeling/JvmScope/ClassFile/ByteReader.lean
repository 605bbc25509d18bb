import JvmScope.ClassFile.Error

/-!
# Reading bytes

A `ByteReader` consumes bytes from the front of a list and fails with a `FormatError`. Numbers
are big-endian. Every reader fails with `unexpectedEnd` exactly when the bytes do not suffice,
and none looks at bytes it does not consume.
-/

namespace JvmScope

/-- A step that consumes bytes. -/
abbrev ByteReader := StateT (List UInt8) (Except FormatError)

namespace ByteReader

/-- The next `n` bytes. -/
def split? {α : Type} : Nat → List α → Option (List α × List α)
  | 0, rest => some ([], rest)
  | _ + 1, [] => none
  | n + 1, a :: rest => (split? n rest).map fun (taken, left) => (a :: taken, left)

/-- Consumes `n` bytes. -/
def take (n : Nat) : ByteReader (List UInt8) := fun bytes =>
  match split? n bytes with
  | some r => .ok r
  | none => .error .unexpectedEnd

/-- Consumes one byte. -/
def byte : ByteReader UInt8 := fun bytes =>
  match bytes with
  | b :: rest => .ok (b, rest)
  | [] => .error .unexpectedEnd

/-- Consumes a two-byte number. -/
def word : ByteReader UInt16 := fun bytes =>
  match bytes with
  | a :: b :: rest => .ok ((a.toNat * 0x100 + b.toNat).toUInt16, rest)
  | _ => .error .unexpectedEnd

/-- Consumes a four-byte number. -/
def doubleWord : ByteReader UInt32 := fun bytes =>
  match bytes with
  | a :: b :: c :: d :: rest =>
    .ok ((a.toNat * 0x1000000 + b.toNat * 0x10000 + c.toNat * 0x100 + d.toNat).toUInt32, rest)
  | _ => .error .unexpectedEnd

/-- Runs `item` a number of times. -/
def times {α : Type} (item : ByteReader α) : Nat → ByteReader (List α)
  | 0 => pure []
  | n + 1 => do
    let a ← item
    let rest ← times item n
    pure (a :: rest)

/-- A two-byte count and that many items. -/
def table {α : Type} (item : ByteReader α) : ByteReader (List α) := do
  let count ← word
  times item count.toNat

/-- Fails unless every byte has been consumed. -/
def finish : ByteReader Unit := fun bytes =>
  match bytes with
  | [] => .ok ((), [])
  | _ => .error (.trailingBytes bytes.length)

/-- The value of a reader that has to consume all of `bytes`. -/
def runAll {α : Type} (reader : ByteReader α) (bytes : List UInt8) : Except FormatError α :=
  Prod.fst <$> (do let a ← reader; finish; pure a : ByteReader α).run bytes

end ByteReader

end JvmScope
