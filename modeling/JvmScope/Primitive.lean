/-!
# Primitive and unsigned types

The nine primitive kinds of the virtual machine (`void` counted among them) and the six
unsigned types of the language, each of which is stored in a signed primitive.

Widening runs along one chain, `byte`, `short`, `int`, `long`, `float`, `double`; the other
three kinds only widen to themselves.
-/

namespace JvmScope

/-- A primitive kind. -/
inductive Primitive
  | boolean | char | byte | short | int | long | float | double | void
  deriving DecidableEq, Repr

namespace Primitive

/-- Every kind, in the order listings use. -/
def all : List Primitive :=
  [boolean, char, byte, short, int, long, float, double, void]

/-- The name a kind has in source. -/
def name : Primitive → String
  | boolean => "boolean"
  | char => "char"
  | byte => "byte"
  | short => "short"
  | int => "int"
  | long => "long"
  | float => "float"
  | double => "double"
  | void => "void"

/-- The letter a kind has in descriptors. -/
def code : Primitive → Char
  | boolean => 'Z'
  | char => 'C'
  | byte => 'B'
  | short => 'S'
  | int => 'I'
  | long => 'J'
  | float => 'F'
  | double => 'D'
  | void => 'V'

/-- The kind with the given source name. -/
def ofName? (name : String) : Option Primitive := all.find? (·.name == name)

/-- The kind with the given descriptor letter. -/
def ofCode? (c : Char) : Option Primitive := all.find? (·.code == c)

/-- The kind a field, parameter or array component may have: every one but `void`. -/
def ofFieldCode? (c : Char) : Option Primitive := (ofCode? c).filter (· != void)

/-- Position on the widening chain. -/
def wideningRank : Primitive → Option Nat
  | byte => some 0
  | short => some 1
  | int => some 2
  | long => some 3
  | float => some 4
  | double => some 5
  | boolean | char | void => none

/-- Identity, or a step to the right on the widening chain. -/
def widensTo (source target : Primitive) : Bool :=
  source == target ||
    match source.wideningRank, target.wideningRank with
    | some i, some j => i ≤ j
    | _, _ => false

@[simp] theorem ofName?_name (k : Primitive) : ofName? k.name = some k := by cases k <;> decide

@[simp] theorem ofCode?_code (k : Primitive) : ofCode? k.code = some k := by cases k <;> decide

theorem code_of_ofCode? {c : Char} {k : Primitive} (h : ofCode? c = some k) : k.code = c := by
  simpa using List.find?_some h

theorem ofFieldCode?_eq_some {c : Char} {k : Primitive} :
    ofFieldCode? c = some k ↔ k.code = c ∧ k ≠ void := by
  simp only [ofFieldCode?, Option.filter_eq_some_iff, bne_iff_ne, ne_eq]
  exact ⟨fun h => ⟨code_of_ofCode? h.1, h.2⟩, fun h => ⟨h.1 ▸ ofCode?_code k, h.2⟩⟩

@[simp] theorem widensTo_self (k : Primitive) : k.widensTo k = true := by simp [widensTo]

theorem widensTo_trans {a b c : Primitive} (hab : a.widensTo b = true)
    (hbc : b.widensTo c = true) : a.widensTo c = true := by
  revert hab hbc
  cases a <;> cases b <;> cases c <;> decide

end Primitive

/-- An unsigned type of the language. Its name wins over any class of the same name. -/
inductive Unsigned
  | ubyte | ushort | uint | ulong | ufloat | udouble
  deriving DecidableEq, Repr

namespace Unsigned

/-- Every unsigned type. -/
def all : List Unsigned := [ubyte, ushort, uint, ulong, ufloat, udouble]

/-- The name an unsigned type has in source. -/
def name : Unsigned → String
  | ubyte => "ubyte"
  | ushort => "ushort"
  | uint => "uint"
  | ulong => "ulong"
  | ufloat => "ufloat"
  | udouble => "udouble"

/-- The signed primitive its values are stored in. -/
def storage : Unsigned → Primitive
  | ubyte => .byte
  | ushort => .short
  | uint => .int
  | ulong => .long
  | ufloat => .float
  | udouble => .double

/-- The unsigned type with the given source name. -/
def ofName? (name : String) : Option Unsigned := all.find? (·.name == name)

@[simp] theorem ofName?_name (u : Unsigned) : ofName? u.name = some u := by cases u <;> decide

theorem storage_ne_void (u : Unsigned) : u.storage ≠ .void := by cases u <;> decide

/-- No two unsigned types are stored in one primitive. -/
theorem storage_inj {s t : Unsigned} : s.storage = t.storage ↔ s = t := by
  cases s <;> cases t <;> decide

end Unsigned

end JvmScope
