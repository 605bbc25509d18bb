import JvmScope.Text.IdentifierRanges
import JvmScope.Text.Ranges

/-!
# Identifiers

A name segment starts with a letter or `_` and goes on with letters, digits, marks, connectors
or `$`; a `$` only appears inside the binary names of nested types, so it never starts one.
Letters are Unicode's, not only ASCII's: from U+0080 on the range tables decide.

ASCII is decided without the tables, which makes the facts that a separator (`.`, `/`, `;`,
`[`) is no identifier character hold by computation.
-/

namespace JvmScope.Text

/-- A letter of any script. -/
def isLetter (c : Char) : Bool :=
  if c.toNat < 0x80 then c.isAlpha else inRanges identifierStartRanges c

/-- A letter, digit, combining mark or connector of any script. -/
def isLetterLike (c : Char) : Bool :=
  if c.toNat < 0x80 then c.isAlphanum || c == '_'
  else inRanges identifierStartRanges c || inRanges identifierContinueRanges c

/-- Characters that may start an identifier. -/
def isIdentifierStart (c : Char) : Bool := c == '_' || isLetter c

/-- Characters that may follow the first one. -/
def isIdentifierPart (c : Char) : Bool := c == '$' || isLetterLike c

/-- A non-empty run of identifier characters with a proper first one. -/
def isIdentifier : List Char → Bool
  | [] => false
  | c :: rest => isIdentifierStart c && rest.all isIdentifierPart

/-- What may start an identifier may also continue one. -/
theorem isIdentifierPart_of_isIdentifierStart {c : Char} (h : isIdentifierStart c = true) :
    isIdentifierPart c = true := by
  simp only [isIdentifierStart, isIdentifierPart, isLetter, isLetterLike, Bool.or_eq_true,
    beq_iff_eq] at h ⊢
  rcases h with rfl | h
  · exact Or.inr (by decide)
  · right
    split at h <;> simp_all [Char.isAlphanum]

/-- Every character of an identifier is an identifier character. -/
theorem isIdentifierPart_of_mem {cs : List Char} (h : isIdentifier cs = true) {c : Char}
    (hc : c ∈ cs) : isIdentifierPart c = true := by
  match cs, h with
  | d :: rest, h =>
    simp only [isIdentifier, Bool.and_eq_true, List.all_eq_true] at h
    rcases List.mem_cons.1 hc with rfl | hc
    · exact isIdentifierPart_of_isIdentifierStart h.1
    · exact h.2 c hc

end JvmScope.Text
