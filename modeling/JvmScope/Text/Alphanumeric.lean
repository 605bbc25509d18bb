import JvmScope.Text.AlphanumericRanges
import JvmScope.Text.Ranges

/-!
# Letters and numerals

Words that are not names of the language, such as the targets of log filters, start with a
letter or numeral of any script. ASCII is decided without the table.
-/

namespace JvmScope.Text

/-- A letter or numeral of any script, fractions and circled characters among them. -/
def isAlphanumeric (c : Char) : Bool :=
  if c.toNat < 0x80 then c.isAlphanum else inRanges alphanumericRanges c

end JvmScope.Text
