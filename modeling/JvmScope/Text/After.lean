/-!
# Text left over

A reader takes the characters at hand and leaves those it did not read. What is left is never
longer than what was there, and shorter if anything was read; readers that call each other, or
themselves, end for this reason, so the bound is part of what they return.
-/

namespace JvmScope.Text

/-- Text left over where something was read of `cs`. -/
abbrev After (cs : List Char) := { rest : List Char // rest.length < cs.length }

/-- What is left of a later part of `cs` is left of `cs`. -/
def After.weaken {cs ds : List Char} (h : cs.length ≤ ds.length) (a : After cs) : After ds :=
  ⟨a.1, Nat.lt_of_lt_of_le a.2 h⟩

/-- What is left of the text after a character is left of the text with it. -/
def After.past {c : Char} {cs : List Char} (a : After cs) : After (c :: cs) :=
  a.weaken (Nat.le_succ _)

/-- Text left over where possibly nothing was read of `cs`. -/
abbrev Rest (cs : List Char) := { rest : List Char // rest.length ≤ cs.length }

/-- What is left after one character. -/
def Rest.tail (c : Char) (cs : List Char) : Rest (c :: cs) := ⟨cs, Nat.le_succ _⟩

end JvmScope.Text
