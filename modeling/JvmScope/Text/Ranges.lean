/-!
# Ranges of characters

Character classes of scripts other than ASCII are given by tables: inclusive ranges of code
points in ascending order.
-/

namespace JvmScope.Text

/-- Whether `c` lies in one of the ranges. -/
def inRanges (ranges : List (Nat × Nat)) (c : Char) : Bool :=
  ranges.any fun r => r.1 ≤ c.toNat && c.toNat ≤ r.2

end JvmScope.Text
