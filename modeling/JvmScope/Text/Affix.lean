/-!
# Beginnings and ends of texts

Taking a known beginning or end off a text.
-/

namespace JvmScope.Text

/-- What follows `start`, if the list begins with it. -/
def afterStart? : (start cs : List Char) → Option (List Char)
  | [], cs => some cs
  | _ :: _, [] => none
  | s :: start, c :: cs => if s = c then afterStart? start cs else none

/-- What follows `start` in `text`, if it begins with it. -/
def dropStart? (start text : String) : Option String :=
  (afterStart? start.toList text.toList).map String.ofList

/-- What precedes `tail` in `text`, if it ends with it. -/
def dropTail? (tail text : String) : Option String :=
  (afterStart? tail.toList.reverse text.toList.reverse).map fun cs => String.ofList cs.reverse

theorem afterStart?_eq_some {start cs rest : List Char} :
    afterStart? start cs = some rest ↔ cs = start ++ rest := by
  induction start generalizing cs with
  | nil => simp [afterStart?, eq_comm]
  | cons s start ih =>
    cases cs with
    | nil => simp [afterStart?]
    | cons c cs =>
      by_cases h : s = c
      · simp [afterStart?, h, ih]
      · simp [afterStart?, h, Ne.symm h]

/-- A beginning can be taken off exactly when it is there. -/
theorem dropStart?_eq_some {start text rest : String} :
    dropStart? start text = some rest ↔ text = start ++ rest := by
  rw [dropStart?, Option.map_eq_some_iff]
  constructor
  · rintro ⟨cs, h, rfl⟩
    apply String.toList_injective
    simpa using afterStart?_eq_some.1 h
  · rintro rfl
    exact ⟨rest.toList, afterStart?_eq_some.2 (by simp), by simp⟩

/-- An end can be taken off exactly when it is there. -/
theorem dropTail?_eq_some {tail text rest : String} :
    dropTail? tail text = some rest ↔ text = rest ++ tail := by
  rw [dropTail?, Option.map_eq_some_iff]
  constructor
  · rintro ⟨cs, h, rfl⟩
    apply String.toList_injective
    have := congrArg List.reverse (afterStart?_eq_some.1 h)
    simpa using this
  · rintro rfl
    exact ⟨rest.toList.reverse, afterStart?_eq_some.2 (by simp), by simp⟩

end JvmScope.Text
