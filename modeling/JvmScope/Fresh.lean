/-!
# Searches through finitely many things

A search that goes on only with what it has not met comes to an end, since each step leaves less
that it could still meet. `fresh` is that quantity; `fresh_cons_lt` says that it falls.
-/

namespace JvmScope

variable {α : Type} [BEq α] [LawfulBEq α]

/-- How many of `all` are not in `seen`. -/
def fresh (all seen : List α) : Nat := (all.filter fun a => !seen.contains a).length

theorem fresh_cons_lt {all seen : List α} {a : α} (mem : a ∈ all) (notSeen : a ∉ seen) :
    fresh all (a :: seen) < fresh all seen := by
  have hmem : a ∈ all.filter fun b => !seen.contains b := by simp [mem, notSeen]
  have hfilter : (all.filter fun b => !(a :: seen).contains b) =
      (all.filter fun b => !seen.contains b).filter (· != a) := by
    rw [List.filter_filter]
    congr 1
    funext b
    simp only [List.contains_cons, Bool.not_or]
    rfl
  unfold fresh
  rw [hfilter]
  refine Nat.lt_of_le_of_ne (List.length_filter_le _ _) fun h => ?_
  have := List.length_filter_eq_length_iff.1 h a hmem
  simp at this

end JvmScope
