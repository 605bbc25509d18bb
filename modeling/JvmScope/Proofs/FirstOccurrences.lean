import Mathlib.Data.List.Induction
import Mathlib.Data.List.Nodup

/-!
# First occurrences

`List.eraseDups` keeps every member of a list where it stands first. What comes behind is kept if
it is new (`eraseDups_concat_of_notMem`) and left out if it is not (`eraseDups_concat_of_mem`), so
a list without repetitions is built up from its end: nothing stands in it twice
(`nodup_eraseDups`), and what stands in it keeps its order (`eraseDups_sublist`).
-/

namespace JvmScope

variable {α : Type} [BEq α] [LawfulBEq α] {as bs : List α}

theorem removeAll_congr (same : ∀ a, a ∈ as ↔ a ∈ bs) (l : List α) :
    l.removeAll as = l.removeAll bs := by
  unfold List.removeAll
  refine List.filter_congr fun a _ => ?_
  have : as.elem a = bs.elem a := by
    rw [Bool.eq_iff_iff, List.elem_iff, List.elem_iff]
    exact same a
  rw [this]

theorem eraseDups_append_of_subset (known : ∀ b ∈ bs, b ∈ as) :
    (as ++ bs).eraseDups = as.eraseDups := by
  have none : bs.removeAll as = [] := by
    refine List.filter_eq_nil_iff.2 fun b hb => ?_
    simpa using known b hb
  rw [List.eraseDups_append, none, List.eraseDups_nil, List.append_nil]

theorem eraseDups_concat_of_mem {a : α} (h : a ∈ as) : (as ++ [a]).eraseDups = as.eraseDups := by
  refine eraseDups_append_of_subset fun b hb => ?_
  rw [List.mem_singleton.1 hb]
  exact h

theorem eraseDups_concat_of_notMem {a : α} (h : a ∉ as) :
    (as ++ [a]).eraseDups = as.eraseDups ++ [a] := by
  have one : [a].removeAll as = [a] := by
    refine List.filter_eq_self.2 fun b hb => ?_
    rw [List.mem_singleton.1 hb]
    simpa using h
  rw [List.eraseDups_append, one]
  rfl

theorem nodup_eraseDups (l : List α) : l.eraseDups.Nodup := by
  induction l using List.reverseRecOn with
  | nil => exact List.nodup_nil
  | append_singleton l a ih =>
      by_cases h : a ∈ l
      · rw [eraseDups_concat_of_mem h]
        exact ih
      · rw [eraseDups_concat_of_notMem h]
        refine List.nodup_append.2 ⟨ih, List.nodup_singleton a, ?_⟩
        intro b hb c hc
        rw [List.mem_singleton.1 hc]
        rintro rfl
        exact h (List.mem_eraseDups.1 hb)

theorem eraseDups_sublist (l : List α) : l.eraseDups.Sublist l := by
  induction l using List.reverseRecOn with
  | nil => exact List.Sublist.refl []
  | append_singleton l a ih =>
      by_cases h : a ∈ l
      · rw [eraseDups_concat_of_mem h]
        exact ih.trans (List.sublist_append_left l [a])
      · rw [eraseDups_concat_of_notMem h]
        exact ih.append_right [a]

theorem eraseDups_prefix (h : as <+: bs) : as.eraseDups <+: bs.eraseDups := by
  obtain ⟨more, rfl⟩ := h
  exact ⟨_, List.eraseDups_append.symm⟩

/-- What comes behind only depends on what stands in front, not on how often. -/
theorem eraseDups_append_congr (same : as.eraseDups = bs.eraseDups) (l : List α) :
    (as ++ l).eraseDups = (bs ++ l).eraseDups := by
  have mem : ∀ a, a ∈ as ↔ a ∈ bs := by
    intro a
    rw [← List.mem_eraseDups, same, List.mem_eraseDups]
  rw [List.eraseDups_append, List.eraseDups_append, same, removeAll_congr mem]

/-- What repetitions expand to are repetitions. -/
theorem eraseDups_flatMap_eraseDups (front : List α) (f : α → List α) (l : List α) :
    (front ++ l.eraseDups.flatMap f).eraseDups = (front ++ l.flatMap f).eraseDups := by
  induction l using List.reverseRecOn with
  | nil => rfl
  | append_singleton l a ih =>
      rw [List.flatMap_append, List.flatMap_singleton, ← List.append_assoc]
      by_cases h : a ∈ l
      -- `f a` has been expanded already, somewhere in `l`, and so adds nothing
      · rw [eraseDups_concat_of_mem h, ih]
        refine (eraseDups_append_of_subset fun b hb => ?_).symm
        exact List.mem_append_right _ (List.mem_flatMap.2 ⟨a, h, hb⟩)
      · rw [eraseDups_concat_of_notMem h, List.flatMap_append, List.flatMap_singleton,
          ← List.append_assoc]
        exact eraseDups_append_congr ih _

end JvmScope
