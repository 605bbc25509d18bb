import JvmScope.Proofs.Program.Below

/-!
# What ends before a node

In the text of a program a node ends after everything that stands below it, and after everything
that stands before it. `Tree.EndsBefore` is this order, read off the tree: `a` stands below `b`,
or on an earlier branch of some node that both stand below.

A walk that only ever goes to nodes that end earlier cannot go on forever, however it jumps
between branches: `wellFounded_endsBefore`. The tree may be any, also one that is not all of one
piece.
-/

namespace JvmScope.Tree

variable {t : Tree} {a b n : NodeId}

/-- `a` stands on an earlier branch than `b`. -/
def Aside (t : Tree) (a b : NodeId) : Prop :=
  ∃ p, ∃ c ∈ t.children p, ∃ d ∈ t.children p, c < d ∧ t.Below c a ∧ t.Below d b

/-- `a` comes to its end before `b` does. -/
inductive EndsBefore (t : Tree) (a b : NodeId) : Prop
  | inside {c : NodeId} : c ∈ t.children b → t.Below c a → EndsBefore t a b
  | aside : t.Aside a b → EndsBefore t a b

/-- What stands aside of a child stands aside of its parent, or below an earlier child. -/
theorem Aside.of_child {c : NodeId} (hc : c ∈ t.children n) (h : t.Aside a c) :
    t.Aside a n ∨ ∃ d ∈ t.children n, d < c ∧ t.Below d a := by
  obtain ⟨p, d, hd, e, he, hlt, hda, hec⟩ := h
  cases hec with
  | refl =>
      obtain rfl := parent_unique hc he
      exact .inr ⟨d, hd, hlt, hda⟩
  | child heq hcq =>
      obtain rfl := parent_unique hc hcq
      exact .inl ⟨p, d, hd, e, he, hlt, hda, heq⟩

/-- Nothing stands aside of what is a child of nothing. -/
theorem not_aside_of_top (top : ∀ p, n ∉ t.children p) : ¬t.Aside a n := by
  rintro ⟨p, _, _, d, hd, -, -, hdn⟩
  cases hdn with
  | refl => exact top p hd
  | child _ hn => exact top _ hn

/-- Every node stands below one that is a child of nothing. -/
theorem exists_top (t : Tree) (id : NodeId) :
    ∃ top, (∀ p, top ∉ t.children p) ∧ t.Below top id := by
  induction id using Nat.strongRecOn with
  | _ id ih =>
      by_cases h : ∃ p, id ∈ t.children p
      · obtain ⟨p, hp⟩ := h
        obtain ⟨top, htop, hbelow⟩ := ih p (lt_of_mem_children hp).1
        exact ⟨top, htop, hbelow.child hp⟩
      · exact ⟨id, not_exists.1 h, .refl⟩

/-- If every walk ends that starts aside of a node, so does every walk that starts below it. The
induction is on how many numbers there are after that of the node, and within it on the children
from the left, for a later child has the earlier ones aside of it. -/
theorem acc_of_below (aside : ∀ a, t.Aside a n → Acc t.EndsBefore a) (below : t.Below n b) :
    Acc t.EndsBefore b := by
  induction hleft : t.size - n using Nat.strongRecOn generalizing n b with
  | _ left ih =>
      have branch : ∀ c ∈ t.children n, ∀ d, t.Below c d → Acc t.EndsBefore d := by
        intro c
        induction c using Nat.strongRecOn with
        | _ c earlier =>
            intro hc d hd
            obtain ⟨hlt, hsize⟩ := lt_of_mem_children hc
            have fewer : t.size - c < left := by
              rw [← hleft]
              exact Nat.sub_lt_sub_left (Nat.lt_trans hlt hsize) hlt
            refine ih _ fewer (n := c) (fun a ha => ?_) hd rfl
            rcases ha.of_child hc with outside | ⟨e, he, hec, hea⟩
            · exact aside a outside
            · exact earlier e hec he a hea
      rcases below.first_step with rfl | ⟨c, hc, hcb⟩
      · refine Acc.intro b fun a ha => ?_
        cases ha with
        | inside hc hca => exact branch _ hc a hca
        | aside h => exact aside a h
      · exact branch c hc b hcb

/-- Going to nodes that end earlier comes to an end. -/
theorem wellFounded_endsBefore (t : Tree) : WellFounded t.EndsBefore := by
  refine ⟨fun b => ?_⟩
  obtain ⟨top, htop, below⟩ := t.exists_top b
  exact acc_of_below (fun a ha => absurd ha (not_aside_of_top htop)) below

end JvmScope.Tree
