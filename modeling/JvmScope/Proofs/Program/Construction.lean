import JvmScope.Proofs.Program.Below
import Mathlib.Data.List.Chain
import Mathlib.Data.List.Nodup

/-!
# Trees as they are built

A tree comes about by additions: the file first, then one node after the other, each below a node
that is there already. A node only stores its parent, and the lists of children are read off the
parents (`Tree.children`). `Tree.childLists` keeps those lists by hand instead, as a construction
would that writes each new number into the list of its parent; by `Keeps.addAll` the two
ways never disagree.

What one addition does to a tree is `Appends`, and `Arena` is what all additions preserve. The
rest follows from these two: every node but the root stands in exactly one list of children, that
of its parent, and the walk upwards from any node goes down in numbers and ends at the root
(`construction_is_tree`).
-/

namespace JvmScope.Tree

variable {t t' : Tree}

/-! ## Additions -/

/-- What an addition is asked to do. -/
structure Addition where
  parent : NodeId
  kind : NodeKind
  range : TextRange
  deriving Repr

namespace Addition

/-- The node as the tree stores it. -/
def node (a : Addition) : Node := ⟨a.kind, some a.parent, a.range⟩

end Addition

/-- Adds nodes one after the other, as long as their parents are there. -/
def addAll? (t : Tree) (additions : List Addition) : Option Tree :=
  additions.foldlM (fun t a => t.add? a.parent a.kind a.range) t

/-- Every addition to a tree of `size` nodes names a parent that is there when its turn comes. -/
def Grounded (size : Nat) (additions : List Addition) : Prop :=
  ∀ i (h : i < additions.length), additions[i].parent < size + i

instance (size : Nat) (additions : List Addition) : Decidable (Grounded size additions) :=
  inferInstanceAs (Decidable (∀ i (h : i < additions.length), additions[i].parent < size + i))

theorem add?_eq_some_iff {a : Addition} :
    t.add? a.parent a.kind a.range = some t' ↔ a.parent < t.size ∧ t' = ⟨t.nodes.push a.node⟩ := by
  rw [add?, has]
  by_cases here : a.parent < t.size
  · simp [here, Addition.node, eq_comm]
  · simp [here]

theorem addAll?_cons {a : Addition} {rest : List Addition} :
    t.addAll? (a :: rest) = (t.add? a.parent a.kind a.range).bind (·.addAll? rest) := rfl

theorem grounded_cons {size : Nat} {a : Addition} {rest : List Addition} :
    Grounded size (a :: rest) ↔ a.parent < size ∧ Grounded (size + 1) rest := by
  have hshift : ∀ i, size + (i + 1) = size + 1 + i := by
    intro i
    omega
  constructor
  · intro h
    refine ⟨h 0 (Nat.zero_lt_succ _), fun i hi => ?_⟩
    rw [← hshift]
    exact h (i + 1) (Nat.succ_lt_succ hi)
  · rintro ⟨h, hrest⟩ i hi
    cases i with
    | zero => exact h
    | succ i =>
        rw [hshift]
        exact hrest i (Nat.lt_of_succ_lt_succ hi)

/-- Additions succeed together when each of them finds its parent, and put their nodes at the
end. -/
theorem addAll?_eq_some_iff {additions : List Addition} :
    t.addAll? additions = some t' ↔
      Grounded t.size additions ∧
        t' = ⟨t.nodes ++ (additions.map Addition.node).toArray⟩ := by
  induction additions generalizing t with
  | nil =>
      have hnone : Grounded t.size [] := fun i hi => absurd hi (Nat.not_lt_zero i)
      simp [addAll?, hnone, eq_comm]
  | cons a rest ih =>
      rw [addAll?_cons, Option.bind_eq_some_iff, grounded_cons]
      constructor
      · rintro ⟨t₁, h₁, hrest⟩
        obtain ⟨hparent, rfl⟩ := add?_eq_some_iff.1 h₁
        obtain ⟨hgrounded, rfl⟩ := ih.1 hrest
        refine ⟨⟨hparent, by simpa [size] using hgrounded⟩, ?_⟩
        simp
      · rintro ⟨⟨hparent, hgrounded⟩, rfl⟩
        refine ⟨_, add?_eq_some_iff.2 ⟨hparent, rfl⟩, ih.2 ⟨by simpa [size] using hgrounded, ?_⟩⟩
        simp

/-! ## One addition -/

/-- What an addition changes: there is one more node, with the data it was given, and its number
stands at the end of one list of children. -/
structure Appends (t : Tree) (a : Addition) (t' : Tree) : Prop where
  size : t'.size = t.size + 1
  kept : ∀ id < t.size, t'.kind id = t.kind id ∧ t'.range id = t.range id ∧
    t'.parent? id = t.parent? id
  added : t'.kind t.size = a.kind ∧ t'.range t.size = a.range ∧
    t'.parent? t.size = some a.parent
  below : t'.children a.parent = t.children a.parent ++ [t.size]
  elsewhere : ∀ id ≠ a.parent, t'.children id = t.children id

/-- A list of children after a node was put at the end. -/
theorem children_push (t : Tree) (a : Addition) (id : NodeId) :
    (⟨t.nodes.push a.node⟩ : Tree).children id =
      t.children id ++ (if id < t.size ∧ a.parent = id then [t.size] else []) := by
  have hsize : (⟨t.nodes.push a.node⟩ : Tree).size = t.size + 1 := Array.size_push ..
  rw [children, children, hsize, List.range_succ, List.filter_append]
  congr 1
  · refine List.filter_congr fun c hc => ?_
    have hlt : c < t.nodes.size := List.mem_range.1 hc
    simp [parent?, Array.getElem?_push, Nat.ne_of_lt hlt]
  · have hlast : (⟨t.nodes.push a.node⟩ : Tree).parent? t.size = some a.parent := by
      simp [parent?, size, Addition.node]
    by_cases here : id < t.size ∧ a.parent = id
    · simp [hlast, here]
    · rw [if_neg here]
      simpa [List.filter_cons, hlast] using here

/-- The step: an addition appends. -/
theorem appends_of_add? {a : Addition} (h : t.add? a.parent a.kind a.range = some t') :
    t.Appends a t' := by
  obtain ⟨hparent, rfl⟩ := add?_eq_some_iff.1 h
  refine ⟨Array.size_push .., ?_, ?_, ?_, ?_⟩
  · intro id hid
    have hne : id ≠ t.nodes.size := Nat.ne_of_lt hid
    simp [kind, range, parent?, Array.getElem?_push, hne]
  · simp [kind, range, parent?, size, Addition.node]
  · rw [children_push, if_pos ⟨hparent, rfl⟩]
  · intro id hid
    rw [children_push, if_neg fun h => hid h.2.symm, List.append_nil]

/-! ## Lists of children kept by hand -/

/-- Notes an addition: its number goes to the end of the list of its parent, and its own list is
empty. -/
def noteChild (lists : Array (List NodeId)) (a : Addition) : Array (List NodeId) :=
  (lists.modify a.parent (· ++ [lists.size])).push []

/-- The lists of children that a construction keeps beside the nodes, starting at the file. -/
def childLists (additions : List Addition) : Array (List NodeId) :=
  additions.foldl noteChild #[[]]

/-- The lists are those of the tree. -/
structure Keeps (t : Tree) (lists : Array (List NodeId)) : Prop where
  size : lists.size = t.size
  lists : ∀ id < t.size, lists[id]? = some (t.children id)

theorem keeps_ofFile (space : String) (range : TextRange) : (ofFile space range).Keeps #[[]] := by
  refine ⟨rfl, fun id hid => ?_⟩
  obtain rfl : id = 0 := Nat.lt_one_iff.1 hid
  rfl

theorem Keeps.add {lists : Array (List NodeId)} {a : Addition} (keeps : t.Keeps lists)
    (h : t.Appends a t') : t'.Keeps (noteChild lists a) := by
  refine ⟨?_, fun id hid => ?_⟩
  · rw [noteChild, Array.size_push, Array.size_modify, keeps.size, h.size]
  · rw [noteChild, Array.getElem?_push, Array.size_modify, Array.getElem?_modify, keeps.size]
    rw [h.size] at hid
    by_cases hlast : id = t.size
    · -- the children of the new node would come after it
      have hnone : t'.children id = [] := by
        refine List.eq_nil_iff_forall_not_mem.2 fun c hc => ?_
        obtain ⟨hafter, hbefore⟩ := lt_of_mem_children hc
        rw [h.size, ← hlast] at hbefore
        exact Nat.not_lt_of_le (Nat.le_of_lt_succ hbefore) hafter
      rw [if_pos hlast, hnone]
    · have hlt : id < t.size := Nat.lt_of_le_of_ne (Nat.le_of_lt_succ hid) hlast
      have hlist := keeps.lists id hlt
      rw [if_neg hlast, hlist]
      by_cases hparent : a.parent = id
      · subst hparent
        rw [if_pos rfl, h.below]
        rfl
      · rw [if_neg hparent, h.elsewhere id fun e => hparent e.symm]

theorem Keeps.addAll {lists : Array (List NodeId)} {additions : List Addition}
    (keeps : t.Keeps lists) (h : t.addAll? additions = some t') :
    t'.Keeps (additions.foldl noteChild lists) := by
  induction additions generalizing t lists with
  | nil =>
      obtain rfl : t = t' := Option.some.inj h
      exact keeps
  | cons a rest ih =>
      rw [addAll?_cons, Option.bind_eq_some_iff] at h
      obtain ⟨t₁, h₁, hrest⟩ := h
      exact ih (keeps.add (appends_of_add? h₁)) hrest

/-! ## What all additions preserve -/

/-- The root has no parent, and every other node has one before it. -/
structure Arena (t : Tree) : Prop where
  has_root : t.has root = true
  parent_root : t.parent? root = none
  parents : ∀ c < t.size, c ≠ root → ∃ p < c, t.parent? c = some p

theorem arena_ofFile (space : String) (range : TextRange) : (ofFile space range).Arena := by
  refine ⟨rfl, rfl, fun c hc hroot => ?_⟩
  exact absurd (Nat.lt_one_iff.1 hc) hroot

theorem Arena.add {a : Addition} (arena : t.Arena) (hparent : a.parent < t.size)
    (h : t.Appends a t') : t'.Arena := by
  have hroot : root < t.size := has_eq_true.1 arena.has_root
  have hroot' : root < t'.size := by
    rw [h.size]
    exact Nat.lt_succ_of_lt hroot
  refine ⟨has_eq_true.2 hroot', ?_, fun c hc hne => ?_⟩
  · rw [(h.kept root hroot).2.2]
    exact arena.parent_root
  · rw [h.size] at hc
    by_cases hlast : c = t.size
    · subst hlast
      exact ⟨a.parent, hparent, h.added.2.2⟩
    · have hlt : c < t.size := by omega
      rw [(h.kept c hlt).2.2]
      exact arena.parents c hlt hne

theorem Arena.addAll {additions : List Addition} (arena : t.Arena)
    (h : t.addAll? additions = some t') : t'.Arena := by
  induction additions generalizing t with
  | nil =>
      obtain rfl : t = t' := Option.some.inj h
      exact arena
  | cons a rest ih =>
      rw [addAll?_cons, Option.bind_eq_some_iff] at h
      obtain ⟨t₁, h₁, hrest⟩ := h
      exact ih (arena.add (add?_eq_some_iff.1 h₁).1 (appends_of_add? h₁)) hrest

/-! ## Lists of children, all together -/

/-- The lists of children of a tree, one after the other. -/
def allChildren (t : Tree) : List NodeId := (List.range t.size).flatMap t.children

theorem mem_allChildren {c : NodeId} : c ∈ t.allChildren ↔ ∃ p, c ∈ t.children p := by
  rw [allChildren, List.mem_flatMap]
  constructor
  · rintro ⟨p, -, hc⟩
    exact ⟨p, hc⟩
  · rintro ⟨p, hc⟩
    exact ⟨p, List.mem_range.2 (lt_size_of_mem_children hc), hc⟩

/-- No node stands in two lists of children, nor twice in one. -/
theorem nodup_allChildren (t : Tree) : t.allChildren.Nodup := by
  rw [allChildren, List.nodup_flatMap]
  constructor
  · intro p _
    exact (t.children_pairwise p).imp Nat.ne_of_lt
  · refine List.nodup_range.imp ?_
    intro p q hne c hp hq
    exact hne (parent_unique hp hq)

/-- The root is a child of no node. -/
theorem root_not_mem_allChildren (t : Tree) : root ∉ t.allChildren := by
  intro h
  obtain ⟨p, hp⟩ := mem_allChildren.1 h
  exact Nat.not_lt_zero p (lt_of_mem_children hp).1

/-- Every node but the root is a child of its parent, and of nothing else. -/
theorem Arena.exists_parent (arena : t.Arena) {c : NodeId} (here : c < t.size)
    (hroot : c ≠ root) :
    ∃ p < c, t.parent? c = some p ∧ c ∈ t.children p ∧ t.allChildren.count c = 1 := by
  obtain ⟨p, hlt, hp⟩ := arena.parents c here hroot
  have hc : c ∈ t.children p := mem_children_iff.2 ⟨hlt, hp⟩
  exact ⟨p, hlt, hp, hc, List.count_eq_one_of_mem t.nodup_allChildren (mem_allChildren.2 ⟨p, hc⟩)⟩

/-! ## Walks upwards -/

/-- The walk upwards starts at the node itself. -/
theorem head?_ancestors (t : Tree) (id : NodeId) : (t.ancestors id).head? = some id := by
  rcases ancestors_cases t id with h | ⟨p, -, h⟩ <;> rw [h] <;> rfl

/-- Each step of the walk upwards follows a parent link. -/
theorem isChain_ancestors (t : Tree) (id : NodeId) :
    (t.ancestors id).IsChain fun c p => t.parent? c = some p := by
  induction id using Nat.strongRecOn with
  | _ id ih =>
      rcases ancestors_cases t id with h | ⟨p, hc, h⟩ <;> rw [h]
      · exact List.isChain_singleton _
      · obtain ⟨hlt, hp⟩ := mem_children_iff.1 hc
        refine List.isChain_cons.2 ⟨fun q hq => ?_, ih p hlt⟩
        rw [head?_ancestors] at hq
        exact hp.trans hq

/-- Numbers fall on the way up. -/
theorem pairwise_ancestors (t : Tree) (id : NodeId) : (t.ancestors id).Pairwise (· > ·) := by
  induction id using Nat.strongRecOn with
  | _ id ih =>
      rcases ancestors_cases t id with h | ⟨p, hc, h⟩ <;> rw [h]
      · exact List.pairwise_singleton ..
      · have hlt := (lt_of_mem_children hc).1
        refine List.pairwise_cons.2 ⟨fun q hq => ?_, ih p hlt⟩
        exact Nat.lt_of_le_of_lt (below_iff.2 hq).le hlt

theorem eq_of_ancestors_eq_cons {id top : NodeId} {rest : List NodeId}
    (path : t.ancestors id = top :: rest) : top = id := by
  have head := t.head?_ancestors id
  rw [path] at head
  simpa using head

/-- A walk upwards comes to a scope from one of its children, unless it starts there. -/
theorem via_of_split {context via scope : NodeId} {inner outer : List NodeId}
    (path : t.ancestors context = inner ++ [via] ++ scope :: outer) :
    via ∈ t.children scope ∧ via ∈ t.ancestors context ∧ scope ≠ context := by
  have links := t.isChain_ancestors context
  have falling := t.pairwise_ancestors context
  have onPath : via ∈ t.ancestors context := by
    rw [path]
    simp
  rw [path, List.append_assoc] at links falling
  have link := (List.isChain_append.1 links).2.1
  have fall := (List.pairwise_append.1 falling).2.1
  have parent : t.parent? via = some scope := by
    simpa using (List.isChain_cons.1 link).1
  have lower : scope < via := by
    apply (List.pairwise_cons.1 fall).1
    simp
  refine ⟨mem_children_iff.2 ⟨lower, parent⟩, onPath, ?_⟩
  have above : via ≤ context := (below_iff.2 onPath).le
  exact Nat.ne_of_lt (Nat.lt_of_lt_of_le lower above)

/-- The walk upwards ends at the root. -/
theorem Arena.getLast?_ancestors (arena : t.Arena) {id : NodeId} (here : id < t.size) :
    (t.ancestors id).getLast? = some root := by
  induction id using Nat.strongRecOn with
  | _ id ih =>
      by_cases hroot : id = root
      · subst hroot
        rw [ancestors, arena.parent_root]
        rfl
      · obtain ⟨p, hlt, -, hc, -⟩ := arena.exists_parent here hroot
        have hlast := ih p hlt (lt_size_of_mem_children hc)
        rw [ancestors_of_mem_children hc, List.getLast?_cons, hlast]
        rfl

/-! ## Constructions -/

/-- The nodes of a tree that was built are the file and the additions in order. -/
theorem nodes_of_addAll? {space : String} {range : TextRange} {additions : List Addition}
    (h : (ofFile space range).addAll? additions = some t) :
    t.nodes = ((⟨.file space, none, range⟩ : Node) :: additions.map Addition.node).toArray := by
  obtain ⟨-, rfl⟩ := addAll?_eq_some_iff.1 h
  simp [ofFile]

/-- **Trees while they are built.** A construction starts with the file and adds nodes below
nodes that are there. It succeeds, and its tree holds the file and the additions in order. Every
node but the root has a parent before it and stands once in all lists of children, namely in the
list of its parent; the lists rise, and are those that a construction keeps by hand. A further
addition changes no node and one list, at its end, and only a missing parent stops it. The walk
upwards from any node follows the parents, falls, and ends at the root. -/
theorem construction_is_tree (space : String) (range : TextRange) (additions : List Addition)
    (grounded : Grounded 1 additions) :
    ∃ t, (ofFile space range).addAll? additions = some t ∧
      t.size = additions.length + 1 ∧
      (t.kind root = .file space ∧ t.range root = range ∧ t.parent? root = none ∧
        root ∉ t.allChildren) ∧
      (∀ i (h : i < additions.length), t.kind (i + 1) = additions[i].kind ∧
        t.range (i + 1) = additions[i].range ∧ t.parent? (i + 1) = some additions[i].parent) ∧
      (∀ c < t.size, c ≠ root →
        ∃ p < c, t.parent? c = some p ∧ c ∈ t.children p ∧ t.allChildren.count c = 1) ∧
      (∀ id < t.size, (t.children id).Pairwise (· < ·) ∧
        (childLists additions)[id]? = some (t.children id)) ∧
      (∀ a : Addition, if a.parent < t.size
        then ∃ t', t.add? a.parent a.kind a.range = some t' ∧ t.Appends a t'
        else t.add? a.parent a.kind a.range = none) ∧
      ∀ id < t.size, (t.ancestors id).head? = some id ∧
        ((t.ancestors id).IsChain fun c p => t.parent? c = some p) ∧
        (t.ancestors id).Pairwise (· > ·) ∧ (t.ancestors id).Nodup ∧
        (t.ancestors id).getLast? = some root := by
  obtain ⟨t, h⟩ : ∃ t, (ofFile space range).addAll? additions = some t :=
    ⟨_, addAll?_eq_some_iff.2 ⟨grounded, rfl⟩⟩
  have hnodes := nodes_of_addAll? h
  have arena : t.Arena := (arena_ofFile space range).addAll h
  have keeps : t.Keeps (childLists additions) := (keeps_ofFile space range).addAll h
  refine ⟨t, h, ?_, ⟨?_, ?_, arena.parent_root, t.root_not_mem_allChildren⟩, ?_, ?_, ?_, ?_, ?_⟩
  · simp [size, hnodes]
  · simp [kind, root, hnodes]
  · simp [Tree.range, root, hnodes]
  · intro i hi
    simp [kind, Tree.range, parent?, hnodes, hi, Addition.node]
  · intro c here hroot
    exact arena.exists_parent here hroot
  · intro id here
    exact ⟨t.children_pairwise id, keeps.lists id here⟩
  · intro a
    by_cases hparent : a.parent < t.size
    · rw [if_pos hparent]
      have hadd := add?_eq_some_iff.2 ⟨hparent, rfl⟩
      exact ⟨_, hadd, appends_of_add? hadd⟩
    · rw [if_neg hparent, add?, has, decide_eq_false hparent]
      rfl
  · intro id here
    have hfall := t.pairwise_ancestors id
    exact ⟨t.head?_ancestors id, t.isChain_ancestors id, hfall, hfall.imp Nat.ne_of_gt,
      arena.getLast?_ancestors here⟩

/-- A function with a statement and a return, the statement filled in last. -/
def functionAdditions : List Addition :=
  [⟨0, .function "f" (.named "Int"), .ofLine 0 0 20⟩, ⟨1, .block, .ofLine 0 10 20⟩,
    ⟨2, .expressionStatement, .ofLine 0 11 13⟩, ⟨2, .returnStatement, .ofLine 0 13 19⟩,
    ⟨3, .intLiteral 7, .ofLine 0 11 12⟩]

theorem construction_is_tree_function :
    Grounded 1 functionAdditions ∧
      ∃ t, (ofFile "demo" default).addAll? functionAdditions = some t ∧ t.size = 6 ∧
        t.children 2 = [3, 4] := by
  have hgrounded : Grounded 1 functionAdditions := by decide
  obtain ⟨t, h, hsize, -, -, -, hlists, -⟩ :=
    construction_is_tree "demo" default functionAdditions hgrounded
  have hlist := (hlists 2 (by rw [hsize]; decide)).2
  have hkept : (childLists functionAdditions)[2]? = some [3, 4] := by decide
  exact ⟨hgrounded, t, h, hsize, Option.some.inj (hlist.symm.trans hkept)⟩

end JvmScope.Tree
