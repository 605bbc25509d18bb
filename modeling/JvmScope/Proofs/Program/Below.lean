import JvmScope.Program.Tree

/-!
# What stands below a node

`Tree.Below` is the tree read downwards: a node stands below itself, and the children of what
stands below a node stand below it too. `below_iff` says that this is the upward walk of
`Tree.ancestors` seen from its end, so facts that pass from a node to its children hold
everywhere below the node they start from.

`Tree.WellShaped` says where expressions may stand. It is decidable, so a tree at hand can be
tested for it.
-/

namespace JvmScope.Tree

variable {t : Tree}

/-- A child is a node that names its parent, and comes after it. -/
theorem mem_children_iff {p c : NodeId} : c ∈ t.children p ↔ p < c ∧ t.parent? c = some p := by
  simp only [children, List.mem_filter, List.mem_range, Bool.and_eq_true, decide_eq_true_eq,
    beq_iff_eq]
  constructor
  · rintro ⟨-, h⟩
    exact h
  · rintro ⟨hlt, hp⟩
    refine ⟨?_, hlt, hp⟩
    have hsome : t.nodes[c]? ≠ none := by
      intro hnone
      rw [parent?, hnone] at hp
      simp at hp
    exact Nat.lt_of_not_le fun hle => hsome (Array.getElem?_eq_none hle)

/-- A node has one parent. -/
theorem parent_unique {p q c : NodeId} (hp : c ∈ t.children p) (hq : c ∈ t.children q) :
    p = q := by
  have h := (mem_children_iff.1 hp).2.symm.trans (mem_children_iff.1 hq).2
  exact Option.some.inj h

theorem ancestors_of_mem_children {p c : NodeId} (h : c ∈ t.children p) :
    t.ancestors c = c :: t.ancestors p := by
  obtain ⟨hlt, hp⟩ := mem_children_iff.1 h
  rw [ancestors, hp]
  exact if_pos hlt

/-- A walk upwards ends where it starts, or goes on from the parent. -/
theorem ancestors_cases (t : Tree) (id : NodeId) :
    t.ancestors id = [id] ∨
      ∃ p, id ∈ t.children p ∧ t.ancestors id = id :: t.ancestors p := by
  cases hp : t.parent? id with
  | none =>
      left
      rw [ancestors, hp]
  | some p =>
      by_cases hlt : p < id
      · have h : id ∈ t.children p := mem_children_iff.2 ⟨hlt, hp⟩
        exact .inr ⟨p, h, ancestors_of_mem_children h⟩
      · left
        rw [ancestors, hp]
        exact if_neg hlt

/-- A number that no node has is that of no declaration. -/
theorem lt_size_of_typeDecl {id : NodeId} {name : String} (h : t.kind id = .typeDecl name) :
    id < t.size := by
  refine Nat.lt_of_not_le fun hle => ?_
  rw [kind, Array.getElem?_eq_none hle] at h
  cases h

/-- A tree with one type declaration. -/
theorem eq_of_only_typeDecl {d id : NodeId} {declared name : String}
    (only : ∀ c < t.size, (t.kind c).isTypeDecl = true → c = d)
    (hd : t.kind d = .typeDecl declared) (h : t.kind id = .typeDecl name) :
    id = d ∧ name = declared := by
  have hkind : (t.kind id).isTypeDecl = true := by
    rw [h]
    rfl
  obtain rfl := only id (lt_size_of_typeDecl h) hkind
  rw [h] at hd
  exact ⟨rfl, NodeKind.typeDecl.inj hd⟩

/-! ## Downwards -/

/-- What stands at `top` or anywhere below it. -/
inductive Below (t : Tree) (top : NodeId) : NodeId → Prop
  | refl : Below t top top
  | child {p c : NodeId} : Below t top p → c ∈ t.children p → Below t top c

/-- A node stands below exactly those nodes that the walk upwards meets. -/
theorem below_iff {top id : NodeId} : t.Below top id ↔ top ∈ t.ancestors id := by
  constructor
  · intro h
    induction h with
    | refl =>
        rcases ancestors_cases t top with h | ⟨p, -, h⟩ <;> rw [h] <;> exact List.mem_cons_self
    | child _ hc ih =>
        rw [ancestors_of_mem_children hc]
        exact List.mem_cons_of_mem _ ih
  · induction id using Nat.strongRecOn with
    | _ id ih =>
        intro h
        rcases ancestors_cases t id with ha | ⟨p, hc, ha⟩ <;> rw [ha] at h
        · rw [List.mem_singleton.1 h]
          exact .refl
        · rcases List.mem_cons.1 h with rfl | h
          · exact .refl
          · exact .child (ih p (mem_children_iff.1 hc).1 h) hc

/-- A walk upwards that meets a node with children starts in the tree. -/
theorem has_of_mem_ancestors {a c id : NodeId} (ha : a ∈ t.ancestors id)
    (hc : c ∈ t.children a) : t.has id = true := by
  refine has_eq_true.2 ?_
  cases below_iff.2 ha with
  | refl => exact Nat.lt_trans (lt_of_mem_children hc).1 (lt_of_mem_children hc).2
  | child _ hid => exact (lt_of_mem_children hid).2

/-- The first step down from `top`, if there is any. -/
theorem Below.first_step {top id : NodeId} (h : t.Below top id) :
    id = top ∨ ∃ c ∈ t.children top, t.Below c id := by
  induction h with
  | refl => exact .inl rfl
  | child hp hc ih =>
      rcases ih with rfl | ⟨d, hd, hb⟩
      · exact .inr ⟨_, hc, .refl⟩
      · exact .inr ⟨d, hd, hb.child hc⟩

/-- What stands below a child stands below its parent. -/
theorem Below.of_child {top c id : NodeId} (hc : c ∈ t.children top) (h : t.Below c id) :
    t.Below top id := by
  induction h with
  | refl => exact .child .refl hc
  | child _ hd ih => exact .child ih hd

/-- Numbers rise on the way down. -/
theorem Below.le {top id : NodeId} (h : t.Below top id) : top ≤ id := by
  induction h with
  | refl => exact Nat.le_refl _
  | child _ hc ih => exact Nat.le_of_lt (Nat.lt_of_le_of_lt ih (lt_of_mem_children hc).1)

/-- Of two nodes that a third stands below, one stands below the other. -/
theorem Below.linear {a b id : NodeId} (ha : t.Below a id) (hb : t.Below b id) :
    t.Below a b ∨ t.Below b a := by
  induction ha with
  | refl => exact .inr hb
  | child hp hc ih =>
      cases hb with
      | refl => exact .inl (hp.child hc)
      | child hq hd =>
          obtain rfl := parent_unique hc hd
          exact ih hq

/-- Nothing stands below two children of one node. -/
theorem Below.sibling_unique {p c d id : NodeId} (hc : c ∈ t.children p) (hd : d ∈ t.children p)
    (hcid : t.Below c id) (hdid : t.Below d id) : c = d := by
  -- a child that stood below its sibling would stand below a node after their parent
  have apart : ∀ {a b : NodeId}, a ∈ t.children p → b ∈ t.children p → t.Below a b → a = b := by
    intro a b ha hb hab
    cases hab with
    | refl => rfl
    | child hq hbq =>
        obtain rfl := parent_unique hb hbq
        exact absurd hq.le (Nat.not_le_of_lt (lt_of_mem_children ha).1)
  rcases hcid.linear hdid with h | h
  · exact apart hc hd h
  · exact (apart hd hc h).symm

/-! ## Where expressions stand -/

/-- Whether node `p` has room for an expression as its child `c`. -/
def holdsExpression (t : Tree) (p c : NodeId) : Bool :=
  match t.kind p with
  | .expressionStatement | .call | .creation _ => true
  | .localVar _ _ | .returnStatement | .fieldAccess _ => (t.children p).head? == some c
  | .assignment => (t.children p).length == 2
  | _ => false

/-- Nothing but expressions stands below expressions, and expressions stand only where their
parent has room for them. -/
structure WellShaped (t : Tree) : Prop where
  within : ∀ p < t.size, ∀ c ∈ t.children p,
    (t.kind p).isExpression = true → (t.kind c).isExpression = true
  placed : ∀ p < t.size, ∀ c ∈ t.children p,
    (t.kind c).isExpression = true → t.holdsExpression p c = true

instance (t : Tree) : Decidable t.WellShaped :=
  decidable_of_iff ((∀ p < t.size, ∀ c ∈ t.children p,
      (t.kind p).isExpression = true → (t.kind c).isExpression = true) ∧
    ∀ p < t.size, ∀ c ∈ t.children p,
      (t.kind c).isExpression = true → t.holdsExpression p c = true)
    ⟨fun h => ⟨h.1, h.2⟩, fun h => ⟨h.within, h.placed⟩⟩

/-- A node with children is a node of the tree. -/
theorem lt_size_of_mem_children {p c : NodeId} (h : c ∈ t.children p) : p < t.size :=
  Nat.lt_trans (lt_of_mem_children h).1 (lt_of_mem_children h).2

/-- All that stands below an expression is part of it. -/
theorem WellShaped.isExpression_of_below (shaped : t.WellShaped) {e id : NodeId}
    (he : (t.kind e).isExpression = true) (h : t.Below e id) :
    (t.kind id).isExpression = true := by
  induction h with
  | refl => exact he
  | child _ hc ih => exact shaped.within _ (lt_size_of_mem_children hc) _ hc ih

/-- The callee of a call. -/
def IsCallee (t : Tree) (e : NodeId) : Prop :=
  ∃ call, t.kind call = .call ∧ (t.children call).head? = some e

/-- The target of an assignment. -/
def IsTarget (t : Tree) (e : NodeId) : Prop :=
  ∃ assignment, t.kind assignment = .assignment ∧ (t.children assignment).head? = some e

/-! ## Trees written out -/

/-- The tree of a file with the given namespace, its other nodes listed with their parents. -/
def ofListing (space : String) (nodes : List (NodeId × NodeKind)) : Tree :=
  ⟨(⟨.file space, none, default⟩ ::
    nodes.map fun (parent, kind) => ⟨kind, some parent, default⟩).toArray⟩

/-- The same with every node on a line of its own. -/
def ofLines (space : String) (nodes : List (NodeId × NodeKind)) : Tree :=
  ⟨((⟨.file space, none, .ofLine 0 0 80⟩ : Node) ::
    nodes.zipIdx.map fun ((parent, kind), i) =>
      ⟨kind, some parent, .ofLine (i + 1) 0 80⟩).toArray⟩

end JvmScope.Tree
