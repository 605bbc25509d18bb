import JvmScope.Proofs.Resolution.ErrorPlaces
import Mathlib.Data.List.TakeWhile

/-!
# The order in which binders are asked

A name is looked up scope by scope, and in every scope child by child. `Tree.visible` is the list
of all nodes that are asked for it, one after the other. Whether a node binds a name is a matter
of what stands at it (`Tree.binds`), and the first node that does decides the lookup
(`TypeScope.findSymbol_of_first`).
-/

namespace JvmScope

namespace Tree

/-- The nodes that may bind a name in the innermost of some scopes, nearest first. -/
def bindersAlong (t : Tree) (cameFrom : Option NodeId) : (scopes : List NodeId) → List NodeId
  | [] => []
  | scope :: outer => t.binders scope cameFrom ++ t.bindersAlong (some scope) outer

/-- The nodes that are asked for a name at a node, in this order. -/
def visible (t : Tree) (context : NodeId) : List NodeId :=
  t.bindersAlong none (t.ancestors context)

/-- The nodes that are asked for a name at `context` before `id` is. -/
def askedBefore (t : Tree) (context id : NodeId) : List NodeId :=
  (t.visible context).takeWhile (· != id)

/-- Whether a node binds a name in the place of a value. -/
def binds (t : Tree) (name : String) (id : NodeId) : Bool :=
  match t.kind id with
  | .parameter n _ | .localVar n _ | .property n _ | .function n _ => n == name
  | .importDecl (.staticMember _ member renamed) => renamed.getD member == name
  | _ => false

variable {t : Tree} {context id : NodeId}

theorem has_of_mem_bindersAlong {cameFrom : Option NodeId} {scopes : List NodeId}
    (h : id ∈ t.bindersAlong cameFrom scopes) : t.has id = true := by
  induction scopes generalizing cameFrom with
  | nil => cases h
  | cons scope outer ih =>
      rcases List.mem_append.1 h with here | outside
      · exact has_of_mem_children (mem_children_of_mem_binders here)
      · exact ih outside

theorem bindersAlong_append (t : Tree) (cameFrom : Option NodeId) (inner : List NodeId)
    (scope : NodeId) (outer : List NodeId) :
    t.bindersAlong cameFrom (inner ++ scope :: outer) =
      t.bindersAlong cameFrom inner ++
        (t.binders scope (inner.getLast?.or cameFrom) ++ t.bindersAlong (some scope) outer) := by
  induction inner generalizing cameFrom with
  | nil => simp [bindersAlong]
  | cons i inner ih =>
      rw [List.cons_append, bindersAlong, bindersAlong, ih, List.getLast?_cons]
      cases inner.getLast? <;> simp

/-- What is asked along the way is asked by one of the scopes. -/
theorem exists_split_of_mem_bindersAlong {cameFrom : Option NodeId} {scopes : List NodeId}
    (h : id ∈ t.bindersAlong cameFrom scopes) :
    ∃ front scope back, scopes = front ++ scope :: back ∧
      id ∈ t.binders scope (front.getLast?.or cameFrom) := by
  induction scopes generalizing cameFrom with
  | nil => exact absurd h List.not_mem_nil
  | cons i scopes ih =>
      rcases List.mem_append.1 h with here | outside
      · exact ⟨[], i, scopes, rfl, here⟩
      · obtain ⟨front, scope, back, rfl, asked⟩ := ih outside
        refine ⟨i :: front, scope, back, rfl, ?_⟩
        rw [List.getLast?_cons]
        cases hlast : front.getLast? <;> simpa [hlast] using asked

theorem ne_of_mem_askedBefore {c : NodeId} (h : c ∈ t.askedBefore context id) : c ≠ id := by
  have differs := List.mem_takeWhile_imp h
  simpa using differs

theorem askedBefore_prefix (t : Tree) (context id : NodeId) :
    t.askedBefore context id <+: t.visible context := List.takeWhile_prefix _

theorem askedBefore_of_notMem (h : id ∉ t.visible context) :
    t.askedBefore context id = t.visible context := by
  refine List.takeWhile_eq_self_iff.2 fun c hc => ?_
  have differs : c ≠ id := fun same => h (same ▸ hc)
  simpa using differs

theorem visible_of_mem (h : id ∈ t.visible context) :
    ∃ back, t.visible context = t.askedBefore context id ++ id :: back := by
  obtain ⟨front, back, split, fresh⟩ := List.eq_append_cons_of_mem h
  have before : t.askedBefore context id = front := by
    have others : ∀ c ∈ front, (c != id) = true := by
      intro c hc
      have differs : c ≠ id := fun same => fresh (same ▸ hc)
      simpa using differs
    unfold askedBefore
    rw [split, List.takeWhile_append_of_pos others, List.takeWhile_cons_of_neg (by simp),
      List.append_nil]
  exact ⟨back, before.symm ▸ split⟩

end Tree

namespace TypeScope

variable {s : TypeScope} {name : String} {context id : NodeId} {front back : List NodeId}

/-- The import of a static member binds one name, and to bind it, the member has to be there. -/
theorem symbolAt_of_staticImport {type member : String} {renamed : Option String}
    (hk : s.tree.kind id = .importDecl (.staticMember type member renamed)) :
    s.symbolAt name id =
      if renamed.getD member = name then do
        let owner ← s.staticOwner type member (s.tree.range id)
        pure (some (.staticMember owner member))
      else pure none := by
  unfold symbolAt
  rw [hk]
  simp only [Import.localName?, Option.some.injEq]

/-- A node that does not bind the name is passed over. -/
theorem symbolAt_none_iff : s.symbolAt name id = .ok none ↔ s.tree.binds name id = false := by
  cases hk : s.tree.kind id with
  | importDecl what =>
      cases what with
      | staticMember type member renamed =>
          rw [symbolAt_of_staticImport hk]
          unfold Tree.binds
          rw [hk]
          by_cases own : renamed.getD member = name
          · rw [if_pos own]
            refine iff_of_false (fun h => ?_) (by simp [own])
            obtain ⟨owner, -, h⟩ := bind_ok_iff.1 h
            cases h
          · rw [if_neg own]
            exact iff_of_true rfl (by simpa using own)
      | _ => simp [symbolAt, Tree.binds, hk]
  | _ => simp [symbolAt, Tree.binds, hk]

/-- Scopes are searched as one list of nodes. -/
theorem symbolAmong_eq (s : TypeScope) (name : String) (cameFrom : Option NodeId)
    (scopes : List NodeId) :
    s.symbolAmong name cameFrom scopes =
      (s.tree.bindersAlong cameFrom scopes).findSomeM? (s.symbolAt name) := by
  induction scopes generalizing cameFrom with
  | nil => rfl
  | cons scope outer ih =>
      unfold symbolAmong Tree.bindersAlong
      rw [findSomeM?_append, ← ih]
      refine bind_congr fun found => ?_
      cases found with
      | some symbol => rfl
      | none => rfl

/-- A name that no node binds denotes nothing. -/
theorem findSymbol_of_unbound (here : s.tree.has context = true)
    (unbound : ∀ c ∈ s.tree.visible context, s.tree.binds name c = false) :
    s.findSymbol name context = .error (.unresolved name (s.tree.range context)) := by
  have silent : s.symbolAmong name none (s.tree.ancestors context) = .ok none := by
    rw [symbolAmong_eq]
    exact findSomeM?_none_iff.2 fun c hc => symbolAt_none_iff.2 (unbound c hc)
  unfold findSymbol
  rw [bind_of_ok (requireNode_ok_iff.2 here), bind_of_ok silent]
  rfl

/-- The first node that binds the name decides what it denotes, or fails. -/
theorem findSymbol_of_first (here : s.tree.has context = true)
    (split : s.tree.visible context = front ++ id :: back)
    (unbound : ∀ c ∈ front, s.tree.binds name c = false) :
    (∀ symbol, s.symbolAt name id = .ok (some symbol) →
        s.findSymbol name context = .ok symbol) ∧
      ∀ e, s.symbolAt name id = .error e → s.findSymbol name context = .error e := by
  have search : s.symbolAmong name none (s.tree.ancestors context) =
      (id :: back).findSomeM? (s.symbolAt name) := by
    rw [symbolAmong_eq]
    show (s.tree.visible context).findSomeM? (s.symbolAt name) = _
    rw [split]
    exact findSomeM?_append_of_none fun c hc => symbolAt_none_iff.2 (unbound c hc)
  unfold findSymbol
  rw [bind_of_ok (requireNode_ok_iff.2 here), search]
  constructor
  · intro symbol found
    rw [bind_of_ok (findSomeM?_cons_of_some found)]
    rfl
  · intro e failed
    exact bind_of_error (findSomeM?_cons_of_error failed)

/-- Where a node that is asked before `id` binds the name, such a node decides. -/
theorem findSymbol_of_bound_before (here : s.tree.has context = true)
    (bound : ¬∀ c ∈ s.tree.askedBefore context id, s.tree.binds name c = false) :
    (∃ symbol, s.findSymbol name context = .ok symbol) ∨
      ∃ c ∈ s.tree.askedBefore context id, ∃ e, s.symbolAt name c = .error e ∧
        s.findSymbol name context = .error e := by
  -- Only the first of the binders counts, whether or not there are more of them before `id`.
  obtain ⟨front, first, back, split, unbound, binds⟩ := exists_first_not bound
  obtain ⟨rest, hrest⟩ := s.tree.askedBefore_prefix context id
  have visible : s.tree.visible context = front ++ first :: (back ++ rest) := by
    rw [← hrest, split, List.append_assoc, List.cons_append]
  obtain ⟨answers, fails⟩ := findSymbol_of_first here visible unbound
  cases hfirst : s.symbolAt name first with
  | error e =>
      refine .inr ⟨first, ?_, e, hfirst, fails e hfirst⟩
      rw [split]
      exact List.mem_append_right _ List.mem_cons_self
  | ok found =>
      cases found with
      | none => exact absurd (symbolAt_none_iff.1 hfirst) binds
      | some symbol => exact .inl ⟨symbol, answers symbol hfirst⟩

end TypeScope

end JvmScope
