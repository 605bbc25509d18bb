import JvmScope.Proofs.Outcome
import JvmScope.Proofs.Program.Below
import JvmScope.Resolution.Check
import Mathlib.Data.List.Nodup
import Mathlib.Data.List.Forall2

/-!
# Checks in document order

`Tree.documentOrder` lists what a check has to visit by recursion over the tree: a node, and then
what its children contribute, one after the other, expressions apart. The check itself keeps a
list of pending nodes and puts the children of a node in front. The two meet in an invariant:
what a check has yet to visit is the document order of the pending nodes, one after the other
(`runPending_eq_runEach`).

`Resolver.run` is the check with everything in view that it does: what it hands to a collector,
which nodes it checks and how many mistakes it counts. `run_follows_documentOrder` says what
these are, for every program and every node to start from.
-/

namespace JvmScope

/-! ## The order -/

namespace Tree

variable {t : Tree} {id : NodeId}

/-- A node and all that a check visits below it, from the top down and in the order of the
children. -/
def documentOrder (t : Tree) (id : NodeId) : List NodeId :=
  id :: (t.nonExpressions id).attach.flatMap fun c => t.documentOrder c.1
termination_by t.size - id
decreasing_by
  obtain ⟨hlt, hsize⟩ := lt_of_mem_children (List.mem_filter.1 c.2).1
  exact Nat.sub_lt_sub_left (Nat.lt_trans hlt hsize) hlt

theorem documentOrder_eq (t : Tree) (id : NodeId) :
    t.documentOrder id = id :: (t.nonExpressions id).flatMap t.documentOrder := by
  rw [documentOrder, List.flatMap_subtype fun c _ => rfl, List.unattach_attach]

/-- A node leaves a list of pending nodes together with the head of what is yet to be visited. -/
theorem flatMap_documentOrder_cons (t : Tree) (id : NodeId) (pending : List NodeId) :
    (id :: pending).flatMap t.documentOrder =
      id :: (t.nonExpressions id ++ pending).flatMap t.documentOrder := by
  rw [List.flatMap_cons, documentOrder_eq, List.flatMap_append]
  rfl

theorem mem_children_of_mem_nonExpressions {c : NodeId} (h : c ∈ t.nonExpressions id) :
    c ∈ t.children id := (List.mem_filter.1 h).1

/-- A check visits nothing but what stands below the node it starts from. -/
theorem below_of_mem_documentOrder {top : NodeId} (h : id ∈ t.documentOrder top) :
    t.Below top id := by
  induction top using documentOrder.induct (t := t) with
  | case1 top ih =>
      rw [documentOrder_eq] at h
      rcases List.mem_cons.1 h with rfl | h
      · exact .refl
      · obtain ⟨c, hc, hid⟩ := List.mem_flatMap.1 h
        exact .of_child (mem_children_of_mem_nonExpressions hc) (ih ⟨c, hc⟩ hid)

/-- No node is visited twice: siblings have nothing in common below them. -/
theorem nodup_documentOrder (t : Tree) (id : NodeId) : (t.documentOrder id).Nodup := by
  induction id using documentOrder.induct (t := t) with
  | case1 id ih =>
      rw [documentOrder_eq, List.nodup_cons, List.nodup_flatMap]
      refine ⟨?_, ?_, ?_⟩
      · intro h
        obtain ⟨c, hc, hid⟩ := List.mem_flatMap.1 h
        have hle := (below_of_mem_documentOrder hid).le
        have hlt := (lt_of_mem_children (mem_children_of_mem_nonExpressions hc)).1
        exact absurd hlt (Nat.not_lt_of_le hle)
      · intro c hc
        exact ih ⟨c, hc⟩
      · have order : (t.nonExpressions id).Pairwise (· < ·) := (children_pairwise t id).filter _
        refine order.imp_of_mem ?_
        intro c d hc hd hlt n hnc hnd
        have same := Below.sibling_unique (mem_children_of_mem_nonExpressions hc)
          (mem_children_of_mem_nonExpressions hd) (below_of_mem_documentOrder hnc)
          (below_of_mem_documentOrder hnd)
        exact absurd hlt (same ▸ Nat.lt_irrefl c)

end Tree

/-! ## Mistakes of single nodes -/

/-- An error that is reported has a place of its own. -/
theorem ResolveError.exists_range_of_isRecoverable {e : ResolveError}
    (h : e.isRecoverable = true) : ∃ range, e.range? = some range := by
  cases e with
  | unresolved name range => exact ⟨range, rfl⟩
  | semantic range cause => exact ⟨range, rfl⟩
  | invalid => cases h
  | provider => cases h
  | noSuchNode => cases h

/-- A check that notes a mistake comes to its end if the rest of it does. -/
theorem Report.result_of_noting {report : Report} {d : Diagnostic} {k : Nat}
    (h : (report.noting d).result = .ok k) : ∃ n, report.result = .ok n := by
  unfold Report.result Report.noting at h
  unfold Report.result
  cases hstopped : report.stopped with
  | none => exact ⟨_, rfl⟩
  | some e =>
      rw [hstopped] at h
      cases h

namespace Resolver

variable {r : Resolver} {id : NodeId}

/-- Whether a node fails its check. -/
def fails (r : Resolver) (id : NodeId) : Bool := !(r.checkNode id).isOk

/-- The check goes on after the node, whether or not there is a mistake in it. -/
def GoesOn (r : Resolver) (id : NodeId) : Prop :=
  ∀ e, r.checkNode id = .error e → e.isRecoverable = true

/-- The node fails with an error of this place and text. -/
def NotedAs (r : Resolver) (id : NodeId) (d : Diagnostic) : Prop :=
  ∃ e, r.checkNode id = .error e ∧ e.range? = some d.range ∧ e.message = d.message

/-- The mistake that is noted for a node. -/
def mistake? (r : Resolver) (id : NodeId) : Option Diagnostic :=
  match r.checkNode id with
  | .ok () => none
  | .error e => e.range?.map fun range => ⟨range, e.message⟩

theorem mistake?_of_ok (h : r.checkNode id = .ok ()) : r.mistake? id = none := by
  unfold mistake?
  rw [h]

/-- The mistake of a node that fails has the place and the text of the error. -/
theorem mistake?_of_error {e : ResolveError} (h : r.checkNode id = .error e)
    (recoverable : e.isRecoverable = true) :
    ∃ range, e.range? = some range ∧ r.mistake? id = some ⟨range, e.message⟩ := by
  obtain ⟨range, hrange⟩ := ResolveError.exists_range_of_isRecoverable recoverable
  refine ⟨range, hrange, ?_⟩
  unfold mistake?
  rw [h]
  show e.range?.map _ = _
  rw [hrange]
  rfl

/-- One mistake is noted for every node that fails. -/
theorem forall₂_mistakes {ids : List NodeId} (h : ∀ id ∈ ids, r.GoesOn id) :
    List.Forall₂ r.NotedAs (ids.filter r.fails) (ids.filterMap r.mistake?) := by
  induction ids with
  | nil => exact .nil
  | cons id rest ih =>
      have hrest := ih fun n hn => h n (List.mem_cons_of_mem _ hn)
      cases hcheck : r.checkNode id with
      | ok u =>
          have passes : ¬r.fails id = true := by simp [fails, hcheck, Except.isOk, Except.toBool]
          rw [List.filter_cons_of_neg passes, List.filterMap_cons_none (mistake?_of_ok hcheck)]
          exact hrest
      | error e =>
          have fails : r.fails id = true := by simp [fails, hcheck, Except.isOk, Except.toBool]
          obtain ⟨range, hrange, hnoted⟩ :=
            mistake?_of_error hcheck (h id List.mem_cons_self e hcheck)
          rw [List.filter_cons_of_pos fails, List.filterMap_cons_some hnoted]
          exact .cons ⟨e, hcheck, hrange, rfl⟩ hrest

/-- A check that comes to its end reports the mistakes of what it has visited, in order. -/
theorem diagnostics_of_checkPending {pending : List NodeId} {k : Nat}
    (h : (r.checkPending pending).result = .ok k) :
    (r.checkPending pending).diagnostics =
      (pending.flatMap r.tree.documentOrder).filterMap r.mistake? := by
  fun_induction checkPending r pending generalizing k with
  | case1 => rfl
  | case2 id pending passed ih =>
      rw [Tree.flatMap_documentOrder_cons, List.filterMap_cons_none (mistake?_of_ok passed)]
      exact ih h
  | case3 id pending e failed recoverable ih =>
      obtain ⟨range, hrange, hnoted⟩ := mistake?_of_error failed recoverable
      rw [Tree.flatMap_documentOrder_cons, List.filterMap_cons_some hnoted, hrange]
      obtain ⟨n, hn⟩ := Report.result_of_noting h
      exact congrArg (_ :: ·) (ih hn)
  | case4 id pending e failed fatal => cases h

theorem diagnostics_of_check {root : NodeId} {k : Nat} (h : (r.check root).result = .ok k) :
    (r.check root).diagnostics = (r.tree.documentOrder root).filterMap r.mistake? := by
  have diagnostics := diagnostics_of_checkPending h
  rw [List.flatMap_singleton] at diagnostics
  exact diagnostics

/-- A check that comes to its end has gone on after every node that it has visited. -/
theorem goesOn_of_checkPending {pending : List NodeId} {k : Nat}
    (h : (r.checkPending pending).result = .ok k) :
    ∀ id ∈ pending.flatMap r.tree.documentOrder, r.GoesOn id := by
  fun_induction checkPending r pending generalizing k with
  | case1 =>
      intro id hid
      cases hid
  | case2 first pending passed ih =>
      rw [Tree.flatMap_documentOrder_cons]
      intro id hid
      rcases List.mem_cons.1 hid with rfl | hid
      · intro e failed
        rw [passed] at failed
        cases failed
      · exact ih h id hid
  | case3 first pending e failed recoverable ih =>
      obtain ⟨n, hn⟩ := Report.result_of_noting h
      rw [Tree.flatMap_documentOrder_cons]
      intro id hid
      rcases List.mem_cons.1 hid with rfl | hid
      · intro e' failed'
        obtain rfl := Except.error.inj (failed.symm.trans failed')
        exact recoverable
      · exact ih hn id hid
  | case4 first pending e failed fatal => cases h

theorem goesOn_of_check {root : NodeId} {k : Nat} (h : (r.check root).result = .ok k) :
    ∀ id ∈ r.tree.documentOrder root, r.GoesOn id := by
  intro id hid
  refine goesOn_of_checkPending h id ?_
  rw [List.flatMap_singleton]
  exact hid

end Resolver

/-! ## Runs -/

/-- What a check has done in the end. -/
structure CheckRun where
  /-- The content of the collector. -/
  collected : List Diagnostic
  /-- The nodes that were checked, in order. -/
  checked : List NodeId
  /-- The number of mistakes that were counted, or the error that ended the check. -/
  result : Except ResolveError Nat

namespace Resolver

/-- Checks nodes and what is below them, and keeps account of it. -/
def runPending (r : Resolver) (pending : List NodeId) (collected : List Diagnostic)
    (checked : List NodeId) (count : Nat) : CheckRun :=
  match pending with
  | [] => ⟨collected, checked, .ok count⟩
  | id :: pending =>
    match r.checkNode id with
    | .ok () =>
      r.runPending (r.tree.nonExpressions id ++ pending) collected (checked ++ [id]) count
    | .error e =>
      if e.isRecoverable then
        r.runPending (r.tree.nonExpressions id ++ pending)
          (collected ++ [⟨e.range?.getD (r.tree.range id), e.message⟩]) (checked ++ [id])
          (count + 1)
      else ⟨collected, checked ++ [id], .error e⟩
termination_by r.tree.workload pending
decreasing_by all_goals exact r.tree.workload_nonExpressions_lt id pending

/-- A check of a node and what is below it, with a collector that may hold something already. -/
def run (r : Resolver) (root : NodeId) (content : List Diagnostic) : CheckRun :=
  r.runPending [root] content [] 0

/-- Checks nodes one after the other, and nothing below them. -/
def runEach (r : Resolver) (collected : List Diagnostic) (checked : List NodeId) (count : Nat) :
    List NodeId → CheckRun
  | [] => ⟨collected, checked, .ok count⟩
  | id :: rest =>
    match r.checkNode id with
    | .ok () => r.runEach collected (checked ++ [id]) count rest
    | .error e =>
      if e.isRecoverable then
        r.runEach (collected ++ [⟨e.range?.getD (r.tree.range id), e.message⟩]) (checked ++ [id])
          (count + 1) rest
      else ⟨collected, checked ++ [id], .error e⟩

variable {r : Resolver} {pending ids : List NodeId} {collected : List Diagnostic}
  {checked : List NodeId} {count : Nat}

/-- The account agrees with the report: the collector is given the mistakes of the report, and
they are counted. -/
theorem runPending_report (r : Resolver) (pending : List NodeId) (collected : List Diagnostic)
    (checked : List NodeId) (count : Nat) :
    (r.runPending pending collected checked count).collected =
        collected ++ (r.checkPending pending).diagnostics ∧
      (r.runPending pending collected checked count).result =
        (count + ·) <$> (r.checkPending pending).result := by
  fun_induction checkPending r pending generalizing collected checked count with
  | case1 =>
      rw [runPending]
      simp [Report.clean, Report.result, Functor.map, Except.map]
  | case2 id pending passed ih =>
      rw [runPending]
      simp only [passed]
      exact ih collected (checked ++ [id]) count
  | case3 id pending e failed recoverable ih =>
      obtain ⟨hcollected, hresult⟩ :=
        ih (collected ++ [⟨e.range?.getD (r.tree.range id), e.message⟩]) (checked ++ [id])
          (count + 1)
      rw [runPending]
      simp only [failed, recoverable, if_true]
      refine ⟨?_, ?_⟩
      · rw [hcollected, Report.noting, List.append_assoc]
        rfl
      · rw [hresult]
        unfold Report.noting Report.result
        cases (r.checkPending (r.tree.nonExpressions id ++ pending)).stopped with
        | some e => rfl
        | none =>
            refine congrArg Except.ok ?_
            show count + 1 + _ = count + (_ + 1)
            omega
  | case4 id pending e failed fatal =>
      rw [runPending]
      simp [failed, fatal, Report.result, Functor.map, Except.map]

/-- What is yet to be visited is the document order of the pending nodes. -/
theorem runPending_eq_runEach :
    r.runPending pending collected checked count =
      r.runEach collected checked count (pending.flatMap r.tree.documentOrder) := by
  fun_induction runPending r pending collected checked count with
  | case1 => rfl
  | case2 collected checked count id pending passed ih =>
      rw [Tree.flatMap_documentOrder_cons, runEach, passed]
      exact ih
  | case3 collected checked count id pending e failed recoverable ih =>
      rw [Tree.flatMap_documentOrder_cons, runEach, failed]
      simp only [recoverable, if_true]
      exact ih
  | case4 collected checked count id pending e failed fatal =>
      rw [Tree.flatMap_documentOrder_cons, runEach, failed]
      simp [fatal]

/-- Nodes after which the check goes on are checked, and their mistakes noted. -/
theorem runEach_append (h : ∀ id ∈ ids, r.GoesOn id) (rest : List NodeId)
    (collected : List Diagnostic) (checked : List NodeId) (count : Nat) :
    r.runEach collected checked count (ids ++ rest) =
      r.runEach (collected ++ ids.filterMap r.mistake?) (checked ++ ids)
        (count + (ids.filterMap r.mistake?).length) rest := by
  induction ids generalizing collected checked count with
  | nil => simp
  | cons id ids ih =>
      have hids : ∀ n ∈ ids, r.GoesOn n := fun n hn => h n (List.mem_cons_of_mem _ hn)
      rw [List.cons_append, runEach]
      cases hcheck : r.checkNode id with
      | ok u =>
          rw [List.filterMap_cons_none (mistake?_of_ok hcheck)]
          show r.runEach collected (checked ++ [id]) count (ids ++ rest) = _
          rw [ih hids, List.append_assoc]
          rfl
      | error e =>
          have recoverable := h id List.mem_cons_self e hcheck
          obtain ⟨range, hrange, hnoted⟩ := mistake?_of_error hcheck recoverable
          rw [List.filterMap_cons_some hnoted]
          simp only [recoverable, if_true, hrange, Option.getD_some]
          rw [ih hids, List.append_assoc, List.append_assoc, List.length_cons, Nat.add_assoc,
            Nat.add_comm 1]
          rfl

/-- A run checks the document order of the node it starts from, every node once, and up to the
first error that ends it. It notes one mistake for every node that fails before, and counts
them. -/
theorem run_follows_documentOrder (r : Resolver) (root : NodeId) (content : List Diagnostic) :
    (r.tree.documentOrder root).Nodup ∧
      (r.run root content).collected = content ++ (r.check root).diagnostics ∧
      (r.run root content).result = (r.check root).result ∧
      ((∀ id ∈ r.tree.documentOrder root, r.GoesOn id) ∧
          (∃ noted, List.Forall₂ r.NotedAs ((r.tree.documentOrder root).filter r.fails) noted ∧
            r.run root content =
              ⟨content ++ noted, r.tree.documentOrder root, .ok noted.length⟩) ∨
        ∃ front id back e, r.tree.documentOrder root = front ++ id :: back ∧
          (∀ n ∈ front, r.GoesOn n) ∧ r.checkNode id = .error e ∧ e.isRecoverable = false ∧
          ∃ noted, List.Forall₂ r.NotedAs (front.filter r.fails) noted ∧
            r.run root content = ⟨content ++ noted, front ++ [id], .error e⟩) := by
  have report := runPending_report r [root] content [] 0
  have order : r.run root content =
      r.runEach content [] 0 (r.tree.documentOrder root) := by
    unfold run
    rw [runPending_eq_runEach, List.flatMap_singleton]
  refine ⟨r.tree.nodup_documentOrder root, report.1, ?_, ?_⟩
  · refine report.2.trans ?_
    show _ = (r.checkPending [root]).result
    cases (r.checkPending [root]).result with
    | error e => rfl
    | ok n => exact congrArg Except.ok (Nat.zero_add n)
  · by_cases all : ∀ id ∈ r.tree.documentOrder root, r.GoesOn id
    · refine .inl ⟨all, _, forall₂_mistakes all, ?_⟩
      have passed := runEach_append all [] content [] 0
      rw [List.append_nil, List.nil_append, Nat.zero_add] at passed
      rw [order, passed]
      rfl
    · obtain ⟨front, id, back, hsplit, hfront, hid⟩ := exists_first_not all
      obtain ⟨e, he, fatal⟩ : ∃ e, r.checkNode id = .error e ∧ e.isRecoverable = false := by
        unfold GoesOn at hid
        push Not at hid
        obtain ⟨e, he, fatal⟩ := hid
        exact ⟨e, he, Bool.eq_false_iff.2 fatal⟩
      refine .inr ⟨front, id, back, e, hsplit, hfront, he, fatal, _, forall₂_mistakes hfront, ?_⟩
      rw [order, hsplit, runEach_append hfront, runEach, he]
      simp [fatal]

end Resolver

end JvmScope
