import JvmScope.Proofs.Program.Below
import JvmScope.Proofs.Resolution.Parts
import JvmScope.Resolution.Check

/-!
# Checks that find nothing

A check visits statements and declarations only and leaves expressions to the statement they
stand in. `resolved_of_check` says that nothing escapes for that reason: after a check without a
mistake every call and every creation below the start is resolved and every expression there has
a type, callees and targets apart, which need none.

The proof goes down the tree. The invariant is `Settled`: a node has a type, or it stands in the
place of a callee or target and is `Reached`. A statement that passes its check settles its
expressions (`settled_of_checkNode`), and a settled expression settles its parts
(`settled_of_settled`).
-/

namespace JvmScope.Resolver

variable {r : Resolver}

/-! ## Every statement passes -/

/-- If nothing is noted and nothing stops the check, every node that is no expression passes,
however deep it stands below the nodes that were pending. -/
theorem checkNode_of_checkPending (shaped : r.tree.WellShaped) {pending : List NodeId}
    (clean : (r.checkPending pending).result = .ok 0) {top : NodeId} (htop : top ∈ pending)
    {id : NodeId} (below : r.tree.Below top id)
    (hid : (r.tree.kind id).isExpression = false) : r.checkNode id = .ok () := by
  fun_induction checkPending r pending generalizing top with
  | case1 => exact absurd htop List.not_mem_nil
  | case2 first pending passed ih =>
      rcases List.mem_cons.1 htop with rfl | htop
      · rcases below.first_step with rfl | ⟨c, hc, below⟩
        · exact passed
        · -- the first step down cannot lead into an expression, which `id` would be part of
          have hkind : (r.tree.kind c).isExpression = false := by
            by_contra hexpr
            have := shaped.isExpression_of_below (Bool.of_not_eq_false hexpr) below
            rw [hid] at this
            exact Bool.false_ne_true this
          have hnext : c ∈ r.tree.nonExpressions top := by
            simp [Tree.nonExpressions, hc, hkind]
          exact ih clean (List.mem_append_left _ hnext) below
      · exact ih clean (List.mem_append_right _ htop) below
  | case3 first pending e failed recoverable ih =>
      unfold Report.noting Report.result at clean
      split at clean
      · simp at clean
      · cases clean
  | case4 first pending e failed fatal => cases clean

/-! ## Statements settle their expressions -/

/-- A type is known, or the node stands where none is needed and its own parts have types. -/
def Settled (r : Resolver) (e : NodeId) : Prop :=
  (∃ t, r.typeOf e = .ok t) ∨
    (r.tree.IsCallee e ∨ r.tree.IsTarget e) ∧ r.Reached r.typeOf e

theorem typed_of_checkExpressions {es : List NodeId} (h : checkExpressionsBy r.typeOf es = .ok ())
    {e : NodeId} (he : e ∈ es) : ∃ t, r.typeOf e = .ok t := by
  induction es with
  | nil => exact absurd he List.not_mem_nil
  | cons first rest ih =>
      obtain ⟨t, ht, hrest⟩ := bind_ok_iff.1 h
      rcases List.mem_cons.1 he with rfl | he
      · exact ⟨t, ht⟩
      · exact ih hrest he

theorem typed_of_checkLocal {type : Option TypeRef} {id e : NodeId}
    (h : r.checkLocalBy r.typeOf type id = .ok ()) (he : (r.tree.children id).head? = some e) :
    ∃ t, r.typeOf e = .ok t := by
  unfold checkLocalBy at h
  rw [he] at h
  cases type with
  | none =>
      obtain ⟨t, ht, -⟩ := bind_ok_iff.1 h
      exact ⟨t, ht⟩
  | some type =>
      obtain ⟨_, -, h⟩ := bind_ok_iff.1 h
      obtain ⟨t, ht, -⟩ := bind_ok_iff.1 h
      exact ⟨t, ht⟩

theorem typed_of_checkReturn {id e : NodeId} (h : r.checkReturnBy r.typeOf id = .ok ())
    (he : (r.tree.children id).head? = some e) : ∃ t, r.typeOf e = .ok t := by
  unfold checkReturnBy at h
  split at h
  · exact (throw_ok_iff.1 h).elim
  · obtain ⟨expected, -, h⟩ := bind_ok_iff.1 h
    simp only [he] at h
    by_cases hvoid : expected.isVoid = true
    · rw [if_pos hvoid] at h
      exact (throw_ok_iff.1 h).elim
    · rw [if_neg hvoid] at h
      obtain ⟨t, ht, -⟩ := bind_ok_iff.1 h
      exact ⟨t, ht⟩

theorem reached_of_writableType {target : NodeId} {t : TypeUsage}
    (h : r.writableType target = .ok t) : r.Reached r.typeOf target := by
  unfold writableType writableTypeBy at h
  unfold Reached
  cases hk : r.tree.kind target with
  | valueRef | staticFieldAccess => trivial
  | fieldAccess name =>
      simp only [hk] at h
      obtain ⟨s, hs, h⟩ := bind_ok_iff.1 h
      obtain ⟨u, hu, -⟩ := bind_ok_iff.1 h
      exact ⟨s, subject_ok_iff.1 hs, u, hu⟩
  | _ =>
      simp only [hk] at h
      exact (throw_ok_iff.1 h).elim

/-- An assignment that passes has a target that can be written to and a typed value. -/
theorem parts_of_checkAssignment {id : NodeId} (h : r.checkAssignment id = .ok ()) :
    ∃ target value, r.tree.children id = [target, value] ∧ r.Reached r.typeOf target ∧
      ∃ t, r.typeOf value = .ok t := by
  obtain ⟨_, -, h⟩ := bind_ok_iff.1 h
  split at h
  · rename_i target value hc
    obtain ⟨_, htarget, h⟩ := bind_ok_iff.1 h
    obtain ⟨t, ht, -⟩ := bind_ok_iff.1 h
    exact ⟨target, value, hc, reached_of_writableType htarget, t, ht⟩
  · exact (throw_ok_iff.1 h).elim

/-- A statement that passes its check settles the expressions that stand in it. -/
theorem settled_of_checkNode {p c : NodeId} (h : r.checkNode p = .ok ())
    (hp : (r.tree.kind p).isExpression = false) (hc : c ∈ r.tree.children p)
    (room : r.tree.holdsExpression p c = true) : r.Settled c := by
  unfold checkNode checkNodeBy at h
  obtain ⟨_, -, h⟩ := bind_ok_iff.1 h
  unfold Tree.holdsExpression at room
  cases hk : r.tree.kind p with
  | expressionStatement =>
      simp only [hk] at h
      exact .inl (typed_of_checkExpressions h hc)
  | localVar name type =>
      simp only [hk, beq_iff_eq] at h room
      exact .inl (typed_of_checkLocal h room)
  | returnStatement =>
      simp only [hk, beq_iff_eq] at h room
      exact .inl (typed_of_checkReturn h room)
  | assignment =>
      simp only [hk] at h
      obtain ⟨target, value, hchildren, htarget, hvalue⟩ := parts_of_checkAssignment h
      rw [hchildren, List.mem_cons, List.mem_singleton] at hc
      rcases hc with rfl | rfl
      · exact .inr ⟨.inr ⟨p, hk, by rw [hchildren]; rfl⟩, htarget⟩
      · exact .inl hvalue
  | fieldAccess | call | creation =>
      rw [hk] at hp
      exact (Bool.false_ne_true hp.symm).elim
  | _ => simp [hk] at room

/-! ## Expressions settle their parts -/

/-- What is known of an expression carries over to its parts. -/
theorem settled_of_settled {p c : NodeId} (h : r.Settled p)
    (hp : (r.tree.kind p).isExpression = true) (hc : c ∈ r.tree.children p)
    (room : r.tree.holdsExpression p c = true) : r.Settled c := by
  unfold Tree.holdsExpression at room
  cases hk : r.tree.kind p with
  | fieldAccess field =>
      simp only [hk, beq_iff_eq] at room
      rcases h with ⟨t, ht⟩ | ⟨-, hreached⟩
      · exact .inl (typed_subject hk room ht)
      · simp only [Reached, hk, room, Option.some.injEq] at hreached
        obtain ⟨s, rfl, typed⟩ := hreached
        exact .inl typed
  | call =>
      rcases h with ⟨t, ht⟩ | ⟨-, hreached⟩
      · obtain ⟨callee, args, hchildren, hcallee, hargs⟩ := typed_call_parts hk ht
        rw [hchildren] at hc
        rcases List.mem_cons.1 hc with rfl | hc
        · exact .inr ⟨.inl ⟨p, hk, by rw [hchildren]; rfl⟩, hcallee⟩
        · exact .inl (hargs c hc)
      · simp only [Reached, hk] at hreached
  | creation type =>
      rcases h with ⟨t, ht⟩ | ⟨-, hreached⟩
      · exact .inl (typed_creation_parts hk ht hc)
      · simp only [Reached, hk] at hreached
  | expressionStatement | localVar | returnStatement | assignment =>
      rw [hk] at hp
      exact (Bool.false_ne_true hp).elim
  | _ => simp [hk] at room

/-- Going down from a node that is no expression, everything that passes its check settles what
is below it. -/
theorem settled_of_below (shaped : r.tree.WellShaped) {root e : NodeId}
    (hroot : (r.tree.kind root).isExpression = false)
    (passed : ∀ id, r.tree.Below root id → (r.tree.kind id).isExpression = false →
      r.checkNode id = .ok ())
    (below : r.tree.Below root e) (he : (r.tree.kind e).isExpression = true) : r.Settled e := by
  induction below with
  | refl =>
      rw [hroot] at he
      exact (Bool.false_ne_true he).elim
  | @child p c hp hc ih =>
      have room := shaped.placed p (Tree.lt_size_of_mem_children hc) c hc he
      cases hkind : (r.tree.kind p).isExpression with
      | true => exact settled_of_settled (ih hkind) hkind hc room
      | false => exact settled_of_checkNode (passed p hp hkind) hkind hc room

/-! ## The result -/

/-- After a check that finds nothing, every call and creation below the start is resolved, and
every expression there that is neither a callee nor a target has a type. -/
theorem resolved_of_check (r : Resolver) (shaped : r.tree.WellShaped) (root : NodeId)
    (hroot : (r.tree.kind root).isExpression = false)
    (clean : (r.check root).result = .ok 0) :
    (∀ n, r.tree.Below root n →
      (r.tree.kind n = .call ∨ ∃ type, r.tree.kind n = .creation type) →
      ∃ target, r.resolveCall n = .ok target) ∧
    ∀ e, r.tree.Below root e → (r.tree.kind e).isExpression = true →
      ¬r.tree.IsCallee e → ¬r.tree.IsTarget e → ∃ t, r.typeOf e = .ok t := by
  have passed : ∀ id, r.tree.Below root id → (r.tree.kind id).isExpression = false →
      r.checkNode id = .ok () := fun id below hid =>
    checkNode_of_checkPending shaped clean List.mem_cons_self below hid
  refine ⟨fun n below hk => ?_, fun e below he notCallee notTarget => ?_⟩
  · have he : (r.tree.kind n).isExpression = true := by
      rcases hk with hk | ⟨type, hk⟩ <;> rw [hk] <;> rfl
    rcases settled_of_below shaped hroot passed below he with ⟨t, ht⟩ | ⟨-, hreached⟩
    · exact resolveCall_of_typeOf ht hk
    · rcases hk with hk | ⟨type, hk⟩ <;> simp [Reached, hk] at hreached
  · rcases settled_of_below shaped hroot passed below he with typed | ⟨hplace, -⟩
    · exact typed
    · rcases hplace with hcallee | htarget
      · exact absurd hcallee notCallee
      · exact absurd htarget notTarget

/-- A function `f` of an `int`, and a program that assigns `f(f(1))` to a local variable. -/
def nestedCalls : Resolver where
  tree := .ofListing "demo"
    [(0, .function "f" (.named "int")), (1, .parameter "x" (.named "int")),
      (0, .program "main"), (3, .block), (4, .localVar "y" (some (.named "int"))),
      (4, .assignment), (6, .valueRef "y"),
      (6, .call), (8, .valueRef "f"), (8, .call), (10, .valueRef "f"), (10, .intLiteral 1)]
  classpath := TypeTable.empty.source

theorem nestedCalls_resolved :
    nestedCalls.tree.WellShaped ∧ (nestedCalls.check Tree.root).result = .ok 0 ∧
      (∃ target, nestedCalls.resolveCall 10 = .ok target) ∧
      ∃ t, nestedCalls.typeOf 12 = .ok t := by
  have shaped : nestedCalls.tree.WellShaped := by decide +kernel
  have clean : (nestedCalls.check Tree.root).result = .ok 0 := by decide +kernel
  obtain ⟨calls, expressions⟩ := resolved_of_check nestedCalls shaped Tree.root rfl clean
  refine ⟨shaped, clean, ?_, ?_⟩
  · exact calls 10 (Tree.below_iff.2 (by decide +kernel)) (.inl rfl)
  · refine expressions 12 (Tree.below_iff.2 (by decide +kernel)) rfl ?_ ?_
    · rintro ⟨p, hk, hc⟩
      have hp : p = 10 := Tree.parent_unique (List.mem_of_mem_head? hc) (by decide +kernel)
      subst hp
      exact absurd hc (by decide +kernel)
    · rintro ⟨p, hk, hc⟩
      have hp : p = 10 := Tree.parent_unique (List.mem_of_mem_head? hc) (by decide +kernel)
      subst hp
      exact absurd hk nofun

end JvmScope.Resolver
