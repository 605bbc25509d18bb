import JvmScope.Proofs.Resolution.TypeLookup
import JvmScope.Proofs.Resolution.TypingTrail
import Mathlib.Data.List.Forall2

/-!
# Parts of expressions

A rule read backwards: an expression that has a type has typed parts, namely all arguments of a
call or creation and the subject of an access, the access in the callee's place included. A
callee and the target of an assignment need no type of their own. `Resolver.Reached` is what is
known of these instead.
-/

namespace JvmScope

/-- The arguments of a call or of the creation of an instance. -/
def Tree.arguments (t : Tree) (id : NodeId) : List NodeId :=
  match t.kind id with
  | .call => (t.children id).tail
  | .creation _ => t.children id
  | _ => []

namespace Resolver

variable {r : Resolver} {T U : Typing}

/-- The JVM types of arguments are the projections of their types, one by one. -/
theorem argumentTypes_ok_iff {args : List NodeId} {js : List JvmType} :
    r.argumentTypes T args = .ok js ↔
      List.Forall₂ (fun e j => ∃ t, T e = .ok t ∧ t.jvmType = .ok j) args js := by
  induction args generalizing js with
  | nil =>
      simp only [argumentTypes, pure_ok_iff, List.forall₂_nil_left_iff]
      exact eq_comm
  | cons e rest ih =>
      simp only [argumentTypes, bind_ok_iff, atRange_ok_iff, pure_ok_iff, ih,
        List.forall₂_cons_left_iff]
      constructor
      · rintro ⟨t, ht, j, hj, more, hmore, rfl⟩
        exact ⟨j, more, ⟨t, ht, hj⟩, hmore, rfl⟩
      · rintro ⟨j, more, ⟨t, ht, hj⟩, hmore, rfl⟩
        exact ⟨t, ht, j, hj, more, hmore, rfl⟩

theorem typed_of_argumentTypes {args : List NodeId} {js : List JvmType}
    (h : r.argumentTypes T args = .ok js) {e : NodeId} (he : e ∈ args) :
    ∃ t, T e = .ok t := by
  obtain ⟨i, hi, rfl⟩ := List.getElem_of_mem he
  obtain ⟨hlen, hget⟩ := List.forall₂_iff_get.1 (argumentTypes_ok_iff.1 h)
  obtain ⟨t, ht, -⟩ := hget i hi (hlen ▸ hi)
  exact ⟨t, ht⟩

@[simp] theorem subject_ok_iff {access e : NodeId} :
    r.subject access = .ok e ↔ (r.tree.children access).head? = some e := by
  unfold subject
  cases r.tree.children access <;> simp

/-- What is known of a node in the place of a callee or of a target: it refers to something, and
if it is an access, its subject has a type. -/
def Reached (r : Resolver) (T : Typing) (e : NodeId) : Prop :=
  match r.tree.kind e with
  | .valueRef _ | .staticFieldAccess _ _ => True
  | .fieldAccess _ => ∃ s, (r.tree.children e).head? = some s ∧ ∃ t, T s = .ok t
  | _ => False

theorem Reached.extends (h : Typing.Extends T U) {e : NodeId} (he : r.Reached T e) :
    r.Reached U e := by
  unfold Reached at he ⊢
  cases hk : r.tree.kind e with
  | valueRef | staticFieldAccess => trivial
  | fieldAccess =>
      simp only [hk] at he
      obtain ⟨s, hs, t, ht⟩ := he
      exact ⟨s, hs, t, h s t ht⟩
  | _ =>
      simp only [hk] at he

theorem reached_of_calleeTarget {callee : NodeId} {args : List JvmType} {range : TextRange}
    {target : MethodTarget} (h : r.calleeTarget T callee args range = .ok target) :
    r.Reached T callee := by
  unfold calleeTarget at h
  unfold Reached
  cases hk : r.tree.kind callee with
  | valueRef | staticFieldAccess => trivial
  | fieldAccess name =>
      simp only [hk] at h
      obtain ⟨s, hs, h⟩ := bind_ok_iff.1 h
      obtain ⟨_, -, h⟩ := bind_ok_iff.1 h
      obtain ⟨t, ht, -⟩ := bind_ok_iff.1 h
      exact ⟨s, subject_ok_iff.1 hs, t, ht⟩
  | _ =>
      simp only [hk] at h
      exact (throw_ok_iff.1 h).elim

/-- A call is resolved to the target of its first part for the types of the others. -/
theorem methodTargetBy_ok_iff {call : NodeId} {target : MethodTarget} :
    r.methodTargetBy T call = .ok target ↔
      ∃ callee es args, r.tree.children call = callee :: es ∧
        r.argumentTypes T es = .ok args ∧
        r.calleeTarget T callee args (r.tree.range call) = .ok target := by
  unfold methodTargetBy
  cases hc : r.tree.children call with
  | nil =>
      refine iff_of_false (fun h => throw_ok_iff.1 h) ?_
      rintro ⟨_, _, _, hcons, -⟩
      cases hcons
  | cons callee es =>
      constructor
      · intro h
        obtain ⟨args, hargs, h⟩ := bind_ok_iff.1 h
        exact ⟨callee, es, args, rfl, hargs, h⟩
      · rintro ⟨_, _, args, hcons, hargs, h⟩
        obtain ⟨rfl, rfl⟩ := List.cons.inj hcons
        exact bind_ok_iff.2 ⟨args, hargs, h⟩

/-- A call that invokes a method has a callee, whose parts have types, and typed arguments. -/
theorem parts_of_methodTargetBy {call : NodeId} {target : MethodTarget}
    (h : r.methodTargetBy T call = .ok target) :
    ∃ callee args, r.tree.children call = callee :: args ∧ r.Reached T callee ∧
      ∀ e ∈ args, ∃ t, T e = .ok t := by
  obtain ⟨callee, args, js, hc, hargs, h⟩ := methodTargetBy_ok_iff.1 h
  exact ⟨callee, args, hc, reached_of_calleeTarget h,
    fun e he => typed_of_argumentTypes hargs he⟩

/-- Calls are resolved to methods, and creations to constructors. -/
theorem resolveCall_ok_iff {call : NodeId} {target : InvocationTarget} :
    r.resolveCall call = .ok target ↔ r.tree.has call = true ∧
      ((r.tree.kind call = .call ∧ ∃ method,
          r.methodTargetBy (r.typeOfWithin [call]) call = .ok method ∧
            .method method = target) ∨
        ∃ type, r.tree.kind call = .creation type ∧ ∃ constructor,
          r.constructorTargetBy (r.typeOfWithin [call]) type call = .ok constructor ∧
            .constructor constructor = target) := by
  unfold resolveCall resolveCallBy
  rw [bind_ok_iff]
  constructor
  · rintro ⟨_, here, h⟩
    refine ⟨TypeScope.requireNode_ok_iff.1 here, ?_⟩
    cases hk : r.tree.kind call with
    | call =>
        rw [hk] at h
        exact .inl ⟨rfl, map_ok_iff.1 h⟩
    | creation type =>
        rw [hk] at h
        exact .inr ⟨type, rfl, map_ok_iff.1 h⟩
    | _ =>
        simp only [hk] at h
        exact (throw_ok_iff.1 h).elim
  · rintro ⟨here, ⟨hk, hmethod⟩ | ⟨type, hk, hconstructor⟩⟩
    · refine ⟨(), TypeScope.requireNode_ok_iff.2 here, ?_⟩
      rw [hk]
      exact map_ok_iff.2 hmethod
    · refine ⟨(), TypeScope.requireNode_ok_iff.2 here, ?_⟩
      rw [hk]
      exact map_ok_iff.2 hconstructor

/-- What is resolved to a method is a call. -/
theorem methodTargetBy_of_resolveCall {call : NodeId} {target : MethodTarget}
    (h : r.resolveCall call = .ok (.method target)) :
    r.tree.kind call = .call ∧
      r.methodTargetBy (r.typeOfWithin [call]) call = .ok target := by
  obtain ⟨-, ⟨hk, method, hmethod, heq⟩ | ⟨_, -, _, -, heq⟩⟩ := resolveCall_ok_iff.1 h
  · obtain rfl := InvocationTarget.method.inj heq
    exact ⟨hk, hmethod⟩
  · cases heq

/-- What is resolved to a constructor is a creation. -/
theorem constructorTargetBy_of_resolveCall {call : NodeId} {target : ConstructorTarget}
    (h : r.resolveCall call = .ok (.constructor target)) :
    ∃ type, r.tree.kind call = .creation type ∧
      r.constructorTargetBy (r.typeOfWithin [call]) type call = .ok target := by
  obtain ⟨-, ⟨-, _, -, heq⟩ | ⟨type, hk, constructor, hconstructor, heq⟩⟩ :=
    resolveCall_ok_iff.1 h
  · cases heq
  · obtain rfl := InvocationTarget.constructor.inj heq
    exact ⟨type, hk, hconstructor⟩

/-! ## Typed expressions -/

theorem extends_typeOf (r : Resolver) (trail : List NodeId) :
    Typing.Extends (r.typeOfWithin trail) r.typeOf :=
  fun _ _ h => typeOf_of_within h

/-- A typed access has a typed subject. -/
theorem typed_subject {e s : NodeId} {field : String} {t : TypeUsage}
    (hk : r.tree.kind e = .fieldAccess field) (hs : (r.tree.children e).head? = some s)
    (h : r.typeOf e = .ok t) : ∃ u, r.typeOf s = .ok u := by
  have hstep := (typeOf_ok_iff.1 h).2
  simp only [typeOfStep, hk] at hstep
  obtain ⟨s', hs', hstep⟩ := bind_ok_iff.1 hstep
  obtain ⟨u, hu, -⟩ := bind_ok_iff.1 hstep
  rw [subject_ok_iff, hs, Option.some.injEq] at hs'
  subst hs'
  exact ⟨u, typeOf_of_within hu⟩

/-- A typed call invokes a method. -/
theorem methodTargetBy_of_typeOf {e : NodeId} {t : TypeUsage} (hk : r.tree.kind e = .call)
    (h : r.typeOf e = .ok t) : ∃ target, r.methodTargetBy (r.typeOfWithin [e]) e = .ok target := by
  have hstep := (typeOf_ok_iff.1 h).2
  simp only [typeOfStep, hk] at hstep
  obtain ⟨target, htarget, -⟩ := bind_ok_iff.1 hstep
  exact ⟨target, htarget⟩

/-- A typed creation invokes a constructor. -/
theorem constructorTargetBy_of_typeOf {e : NodeId} {type : String} {t : TypeUsage}
    (hk : r.tree.kind e = .creation type) (h : r.typeOf e = .ok t) :
    ∃ target, r.constructorTargetBy (r.typeOfWithin [e]) type e = .ok target := by
  have hstep := (typeOf_ok_iff.1 h).2
  simp only [typeOfStep, hk] at hstep
  obtain ⟨target, htarget, -⟩ := bind_ok_iff.1 hstep
  exact ⟨target, htarget⟩

/-- A typed call has a callee whose parts have types, and typed arguments. -/
theorem typed_call_parts {e : NodeId} {t : TypeUsage} (hk : r.tree.kind e = .call)
    (h : r.typeOf e = .ok t) :
    ∃ callee args, r.tree.children e = callee :: args ∧ r.Reached r.typeOf callee ∧
      ∀ a ∈ args, ∃ u, r.typeOf a = .ok u := by
  obtain ⟨target, htarget⟩ := methodTargetBy_of_typeOf hk h
  obtain ⟨callee, args, hc, hcallee, hargs⟩ := parts_of_methodTargetBy htarget
  refine ⟨callee, args, hc, hcallee.extends (extends_typeOf r [e]), fun a ha => ?_⟩
  obtain ⟨u, hu⟩ := hargs a ha
  exact ⟨u, typeOf_of_within hu⟩

/-- A typed creation has typed arguments. -/
theorem typed_creation_parts {e a : NodeId} {type : String} {t : TypeUsage}
    (hk : r.tree.kind e = .creation type) (h : r.typeOf e = .ok t)
    (ha : a ∈ r.tree.children e) : ∃ u, r.typeOf a = .ok u := by
  obtain ⟨target, htarget⟩ := constructorTargetBy_of_typeOf hk h
  obtain ⟨js, hargs, -⟩ := bind_ok_iff.1 htarget
  obtain ⟨u, hu⟩ := typed_of_argumentTypes hargs ha
  exact ⟨u, typeOf_of_within hu⟩

/-- A call or creation that has a type is resolved. -/
theorem resolveCall_of_typeOf {e : NodeId} {t : TypeUsage} (h : r.typeOf e = .ok t)
    (hk : r.tree.kind e = .call ∨ ∃ type, r.tree.kind e = .creation type) :
    ∃ target, r.resolveCall e = .ok target := by
  have here := (typeOf_ok_iff.1 h).1
  rcases hk with hk | ⟨type, hk⟩
  · obtain ⟨target, htarget⟩ := methodTargetBy_of_typeOf hk h
    exact ⟨_, resolveCall_ok_iff.2 ⟨here, .inl ⟨hk, target, htarget, rfl⟩⟩⟩
  · obtain ⟨target, htarget⟩ := constructorTargetBy_of_typeOf hk h
    exact ⟨_, resolveCall_ok_iff.2 ⟨here, .inr ⟨type, hk, target, htarget, rfl⟩⟩⟩

end Resolver

end JvmScope
