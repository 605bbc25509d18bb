import JvmScope.Proofs.Outcome
import JvmScope.Resolution.Typing

/-!
# Trails and the parts of expressions

`typeOfWithin` keeps a trail and gives up where it meets a node again. The trail only ever takes
answers away: `typeOfWithin_refines` says that a type found with a trail is found with any part
of that trail, hence with none. It comes from a fact about one step, `typeOfStep_refines`: the
rule for a node passes on whatever the types of other nodes allow.
-/

namespace JvmScope.Resolver

variable {r : Resolver} {T U : Typing}

/-- `U` knows the types that `T` knows. -/
def Typing.Extends (T U : Typing) : Prop := ∀ e, Refines (T e) (U e)

/-! ## One step -/

theorem typeOfSymbolBy_refines (h : Typing.Extends T U) (symbol : Symbol) (context : NodeId) :
    Refines (r.typeOfSymbolBy T symbol context) (r.typeOfSymbolBy U symbol context) := by
  cases symbol with
  | localVar id =>
      refine .bind (.refl _) fun _ => ?_
      split
      · exact .refl _
      · exact h _
      · exact .refl _
      · exact .refl _
  | parameter | property | function | staticMember => exact .refl _

theorem argumentTypes_refines (h : Typing.Extends T U) (args : List NodeId) :
    Refines (r.argumentTypes T args) (r.argumentTypes U args) := by
  induction args with
  | nil => exact .refl _
  | cons e rest ih =>
      exact .bind (h e) fun _ => .bind (.refl _) fun _ => .bind ih fun _ => .refl _

theorem calleeTarget_refines (h : Typing.Extends T U) (callee : NodeId) (args : List JvmType)
    (range : TextRange) :
    Refines (r.calleeTarget T callee args range) (r.calleeTarget U callee args range) := by
  unfold calleeTarget
  split
  · exact .refl _
  · exact .bind (.refl _) fun _ => .bind (.refl _) fun _ => .bind (h _) fun _ => .refl _
  · exact .refl _
  · exact .refl _

theorem methodTargetBy_refines (h : Typing.Extends T U) (call : NodeId) :
    Refines (r.methodTargetBy T call) (r.methodTargetBy U call) := by
  unfold methodTargetBy
  split
  · exact .refl _
  · exact .bind (argumentTypes_refines h _) fun _ => calleeTarget_refines h _ _ _

theorem constructorTargetBy_refines (h : Typing.Extends T U) (type : String)
    (creation : NodeId) :
    Refines (r.constructorTargetBy T type creation) (r.constructorTargetBy U type creation) :=
  .bind (argumentTypes_refines h _) fun _ => .refl _

/-- The rule for a node passes on what the types of other nodes allow. -/
theorem typeOfStep_refines (h : Typing.Extends T U) (e : NodeId) :
    Refines (r.typeOfStep T e) (r.typeOfStep U e) := by
  unfold typeOfStep
  cases r.tree.kind e with
  | valueRef name =>
      dsimp only
      split
      · exact typeOfSymbolBy_refines h _ _
      · exact .refl _
      · exact .refl _
  | fieldAccess => exact .bind (.refl _) fun _ => .bind (h _) fun _ => .refl _
  | call => exact .bind (methodTargetBy_refines h e) fun _ => .refl _
  | creation => exact .bind (constructorTargetBy_refines h _ e) fun _ => .refl _
  | _ => exact .refl _

/-! ## Any trail -/

/-- A type that is found although the nodes in a trail must not be met is found if some of them
may be. The induction is on the nodes not met yet, as for `typeOfWithin` itself. -/
theorem typeOfWithin_refines {trail part : List NodeId} (h : part ⊆ trail) (e : NodeId) :
    Refines (r.typeOfWithin trail e) (r.typeOfWithin part e) := by
  induction trail, e using Resolver.typeOfWithin.induct (r := r) generalizing part with
  | case1 trail e here met =>
      rw [typeOfWithin, dif_pos here, dif_pos met]
      exact .throw _ _
  | case2 trail e here met ih =>
      have fresh : e ∉ part := fun hmem => met (h hmem)
      rw [typeOfWithin, dif_pos here, dif_neg met, typeOfWithin, dif_pos here, dif_neg fresh]
      exact typeOfStep_refines (fun other => ih other (List.cons_subset_cons e h)) e
  | case3 trail e nowhere =>
      rw [typeOfWithin, dif_neg nowhere]
      exact .throw _ _

/-- What is typed on the way to something else is typed on its own. -/
theorem typeOf_of_within {trail : List NodeId} {e : NodeId} {t : TypeUsage}
    (h : r.typeOfWithin trail e = .ok t) : r.typeOf e = .ok t :=
  typeOfWithin_refines (List.nil_subset trail) e t h

/-- The type of a node is made by its rule, in one step, from types of nodes other than itself. -/
theorem typeOf_ok_iff {e : NodeId} {t : TypeUsage} :
    r.typeOf e = .ok t ↔
      r.tree.has e = true ∧ r.typeOfStep (r.typeOfWithin [e]) e = .ok t := by
  rw [typeOf, typeOfWithin]
  by_cases here : r.tree.has e = true
  · rw [dif_pos here, dif_neg List.not_mem_nil]
    simp [here]
  · rw [dif_neg here]
    simp [here]

end JvmScope.Resolver
