import JvmScope.Proofs.Types.Questions
import JvmScope.Proofs.Types.Subtypes

/-!
# Subtype searches

What a subtype search asks its source is on record in `run_isSubtypeOf_noted`: names that it can
come to, never the root of the hierarchy and none of them twice. So it ends, hierarchies that run
in circles included.

With the outcomes of the search this makes it exact (`isSubtypeOf_exact`): each answer says
whether the target is above the type, and an error is the failure of the source at a name that
the search has come to.
-/

namespace JvmScope.TypeDefinition

open TypeSource (Asked asked_nil)

variable {source : TypeSource (Except TypeError)} {name target : String} {d : TypeDefinition}

/-! ## The record of a search -/

/-- A search with its questions on record is the same search. -/
theorem run_reaches_noted (source : TypeSource (Except TypeError)) (target : String)
    (visited queue log : List String) :
    ∃ asked, Asked source visited asked ∧
      (∀ name ∈ asked, name ≠ QualifiedName.object ∧ Reachable source queue name) ∧
      (reaches source.noted target visited queue).run.run log =
        (reaches source target visited queue, asked ++ log) := by
  fun_induction reaches source target visited queue generalizing log with
  | case1 visited =>
      refine ⟨[], asked_nil, fun _ mem => absurd mem List.not_mem_nil, ?_⟩
      rw [reaches]
      rfl
  | case2 visited queue =>
      refine ⟨[], asked_nil, fun _ mem => absurd mem List.not_mem_nil, ?_⟩
      rw [reaches, if_pos rfl]
      rfl
  | case3 visited name queue other passed ih =>
      obtain ⟨asked, hasked, come, hrun⟩ := ih log
      refine ⟨asked, hasked, fun n mem => ⟨(come n mem).1, (come n mem).2.tail⟩, ?_⟩
      rw [reaches, if_neg other, dif_pos passed]
      exact hrun
  | case4 visited name queue other fresh ih =>
      obtain ⟨notRoot, unseen⟩ := not_or.1 fresh
      have first : Reachable source (name :: queue) name := .listed List.mem_cons_self
      rw [reaches, if_neg other, dif_neg fresh, run_bind_of_steps]
      cases hd : source.requireKnown name with
      | error cause =>
          obtain ⟨asked, hasked, only, hrun⟩ := TypeSource.exists_asked_of_error log unseen hd
          refine ⟨asked, hasked, fun n mem => ?_, ?_⟩
          · rw [only n mem]
            exact ⟨notRoot, first⟩
          · rw [hrun]
            rfl
      | ok answer =>
          obtain ⟨d, known⟩ := answer
          have answered := TypeSource.resolve_of_requireKnown hd
          obtain ⟨asked, hasked, come, hrun⟩ := ih d known (name :: log)
          refine ⟨asked ++ [name], hasked.lookUp unseen known, fun n mem => ?_, ?_⟩
          · rcases List.mem_append.1 mem with later | mem
            · exact ⟨(come n later).1, (come n later).2.lookedUp notRoot answered⟩
            · rw [List.mem_singleton.1 mem]
              exact ⟨notRoot, first⟩
          · rw [TypeSource.run_requireKnown_of_ok log hd, List.append_assoc]
            exact hrun

/-! ## Outcomes -/

/-- Every name but the root that the search from `d` can come to has a definition. -/
def Complete (source : TypeSource (Except TypeError)) (d : TypeDefinition) : Prop :=
  ∀ name, name ≠ QualifiedName.object → Reachable source d.supertypes name →
    ∃ above, source.resolve name = .ok (some above)

/-- A search ends at once if the target is the root or the type itself. -/
theorem isSubtypeOf_near {m : Type → Type} [Monad m] [MonadExceptOf TypeError m]
    {source : TypeSource m} (near : target = QualifiedName.object ∨ d.qualifiedName = target) :
    d.isSubtypeOf source target = pure true := if_pos near

/-- Otherwise it goes upwards from the declared supertypes. -/
theorem isSubtypeOf_far {m : Type → Type} [Monad m] [MonadExceptOf TypeError m]
    {source : TypeSource m} (far : ¬(target = QualifiedName.object ∨ d.qualifiedName = target)) :
    d.isSubtypeOf source target = reaches source target [] d.supertypes := if_neg far

/-- A search that ends empty-handed has looked up all that it could come to. -/
theorem complete_of_isSubtypeOf (h : d.isSubtypeOf source target = .ok false) :
    Complete source d := by
  by_cases near : target = QualifiedName.object ∨ d.qualifiedName = target
  · rw [isSubtypeOf_near near] at h
    cases h
  · rw [isSubtypeOf_far near] at h
    have start : Explored source [] d.supertypes := fun _ mem => absurd mem List.not_mem_nil
    obtain ⟨all, closed, -, -, met⟩ := exists_explored start List.not_mem_nil h
    intro name notRoot reachable
    have seen : name ∈ all := (closed.mem_of_reachable met reachable).resolve_left notRoot
    obtain ⟨above, answered, -⟩ := closed name seen
    exact ⟨above, answered⟩

/-- A search only fails at a name that it comes to and that the source does not deliver, which is
never the root. -/
theorem isSubtypeOf_fails {e : TypeError} (h : d.isSubtypeOf source target = .error e) :
    ∃ name, name ≠ QualifiedName.object ∧ Reachable source d.supertypes name ∧
      source.require name = .error e := by
  by_cases near : target = QualifiedName.object ∨ d.qualifiedName = target
  · rw [isSubtypeOf_near near] at h
    cases h
  · rw [isSubtypeOf_far near] at h
    exact reaches_error h

/-- Where all that a search can come to has definitions, the search has an answer. -/
theorem isSubtypeOf_of_complete (complete : Complete source d) (target : String) :
    ∃ found, d.isSubtypeOf source target = .ok found := by
  cases h : d.isSubtypeOf source target with
  | ok found => exact ⟨found, rfl⟩
  | error e =>
      obtain ⟨name, notRoot, reachable, failed⟩ := isSubtypeOf_fails h
      obtain ⟨above, answered⟩ := complete name notRoot reachable
      rw [TypeSource.require_ok_iff.2 answered] at failed
      cases failed

/-- The questions of a subtype search. -/
theorem run_isSubtypeOf_noted (source : TypeSource (Except TypeError)) (d : TypeDefinition)
    (target : String) :
    ∃ asked, Asked source [] asked ∧
      (∀ name ∈ asked, name ≠ QualifiedName.object ∧ Reachable source d.supertypes name) ∧
      (d.isSubtypeOf source.noted target).run.run [] =
        (d.isSubtypeOf source target, asked) := by
  by_cases near : target = QualifiedName.object ∨ d.qualifiedName = target
  · refine ⟨[], asked_nil, fun _ mem => absurd mem List.not_mem_nil, ?_⟩
    rw [isSubtypeOf_near near, isSubtypeOf_near near]
    rfl
  · obtain ⟨asked, hasked, come, hrun⟩ := run_reaches_noted source target [] d.supertypes []
    refine ⟨asked, hasked, come, ?_⟩
    rw [isSubtypeOf_far near, isSubtypeOf_far near, hrun, List.append_nil]

end JvmScope.TypeDefinition
