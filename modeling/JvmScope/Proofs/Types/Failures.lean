import JvmScope.Proofs.Types.Subtypes
import JvmScope.Types.Members

/-!
# How looking for types fails

Walks, subtype searches and comparisons of arguments with parameters make no errors of their own.
Where they fail, a name that has to exist could not be had from the source (`TypeSource.Misses`),
and that failure is passed on. So an error of another kind comes from the question that is asked
in the end, or the source itself has answered a name with it (`TypeSource.FailsWith`).
-/

namespace JvmScope

variable {source : TypeSource (Except TypeError)} {e : TypeError}

namespace TypeSource

/-- The source answers some name with this failure. -/
def FailsWith (source : TypeSource (Except TypeError)) (e : TypeError) : Prop :=
  ∃ name, source.resolve name = .error e

/-- Some name that has to exist cannot be had, for this reason. -/
def Misses (source : TypeSource (Except TypeError)) (e : TypeError) : Prop :=
  ∃ name, source.require name = .error e

theorem Misses.failsWith (h : source.Misses e) (other : ∀ name, e ≠ .missingType name) :
    source.FailsWith e := by
  obtain ⟨name, failed⟩ := h
  rcases require_error failed with answered | missing
  · exact ⟨name, answered⟩
  · exact absurd missing (other name)

theorem requireKnown_fails (name : String) : FailsOnly source.Misses (source.requireKnown name) :=
  fun _ failed => ⟨name, require_of_requireKnown failed⟩

theorem require_fails (name : String) : FailsOnly source.Misses (source.require name) :=
  fun _ failed => ⟨name, failed⟩

end TypeSource

/-! ## Hierarchies -/

theorem TypeDefinition.walkFrom_fails {σ : Type}
    (visit : σ → TypeDefinition → TypeDefinition.Visit σ) (visited queue : List String)
    (state : σ) : FailsOnly source.Misses (walkFrom source visit visited queue state) := by
  fun_induction walkFrom source visit visited queue state with
  | case1 => exact .pure _
  | case2 visited state name queue seen ih => exact ih
  | case3 visited state name queue fresh ih =>
      apply FailsOnly.bind (TypeSource.requireKnown_fails name)
      rintro ⟨d, known⟩ -
      cases hvisit : visit state d with
      | stop last =>
          simp only [hvisit]
          exact .pure _
      | next more =>
          simp only [hvisit]
          exact ih d known more

theorem TypeDefinition.isSubtypeOf_misses (d : TypeDefinition) (target : String) :
    FailsOnly source.Misses (d.isSubtypeOf source target) := by
  intro e failed
  obtain ⟨name, -, missing⟩ := isSubtypeOf_error failed
  exact ⟨name, missing⟩

/-! ## Parameters and arguments -/

theorem JvmType.accepts_fails (expected actual : JvmType) :
    FailsOnly source.Misses (expected.accepts source actual) := by
  fun_induction JvmType.accepts source expected actual with
  | case3 expected actual references other ih => exact ih
  | case6 expected actual other =>
      exact .bind (TypeSource.require_fails _) fun d _ => d.isSubtypeOf_misses _
  | _ => exact .pure _

theorem JvmType.acceptAll_fails (params args : List JvmType) :
    FailsOnly source.Misses (acceptAll source params args) := by
  fun_induction JvmType.acceptAll source params args with
  | case1 => exact .pure _
  | case2 p params a args ih =>
      apply FailsOnly.bind (accepts_fails p a)
      intro fits _
      cases fits with
      | false => exact .pure _
      | true => exact ih
  | case3 => exact .pure _

theorem isApplicable_fails (params args : List JvmType) :
    FailsOnly source.Misses (isApplicable source params args) := by
  unfold isApplicable
  split
  · exact JvmType.acceptAll_fails params args
  · exact .pure _

theorem applicable_fails {α : Type} (params : α → List JvmType) (args : List JvmType)
    (candidates : List α) : FailsOnly source.Misses (applicable source params args candidates) := by
  induction candidates with
  | nil => exact .pure _
  | cons a rest ih =>
      rw [applicable]
      apply FailsOnly.bind (isApplicable_fails _ _)
      intro fits _
      apply FailsOnly.bind ih
      intro more _
      exact .pure _

end JvmScope
