import JvmScope.Proofs.Types.Source
import JvmScope.Types.Members

/-!
# Walks through hierarchies

What a walk sees are the type it starts from and definitions that the source answers with, so
a property that these have and that every visit keeps holds of the outcome
(`walk_invariant`). From it follows where inherited methods come from
(`declared_of_methodsNamed`).
-/

namespace JvmScope

variable {source : TypeSource (Except TypeError)}

namespace TypeDefinition

variable {σ : Type}

/-! ## Invariants -/

/-- The state that a visit leaves behind. -/
def Visit.state : Visit σ → σ
  | .next state | .stop state => state

variable {visit : σ → TypeDefinition → Visit σ} {P : TypeDefinition → Prop} {I : σ → Prop}

theorem walkFrom_invariant (answers : ∀ name d, source.resolve name = .ok (some d) → P d)
    (step : ∀ state d, P d → I state → I (visit state d).state) {visited queue : List String}
    {state final : σ} (start : I state)
    (h : walkFrom source visit visited queue state = .ok final) : I final := by
  -- the walk goes on under the same invariant after a name it has seen and after one it visits
  fun_induction walkFrom source visit visited queue state with
  | case1 visited state =>
      obtain rfl := pure_ok_iff.1 h
      exact start
  | case2 visited state name queue seen ih => exact ih start h
  | case3 visited state name queue seen ih =>
      obtain ⟨⟨d, known⟩, hd, h⟩ := bind_ok_iff.1 h
      have hP : P d := answers name d (TypeSource.resolve_of_requireKnown hd)
      have kept := step state d hP start
      cases hvisit : visit state d with
      | stop last =>
          simp only [hvisit, pure_ok_iff] at h
          rw [hvisit] at kept
          rw [← h]
          exact kept
      | next more =>
          simp only [hvisit] at h
          rw [hvisit] at kept
          exact ih d known more kept h

/-- What the type at the start and the answers of the source have, and every visit keeps, holds
of the outcome of a walk. -/
theorem walk_invariant (answers : ∀ name d, source.resolve name = .ok (some d) → P d)
    (step : ∀ state d, P d → I state → I (visit state d).state) {d : TypeDefinition}
    {state final : σ} (own : P d) (start : I state)
    (h : d.walk source visit state = .ok final) : I final := by
  have kept := step state d own start
  unfold walk at h
  cases hvisit : visit state d with
  | stop last =>
      simp only [hvisit, pure_ok_iff] at h
      rw [hvisit] at kept
      rw [← h]
      exact kept
  | next more =>
      simp only [hvisit] at h
      rw [hvisit] at kept
      exact walkFrom_invariant answers step kept h

/-! ## Members -/

theorem addVisible_mem {owner : String} {found : List OwnedMethod} {methods : List Method}
    {c : OwnedMethod} (h : c ∈ addVisible owner found methods) :
    c ∈ found ∨ c.method ∈ methods := by
  induction methods generalizing found with
  | nil => exact .inl h
  | cons method rest ih =>
      rw [addVisible] at h
      split at h
      · rcases ih h with hfound | hrest
        · exact .inl hfound
        · exact .inr (List.mem_cons_of_mem _ hrest)
      · rcases ih h with hfound | hrest
        · rcases List.mem_append.1 hfound with hfound | hnew
          · exact .inl hfound
          · rw [List.mem_singleton.1 hnew]
            exact .inr List.mem_cons_self
        · exact .inr (List.mem_cons_of_mem _ hrest)

/-- A method that is found is declared by the type itself or by one that the source answers
with. -/
theorem declared_of_methodsNamed (answers : ∀ name d, source.resolve name = .ok (some d) → P d)
    {d : TypeDefinition} (own : P d) {name : String} {methods : List OwnedMethod}
    (h : d.methodsNamed source name = .ok methods) :
    ∀ c ∈ methods, ∃ e, P e ∧ c.method ∈ e.methods := by
  refine walk_invariant (P := P)
    (I := fun found : List OwnedMethod => ∀ c ∈ found, ∃ e, P e ∧ c.method ∈ e.methods)
    answers ?_ own (fun c hc => absurd hc List.not_mem_nil) h
  intro found e he hfound c hc
  rcases addVisible_mem hc with hc | hc
  · exact hfound c hc
  · exact ⟨e, he, (List.mem_filter.1 hc).1⟩

end TypeDefinition

end JvmScope
