import JvmScope.Proofs.Outcome
import JvmScope.Types.Source

/-!
# Answers of sources

A source answers qualified names only (`resolve_some_iff`), and `require` is `resolve` where
there is an answer (`require_ok_iff`). A source is `Exact` if it answers names with definitions
of these names, as tables do (`TypeTable.exact`).
-/

namespace JvmScope

variable {source : TypeSource (Except TypeError)} {d : TypeDefinition} {name : String}

namespace TypeSource

theorem resolve_of_requireKnown {found : { _d : TypeDefinition // source.Known name }}
    (h : source.requireKnown name = .ok found) : source.resolve name = .ok (some found.1) := by
  obtain ⟨known, hknown, h⟩ := bind_ok_iff.1 h
  cases known with
  | none => exact (throw_ok_iff.1 h).elim
  | some known =>
      obtain rfl := pure_ok_iff.1 h
      exact bind_ok_iff.2 ⟨_, hknown, rfl⟩

theorem requireKnown_of_resolve (h : source.resolve name = .ok (some d)) :
    ∃ known, source.requireKnown name = .ok ⟨d, known⟩ := by
  obtain ⟨found, hfound, h⟩ := bind_ok_iff.1 h
  obtain ⟨⟨e, known⟩, rfl, rfl⟩ := Option.map_eq_some_iff.1 (pure_ok_iff.1 h)
  exact ⟨known, bind_ok_iff.2 ⟨_, hfound, rfl⟩⟩

@[simp] theorem require_ok_iff :
    source.require name = .ok d ↔ source.resolve name = .ok (some d) := by
  unfold require requireKnown resolve
  simp only [bind_ok_iff, pure_ok_iff, Option.map_eq_some_iff]
  constructor
  · rintro ⟨found, ⟨known, hknown, h⟩, rfl⟩
    cases known with
    | none => exact (throw_ok_iff.1 h).elim
    | some known =>
        obtain rfl := pure_ok_iff.1 h
        exact ⟨_, hknown, known, rfl, rfl⟩
  · rintro ⟨_, hknown, known, rfl, rfl⟩
    exact ⟨known, ⟨_, hknown, rfl⟩, rfl⟩

/-- Asking for a name that has to exist fails as the source does, or because there is none. -/
theorem requireKnown_error {e : TypeError} (h : source.requireKnown name = .error e) :
    source.resolve name = .error e ∨ e = .missingType name := by
  unfold requireKnown at h
  unfold resolve
  cases hknown : source.resolveKnown name with
  | error cause =>
      rw [hknown] at h
      cases h
      exact .inl rfl
  | ok found =>
      rw [hknown] at h
      cases found with
      | none =>
          cases h
          exact .inr rfl
      | some found => cases h

theorem require_error {e : TypeError} (h : source.require name = .error e) :
    source.resolve name = .error e ∨ e = .missingType name := by
  unfold require at h
  cases hknown : source.requireKnown name with
  | error cause =>
      rw [hknown] at h
      cases h
      exact requireKnown_error hknown
  | ok found =>
      rw [hknown] at h
      cases h

/-- A source that answers a name with a definition of that very name, if with any. -/
def Exact (source : TypeSource (Except TypeError)) : Prop :=
  ∀ name d, source.resolve name = .ok (some d) → d.qualifiedName = name

/-- A source is asked for qualified names only, and answers with what it finds. -/
theorem resolve_some_iff :
    source.resolve name = .ok (some d) ↔
      QualifiedName.isValid name = true ∧ ∃ known, source.find name = .ok (some ⟨d, known⟩) := by
  unfold resolve resolveKnown validate
  simp only [bind_ok_iff, pure_ok_iff, Option.map_eq_some_iff]
  constructor
  · rintro ⟨found, ⟨_, hvalid, hfind⟩, ⟨_, known⟩, rfl, rfl⟩
    split at hvalid
    · rename_i valid
      exact ⟨valid, known, hfind⟩
    · exact (throw_ok_iff.1 hvalid).elim
  · rintro ⟨valid, known, hfind⟩
    exact ⟨_, ⟨(), if_pos valid, hfind⟩, ⟨d, known⟩, rfl, rfl⟩

end TypeSource

/-- A table answers with what it finds. -/
theorem TypeTable.resolve_eq (t : TypeTable) (name : String) :
    (t.source : TypeSource (Except TypeError)).resolve name =
      if QualifiedName.isValid name then .ok (t.find? name)
      else .error (.invalidQualifiedName name) := by
  unfold TypeSource.resolve TypeSource.resolveKnown TypeSource.validate
  split
  · show Except.ok (Option.map _ _) = _
    split
    · rename_i found
      exact congrArg Except.ok found.symm
    · rename_i missing
      exact congrArg Except.ok missing.symm
  · rfl

theorem TypeTable.mem_of_resolve {t : TypeTable}
    (h : (t.source : TypeSource (Except TypeError)).resolve name = .ok (some d)) :
    d ∈ t.types ∧ d.qualifiedName = name := by
  rw [resolve_eq] at h
  split at h
  · have found : t.find? name = some d := Except.ok.inj h
    refine ⟨List.mem_of_find?_eq_some found, ?_⟩
    have hname := List.find?_some found
    exact beq_iff_eq.1 hname
  · cases h

theorem TypeTable.exact (t : TypeTable) :
    (t.source : TypeSource (Except TypeError)).Exact :=
  fun _ _ h => (TypeTable.mem_of_resolve h).2

/-- A table refuses what is no qualified name, and never fails otherwise. -/
theorem TypeTable.resolve_error {t : TypeTable} {e : TypeError}
    (h : (t.source : TypeSource (Except TypeError)).resolve name = .error e) :
    e = .invalidQualifiedName name := by
  rw [resolve_eq] at h
  split at h
  · cases h
  · cases h
    rfl

end JvmScope
