import JvmScope.Proofs.Types.Source
import JvmScope.Types.Hierarchy
import Mathlib.Data.List.Nodup
import Mathlib.Data.List.Perm.Subperm

/-!
# What a search asks its source

`TypeSource.noted` is a source that gives the same answers and notes which names it was asked for,
so a search through it is the same search with its questions on record. `Asked` says what such a
record is like: no name stands in it twice, and all names but the latest are known. As only
finitely many names are, a search has only so many questions (`Asked.length_le`), also where
hierarchies run in circles: it `Ends`.

For walks this is `TypeDefinition.run_walk_noted`.
-/

namespace JvmScope

variable {source : TypeSource (Except TypeError)}

namespace TypeSource

/-! ## Questions on record -/

/-- Steps that note the names a source is asked for, the latest first. -/
abbrev Noting := ExceptT TypeError (StateM (List String))

/-- The same source, asked by other steps. -/
def through {m n : Type → Type} (source : TypeSource m)
    (ask : {α : Type} → String → m α → n α) : TypeSource n where
  Known := source.Known
  finite := source.finite
  find name := ask name (source.find name)

/-- The same answers, with every question noted. -/
def noted (source : TypeSource (Except TypeError)) : TypeSource Noting :=
  source.through fun name answer => do
    modify (name :: ·)
    ExceptT.mk (pure answer)

theorem run_find_noted (source : TypeSource (Except TypeError)) (name : String)
    (log : List String) :
    (source.noted.find name).run.run log = (source.find name, name :: log) := by
  show (modify (name :: ·) >>= fun _ => ExceptT.mk (pure (source.find name)) :
    Noting (Option { _d : TypeDefinition // source.Known name })).run.run log = _
  rw [run_bind_of_steps]
  rfl

/-- A question gets its answer and goes on record, unless the name is none. -/
theorem run_requireKnown_noted (source : TypeSource (Except TypeError)) (name : String)
    (log : List String) :
    (source.noted.requireKnown name).run.run log =
      (source.requireKnown name, if QualifiedName.isValid name then name :: log else log) := by
  unfold requireKnown resolveKnown validate
  by_cases valid : QualifiedName.isValid name = true
  · rw [if_pos valid, if_pos valid, if_pos valid, pure_bind, pure_bind, run_bind_of_steps,
      run_find_noted]
    cases source.find name with
    | error e => rfl
    | ok found =>
        cases found with
        | none => rfl
        | some found => rfl
  · rw [if_neg valid, if_neg valid, if_neg valid]
    rfl

/-! ## Records -/

variable {visited asked names : List String} {name : String}

/-- What the record of a search holds that has seen the names in `visited` before: other names,
none of them twice, and all but the latest known, since the search went on from them. -/
structure Asked (source : TypeSource (Except TypeError)) (visited asked : List String) : Prop where
  once : asked.Nodup
  unseen : ∀ name ∈ asked, name ∉ visited
  known : ∀ name ∈ asked.tail, source.Known name

theorem asked_nil : Asked source visited [] where
  once := List.nodup_nil
  unseen _ mem := absurd mem List.not_mem_nil
  known _ mem := absurd mem List.not_mem_nil

/-- A question without an answer ends the record. -/
theorem asked_singleton (fresh : name ∉ visited) : Asked source visited [name] where
  once := List.nodup_singleton name
  unseen other mem := by
    rw [List.mem_singleton.1 mem]
    exact fresh
  known _ mem := absurd mem List.not_mem_nil

/-- A question with an answer stands in the record before all that the search asks from there. -/
theorem Asked.lookUp (h : Asked source (name :: visited) asked) (fresh : name ∉ visited)
    (known : source.Known name) : Asked source visited (asked ++ [name]) where
  once := by
    refine List.Nodup.append h.once (List.nodup_singleton name) ?_
    intro other mem mem'
    rw [List.mem_singleton.1 mem'] at mem
    exact h.unseen name mem List.mem_cons_self
  unseen other mem := by
    rcases List.mem_append.1 mem with later | first
    · exact fun seen => h.unseen other later (List.mem_cons_of_mem _ seen)
    · rw [List.mem_singleton.1 first]
      exact fresh
  known other mem := by
    cases asked with
    | nil => exact absurd mem List.not_mem_nil
    | cons latest earlier =>
        rcases List.mem_append.1 mem with later | first
        · exact h.known other later
        · rw [List.mem_singleton.1 first]
          exact known

/-- A record is no longer than any list of the known names, and one name that may be missing. -/
theorem Asked.length_le (h : Asked source visited asked)
    (all : ∀ name, source.Known name → name ∈ names) : asked.length ≤ names.length + 1 := by
  have hsub : asked.tail ⊆ names := fun name mem => all name (h.known name mem)
  have hlen : asked.tail.length ≤ names.length :=
    (List.subperm_of_subset (h.once.sublist asked.tail_sublist) hsub).length_le
  rw [List.length_tail] at hlen
  omega

/-- A search through `source` ends with `answer`: it asks for no name twice, and so for no more
names than are known and one that is not. -/
def Ends {α : Type} (source : TypeSource (Except TypeError))
    (search : TypeSource Noting → Noting α) (answer : Except TypeError α) : Prop :=
  ∃ asked, (search source.noted).run.run [] = (answer, asked) ∧ asked.Nodup ∧
    ∀ names : List String, (∀ name, source.Known name → name ∈ names) →
      asked.length ≤ names.length + 1

theorem Asked.ends {α : Type} {search : TypeSource Noting → Noting α}
    {answer : Except TypeError α} (h : Asked source visited asked)
    (hrun : (search source.noted).run.run [] = (answer, asked)) : source.Ends search answer :=
  ⟨asked, hrun, h.once, fun _ all => h.length_le all⟩

/-- A question that fails is on record, unless the name is none. -/
theorem exists_asked_of_error {e : TypeError} (log : List String) (fresh : name ∉ visited)
    (failed : source.requireKnown name = .error e) :
    ∃ asked, Asked source visited asked ∧ (∀ other ∈ asked, other = name) ∧
      (source.noted.requireKnown name).run.run log = (.error e, asked ++ log) := by
  rw [run_requireKnown_noted, failed]
  by_cases valid : QualifiedName.isValid name = true
  · rw [if_pos valid]
    exact ⟨[name], asked_singleton fresh, fun other mem => List.mem_singleton.1 mem, rfl⟩
  · rw [if_neg valid]
    exact ⟨[], asked_nil, fun other mem => absurd mem List.not_mem_nil, rfl⟩

/-- A question that is answered is on record. -/
theorem run_requireKnown_of_ok {found : { _d : TypeDefinition // source.Known name }}
    (log : List String) (answered : source.requireKnown name = .ok found) :
    (source.noted.requireKnown name).run.run log = (.ok found, name :: log) := by
  have valid := (resolve_some_iff.1 (resolve_of_requireKnown answered)).1
  rw [run_requireKnown_noted, answered, if_pos valid]
  rfl

end TypeSource

/-! ## Walks -/

namespace TypeDefinition

variable {σ : Type}

open TypeSource (Asked asked_nil asked_singleton)

theorem run_walkFrom_noted (source : TypeSource (Except TypeError))
    (visit : σ → TypeDefinition → Visit σ) (visited queue : List String) (state : σ)
    (log : List String) :
    ∃ asked, Asked source visited asked ∧
      (walkFrom source.noted visit visited queue state).run.run log =
        (walkFrom source visit visited queue state, asked ++ log) := by
  fun_induction walkFrom source visit visited queue state generalizing log with
  | case1 visited state =>
      refine ⟨[], asked_nil, ?_⟩
      rw [walkFrom]
      rfl
  | case2 visited state name queue seen ih =>
      obtain ⟨asked, hasked, hrun⟩ := ih log
      refine ⟨asked, hasked, ?_⟩
      rw [walkFrom, dif_pos seen]
      exact hrun
  | case3 visited state name queue fresh ih =>
      rw [walkFrom, dif_neg fresh, run_bind_of_steps]
      cases hd : source.requireKnown name with
      | error cause =>
          obtain ⟨asked, hasked, -, hrun⟩ := TypeSource.exists_asked_of_error log fresh hd
          refine ⟨asked, hasked, ?_⟩
          rw [hrun]
          rfl
      | ok answer =>
          obtain ⟨d, known⟩ := answer
          rw [TypeSource.run_requireKnown_of_ok log hd, bind_of_ok rfl]
          cases hvisit : visit state d with
          | stop last =>
              refine ⟨[name], asked_singleton fresh, ?_⟩
              simp only [hvisit]
              rfl
          | next more =>
              obtain ⟨asked, hasked, hrun⟩ := ih d known more (name :: log)
              refine ⟨asked ++ [name], hasked.lookUp fresh known, ?_⟩
              simp only [hvisit]
              rw [List.append_assoc]
              exact hrun

/-- A walk with its questions on record is the same walk. -/
theorem run_walk_noted (source : TypeSource (Except TypeError))
    (visit : σ → TypeDefinition → Visit σ) (d : TypeDefinition) (state : σ) :
    ∃ asked, Asked source [] asked ∧
      (d.walk source.noted visit state).run.run [] = (d.walk source visit state, asked) := by
  unfold walk
  cases visit state d with
  | stop last => exact ⟨[], asked_nil, rfl⟩
  | next more =>
      obtain ⟨asked, hasked, hrun⟩ :=
        run_walkFrom_noted source visit [d.qualifiedName] d.supertypes more []
      refine ⟨asked, ⟨hasked.once, fun _ _ => List.not_mem_nil, hasked.known⟩, ?_⟩
      rw [List.append_nil] at hrun
      exact hrun

end TypeDefinition

end JvmScope
