import JvmScope.Proofs.Types.Source

/-!
# Chains of sources

A chain asks its parts in order, and parts may be chains themselves. `SourceTree` is any such
nesting over sources of any kind. How it is nested does not matter: a tree answers as its leaves
do when they are asked from left to right (`SourceTree.resolve_source`). So the first leaf that
does not answer "absent" decides, whether it has a definition or fails, and nothing that stands
after it has a say (`SourceTree.resolve_decided`).

Only valid names are spoken of, since all others are refused before a leaf sees them. What a leaf
may say to a name is not restricted (`TypeSource.resolve_answering`).
-/

namespace JvmScope

variable {m : Type → Type} [Monad m] [MonadExceptOf TypeError m] {name : String}

namespace TypeSource

/-- A valid name is handed on to the source. -/
theorem resolve_of_valid [LawfulMonad m] (source : TypeSource m)
    (valid : QualifiedName.isValid name = true) :
    source.resolve name = (do
      let found ← source.find name
      pure (found.map (·.1))) := by
  have validated : (validate name : m Unit) = pure () := if_pos valid
  unfold resolve resolveKnown
  rw [validated, pure_bind]

/-! ## One name -/

/-- The source that has `answer` for one name and knows no other. -/
def answering (name : String) (answer : m (Option TypeDefinition)) : TypeSource m where
  Known other := other = name
  finite := ⟨[name], fun _ known => List.mem_singleton.2 known⟩
  find other :=
    if known : other = name then do
      let found ← answer
      pure (found.map fun d => ⟨d, known⟩)
    else pure none

/-- Any answer to a valid name is the answer of some source. -/
theorem resolve_answering [LawfulMonad m] (valid : QualifiedName.isValid name = true)
    (answer : m (Option TypeDefinition)) : (answering name answer).resolve name = answer := by
  have hfind : (answering name answer).find name = (do
      let found ← answer
      pure (found.map fun d => ⟨d, rfl⟩)) := dif_pos rfl
  rw [resolve_of_valid _ valid, hfind, bind_assoc]
  refine (bind_congr fun found => ?_).trans (bind_pure answer)
  rw [pure_bind, Option.map_map]
  cases found <;> rfl

/-! ## Flat chains -/

/-- A chain gives the first answer of its parts that is not "absent". -/
theorem resolve_chain [LawfulMonad m] (valid : QualifiedName.isValid name = true)
    (sources : List (TypeSource m)) :
    (chain sources).resolve name = sources.findSomeM? (·.resolve name) := by
  rw [resolve_of_valid _ valid]
  show (findFirst name sources >>= fun found => pure (found.map (·.1))) = _
  induction sources with
  | nil =>
      rw [findFirst, pure_bind]
      rfl
  | cons s rest ih =>
      rw [findFirst, List.findSomeM?_cons, resolve_of_valid s valid, bind_assoc, bind_assoc]
      refine bind_congr fun found => ?_
      cases found with
      | some known =>
          obtain ⟨d, known⟩ := known
          rw [pure_bind, pure_bind]
          rfl
      | none =>
          rw [pure_bind, ← ih, bind_assoc]
          refine bind_congr fun found => ?_
          rw [pure_bind, Option.map_map]
          rfl

end TypeSource

/-! ## Trees -/

/-- Chains nested in any way, with sources of any kind for leaves. -/
inductive SourceTree (m : Type → Type)
  | leaf (source : TypeSource m)
  | chain (parts : List (SourceTree m))

namespace SourceTree

mutual

/-- The source that a tree is. -/
def source : SourceTree m → TypeSource m
  | leaf s => s
  | chain parts => .chain (sources parts)

/-- The sources that trees are, each by itself. -/
def sources : List (SourceTree m) → List (TypeSource m)
  | [] => []
  | t :: rest => t.source :: sources rest

end

mutual

/-- The leaves of a tree from left to right. -/
def leaves : SourceTree m → List (TypeSource m)
  | leaf s => [s]
  | chain parts => leavesAll parts

/-- The leaves of several trees, one after the other. -/
def leavesAll : List (SourceTree m) → List (TypeSource m)
  | [] => []
  | t :: rest => t.leaves ++ leavesAll rest

end

variable [LawfulMonad m]

mutual

/-- A tree answers as its leaves do, asked from left to right. -/
theorem resolve_source (valid : QualifiedName.isValid name = true) (t : SourceTree m) :
    t.source.resolve name = t.leaves.findSomeM? (·.resolve name) := by
  cases t with
  | leaf s =>
      rw [source, leaves]
      exact (findSomeM?_singleton (·.resolve name) s).symm
  | chain parts =>
      rw [source, leaves, TypeSource.resolve_chain valid]
      exact findSomeM?_sources valid parts

theorem findSomeM?_sources (valid : QualifiedName.isValid name = true)
    (parts : List (SourceTree m)) :
    (sources parts).findSomeM? (·.resolve name) =
      (leavesAll parts).findSomeM? (·.resolve name) := by
  cases parts with
  | nil => rfl
  | cons t rest =>
      rw [sources, leavesAll, findSomeM?_append, ← findSomeM?_sources valid rest,
        ← resolve_source valid t]
      exact List.findSomeM?_cons ..

end

end SourceTree

/-! ## The leaf that decides -/

namespace SourceTree

variable {t : SourceTree (Except TypeError)}

/-- The first leaf that does not answer "absent" gives the answer of the tree, be it a failure,
whatever leaves there are after it. -/
theorem resolve_decided (valid : QualifiedName.isValid name = true)
    {front back : List (TypeSource (Except TypeError))} {s : TypeSource (Except TypeError)}
    (hleaves : t.leaves = front ++ s :: back) (absent : ∀ l ∈ front, l.resolve name = .ok none)
    (answers : s.resolve name ≠ .ok none) : t.source.resolve name = s.resolve name := by
  rw [resolve_source valid, hleaves, findSomeM?_append_of_none absent]
  cases h : s.resolve name with
  | error e => exact findSomeM?_cons_of_error h
  | ok found =>
      cases found with
      | none => exact absurd h answers
      | some d => exact findSomeM?_cons_of_some h

/-- A name is absent from a tree if it is absent from all leaves. -/
theorem resolve_absent_iff (valid : QualifiedName.isValid name = true) :
    t.source.resolve name = .ok none ↔ ∀ l ∈ t.leaves, l.resolve name = .ok none := by
  rw [resolve_source valid]
  exact findSomeM?_none_iff

end SourceTree

end JvmScope
