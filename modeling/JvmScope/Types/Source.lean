import JvmScope.Fresh
import JvmScope.Types.Definition

/-!
# Type sources

A `TypeSource` answers qualified names with definitions. It may be asked for any name and knows
finitely many, and both facts are part of the type: `find` delivers a definition together with
a proof that its name is known, and the known names fit into a list. Walks through hierarchies
of a source end for this reason, cyclic hierarchies included.

Sources live in a monad `m`, since some of them read files that change or remember what they
have answered; a source of fixed definitions lives in `Except TypeError`.

A name that is not a qualified name is refused by `resolve` before any source sees it. Sources
chain: the first one that knows a name answers for the chain, and an answer may be an error.
-/

namespace JvmScope

variable {m : Type → Type}

/-- Answers names with definitions. -/
structure TypeSource (m : Type → Type) where
  /-- The names that may be answered with a definition. -/
  Known : String → Prop
  /-- Only finitely many names are known. -/
  finite : ∃ names : List String, ∀ name, Known name → name ∈ names
  /-- The definition of a name, if the source has one. -/
  find : (name : String) → m (Option { _d : TypeDefinition // Known name })

namespace TypeSource

/-- Fails for a text that is no qualified name. -/
def validate [Monad m] [MonadExceptOf TypeError m] (name : String) : m Unit :=
  if QualifiedName.isValid name then pure () else throw (.invalidQualifiedName name)

/-- The definition of a valid name, with the proof that the name is known. -/
def resolveKnown [Monad m] [MonadExceptOf TypeError m] (source : TypeSource m)
    (name : String) : m (Option { _d : TypeDefinition // source.Known name }) := do
  validate name
  source.find name

/-- The definition of a valid name. -/
def resolve [Monad m] [MonadExceptOf TypeError m] (source : TypeSource m) (name : String) :
    m (Option TypeDefinition) := do
  let found ← source.resolveKnown name
  pure (found.map (·.1))

/-- The definition of a name that has to exist, such as a supertype's, with the proof that the
name is known. -/
def requireKnown [Monad m] [MonadExceptOf TypeError m] (source : TypeSource m)
    (name : String) : m { _d : TypeDefinition // source.Known name } := do
  match ← source.resolveKnown name with
  | some found => pure found
  | none => throw (.missingType name)

/-- The definition of a name that has to exist. -/
def require [Monad m] [MonadExceptOf TypeError m] (source : TypeSource m) (name : String) :
    m TypeDefinition := do
  let found ← source.requireKnown name
  pure found.1

/-! ## Chains -/

/-- The first answer along a list of sources that is not "absent". -/
def findFirst [Monad m] (name : String) : (sources : List (TypeSource m)) →
    m (Option { _d : TypeDefinition // ∃ s ∈ sources, s.Known name })
  | [] => pure none
  | s :: rest => do
    match ← s.find name with
    | some ⟨d, h⟩ => pure (some ⟨d, s, List.mem_cons_self, h⟩)
    | none =>
      let found ← findFirst name rest
      pure (found.map fun ⟨d, h⟩ =>
        ⟨d, h.imp fun _ hs => ⟨List.mem_cons_of_mem _ hs.1, hs.2⟩⟩)

/-- The union of finitely many finite sets of names is finite. -/
theorem finite_of_mem (sources : List (TypeSource m)) :
    ∃ names : List String, ∀ name, (∃ s ∈ sources, s.Known name) → name ∈ names := by
  induction sources with
  | nil => exact ⟨[], fun _ h => by obtain ⟨s, hs, _⟩ := h; cases hs⟩
  | cons s rest ih =>
    obtain ⟨ns, hns⟩ := s.finite
    obtain ⟨ms, hms⟩ := ih
    refine ⟨ns ++ ms, fun name h => ?_⟩
    obtain ⟨t, ht, hk⟩ := h
    rcases List.mem_cons.1 ht with rfl | ht
    · exact List.mem_append_left _ (hns name hk)
    · exact List.mem_append_right _ (hms name ⟨t, ht, hk⟩)

/-- Sources asked in order. -/
def chain [Monad m] (sources : List (TypeSource m)) : TypeSource m where
  Known name := ∃ s ∈ sources, s.Known name
  finite := finite_of_mem sources
  find name := findFirst name sources

/-! ## Counting the names not seen yet -/

/-- How many of the known names are not among `visited`. -/
noncomputable def remaining (source : TypeSource m) (visited : List String) : Nat :=
  fresh source.finite.choose visited

theorem remaining_cons_lt (source : TypeSource m) {name : String} {visited : List String}
    (known : source.Known name) (notSeen : name ∉ visited) :
    source.remaining (name :: visited) < source.remaining visited :=
  fresh_cons_lt (source.finite.choose_spec name known) notSeen

end TypeSource

/-! ## Tables -/

/-- Definitions put together by hand, found under their own names. -/
structure TypeTable where
  /-- One definition per name. -/
  types : List TypeDefinition
  deriving DecidableEq, Repr

namespace TypeTable

def empty : TypeTable := ⟨[]⟩

def size (t : TypeTable) : Nat := t.types.length

def isEmpty (t : TypeTable) : Bool := t.types.isEmpty

def find? (t : TypeTable) (name : String) : Option TypeDefinition :=
  t.types.find? (·.qualifiedName == name)

/-- Adds a definition in place of one of the same name. -/
def insert (t : TypeTable) (d : TypeDefinition) : TypeTable :=
  ⟨t.types.filter (·.qualifiedName != d.qualifiedName) ++ [d]⟩

def ofList (types : List TypeDefinition) : TypeTable := types.foldl insert empty

/-- The table as a source. -/
def source {m : Type → Type} [Monad m] (t : TypeTable) : TypeSource m where
  Known name := ∃ d ∈ t.types, d.qualifiedName = name
  finite := ⟨t.types.map (·.qualifiedName), fun _ ⟨d, hd, h⟩ =>
    List.mem_map.2 ⟨d, hd, h⟩⟩
  find name := pure <|
    match h : t.find? name with
    | some d => some ⟨d, d, List.mem_of_find?_eq_some h, by simpa using List.find?_some h⟩
    | none => none

end TypeTable

end JvmScope
