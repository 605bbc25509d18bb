import JvmScope.Classpath.Loader

/-!
# Class indices

A place that class files are read from is indexed when it is opened: the internal names of its
classes, sorted. From then on it knows a dotted name exactly when one of the name's spellings is
in the index, whatever happens to the files; so it knows finitely many names, as a type source
has to.
-/

namespace JvmScope

/-- The internal names of the classes in some place, in ascending order. -/
abbrev ClassIndex := List String

namespace ClassIndex

/-- Whether the first name is not above the second in code-point order. -/
def notAbove (a b : String) : Bool := !decide (b < a)

theorem notAbove_iff {a b : String} : notAbove a b = true ↔ a ≤ b := by
  unfold notAbove
  rw [Bool.not_eq_true', decide_eq_false_iff_not]
  exact String.not_lt

/-- An index of class names: ignored classes are left out. -/
def ofNames (internalNames : List String) : ClassIndex :=
  ((internalNames.filter (!Loader.isIgnored ·)).mergeSort notAbove).eraseDups

/-- The dotted names of the classes, in the order of the index. -/
def classNames (index : ClassIndex) : List String := index.map QualifiedName.ofInternal

/-- Whether a class is in the index under just this name. -/
def holds (index : ClassIndex) (name : String) : Bool :=
  index.contains (QualifiedName.toInternal name)

/-- Whether a spelling of the name is in the index. -/
def knows (index : ClassIndex) (name : String) : Bool :=
  (QualifiedName.nestedSpellings name).any index.holds

/-- An index knows finitely many names. -/
theorem finite_knows (index : ClassIndex) :
    ∃ names : List String, ∀ name, index.knows name = true → name ∈ names := by
  refine ⟨index.flatMap fun i =>
    (QualifiedName.readings (QualifiedName.flat i.toList)).map String.ofList, fun name h => ?_⟩
  obtain ⟨s, hs, hi⟩ := List.any_eq_true.1 h
  refine List.mem_flatMap.2 ⟨_, List.contains_iff_mem.1 hi, List.mem_map.2 ⟨name.toList, ?_, ?_⟩⟩
  · exact QualifiedName.mem_readings_of_nestedSpellings hs
  · exact String.ofList_toList

/-- A source that answers for the names an index knows. -/
def source {m : Type → Type} [Monad m] (index : ClassIndex)
    (load : String → m (Option TypeDefinition)) : TypeSource m where
  Known name := index.knows name = true
  finite := index.finite_knows
  find name :=
    if known : index.knows name = true then do
      let found ← load name
      pure (found.map fun d => ⟨d, known⟩)
    else pure none

end ClassIndex

end JvmScope
