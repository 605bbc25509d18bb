import JvmScope.Proofs.Types.Erasure

/-!
# The grammar of descriptors

The descriptor of a field is a letter for a primitive, or `L`, the name of a class and `;`, after
a `[` for each dimension of an array; `V` stands for no value. `Grammar` leaves open which names
there are. The platform has those of `IsInternalName`, which consist of parts with slashes
between them, and `grammar_iff` says that such a grammar describes the texts of those types that
have no array of `void` in them and name their class as it demands.

The reader takes every name that a `;` can end. So it accepts the whole grammar of the platform and
more: of the texts it accepts, those belong to the grammar whose type names a class by an internal
name, or none. This is `ofDescriptor_accepts_iff`.
-/

namespace JvmScope

namespace Descriptor

/-! ## Names and the grammar -/

/-- A part of a name: no character in it means something to those who read names or descriptors. -/
def IsUnqualified (cs : List Char) : Prop := cs ≠ [] ∧ ∀ c ∈ cs, c ∉ ['.', ';', '[', '/']

/-- Names of classes as the platform writes them, in their packages. -/
inductive IsInternalName : List Char → Prop
  | part {cs : List Char} (unqualified : IsUnqualified cs) : IsInternalName cs
  | within {space cs : List Char} (unqualified : IsUnqualified space) (name : IsInternalName cs) :
      IsInternalName (space ++ '/' :: cs)

/-- Any name that a `;` can end. -/
def IsEndable (cs : List Char) : Prop := cs ≠ [] ∧ ';' ∉ cs

/-- The letters of the primitives that a field may have. -/
def fieldLetters : List Char := ['B', 'C', 'D', 'F', 'I', 'J', 'S', 'Z']

/-- The descriptors of fields, and `V`, with the names that a class may have. -/
inductive Grammar (Name : List Char → Prop) : List Char → Prop
  | void : Grammar Name ['V']
  | base (dimensions : Nat) {letter : Char} (mem : letter ∈ fieldLetters) :
      Grammar Name (List.replicate dimensions '[' ++ [letter])
  | object (dimensions : Nat) {name : List Char} (named : Name name) :
      Grammar Name (List.replicate dimensions '[' ++ 'L' :: (name ++ [';']))

variable {Name : List Char → Prop} {cs : List Char} {c : Char}

/-- Of the characters that no part may have, only the slash occurs in a name. -/
theorem IsInternalName.notMem (h : IsInternalName cs) (special : c ∈ ['.', ';', '[']) : c ∉ cs := by
  have excluded : c ∈ ['.', ';', '[', '/'] := List.mem_append_left ['/'] special
  induction h with
  | part unqualified =>
      intro mem
      exact unqualified.2 c mem excluded
  | within unqualified _ ih =>
      intro mem
      rcases List.mem_append.1 mem with mem | mem
      · exact unqualified.2 c mem excluded
      · rcases List.mem_cons.1 mem with rfl | mem
        · exact absurd special (by decide)
        · exact ih mem

theorem IsInternalName.endable (h : IsInternalName cs) : IsEndable cs := by
  refine ⟨?_, h.notMem (by decide)⟩
  cases h with
  | part unqualified => exact unqualified.1
  | within => simp

theorem mem_fieldLetters_iff : c ∈ fieldLetters ↔ ∃ k : Primitive, k ≠ .void ∧ k.code = c := by
  constructor
  · intro mem
    simp only [fieldLetters, List.mem_cons, List.not_mem_nil, or_false] at mem
    rcases mem with rfl | rfl | rfl | rfl | rfl | rfl | rfl | rfl
    · exact ⟨.byte, nofun, rfl⟩
    · exact ⟨.char, nofun, rfl⟩
    · exact ⟨.double, nofun, rfl⟩
    · exact ⟨.float, nofun, rfl⟩
    · exact ⟨.int, nofun, rfl⟩
    · exact ⟨.long, nofun, rfl⟩
    · exact ⟨.short, nofun, rfl⟩
    · exact ⟨.boolean, nofun, rfl⟩
  · rintro ⟨k, notVoid, rfl⟩
    cases k <;> first | exact absurd rfl notVoid | decide

/-- One more dimension. -/
theorem Grammar.array (h : Grammar Name cs) (notVoid : cs ≠ ['V']) : Grammar Name ('[' :: cs) := by
  cases h with
  | void => exact absurd rfl notVoid
  | base dimensions mem => exact .base (dimensions + 1) mem
  | object dimensions named => exact .object (dimensions + 1) named

end Descriptor

namespace JvmType

open Descriptor

variable {Name Name' : List Char → Prop} {t : JvmType} {text : String}

/-! ## Types and the grammar -/

/-- The class that the type names, if it names one, has a name of the given sort. -/
def ClassNamed (Name : List Char → Prop) : JvmType → Prop
  | primitive _ => True
  | object name => Name name.toList
  | array component => component.ClassNamed Name

theorem ClassNamed.mono (h : t.ClassNamed Name) (more : ∀ cs, Name cs → Name' cs) :
    t.ClassNamed Name' := by
  induction t with
  | primitive => trivial
  | object name => exact more _ h
  | array component ih => exact ih h

theorem spellable_iff : t.Spellable ↔ t.ClassNamed IsEndable := by
  induction t with
  | primitive => exact Iff.rfl
  | object name =>
      have same : name ≠ "" ↔ name.toList ≠ [] := not_congr String.toList_eq_nil_iff.symm
      exact and_congr_left' same
  | array component ih => exact ih

/-- A name in internal form has no dot. -/
theorem dotless_of_classNamed (h : t.ClassNamed IsInternalName) : t.Dotless := by
  induction t with
  | primitive => trivial
  | object name => exact h.notMem (by decide)
  | array component ih => exact ih h

/-- The arrays of some dimensions whose elements are of a type. -/
theorem exists_arrays (dimensions : Nat) (notVoid : t ≠ .primitive .void) (legal : t.NoVoidArray)
    (named : t.ClassNamed Name) :
    ∃ s : JvmType, s.chars = List.replicate dimensions '[' ++ t.chars ∧ s ≠ .primitive .void ∧
      s.NoVoidArray ∧ s.ClassNamed Name := by
  induction dimensions with
  | zero => exact ⟨t, rfl, notVoid, legal, named⟩
  | succ n ih =>
      obtain ⟨s, chars, notVoid, legal, named⟩ := ih
      refine ⟨.array s, ?_, nofun, ⟨notVoid, legal⟩, named⟩
      show '[' :: s.chars = '[' :: (List.replicate n '[' ++ t.chars)
      rw [chars]

theorem grammar_chars (legal : t.NoVoidArray) (named : t.ClassNamed Name) :
    Grammar Name t.chars := by
  induction t with
  | primitive k =>
      by_cases isVoid : k = .void
      · subst isVoid
        exact .void
      · exact .base 0 (mem_fieldLetters_iff.2 ⟨k, isVoid, rfl⟩)
  | object name => exact .object 0 named
  | array component ih =>
      refine (ih legal.2 named).array fun isVoid => legal.1 ?_
      exact chars_inj isVoid

/-- What the grammar describes are the texts of types. -/
theorem grammar_iff {cs : List Char} :
    Grammar Name cs ↔ ∃ t : JvmType, t.chars = cs ∧ t.NoVoidArray ∧ t.ClassNamed Name := by
  constructor
  · intro h
    cases h with
    | void => exact ⟨.primitive .void, rfl, trivial, trivial⟩
    | base dimensions mem =>
        obtain ⟨k, notVoid, rfl⟩ := mem_fieldLetters_iff.1 mem
        have other : JvmType.primitive k ≠ .primitive .void := by
          intro equal
          exact notVoid (primitive.inj equal)
        obtain ⟨t, chars, -, legal, named⟩ := exists_arrays dimensions other trivial trivial
        exact ⟨t, chars, legal, named⟩
    | @object dimensions name named =>
        have named' : (JvmType.object (String.ofList name)).ClassNamed Name := by
          show Name (String.ofList name).toList
          rw [String.toList_ofList]
          exact named
        have other : JvmType.object (String.ofList name) ≠ .primitive .void := nofun
        obtain ⟨t, chars, -, legal, named⟩ := exists_arrays dimensions other trivial named'
        refine ⟨t, ?_, legal, named⟩
        rw [chars, JvmType.chars, String.toList_ofList]
  · rintro ⟨t, rfl, legal, named⟩
    exact grammar_chars legal named

/-! ## What the reader accepts -/

/-- Of the texts with names of a sort, all are accepted, if a `;` can end each of the names. -/
theorem exists_ofDescriptor_iff (endable : ∀ cs, Name cs → IsEndable cs) :
    (∃ t, ofDescriptor text = .ok t ∧ t.text = text ∧ t.ClassNamed Name) ↔
      Grammar Name text.toList := by
  rw [grammar_iff]
  constructor
  · rintro ⟨t, accepted, rfl, named⟩
    obtain ⟨-, legal⟩ := ofDescriptor_ok_iff.1 accepted
    exact ⟨t, (toList_text t).symm, (isReturn_iff.1 legal).1, named⟩
  · rintro ⟨t, chars, legal, named⟩
    have same : t.text = text := by
      rw [JvmType.text, chars, String.ofList_toList]
    have spelled : t.Spellable := spellable_iff.2 (named.mono endable)
    exact ⟨t, ofDescriptor_ok_iff.2 ⟨same.symm, isReturn_iff.2 ⟨legal, spelled⟩⟩, same, named⟩

/-- What is accepted names no class, or one by a name that a `;` can end. -/
theorem classNamed_of_ofDescriptor (h : ofDescriptor text = .ok t) : t.ClassNamed IsEndable :=
  spellable_iff.1 (isReturn_iff.1 (ofDescriptor_ok_iff.1 h).2).2

/-- Accepted, as they are, are exactly the texts of the grammar in which a class has any name that a
`;` can end, and others are refused as no descriptors. Exactly those texts belong to the
platform's grammar that are accepted and name a class in internal form, or none. -/
theorem ofDescriptor_accepts_iff (text : String) :
    ((∃ t, ofDescriptor text = .ok t ∧ t.text = text) ↔ Grammar IsEndable text.toList) ∧
    (ofDescriptor text = .error (.unsupportedDescriptor text) ↔
      ¬Grammar IsEndable text.toList) ∧
    ((∃ t, ofDescriptor text = .ok t ∧ t.text = text ∧ t.ClassNamed IsInternalName) ↔
      Grammar IsInternalName text.toList) := by
  have accepts : (∃ t, ofDescriptor text = .ok t ∧ t.text = text) ↔
      Grammar IsEndable text.toList := by
    rw [← exists_ofDescriptor_iff fun _ h => h]
    refine exists_congr fun t => and_congr_right fun accepted => ?_
    exact (and_iff_left (classNamed_of_ofDescriptor accepted)).symm
  refine ⟨accepts, ?_, exists_ofDescriptor_iff fun _ h => h.endable⟩
  rw [← accepts]
  constructor
  · rintro refused ⟨t, accepted, -⟩
    rw [refused] at accepted
    cases accepted
  · intro none
    cases outcome : ofDescriptor text with
    | ok t => exact absurd ⟨t, outcome, (ofDescriptor_ok_iff.1 outcome).1.symm⟩ none
    | error e =>
        unfold ofDescriptor at outcome
        split at outcome
        · cases outcome
        · split at outcome
          · cases outcome
          · exact outcome.symm

/-- A text that names a class with a dot is accepted, although the platform has no such name. -/
theorem descriptors_not_always_strict :
    ¬∀ text : String, (∃ t, ofDescriptor text = .ok t ∧ t.text = text) ↔
      Grammar IsInternalName text.toList := by
  intro strict
  have accepted : ∃ t, ofDescriptor "La.b;" = .ok t ∧ t.text = "La.b;" :=
    ⟨.object "a.b", rfl, rfl⟩
  obtain ⟨t, chars, -, named⟩ := grammar_iff.1 ((strict "La.b;").1 accepted)
  have dotless : '.' ∉ t.chars := dotless_iff.1 (dotless_of_classNamed named)
  rw [chars] at dotless
  exact dotless (by decide)

end JvmType

end JvmScope
