import JvmScope.Classpath.Provider
import JvmScope.Proofs.Classpath.Generated
import JvmScope.Proofs.Outcome
import JvmScope.Proofs.Types.Source

/-!
# What class directories remember

A class directory reads files when it is asked and remembers what it has answered, while the
files may change from one question to the next. `ClassDirectory.Reached` describes the sessions
that come about so, together with the questions asked so far and the files that each of them has
met. These tell what is answered, without a memo: the first question about a name that finds the
files in order settles the name for good, and as long as none has, every question is a new
attempt (`ClassDirectory.reply_of_reached`). So an answer is what was loaded when the name was
first answered (`ClassDirectory.reply_ok_iff`).
-/

namespace JvmScope

namespace ClassDirectory

/-- What a name is answered with in a session. -/
def reply (d : ClassDirectory) (number : Nat) (s : Session) (name : String) :
    Except TypeError (Option TypeDefinition) :=
  (((d.source number).resolve name).run.run s).1

variable {d : ClassDirectory} {number : Nat} {s : Session} {name : String}
  {r : Option TypeDefinition}

/-! ## Single questions -/

theorem lookup?_remember (memo : Memo) (name other : String) (answer : Option TypeDefinition) :
    (memo.remember name answer).lookup? other =
      if other = name then some answer else memo.lookup? other := by
  unfold Memo.remember Memo.lookup?
  by_cases own : other = name
  · subst own
    simp
  · have differs : (other == name) = false := by simpa using own
    simp [List.lookup_cons, differs, own]

/-- What a question adds to the memo is its own answer, and only if nothing went wrong. -/
theorem lookup?_answer (tree : FileTree) (memo : Memo) (name other : String) :
    (d.answer tree memo other).2.lookup? name =
      (memo.lookup? name).or (if other = name then (d.load tree name).toOption else none) := by
  unfold answer
  cases hmemo : memo.lookup? other with
  | some known =>
      by_cases own : other = name
      · subst own
        simp [hmemo]
      · simp [own]
  | none =>
      cases hload : d.load tree other with
      | error cause =>
          by_cases own : other = name
          · subst own
            simp [hload, Except.toOption]
          · simp [own]
      | ok loaded =>
          show (memo.remember other loaded).lookup? name = _
          rw [lookup?_remember]
          by_cases own : other = name
          · subst own
            simp [hmemo, hload, Except.toOption]
          · simp [own, Ne.symm own]

/-- A failed question leaves the memo as it was. -/
theorem answer_of_error {tree : FileTree} {memo : Memo} {e : TypeError}
    (h : (d.answer tree memo name).1 = .error e) : (d.answer tree memo name).2 = memo := by
  unfold answer at h ⊢
  cases hmemo : memo.lookup? name with
  | some known => rfl
  | none =>
      rw [hmemo] at h
      cases hload : d.load tree name with
      | ok loaded =>
          rw [hload] at h
          cases h
      | error cause => rfl

/-- A question about a known name goes through the memo of the directory. -/
theorem run_resolve_of_knows (valid : QualifiedName.isValid name = true)
    (known : d.index.knows name = true) :
    ((d.source number).resolve name).run.run s =
      ((d.answer s.files (s.memos number) name).1,
        s.setMemo number (d.answer s.files (s.memos number) name).2) := by
  unfold source
  rw [ClassIndex.resolve_of_knows valid known]
  -- the files are read, or the memo is, and the memo is put back
  show ((do
    set (s.setMemo number (d.answer s.files (s.memos number) name).2)
    Live.ofExcept (d.answer s.files (s.memos number) name).1 :
      Live (Option TypeDefinition)).run.run s) = _
  cases (d.answer s.files (s.memos number) name).1 with
  | ok found => rfl
  | error cause => rfl

theorem run_resolve_of_unknown (valid : QualifiedName.isValid name = true)
    (unknown : ¬d.index.knows name = true) :
    ((d.source number).resolve name).run.run s = (.ok none, s) := by
  unfold source
  rw [ClassIndex.resolve_of_unknown valid unknown]
  rfl

theorem run_resolve_of_invalid (invalid : ¬QualifiedName.isValid name = true) :
    ((d.source number).resolve name).run.run s = (.error (.invalidQualifiedName name), s) := by
  have refused : (TypeSource.validate name : Live Unit) =
      throw (.invalidQualifiedName name) := if_neg invalid
  unfold TypeSource.resolve TypeSource.resolveKnown
  rw [refused]
  rfl

/-- A question about a text that is no known name leaves the session alone. -/
theorem run_resolve_of_not (h : ¬(QualifiedName.isValid name = true ∧ d.index.knows name = true)) :
    (((d.source number).resolve name).run.run s).2 = s := by
  by_cases valid : QualifiedName.isValid name = true
  · rw [run_resolve_of_unknown valid fun known => h ⟨valid, known⟩]
  · rw [run_resolve_of_invalid valid]

/-- A known name is answered from the memo, and loaded if it is not there. -/
theorem reply_of_knows (valid : QualifiedName.isValid name = true)
    (known : d.index.knows name = true) :
    d.reply number s name =
      ((s.memos number).lookup? name).elim (d.load s.files name) .ok := by
  unfold reply
  rw [run_resolve_of_knows valid known]
  unfold answer
  cases (s.memos number).lookup? name with
  | some answer => rfl
  | none => cases d.load s.files name <;> rfl

theorem reply_of_unknown (valid : QualifiedName.isValid name = true)
    (unknown : ¬d.index.knows name = true) : d.reply number s name = .ok none := by
  unfold reply
  rw [run_resolve_of_unknown valid unknown]

/-- Whatever is answered is answered to a valid name. -/
theorem isValid_of_reply (h : d.reply number s name = .ok r) :
    QualifiedName.isValid name = true := by
  by_contra invalid
  unfold reply at h
  rw [run_resolve_of_invalid invalid] at h
  cases h

/-- A name with no spelling in the index is loaded as absent, whatever the files are. -/
theorem load_of_unknown {files : FileTree} (unknown : ¬d.index.knows name = true) :
    d.load files name = .ok none := by
  have absent : ∀ spelling ∈ QualifiedName.nestedSpellings name,
      d.readClass files (QualifiedName.toInternal spelling) = .ok none := by
    intro spelling hspelling
    have missing : ¬d.index.contains (QualifiedName.toInternal spelling) = true := fun held =>
      unknown (List.any_eq_true.2 ⟨spelling, hspelling, held⟩)
    exact if_neg missing
  unfold load Loader.load
  rw [Loader.loadFirst_of_absent fun spelling hspelling => .inr (absent spelling hspelling)]
  rfl

/-! ## First answers -/

/-- A question, and the files as they were when it was asked. -/
structure Question where
  name : String
  files : FileTree

/-- What a question finds out about a name, if it is about the name and nothing goes wrong. -/
def Question.answer? (d : ClassDirectory) (name : String) (q : Question) :
    Option (Option TypeDefinition) :=
  if q.name = name then (d.load q.files name).toOption else none

/-- What the first of several questions about a name finds that loads it without an error. -/
def firstAnswer? (d : ClassDirectory) (name : String) (questions : List Question) :
    Option (Option TypeDefinition) :=
  questions.findSome? (·.answer? d name)

/-- The name is first answered, with `r`, while the files are as given: a question that meets
these files loads it, and with all questions about it before that, loading failed. -/
def FirstAnswered (d : ClassDirectory) (name : String) (questions : List Question)
    (files : FileTree) (r : Option TypeDefinition) : Prop :=
  ∃ before after, questions = before ++ ⟨name, files⟩ :: after ∧ d.load files name = .ok r ∧
    ∀ q ∈ before, q.name = name → ∃ e, d.load q.files name = .error e

theorem FirstAnswered.loaded {questions : List Question} {files : FileTree}
    (h : d.FirstAnswered name questions files r) : d.load files name = .ok r := by
  obtain ⟨-, -, -, loaded, -⟩ := h
  exact loaded

theorem Question.answer?_eq_some_iff {q : Question} :
    q.answer? d name = some r ↔ q.name = name ∧ d.load q.files name = .ok r := by
  unfold answer?
  rw [Option.ite_none_right_eq_some, toOption_eq_some_iff]

theorem Question.answer?_eq_none_iff {q : Question} :
    q.answer? d name = none ↔ (q.name = name → ∃ e, d.load q.files name = .error e) := by
  unfold answer?
  by_cases own : q.name = name
  · rw [if_pos own]
    cases d.load q.files name <;> simp [Except.toOption, own]
  · simp [own]

theorem firstAnswer?_eq_some_iff {questions : List Question} :
    d.firstAnswer? name questions = some r ↔
      ∃ files, d.FirstAnswered name questions files r := by
  unfold firstAnswer?
  rw [List.findSome?_eq_some_iff]
  simp only [Question.answer?_eq_some_iff, Question.answer?_eq_none_iff]
  constructor
  · rintro ⟨before, ⟨other, files⟩, after, split, ⟨rfl, loaded⟩, failed⟩
    exact ⟨files, before, after, split, loaded, failed⟩
  · rintro ⟨files, before, after, split, loaded, failed⟩
    exact ⟨before, ⟨name, files⟩, after, split, ⟨rfl, loaded⟩, failed⟩

/-! ## Sessions -/

/-- The sessions in which a class directory may be asked, with the questions it has been asked so
far. Between its questions files change, and directories with other numbers are asked. -/
inductive Reached (d : ClassDirectory) (number : Nat) : List Question → Session → Prop
  | start (files : FileTree) : Reached d number [] (.start files)
  | change {past : List Question} {s : Session} (files : FileTree) : Reached d number past s →
      Reached d number past { s with files := files }
  | ask {past : List Question} {s : Session} (name : String) : Reached d number past s →
      Reached d number (past ++ [⟨name, s.files⟩]) (((d.source number).resolve name).run.run s).2
  | askOther {past : List Question} {s : Session} {other : Nat} (memo : Memo) :
      other ≠ number → Reached d number past s → Reached d number past (s.setMemo other memo)

variable {past : List Question}

/-- What a question about any text adds to what is remembered of a name that may be loaded. -/
theorem lookup?_resolve (valid : QualifiedName.isValid name = true)
    (known : d.index.knows name = true) (other : String) :
    ((((d.source number).resolve other).run.run s).2.memos number).lookup? name =
      ((s.memos number).lookup? name).or ((Question.mk other s.files).answer? d name) := by
  by_cases asked : QualifiedName.isValid other = true ∧ d.index.knows other = true
  · rw [run_resolve_of_knows asked.1 asked.2, Session.memos_setMemo, lookup?_answer]
    rfl
  · -- Neither refused texts nor names without a class are remembered, so this is not the name.
    have differs : other ≠ name := fun same => asked (same ▸ ⟨valid, known⟩)
    have silent : (Question.mk other s.files).answer? d name = none := if_neg differs
    rw [run_resolve_of_not asked, silent, Option.or_none]

/-- The memo holds the first answers. -/
theorem lookup?_of_reached (h : d.Reached number past s)
    (valid : QualifiedName.isValid name = true) (known : d.index.knows name = true) :
    (s.memos number).lookup? name = d.firstAnswer? name past := by
  induction h with
  | start files => rfl
  | change files _ ih => exact ih
  | ask other _ ih =>
      rw [lookup?_resolve valid known, ih]
      unfold firstAnswer?
      rw [List.findSome?_append, List.findSome?_singleton]
  | askOther memo differs _ ih =>
      rw [Session.memos_setMemo_of_ne _ _ _ (Ne.symm differs)]
      exact ih

/-- A name is answered with what the first question about it found that loaded it, and as long as
there is none, with what is in the files. -/
theorem reply_of_reached (h : d.Reached number past s)
    (valid : QualifiedName.isValid name = true) :
    d.reply number s name =
      (d.firstAnswer? name past).elim (d.load s.files name) .ok := by
  by_cases known : d.index.knows name = true
  · rw [reply_of_knows valid known, lookup?_of_reached h valid known]
  · rw [reply_of_unknown valid known, load_of_unknown known]
    cases hfirst : d.firstAnswer? name past with
    | none => rfl
    | some r =>
        obtain ⟨files, answered⟩ := firstAnswer?_eq_some_iff.1 hfirst
        exact (load_of_unknown known).symm.trans answered.loaded

/-- An answer is what was loaded when the name was first answered, be it by this question. -/
theorem reply_ok_iff (h : d.Reached number past s) (valid : QualifiedName.isValid name = true) :
    d.reply number s name = .ok r ↔
      ∃ files, d.FirstAnswered name (past ++ [⟨name, s.files⟩]) files r := by
  have now : (Question.mk name s.files).answer? d name = (d.load s.files name).toOption :=
    if_pos rfl
  have all : d.firstAnswer? name (past ++ [⟨name, s.files⟩]) =
      (d.firstAnswer? name past).or (d.load s.files name).toOption := by
    unfold firstAnswer?
    rw [List.findSome?_append, List.findSome?_singleton, now]
  rw [← firstAnswer?_eq_some_iff, all, reply_of_reached h valid]
  cases d.firstAnswer? name past with
  | none => exact toOption_eq_some_iff.symm
  | some known => simp

end ClassDirectory

end JvmScope
