import JvmScope.Proofs.Classpath.OwnNames

/-!
# Class directories in use

What a class directory answers while the files that it reads change between one question and the
next. An `Event` is such a change or a question; `ClassDirectory.after` runs the events of a
list, memo and all. A run is one way to reach a session, so what comes out of it is told by the
questions among its events (`ClassDirectory.reply_after`).

So a run shows that there is a memo only by answers that outlive the files they were read from:
`ClassDirectory.answers_of_run` has what remains and what does not.
-/

namespace JvmScope

namespace ClassDirectory

/-- What happens to a class directory in use: its files change, or it is asked. -/
inductive Event
  | write (path : String) (node : FileNode)
  | remove (path : String)
  | ask (name : String)
  deriving DecidableEq, Repr

/-- The files after an event. -/
def Event.applyTo (files : FileTree) : Event → FileTree
  | write path node => files.write path node
  | remove path => files.remove path
  | ask _ => files

/-- The files after events. -/
def filesAfter (files : FileTree) (events : List Event) : FileTree :=
  events.foldl Event.applyTo files

/-- The session after an event. -/
def step (d : ClassDirectory) (number : Nat) (s : Session) : Event → Session
  | .write path node => { s with files := s.files.write path node }
  | .remove path => { s with files := s.files.remove path }
  | .ask name => (((d.source number).resolve name).run.run s).2

/-- The session after events. -/
def after (d : ClassDirectory) (number : Nat) (s : Session) (events : List Event) : Session :=
  events.foldl (d.step number) s

/-- The question that an event is. -/
def Event.question? (files : FileTree) : Event → Option Question
  | write _ _ | remove _ => none
  | ask name => some ⟨name, files⟩

/-- The questions among events. -/
def asked : FileTree → List Event → List Question
  | _, [] => []
  | files, event :: rest => (event.question? files).toList ++ asked (event.applyTo files) rest

/-- No event of a run changes what can be read. -/
def Steady (files : FileTree) (events : List Event) : Prop :=
  ∀ earlier, earlier <+: events → ∀ path, (filesAfter files earlier).read path = files.read path

variable {d : ClassDirectory} {number : Nat} {files : FileTree} {s : Session} {name : String}
  {events : List Event} {event : Event}

/-- Of the files, loading sees what can be read. -/
theorem load_congr {other : FileTree} (h : ∀ path, other.read path = files.read path) :
    d.load other name = d.load files name := by
  have same : d.readClass other = d.readClass files := by
    funext internal
    unfold readClass
    simp only [h]
  unfold load
  rw [same]

/-! ## One event -/

theorem files_step : (d.step number s event).files = event.applyTo s.files := by
  cases event with
  | write path node => rfl
  | remove path => rfl
  | ask other =>
      show (((d.source number).resolve other).run.run s).2.files = s.files
      by_cases asked : QualifiedName.isValid other = true ∧ d.index.knows other = true
      · rw [run_resolve_of_knows asked.1 asked.2]
        exact s.files_setMemo _ _
      · rw [run_resolve_of_not asked]

/-- A session stays one in which the directory may be asked. -/
theorem Reached.step {past : List Question} (h : d.Reached number past s) (event : Event) :
    d.Reached number (past ++ (event.question? s.files).toList) (d.step number s event) := by
  cases event with
  | write path node =>
      rw [Event.question?, Option.toList_none, List.append_nil]
      exact h.change _
  | remove path =>
      rw [Event.question?, Option.toList_none, List.append_nil]
      exact h.change _
  | ask name => exact h.ask name

/-- A question that fails leaves the session as it was. -/
theorem step_ask_of_error {e : TypeError} (h : d.reply number s name = .error e) :
    d.step number s (.ask name) = s := by
  unfold reply at h
  show (((d.source number).resolve name).run.run s).2 = s
  by_cases asked : QualifiedName.isValid name = true ∧ d.index.knows name = true
  · rw [run_resolve_of_knows asked.1 asked.2] at h ⊢
    dsimp only
    rw [answer_of_error h, Session.setMemo_memos]
  · exact run_resolve_of_not asked

/-! ## Runs -/

theorem after_append (d : ClassDirectory) (number : Nat) (s : Session)
    (before later : List Event) :
    d.after number s (before ++ later) = d.after number (d.after number s before) later :=
  List.foldl_append

theorem filesAfter_append (files : FileTree) (before later : List Event) :
    filesAfter files (before ++ later) = filesAfter (filesAfter files before) later :=
  List.foldl_append

theorem asked_append (files : FileTree) (before later : List Event) :
    asked files (before ++ later) =
      asked files before ++ asked (filesAfter files before) later := by
  induction before generalizing files with
  | nil => rfl
  | cons event rest ih =>
      show (event.question? files).toList ++ asked (event.applyTo files) (rest ++ later) = _
      rw [ih, ← List.append_assoc]
      rfl

theorem files_after (d : ClassDirectory) (number : Nat) (s : Session) (events : List Event) :
    (d.after number s events).files = filesAfter s.files events := by
  induction events generalizing s with
  | nil => rfl
  | cons event rest ih =>
      show (d.after number (d.step number s event) rest).files =
        filesAfter (event.applyTo s.files) rest
      rw [ih, files_step]

/-- A run asks its questions. -/
theorem Reached.after {past : List Question} (h : d.Reached number past s)
    (events : List Event) :
    d.Reached number (past ++ asked s.files events) (d.after number s events) := by
  induction events generalizing past s with
  | nil =>
      rw [asked, List.append_nil]
      exact h
  | cons event rest ih =>
      have later := ih (h.step event)
      rw [files_step, List.append_assoc] at later
      exact later

/-- Only questions are answered. -/
theorem firstAnswer?_of_notMem (h : .ask name ∉ events) :
    d.firstAnswer? name (asked files events) = none := by
  induction events generalizing files with
  | nil => rfl
  | cons event rest ih =>
      obtain ⟨other, notRest⟩ := not_or.1 fun mem => h (List.mem_cons.2 mem)
      have silent : d.firstAnswer? name (event.question? files).toList = none := by
        cases event with
        | write path node => rfl
        | remove path => rfl
        | ask asked =>
            have differs : asked ≠ name := fun same => other (same ▸ rfl)
            exact List.findSome?_singleton.trans (if_neg differs)
      unfold asked firstAnswer?
      rw [List.findSome?_append]
      exact (congrArg (Option.or · _) silent).trans (ih notRest)

/-- A question about a name loads it if nothing has before. -/
theorem firstAnswer?_of_ask (files : FileTree) (before later : List Event) :
    d.firstAnswer? name (asked files (before ++ .ask name :: later)) =
      (d.firstAnswer? name (asked files before)).or
        ((d.load (filesAfter files before) name).toOption.or
          (d.firstAnswer? name (asked (filesAfter files before) later))) := by
  have now : Question.answer? d name ⟨name, filesAfter files before⟩ =
      (d.load (filesAfter files before) name).toOption := if_pos rfl
  rw [asked_append]
  show List.findSome? _ (asked files before ++ ([Question.mk name (filesAfter files before)] ++
    asked (filesAfter files before) later)) = _
  rw [List.findSome?_append, List.findSome?_append, List.findSome?_singleton, now]
  rfl

/-- A question meets the files as they are at some point of the run. -/
theorem exists_prefix_of_mem_asked {q : Question} (h : q ∈ asked files events) :
    ∃ earlier, earlier <+: events ∧ q.files = filesAfter files earlier := by
  induction events generalizing files with
  | nil => cases h
  | cons event rest ih =>
      rcases List.mem_append.1 h with now | later
      · refine ⟨[], List.nil_prefix, ?_⟩
        cases event with
        | write path node => cases now
        | remove path => cases now
        | ask name =>
            obtain rfl := List.mem_singleton.1 now
            rfl
      · obtain ⟨earlier, hearlier, same⟩ := ih later
        exact ⟨event :: earlier, List.cons_prefix_cons.2 ⟨rfl, hearlier⟩, same⟩

/-- What is answered after a run, without a memo: what the first question that could be answered
has found, and otherwise what is in the files. -/
theorem reply_after (valid : QualifiedName.isValid name = true) (files : FileTree)
    (events : List Event) :
    d.reply number (d.after number (.start files) events) name =
      (d.firstAnswer? name (asked files events)).elim
        (d.load (filesAfter files events) name) .ok := by
  have started : d.Reached number [] (.start files) := .start files
  have reached := started.after events
  rw [reply_of_reached reached valid, files_after]
  rfl

/-- Questions change no files. -/
theorem steady_of_asks (h : ∀ event ∈ events, ∃ name, event = .ask name) : Steady files events := by
  have unchanged : ∀ earlier : List Event, (∀ event ∈ earlier, ∃ name, event = .ask name) →
      filesAfter files earlier = files := by
    intro earlier asks
    induction earlier with
    | nil => rfl
    | cons event rest ih =>
        obtain ⟨name, rfl⟩ := asks event List.mem_cons_self
        exact ih fun other hother => asks other (List.mem_cons_of_mem _ hother)
  intro earlier hearlier path
  rw [unchanged earlier fun event hevent => h event (hearlier.subset hevent)]

/-- An answer, found or absent, is given again for the rest of a run, whatever becomes of the
files. An error leaves no trace, and the next question about the name gets what is in the files
by then. As long as nothing changes in the files, every answer is what is in them. -/
theorem answers_of_run (d : ClassDirectory) (number : Nat) (files : FileTree) :
    (∀ before later name r, d.reply number (d.after number (.start files) before) name = .ok r →
        d.reply number (d.after number (.start files) (before ++ .ask name :: later)) name =
          .ok r) ∧
      (∀ before name e,
        d.reply number (d.after number (.start files) before) name = .error e →
        d.after number (.start files) (before ++ [.ask name]) =
            d.after number (.start files) before ∧
          ∀ between, QualifiedName.isValid name = true → .ask name ∉ between →
            d.reply number (d.after number (.start files) (before ++ .ask name :: between)) name =
              d.load (filesAfter files (before ++ between)) name) ∧
      ∀ events name, QualifiedName.isValid name = true → Steady files events →
        d.reply number (d.after number (.start files) events) name = d.load files name := by
  refine ⟨?_, ?_, ?_⟩
  · intro before later name r answered
    have valid := isValid_of_reply answered
    rw [reply_after valid] at answered ⊢
    rw [firstAnswer?_of_ask]
    -- The name was settled before, or it is by this question, which loads what was answered.
    cases hfirst : d.firstAnswer? name (asked files before) with
    | some known =>
        rw [hfirst] at answered
        exact answered
    | none =>
        rw [hfirst] at answered
        have loaded : d.load (filesAfter files before) name = .ok r := answered
        rw [loaded]
        rfl
  · intro before name e failed
    constructor
    · rw [after_append]
      exact step_ask_of_error failed
    · intro between valid silent
      rw [reply_after valid] at failed ⊢
      have unanswered : d.firstAnswer? name (asked files before) = none := by
        cases hfirst : d.firstAnswer? name (asked files before) with
        | none => rfl
        | some known =>
            rw [hfirst] at failed
            cases failed
      rw [unanswered] at failed
      have broken : d.load (filesAfter files before) name = .error e := failed
      -- The failed question settles nothing, and no other one follows.
      have still : d.firstAnswer? name (asked files (before ++ .ask name :: between)) = none := by
        rw [firstAnswer?_of_ask, unanswered, broken, firstAnswer?_of_notMem silent]
        rfl
      rw [still, filesAfter_append, filesAfter_append]
      rfl
  · intro events name valid steady
    rw [reply_after valid]
    cases hfirst : d.firstAnswer? name (asked files events) with
    | none => exact load_congr (steady events (List.prefix_refl events))
    | some r =>
        -- What settled the name was loaded from files that read as the first ones do.
        obtain ⟨met, before, after, split, loaded, -⟩ := firstAnswer?_eq_some_iff.1 hfirst
        have hmem : ⟨name, met⟩ ∈ asked files events := by
          rw [split]
          exact List.mem_append_right _ List.mem_cons_self
        obtain ⟨earlier, hearlier, rfl⟩ := exists_prefix_of_mem_asked hmem
        rw [load_congr (steady earlier hearlier)] at loaded
        exact loaded.symm

/-! ## A class file that comes and goes -/

/-- The class file of `Loader.rootFiles`. -/
def rootNode : FileNode := .file (.plain (Loader.bytesOf "B"))

theorem destination_empty :
    FileTree.empty.destination FileTree.maxLinks [] ["B.class"] = .ok ["B.class"] := by
  have top : FileTree.empty.nodeAt [] = some .directory := rfl
  have nothing : FileTree.empty.nodeAt ["B.class"] = none := rfl
  have name : FilePath.isTrivial "B.class" = false := by decide
  have short : ¬FileTree.maxNameSize < "B.class".utf8ByteSize := by decide
  rw [FileTree.destination, top]
  simp [name, short, nothing]

theorem empty_write : FileTree.empty.write "/B.class" rootNode = Loader.rootFiles := by
  have names : FileTree.names "/B.class" = ["B.class"] := by decide
  unfold FileTree.write FileTree.placeFrom
  rw [names]
  simp only [List.getLast?_singleton, List.dropLast_singleton, List.foldl_nil]
  rw [destination_empty]
  rfl

theorem empty_read : FileTree.empty.read "/B.class" = .error .notFound := by
  have pieces : FilePath.pieces "/B.class" = ["", "B.class"] := by decide
  have leads : FileTree.empty.destination FileTree.maxLinks [] ["", "B.class"] =
      .ok ["B.class"] := by
    have top : FileTree.empty.nodeAt [] = some .directory := rfl
    rw [FileTree.destination, top]
    exact destination_empty
  unfold FileTree.read FileTree.locate
  rw [pieces, leads]
  rfl

/-- A class that is in the index but not among the files cannot be read. -/
theorem rootClasses_load_empty : ∃ e, Loader.rootClasses.load .empty "B" = .error e := by
  rw [Loader.rootClasses_load_eq, empty_read]
  exact ⟨_, rfl⟩

/-- A class file is read and removed and its class still answered; before it was written, its
class was an error, and is loaded afterwards; and while it stands, it is what is answered. -/
theorem rootClasses_answers_of_run :
    (Loader.rootClasses.reply 0
        (Loader.rootClasses.after 0 (.start Loader.rootFiles) [.ask "B", .remove "/B.class"]) "B" =
      .ok (some (Loader.definitionOf "B" (.directory "/")))) ∧
    (∃ e, Loader.rootClasses.reply 0 (.start .empty) "B" = .error e ∧
      Loader.rootClasses.after 0 (.start .empty) [.ask "B"] = .start .empty ∧
      Loader.rootClasses.reply 0
          (Loader.rootClasses.after 0 (.start .empty) [.ask "B", .write "/B.class" rootNode]) "B" =
        .ok (some (Loader.definitionOf "B" (.directory "/")))) ∧
    Loader.rootClasses.reply 0
        (Loader.rootClasses.after 0 (.start Loader.rootFiles) [.ask "B", .ask "C"]) "B" =
      .ok (some (Loader.definitionOf "B" (.directory "/"))) := by
  have valid : QualifiedName.isValid "B" = true := by decide
  have first : ∀ files : FileTree, Loader.rootClasses.reply 0 (.start files) "B" =
      Loader.rootClasses.load files "B" := fun files => reply_after valid files []
  refine ⟨?_, ?_, ?_⟩
  · obtain ⟨lasting, -, -⟩ := answers_of_run Loader.rootClasses 0 Loader.rootFiles
    have found := (first Loader.rootFiles).trans Loader.rootClasses_load
    exact lasting [] [.remove "/B.class"] "B" _ found
  · obtain ⟨-, traceless, -⟩ := answers_of_run Loader.rootClasses 0 .empty
    obtain ⟨e, missing⟩ := rootClasses_load_empty
    have failed := (first .empty).trans missing
    obtain ⟨unchanged, tried⟩ := traceless [] "B" e failed
    refine ⟨e, failed, unchanged, ?_⟩
    have written : filesAfter .empty [.write "/B.class" rootNode] = Loader.rootFiles := empty_write
    have again := tried [.write "/B.class" rootNode] valid (by simp)
    rw [List.nil_append, List.nil_append, written, Loader.rootClasses_load] at again
    exact again
  · obtain ⟨-, -, steadily⟩ := answers_of_run Loader.rootClasses 0 Loader.rootFiles
    have asks : Steady Loader.rootFiles [.ask "B", .ask "C"] := steady_of_asks (by simp)
    rw [steadily [.ask "B", .ask "C"] "B" valid asks]
    exact Loader.rootClasses_load

end ClassDirectory

end JvmScope
