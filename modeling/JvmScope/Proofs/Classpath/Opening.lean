import JvmScope.Config.Basic
import JvmScope.Proofs.Types.Chains

/-!
# Opening a classpath

A classpath opens its entries in order. The first entry that does not open is the failure of the
whole (`Classpath.openParts_error_iff`); if there is none, what was opened stands in the order of
the entries, with the JDK before or after all of it (`Classpath.openParts_ok_iff`). For settings
this means the jars in order and then the class directories in order
(`Classpath.openParts_settings_iff`).

What is opened becomes a chain, and chains may be parts of chains. They give the same answers as
their leaves one after the other (`Provider.resolve_sourceFrom`), so the order in which things are
opened is the order in which names are looked for (`Classpath.first_match`).
-/

namespace JvmScope

/-! ## Entries -/

namespace Classpath

variable {tree : FileTree} {entries : List ClasspathEntry} {jdk : Jdk} {position : JdkPosition}

/-- What was opened with the JDK at its place. -/
def around (jdk : Jdk) (opened : List Provider) : JdkPosition → List Provider
  | .first => .jdk jdk :: opened
  | .last => opened ++ [.jdk jdk]

theorem openParts_eq (tree : FileTree) (entries : List ClasspathEntry) (jdk : Jdk)
    (position : JdkPosition) :
    openParts tree entries jdk position =
      (around jdk · position) <$> entries.mapM (ClasspathEntry.openIn tree) := by
  unfold openParts
  rw [map_eq_pure_bind]
  cases position <;> rfl

/-- A classpath opens if all entries do. -/
theorem openParts_ok_iff {parts : List Provider} :
    openParts tree entries jdk position = .ok parts ↔
      ∃ opened, List.Forall₂ (fun entry p => entry.openIn tree = .ok p) entries opened ∧
        parts = around jdk opened position := by
  rw [openParts_eq, map_ok_iff]
  simp only [mapM_ok_iff_forall₂]
  constructor
  · rintro ⟨opened, h, rfl⟩
    exact ⟨opened, h, rfl⟩
  · rintro ⟨opened, h, rfl⟩
    exact ⟨opened, h, rfl⟩

/-- A classpath fails as its first entry that does not open. -/
theorem openParts_error_iff {e : ClasspathError} :
    openParts tree entries jdk position = .error e ↔
      ∃ front entry back, entries = front ++ entry :: back ∧
        (∀ other ∈ front, ∃ p, other.openIn tree = .ok p) ∧ entry.openIn tree = .error e := by
  rw [openParts_eq, map_error_iff, mapM_error_iff]

/-- The classpath of settings: jars in order, then class directories in order. -/
theorem openParts_settings_iff {settings : ClasspathSettings} {parts : List Provider} :
    openParts tree settings.entries jdk settings.jdkPosition = .ok parts ↔
      ∃ archives directories,
        List.Forall₂ (fun path a => Archive.openAt tree path "" = .ok a) settings.jars archives ∧
        List.Forall₂ (fun path d => ClassDirectory.openAt tree path = .ok d) settings.classDirs
          directories ∧
        parts = around jdk (archives.map .jar ++ directories.map .directory)
          settings.jdkPosition := by
  have hjars : settings.jars.mapM (ClasspathEntry.openIn tree ∘ .jar) =
      settings.jars.mapM fun path => Provider.jar <$> Archive.openAt tree path "" := rfl
  have hdirs : settings.classDirs.mapM (ClasspathEntry.openIn tree ∘ .directory) =
      settings.classDirs.mapM fun path => Provider.directory <$> ClassDirectory.openAt tree path :=
    rfl
  rw [openParts_eq, map_ok_iff, ClasspathSettings.entries, List.mapM_append, List.mapM_map,
    List.mapM_map, hjars, hdirs]
  simp only [bind_ok_iff, pure_ok_iff, mapM_map_ok_iff]
  constructor
  · rintro ⟨_, ⟨_, ⟨archives, ha, rfl⟩, _, ⟨directories, hd, rfl⟩, rfl⟩, rfl⟩
    exact ⟨archives, directories, ha, hd, rfl⟩
  · rintro ⟨archives, directories, ha, hd, rfl⟩
    exact ⟨_, ⟨_, ⟨archives, ha, rfl⟩, _, ⟨directories, hd, rfl⟩, rfl⟩, rfl⟩

end Classpath

/-! ## Chains of providers -/

namespace Provider

variable {name : String}

/-- A provider that is no chain answers for itself. -/
theorem resolve_of_leaves {p : Provider} {number : Nat} (h : p.leaves = [p]) :
    (p.sourceFrom number).resolve name =
      (p.leaves.zipIdx number).findSomeM? fun leaf => (leaf.1.sourceFrom leaf.2).resolve name := by
  rw [h]
  exact (findSomeM?_singleton
    (fun leaf : Provider × Nat => (leaf.1.sourceFrom leaf.2).resolve name) (p, number)).symm

mutual

/-- A provider answers as its leaves do, asked from left to right. -/
theorem resolve_sourceFrom (valid : QualifiedName.isValid name = true) (number : Nat)
    (p : Provider) :
    (p.sourceFrom number).resolve name =
      (p.leaves.zipIdx number).findSomeM? fun leaf => (leaf.1.sourceFrom leaf.2).resolve name := by
  cases p with
  | table types => exact resolve_of_leaves rfl
  | jar archive => exact resolve_of_leaves rfl
  | directory classes => exact resolve_of_leaves rfl
  | jdk j => exact resolve_of_leaves rfl
  | chain parts =>
      rw [sourceFrom, leaves, TypeSource.resolve_chain valid]
      exact findSomeM?_sourcesFrom valid number parts

theorem findSomeM?_sourcesFrom (valid : QualifiedName.isValid name = true) (number : Nat)
    (parts : List Provider) :
    ((sourcesFrom number parts).findSomeM? fun s => s.resolve name) =
      ((leavesAll parts).zipIdx number).findSomeM? fun leaf =>
        (leaf.1.sourceFrom leaf.2).resolve name := by
  cases parts with
  | nil => rfl
  | cons p rest =>
      rw [sourcesFrom, leavesAll, List.zipIdx_append, findSomeM?_append,
        ← findSomeM?_sourcesFrom valid (number + p.leaves.length) rest,
        ← resolve_sourceFrom valid number p]
      exact List.findSomeM?_cons ..

end

/-- What stands in no chain is its own leaf. -/
theorem leavesAll_of_leaves {parts : List Provider} (h : ∀ p ∈ parts, p.leaves = [p]) :
    leavesAll parts = parts := by
  induction parts with
  | nil => rfl
  | cons p rest ih =>
      rw [leavesAll, h p List.mem_cons_self, ih fun q hq => h q (List.mem_cons_of_mem _ hq)]
      rfl

end Provider

namespace Classpath

/-- An entry opens to a jar or to a class directory. -/
theorem leaves_of_openIn {tree : FileTree} {entry : ClasspathEntry} {p : Provider}
    (h : entry.openIn tree = .ok p) : p.leaves = [p] := by
  cases entry with
  | jar path =>
      obtain ⟨archive, -, rfl⟩ := map_ok_iff.1 h
      rfl
  | directory path =>
      obtain ⟨classes, -, rfl⟩ := map_ok_iff.1 h
      rfl

/-- An opened classpath is flat. -/
theorem leaves_of_openParts {tree : FileTree} {entries : List ClasspathEntry} {jdk : Jdk}
    {position : JdkPosition} {parts : List Provider}
    (h : openParts tree entries jdk position = .ok parts) :
    (Provider.chain parts).leaves = parts := by
  obtain ⟨opened, hopened, rfl⟩ := openParts_ok_iff.1 h
  have hleaf : ∀ p ∈ opened, p.leaves = [p] := by
    intro p hp
    obtain ⟨i, hi, rfl⟩ := List.getElem_of_mem hp
    obtain ⟨hlen, hget⟩ := List.forall₂_iff_get.1 hopened
    exact leaves_of_openIn (hget i (hlen ▸ hi) hi)
  refine Provider.leavesAll_of_leaves fun p hp => ?_
  cases position with
  | first =>
      rcases List.mem_cons.1 hp with rfl | hp
      · rfl
      · exact hleaf p hp
  | last =>
      rcases List.mem_append.1 hp with hp | hp
      · exact hleaf p hp
      · rw [List.mem_singleton.1 hp]
        rfl

/-- **Chains are flat lists, searched from the left.** Sources nested in chains answer a valid name
as their leaves do one after the other, whatever the leaves may say: the first of them that does
not answer "absent" decides, failures included, whatever stands after it. So do the providers of a
classpath. A classpath fails as its first entry that does not open; otherwise it is the flat chain
of what its entries open to, which for settings are the jars and then the class directories in
their orders, with the JDK before or after all of them. -/
theorem first_match {name : String} (valid : QualifiedName.isValid name = true) :
    (∀ (m : Type → Type) [Monad m] [LawfulMonad m] [MonadExceptOf TypeError m]
        (t : SourceTree m),
      t.source.resolve name = t.leaves.findSomeM? fun leaf => leaf.resolve name) ∧
    (∀ (m : Type → Type) [Monad m] [LawfulMonad m] [MonadExceptOf TypeError m]
        (answer : m (Option TypeDefinition)), ∃ s : TypeSource m, s.resolve name = answer) ∧
    (∀ (t : SourceTree (Except TypeError)) front s back, t.leaves = front ++ s :: back →
      (∀ leaf ∈ front, leaf.resolve name = .ok none) → s.resolve name ≠ .ok none →
      t.source.resolve name = s.resolve name) ∧
    (∀ t : SourceTree (Except TypeError),
      t.source.resolve name = .ok none ↔ ∀ leaf ∈ t.leaves, leaf.resolve name = .ok none) ∧
    (∀ p : Provider, p.source.resolve name =
      p.leaves.zipIdx.findSomeM? fun leaf => (leaf.1.sourceFrom leaf.2).resolve name) ∧
    (∀ tree entries jdk position,
      (∀ e, openParts tree entries jdk position = .error e ↔
        ∃ front entry back, entries = front ++ entry :: back ∧
          (∀ other ∈ front, ∃ p, other.openIn tree = .ok p) ∧ entry.openIn tree = .error e) ∧
      ∀ parts, openParts tree entries jdk position = .ok parts ↔
        ∃ opened, List.Forall₂ (fun entry p => entry.openIn tree = .ok p) entries opened ∧
          parts = around jdk opened position ∧ (Provider.chain parts).leaves = parts) ∧
    ∀ tree (settings : ClasspathSettings) jdk parts,
      openParts tree settings.entries jdk settings.jdkPosition = .ok parts ↔
        ∃ archives directories,
          List.Forall₂ (fun path a => Archive.openAt tree path "" = .ok a) settings.jars
            archives ∧
          List.Forall₂ (fun path d => ClassDirectory.openAt tree path = .ok d)
            settings.classDirs directories ∧
          parts = around jdk (archives.map .jar ++ directories.map .directory)
            settings.jdkPosition := by
  refine ⟨?_, ?_, ?_, ?_, ?_, ?_, ?_⟩
  · intro m _ _ _ t
    exact SourceTree.resolve_source valid t
  · intro m _ _ _ answer
    exact ⟨_, TypeSource.resolve_answering valid answer⟩
  · intro t front s back hleaves absent answers
    exact SourceTree.resolve_decided valid hleaves absent answers
  · intro t
    exact SourceTree.resolve_absent_iff valid
  · intro p
    exact Provider.resolve_sourceFrom valid 0 p
  · intro tree entries jdk position
    refine ⟨fun e => openParts_error_iff, fun parts => ⟨fun h => ?_, ?_⟩⟩
    · obtain ⟨opened, hopened, hparts⟩ := openParts_ok_iff.1 h
      exact ⟨opened, hopened, hparts, leaves_of_openParts h⟩
    · rintro ⟨opened, hopened, hparts, -⟩
      exact openParts_ok_iff.2 ⟨opened, hopened, hparts⟩
  · intro tree settings jdk parts
    exact openParts_settings_iff

/-- A broken source hides what stands after it, in a chain within a chain. -/
theorem first_match_broken :
    QualifiedName.isValid "A" = true ∧
      (SourceTree.chain [.leaf (TypeTable.empty.source : TypeSource (Except TypeError)),
        .chain [.leaf (.answering "A" (throw (.missingType "B"))),
          .leaf (TypeTable.empty.source)]]).source.resolve "A" =
        .error (.missingType "B") := by
  have valid : QualifiedName.isValid "A" = true := by decide
  obtain ⟨-, -, decided, -⟩ := first_match valid
  have hbroken := TypeSource.resolve_answering valid
    (throw (.missingType "B") : Except TypeError (Option TypeDefinition))
  refine ⟨valid, (decided _ [TypeTable.empty.source]
    (.answering "A" (throw (.missingType "B"))) [TypeTable.empty.source] rfl ?_ ?_).trans hbroken⟩
  · intro leaf hleaf
    rw [List.mem_singleton.1 hleaf, TypeSource.resolve_of_valid _ valid]
    rfl
  · rw [hbroken]
    exact nofun

end Classpath

end JvmScope
