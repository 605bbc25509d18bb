import JvmScope.Proofs.Classpath.OwnNames
import JvmScope.Proofs.Types.Chains

/-!
# Which entry of an archive is read

An archive is indexed by taking a folder and a suffix off the names of its entries, and read by
putting them on again, so what the index has can be read and what can be read is in the index, if
it is not ignored (`Archive.Opened.readClass_eq_some_iff`).

A name is looked for under its spellings in order, and under each of them in the archives in
order. So the first spelling that some archive has decides, wherever that archive stands, and of
the archives that have it the first one: `Loader.FirstHeld`. What is kept there is loaded, come
what may. `Loader.answered_of_archives` says so of jars and of JDKs.
-/

namespace JvmScope

/-- An index has the names that it was made of, apart from ignored ones. -/
theorem ClassIndex.contains_ofNames_iff {names : List String} {i : String} :
    (ofNames names).contains i = true ↔ i ∈ names ∧ Loader.isIgnored i = false := by
  unfold ofNames
  rw [List.contains_iff_mem, List.mem_eraseDups, List.mem_mergeSort, List.mem_filter,
    Bool.not_eq_true']

/-- The source of an index answers with what is loaded, if unknown names are loaded as absent. -/
theorem ClassIndex.resolve_eq_load {index : ClassIndex} {name : String}
    {load : String → Except TypeError (Option TypeDefinition)}
    (valid : QualifiedName.isValid name = true)
    (unknown : ¬index.knows name = true → load name = .ok none) :
    (index.source load).resolve name = load name := by
  by_cases known : index.knows name = true
  · exact resolve_of_knows valid known
  · exact (resolve_of_unknown valid known).trans (unknown known).symm

namespace Archive

variable {a : Archive} {folder entry i spelling : String} {bytes : List UInt8}

/-! ## Entries and classes -/

/-- Taking the folder and the suffix off the name of an entry and putting them on are inverse. -/
theorem classOf?_eq_some_iff : classOf? folder entry = some i ↔ entry = entryOf folder i := by
  unfold classOf? entryOf
  rw [Option.bind_eq_some_iff, String.append_assoc]
  constructor
  · rintro ⟨rest, hrest, hi⟩
    rw [Text.dropStart?_eq_some.1 hrest, Text.dropTail?_eq_some.1 hi]
  · intro h
    exact ⟨i ++ classSuffix, Text.dropStart?_eq_some.2 h, Text.dropTail?_eq_some.2 rfl⟩

/-- The classes among entries are those that there are entries for. -/
theorem mem_classes_iff {entries : List (String × List UInt8)} :
    (i ∈ entries.filterMap fun e => classOf? folder e.1) ↔
      ∃ bytes, (entryOf folder i, bytes) ∈ entries := by
  rw [List.mem_filterMap]
  constructor
  · rintro ⟨⟨entry, bytes⟩, hmem, hentry⟩
    exact ⟨bytes, classOf?_eq_some_iff.1 hentry ▸ hmem⟩
  · rintro ⟨bytes, hmem⟩
    exact ⟨_, hmem, classOf?_eq_some_iff.2 rfl⟩

/-- An archive as it has been opened, with distinct names for its entries. -/
structure Opened (a : Archive) : Prop where
  distinct : (a.entries.map Prod.fst).Nodup
  indexed : a.index = .ofNames (a.entries.filterMap fun e => classOf? a.folder e.1)

theorem opened_ofEntries {path : String} {entries : List (String × List UInt8)}
    (distinct : (entries.map Prod.fst).Nodup) : (ofEntries path folder entries).Opened :=
  ⟨distinct, rfl⟩

/-- The archive has an entry for the internal form of a spelling, with the given bytes. -/
def Holds (a : Archive) (spelling : String) (bytes : List UInt8) : Prop :=
  (entryOf a.folder (QualifiedName.toInternal spelling), bytes) ∈ a.entries

theorem holds_ofEntries_singleton {path : String} {other : List UInt8} :
    (ofEntries path folder [(entry, bytes)]).Holds spelling other ↔
      entryOf folder (QualifiedName.toInternal spelling) = entry ∧ other = bytes :=
  List.mem_singleton.trans Prod.ext_iff

/-- With distinct names every entry can be looked up. -/
theorem lookup_of_mem {entries : List (String × List UInt8)}
    (distinct : (entries.map Prod.fst).Nodup) (h : (entry, bytes) ∈ entries) :
    entries.lookup entry = some bytes := by
  obtain ⟨front, back, hsplit, apart⟩ := exists_split_of_distinct distinct h
  exact List.lookup_eq_some_iff.2
    ⟨front, back, hsplit, fun e he => bne_iff_ne.2 (apart e he).symm⟩

namespace Opened

variable (h : a.Opened)
include h

/-- The index has the classes that there are entries for, apart from ignored ones. -/
theorem contains_iff : a.index.contains i = true ↔
    (∃ bytes, (entryOf a.folder i, bytes) ∈ a.entries) ∧ Loader.isIgnored i = false := by
  rw [h.indexed, ClassIndex.contains_ofNames_iff, mem_classes_iff]

/-- What the index has is among the entries. -/
theorem exists_lookup (indexed : a.index.contains i = true) :
    ∃ bytes, a.entries.lookup (entryOf a.folder i) = some bytes := by
  obtain ⟨⟨bytes, hmem⟩, -⟩ := h.contains_iff.1 indexed
  exact ⟨bytes, lookup_of_mem h.distinct hmem⟩

/-- The entries are read under the names of their classes, apart from ignored ones. -/
theorem readClass_eq_some_iff : a.readClass i = some bytes ↔
    (entryOf a.folder i, bytes) ∈ a.entries ∧ Loader.isIgnored i = false := by
  unfold readClass
  constructor
  · intro hread
    split at hread
    · rename_i indexed
      obtain ⟨front, back, hentries, -⟩ := List.lookup_eq_some_iff.1 hread
      refine ⟨?_, (h.contains_iff.1 indexed).2⟩
      rw [hentries]
      exact List.mem_append_right _ List.mem_cons_self
    · cases hread
  · rintro ⟨hmem, notIgnored⟩
    rw [if_pos (h.contains_iff.2 ⟨⟨bytes, hmem⟩, notIgnored⟩)]
    exact lookup_of_mem h.distinct hmem

end Opened

end Archive

namespace Loader

variable {archives : List Archive} {origin : Origin} {name spelling : String}
  {bytes : List UInt8}

/-! ## Spellings and archives -/

/-- Some archive has an entry for the spelling, and it is not ignored. -/
def Held (archives : List Archive) (spelling : String) : Prop :=
  isIgnored (QualifiedName.toInternal spelling) = false ∧
    ∃ a ∈ archives, ∃ bytes, a.Holds spelling bytes

/-- The first spelling of the name that some archive has, with what is kept under it in the first
archive that has it. -/
structure FirstHeld (archives : List Archive) (name spelling : String) (bytes : List UInt8) :
    Prop where
  first : ∃ front back, QualifiedName.nestedSpellings name = front ++ spelling :: back ∧
    ∀ s ∈ front, ¬Held archives s
  notIgnored : isIgnored (QualifiedName.toInternal spelling) = false
  archive : ∃ before a after, archives = before ++ a :: after ∧
    (∀ b ∈ before, ∀ other, ¬b.Holds spelling other) ∧ a.Holds spelling bytes

/-- An answer that the archives have for the name. -/
structure Answered (archives : List Archive) (origin : Origin) (name : String)
    (answer : Except TypeError (Option TypeDefinition)) : Prop where
  /-- Without a spelling that is in some archive the name is absent. -/
  absent : (∀ s ∈ QualifiedName.nestedSpellings name, ¬Held archives s) → answer = .ok none
  /-- Otherwise the entry is loaded that comes first, and failing to is the answer. -/
  found : ∀ spelling bytes, FirstHeld archives name spelling bytes →
    answer = (ofBytes spelling origin bytes).mapError (·.toTypeError name)
  /-- There is such an entry, or no spelling is in an archive. -/
  settled : (∃ spelling bytes, FirstHeld archives name spelling bytes) ∨
    ∀ s ∈ QualifiedName.nestedSpellings name, ¬Held archives s
  /-- A failure is that of loading this entry, which is there. -/
  failed : ∀ e, answer = .error e → ∃ spelling bytes, FirstHeld archives name spelling bytes ∧
    ∃ cause, ofBytes spelling origin bytes = .error cause ∧ e = cause.toTypeError name
  /-- The name itself is preferred to its other spellings, whichever archive has it. -/
  exact : Held archives name → ∃ bytes, FirstHeld archives name name bytes

theorem exists_first_archive (held : ∃ a ∈ archives, ∃ bytes, a.Holds spelling bytes) :
    ∃ before a after bytes, archives = before ++ a :: after ∧
      (∀ b ∈ before, ∀ other, ¬b.Holds spelling other) ∧ a.Holds spelling bytes := by
  have somewhere : ¬∀ a ∈ archives, ∀ bytes, ¬a.Holds spelling bytes := by
    obtain ⟨a, ha, bytes, hbytes⟩ := held
    exact fun nowhere => nowhere a ha bytes hbytes
  obtain ⟨before, a, after, hsplit, apart, ha⟩ := exists_first_not somewhere
  obtain ⟨bytes, hbytes⟩ := not_forall_not.1 ha
  exact ⟨before, a, after, bytes, hsplit, apart, hbytes⟩

theorem firstHeld_or_absent (archives : List Archive) (name : String) :
    (∃ spelling bytes, FirstHeld archives name spelling bytes) ∨
      ∀ s ∈ QualifiedName.nestedSpellings name, ¬Held archives s := by
  by_cases nowhere : ∀ s ∈ QualifiedName.nestedSpellings name, ¬Held archives s
  · exact .inr nowhere
  · obtain ⟨front, spelling, back, hsplit, earlier, held⟩ := exists_first_not nowhere
    obtain ⟨notIgnored, held⟩ := not_not.1 held
    obtain ⟨before, a, after, bytes, harchives, apart, hbytes⟩ := exists_first_archive held
    exact .inl ⟨spelling, bytes, ⟨front, back, hsplit, earlier⟩, notIgnored,
      before, a, after, harchives, apart, hbytes⟩

/-- A name that some archive has is its own first spelling. -/
theorem exists_firstHeld_self (held : Held archives name) :
    ∃ bytes, FirstHeld archives name name bytes := by
  obtain ⟨others, hspellings⟩ := QualifiedName.exists_nestedSpellings_cons name
  obtain ⟨before, a, after, bytes, harchives, apart, hbytes⟩ := exists_first_archive held.2
  exact ⟨bytes, ⟨[], others, hspellings, fun _ hs => absurd hs List.not_mem_nil⟩, held.1,
    before, a, after, harchives, apart, hbytes⟩

/-! ## Reading from archives -/

section
variable (opened : ∀ a ∈ archives, a.Opened)
include opened

/-- Nothing is read under a spelling that no archive has. -/
theorem readClass_of_not_held (nowhere : ¬Held archives spelling) :
    isIgnored (QualifiedName.toInternal spelling) = true ∨
      Jdk.readClass archives (QualifiedName.toInternal spelling) = none := by
  by_cases ignored : isIgnored (QualifiedName.toInternal spelling) = true
  · exact .inl ignored
  · refine .inr (List.findSome?_eq_none_iff.2 fun a ha => ?_)
    refine Option.eq_none_iff_forall_ne_some.2 fun bytes hread => nowhere ?_
    obtain ⟨hmem, notIgnored⟩ := (opened a ha).readClass_eq_some_iff.1 hread
    exact ⟨notIgnored, a, ha, bytes, hmem⟩

/-- The first archive that has the spelling is read. -/
theorem FirstHeld.readClass (h : FirstHeld archives name spelling bytes) :
    Jdk.readClass archives (QualifiedName.toInternal spelling) = some bytes := by
  obtain ⟨before, a, after, rfl, apart, hbytes⟩ := h.archive
  refine List.findSome?_eq_some_iff.2 ⟨before, a, after, rfl, ?_, fun b hb => ?_⟩
  · have openedHere := opened a (List.mem_append_right _ List.mem_cons_self)
    exact openedHere.readClass_eq_some_iff.2 ⟨hbytes, h.notIgnored⟩
  · refine Option.eq_none_iff_forall_ne_some.2 fun other hread => ?_
    have openedBefore := opened b (List.mem_append_left _ hb)
    exact apart b hb other (openedBefore.readClass_eq_some_iff.1 hread).1

theorem load_of_absent (nowhere : ∀ s ∈ QualifiedName.nestedSpellings name, ¬Held archives s) :
    load (fun internal => .ok (Jdk.readClass archives internal)) origin name = .ok none := by
  refine loadFirst_of_absent fun s hs => ?_
  exact (readClass_of_not_held opened (nowhere s hs)).imp_right (congrArg Except.ok)

theorem FirstHeld.load (h : FirstHeld archives name spelling bytes) :
    load (fun internal => .ok (Jdk.readClass archives internal)) origin name =
      ofBytes spelling origin bytes := by
  obtain ⟨front, back, hspellings, earlier⟩ := h.first
  unfold Loader.load
  rw [hspellings, loadFirst_append_of_absent fun s hs =>
    (readClass_of_not_held opened (earlier s hs)).imp_right (congrArg Except.ok)]
  exact loadFirst_cons_of_some h.notIgnored (congrArg Except.ok (h.readClass opened))

/-- Archives answer a name with what is loaded from them. -/
theorem resolve_eq_load (valid : QualifiedName.isValid name = true) :
    (ClassIndex.source (archives.flatMap Archive.index) fun name =>
      (load (fun internal => .ok (Jdk.readClass archives internal)) origin name).mapError
        (·.toTypeError name)).resolve name =
      (load (fun internal => .ok (Jdk.readClass archives internal)) origin name).mapError
        (·.toTypeError name) := by
  refine ClassIndex.resolve_eq_load valid fun unknown => ?_
  have nowhere : ∀ s ∈ QualifiedName.nestedSpellings name, ¬Held archives s := by
    rintro s hs ⟨notIgnored, a, ha, bytes, hbytes⟩
    refine unknown (List.any_eq_true.2 ⟨s, hs, List.contains_iff_mem.2 ?_⟩)
    have indexed := (opened a ha).contains_iff.2 ⟨⟨bytes, hbytes⟩, notIgnored⟩
    exact List.mem_flatMap.2 ⟨a, ha, List.contains_iff_mem.1 indexed⟩
  rw [load_of_absent opened nowhere]
  rfl

theorem answered_of_load (valid : QualifiedName.isValid name = true) :
    Answered archives origin name
      ((ClassIndex.source (archives.flatMap Archive.index) fun name =>
        (load (fun internal => .ok (Jdk.readClass archives internal)) origin name).mapError
          (·.toTypeError name)).resolve name) := by
  rw [resolve_eq_load opened valid]
  refine ⟨fun nowhere => ?_, fun spelling bytes h => ?_, firstHeld_or_absent archives name,
    fun e failed => ?_, exists_firstHeld_self⟩
  · rw [load_of_absent opened nowhere]
    rfl
  · rw [h.load opened]
  · rcases firstHeld_or_absent archives name with ⟨spelling, bytes, h⟩ | nowhere
    · rw [h.load opened] at failed
      refine ⟨spelling, bytes, h, ?_⟩
      cases hbytes : ofBytes spelling origin bytes with
      | ok found =>
          rw [hbytes] at failed
          cases failed
      | error cause =>
          rw [hbytes] at failed
          exact ⟨cause, rfl, (Except.error.inj failed).symm⟩
    · rw [load_of_absent opened nowhere] at failed
      cases failed

end

/-- **The first spelling that is there decides.** A jar and a JDK answer a name with what is loaded
of the entry that the first spelling has which any archive has an entry for, in the first archive
that has one, also where loading fails; without such a spelling the name is absent. Indexed
classes are never missing among the entries, and the spellings are the name and what comes of it
by turning its dots into dollar signs, one after the other from the right. -/
theorem answered_of_archives {name : String} (valid : QualifiedName.isValid name = true) :
    (∀ a : Archive, a.Opened →
      Answered [a] (.archive a.path) name (a.jarSource.resolve name)) ∧
    (∀ root archives, (∀ a ∈ archives, a.Opened) →
      Answered archives .jdk name ((Jdk.installed root archives).source.resolve name)) ∧
    (∀ a : Archive, a.Opened → ∀ i, a.index.contains i = true →
      ∃ bytes, a.entries.lookup (Archive.entryOf a.folder i) = some bytes) ∧
    QualifiedName.DotsTurned name.toList
      ((QualifiedName.nestedSpellings name).map String.toList) := by
  refine ⟨fun a opened => ?_, fun root archives opened => answered_of_load opened valid,
    fun a opened i indexed => opened.exists_lookup indexed,
    QualifiedName.dotsTurned_nestedSpellings name⟩
  have alone : ∀ b ∈ [a], b.Opened := fun b hb => List.mem_singleton.1 hb ▸ opened
  have answered : Answered [a] (.archive a.path) name _ := answered_of_load alone valid
  have index : [a].flatMap Archive.index = a.index := List.flatMap_singleton ..
  have read : Jdk.readClass [a] = a.readClass := funext fun _ => List.findSome?_singleton
  rw [index, read] at answered
  exact answered

/-- A module that has the nested class under the name of a class of its own. -/
def ownModule : Archive :=
  .ofEntries "b.jmod" Jdk.classesFolder [("classes/a/B/C.class", bytesOf "a/B/C")]

def corruptJar : Archive := .ofEntries "lib.jar" "" [("a/B$C.class", [0xCA, 0xFE])]

/-- A class in a later module is preferred to a nested class in an earlier one, and a corrupt
class of a jar is an error. -/
theorem ownModule_answered :
    QualifiedName.isValid "a.B.C" = true ∧
      FirstHeld [nestedModule, ownModule] "a.B.C" "a.B.C" (bytesOf "a/B/C") ∧
      (Jdk.installed "jdk" [nestedModule, ownModule]).source.resolve "a.B.C" =
        .ok (some (definitionOf "a.B.C" .jdk)) ∧
      FirstHeld [corruptJar] "a.B.C" "a.B$C" [0xCA, 0xFE] ∧
      corruptJar.jarSource.resolve "a.B.C" =
        .error (.provider "a.B.C" "malformed class file `a.B$C`: class file ends early") := by
  have valid : QualifiedName.isValid "a.B.C" = true := by decide
  have spellings : QualifiedName.nestedSpellings "a.B.C" = ["a.B.C", "a.B$C", "a$B$C"] := by
    decide
  obtain ⟨jars, jdks, -, -⟩ := answered_of_archives valid
  have later : FirstHeld [nestedModule, ownModule] "a.B.C" "a.B.C" (bytesOf "a/B/C") := by
    have absent : ∀ other, ¬nestedModule.Holds "a.B.C" other := fun other hother =>
      absurd (Archive.holds_ofEntries_singleton.1 hother).1 (by decide +kernel)
    have there : ownModule.Holds "a.B.C" (bytesOf "a/B/C") :=
      Archive.holds_ofEntries_singleton.2 ⟨by decide +kernel, rfl⟩
    refine ⟨⟨[], _, spellings, List.forall_mem_nil _⟩, by decide +kernel,
      [nestedModule], ownModule, [], rfl, ?_, there⟩
    exact List.forall_mem_singleton.2 absent
  have corrupt : FirstHeld [corruptJar] "a.B.C" "a.B$C" [0xCA, 0xFE] := by
    have absent : ∀ other, ¬corruptJar.Holds "a.B.C" other := fun other hother =>
      absurd (Archive.holds_ofEntries_singleton.1 hother).1 (by decide +kernel)
    have there : corruptJar.Holds "a.B$C" [0xCA, 0xFE] :=
      Archive.holds_ofEntries_singleton.2 ⟨by decide +kernel, rfl⟩
    refine ⟨⟨["a.B.C"], _, spellings, List.forall_mem_singleton.2 ?_⟩, by decide +kernel,
      [], corruptJar, [], rfl, List.forall_mem_nil _, there⟩
    rintro ⟨-, b, hb, other, hother⟩
    exact absent other (List.mem_singleton.1 hb ▸ hother)
  refine ⟨valid, later, ?_, corrupt, ?_⟩
  · have opened : ∀ a ∈ [nestedModule, ownModule], a.Opened :=
      List.forall_mem_cons.2 ⟨Archive.opened_ofEntries (List.nodup_singleton _),
        List.forall_mem_singleton.2 (Archive.opened_ofEntries (List.nodup_singleton _))⟩
    refine ((jdks "jdk" _ opened).found _ _ later).trans ?_
    decide +kernel
  · have opened : corruptJar.Opened := Archive.opened_ofEntries (List.nodup_singleton _)
    exact (jars corruptJar opened).found _ _ corrupt

end Loader

end JvmScope
