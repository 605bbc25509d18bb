import JvmScope.Proofs.Classpath.FirstSpelling
import JvmScope.Proofs.FirstOccurrences
import Mathlib.Data.String.Basic

/-!
# Listings of classes

Jars and class directories list their classes by dotted names, in the order of an index that is
sorted by internal names. `ClassIndex.Lists` says what can be expected of such a listing: it
ascends, it names the classes that are there, and among names without slashes the index has those
that are listed. It holds of an index exactly where no class has a dot in its internal name
(`ClassIndex.lists_iff_dotless`): a class with a dot is listed under a name that leads to another
place, and where there is a class in that place as well, the two are listed alike.

`classes_listed_in_order` says so of what is opened, by the paths of the class files alone.
-/

namespace JvmScope

namespace ClassIndex

variable {index : ClassIndex} {names : List String} {i q : String}

/-! ## The order of an index -/

/-- An index has its classes in ascending order, each of them once. -/
theorem pairwise_ofNames (names : List String) : (ofNames names).Pairwise (· < ·) := by
  have trans : ∀ a b c, notAbove a b = true → notAbove b c = true → notAbove a c = true := by
    intro a b c hab hbc
    exact notAbove_iff.2 ((notAbove_iff.1 hab).trans (notAbove_iff.1 hbc))
  have total : ∀ a b, (notAbove a b || notAbove b a) = true := by
    intro a b
    rw [Bool.or_eq_true, notAbove_iff, notAbove_iff]
    exact le_total a b
  have sorted := List.pairwise_mergeSort trans total (names.filter (!Loader.isIgnored ·))
  refine List.Pairwise.imp₂ (fun a b hab different => ?_)
    (sorted.sublist (eraseDups_sublist _)) (nodup_eraseDups _)
  exact lt_of_le_of_ne (notAbove_iff.1 hab) different

theorem mem_ofNames_iff : i ∈ ofNames names ↔ i ∈ names ∧ Loader.isIgnored i = false := by
  rw [← contains_ofNames_iff, List.contains_iff_mem]

/-! ## Listings -/

/-- The listing of an index is that of the given classes. -/
structure Lists (index : ClassIndex) (IsClass : String → Prop) : Prop where
  /-- Every name comes before all that follow it, so none is listed twice. Names are compared by
  the code points of their characters. -/
  ascending : index.classNames.Pairwise (· < ·)
  /-- The names are those of the classes, apart from ignored ones. -/
  named : ∀ q, q ∈ index.classNames ↔
    ∃ i, IsClass i ∧ Loader.isIgnored i = false ∧ q = QualifiedName.ofInternal i
  /-- The index has what is listed. -/
  held : ∀ q ∈ index.classNames, index.holds q = true
  /-- What the index has is listed. A name with slashes is listed with dots. -/
  only : ∀ q, '/' ∉ q.toList → index.holds q = true → q ∈ index.classNames

theorem holds_iff : index.holds q = true ↔ QualifiedName.toInternal q ∈ index :=
  List.contains_iff_mem

/-- Turning slashes into dots keeps the order of names that have no dots yet. -/
theorem pairwise_classNames (sorted : index.Pairwise (· < ·))
    (dotless : ∀ i ∈ index, '.' ∉ i.toList) : index.classNames.Pairwise (· < ·) := by
  refine List.pairwise_map.2 (sorted.imp_of_mem fun ha hb below => ?_)
  exact QualifiedName.ofInternal_lt_ofInternal (dotless _ ha) (dotless _ hb) below

/-- A class with a dot is looked for in the place of another, and if that is there, it is listed
under the same name. -/
theorem dotless_of_held (distinct : index.classNames.Nodup)
    (held : ∀ q ∈ index.classNames, index.holds q = true) (hi : i ∈ index) : '.' ∉ i.toList := by
  have listed : QualifiedName.ofInternal i ∈ index.classNames := List.mem_map_of_mem hi
  have other := holds_iff.1 (held _ listed)
  have same : QualifiedName.toInternal (QualifiedName.ofInternal i) = i := by
    refine List.inj_on_of_nodup_map distinct other hi ?_
    exact QualifiedName.ofInternal_toInternal_of_notMem (QualifiedName.slash_notMem_ofInternal i)
  rw [← same]
  exact QualifiedName.dot_notMem_toInternal _

/-- A listing is as it should be exactly where no class that is indexed has a dot in its internal
name. -/
theorem lists_iff_dotless : (ofNames names).Lists (· ∈ names) ↔
    ∀ i ∈ names, Loader.isIgnored i = false → '.' ∉ i.toList := by
  constructor
  · intro lists i hi notIgnored
    exact dotless_of_held lists.ascending.nodup lists.held (mem_ofNames_iff.2 ⟨hi, notIgnored⟩)
  · intro h
    have dotless : ∀ i ∈ ofNames names, '.' ∉ i.toList := fun i hi =>
      (mem_ofNames_iff.1 hi).elim (h i)
    refine ⟨pairwise_classNames (pairwise_ofNames names) dotless, fun q => ?_, ?_, ?_⟩
    · unfold classNames
      rw [List.mem_map]
      simp only [mem_ofNames_iff, and_assoc, eq_comm]
    · intro q hq
      obtain ⟨i, hi, rfl⟩ := List.mem_map.1 hq
      rw [holds_iff, QualifiedName.toInternal_ofInternal_of_notMem (dotless i hi)]
      exact hi
    · intro q slashless hq
      exact List.mem_map.2 ⟨_, holds_iff.1 hq,
        QualifiedName.ofInternal_toInternal_of_notMem slashless⟩

/-- Two classes are listed alike where one of them has a dot. -/
example : (ofNames ["a/B", "a.B"]).classNames = ["a.B", "a.B"] := by cbv

theorem lists_of_dotless {IsClass : String → Prop} (members : ∀ i, i ∈ names ↔ IsClass i)
    (dotless : ∀ i, IsClass i → '.' ∉ i.toList) : (ofNames names).Lists IsClass := by
  obtain rfl : IsClass = (· ∈ names) := funext fun i => propext (members i).symm
  exact lists_iff_dotless.2 fun i hi _ => dotless i hi

end ClassIndex

/-! ## The classes of a jar -/

namespace Archive

/-- There is an entry for the class file of a class. -/
def HasClass (entries : List (String × List UInt8)) (i : String) : Prop :=
  ∃ bytes, (i ++ ".class", bytes) ∈ entries

theorem mem_classes_iff_hasClass {entries : List (String × List UInt8)} {i : String} :
    (i ∈ entries.filterMap fun e => classOf? "" e.1) ↔ HasClass entries i := by
  have entryName : entryOf "" i = i ++ ".class" := congrArg (· ++ ".class") String.empty_append
  rw [mem_classes_iff, entryName]
  rfl

end Archive

/-! ## The classes of a directory -/

namespace ClassDirectory

variable {files : List Place} {folders : List String} {name i : String}

/-- There is a file for a class: the name of the class file has something in front of its
extension, and the class is named by the way to it. -/
def HasClass (files : List Place) (i : String) : Prop :=
  ∃ folders name, folders ++ [name ++ ".class"] ∈ files ∧ name ≠ "" ∧
    i = "/".intercalate (folders ++ [name])

/-- A class file is indexed by the way to it. Without its extension, `..class` would lead to the
folder itself, and is taken to lead to the one above. -/
theorem classOf?_eq_some_iff {place : Place} : classOf? place = some i ↔
    ∃ folders name, place = folders ++ [name ++ ".class"] ∧ name ≠ "" ∧
      i = "/".intercalate (folders ++ [if name = "." then ".." else name]) := by
  have suffix (name : String) : name ++ "." ++ "class" = name ++ ".class" :=
    String.append_assoc ..
  constructor
  · intro h
    unfold classOf? at h
    split at h
    · cases h
    · rename_i file hfile
      split at h
      · rename_i name hname
        obtain ⟨hsuffix, nonempty, -⟩ := FilePath.splitExtension_eq_iff.1 hname
        cases h
        refine ⟨place.dropLast, name, ?_, nonempty, ?_⟩
        · rw [← suffix, ← hsuffix, List.dropLast_append_getLast? file hfile]
        · rw [FilePath.withoutExtension_eq hname]
      · cases h
  · rintro ⟨folders, name, rfl, nonempty, rfl⟩
    have parts : FilePath.splitExtension (name ++ ".class") = (name, some "class") :=
      FilePath.splitExtension_eq_iff.2 ⟨(suffix name).symm, nonempty, by decide⟩
    unfold classOf?
    rw [List.getLast?_concat, List.dropLast_concat]
    dsimp only
    rw [parts, FilePath.withoutExtension_eq parts]
    rfl

theorem dot_mem_indexed_iff :
    '.' ∈ ("/".intercalate (folders ++ [if name = "." then ".." else name])).toList ↔
      '.' ∈ ("/".intercalate (folders ++ [name])).toList := by
  by_cases hdot : name = "."
  · rw [if_pos hdot, hdot]
    exact iff_of_true (FilePath.mem_intercalate_concat (by decide))
      (FilePath.mem_intercalate_concat (by decide))
  · rw [if_neg hdot]

/-- The classes have no dots exactly if what is indexed has none. -/
theorem dotless_iff : (∀ i, HasClass files i → '.' ∉ i.toList) ↔
    ∀ i ∈ files.filterMap classOf?, '.' ∉ i.toList := by
  simp only [List.mem_filterMap, classOf?_eq_some_iff]
  constructor
  · rintro h _ ⟨_, hmem, folders, name, rfl, nonempty, rfl⟩ hdot
    exact h _ ⟨folders, name, hmem, nonempty, rfl⟩ (dot_mem_indexed_iff.1 hdot)
  · rintro h _ ⟨folders, name, hmem, nonempty, rfl⟩ hdot
    exact h _ ⟨_, hmem, folders, name, rfl, nonempty, rfl⟩ (dot_mem_indexed_iff.2 hdot)

/-- Without dots the classes are indexed as they are named. -/
theorem mem_classes_iff_hasClass (dotless : ∀ i, HasClass files i → '.' ∉ i.toList) :
    i ∈ files.filterMap classOf? ↔ HasClass files i := by
  have notDot {folders name} (hmem : folders ++ [name ++ ".class"] ∈ files) (nonempty : name ≠ "") :
      name ≠ "." := by
    intro hdot
    refine dotless _ ⟨folders, name, hmem, nonempty, rfl⟩ (FilePath.mem_intercalate_concat ?_)
    rw [hdot]
    decide
  simp only [List.mem_filterMap, classOf?_eq_some_iff]
  constructor
  · rintro ⟨_, hmem, folders, name, rfl, nonempty, rfl⟩
    rw [if_neg (notDot hmem nonempty)]
    exact ⟨folders, name, hmem, nonempty, rfl⟩
  · rintro ⟨folders, name, hmem, nonempty, rfl⟩
    refine ⟨_, hmem, folders, name, rfl, nonempty, ?_⟩
    rw [if_neg (notDot hmem nonempty)]

end ClassDirectory

/-! ## What is opened -/

/-- Jars and class directories list their classes in ascending order, and have what they list and,
among names without slashes, nothing else, if the paths of the classes have no dots. -/
theorem classes_listed_in_order (tree : FileTree) (path : String) (place : Place) :
    (∀ entries, tree.locate path = .ok (place, .file (.archive entries)) →
      (∀ i, Archive.HasClass entries i → '.' ∉ i.toList) →
      ∃ jar, Archive.openAt tree path "" = .ok jar ∧
        jar.index.Lists (Archive.HasClass entries)) ∧
    (tree.locate path = .ok (place, .directory) →
      (∀ i, ClassDirectory.HasClass (tree.filesBelow place) i → '.' ∉ i.toList) →
      ∃ classes, ClassDirectory.openAt tree path = .ok classes ∧
        classes.index.Lists (ClassDirectory.HasClass (tree.filesBelow place))) := by
  constructor
  · intro entries located dotless
    refine ⟨.ofEntries path "" entries, ?_, ?_⟩
    · unfold Archive.openAt
      rw [located]
    · exact ClassIndex.lists_of_dotless (fun i => Archive.mem_classes_iff_hasClass) dotless
  · intro located dotless
    refine ⟨⟨path, .ofNames ((tree.filesBelow place).filterMap ClassDirectory.classOf?)⟩, ?_, ?_⟩
    · unfold ClassDirectory.openAt
      rw [located]
    · exact ClassIndex.lists_of_dotless
        (fun i => ClassDirectory.mem_classes_iff_hasClass dotless) dotless

/-- Class files with `$` and `-` next to separators, not in the order of a listing. -/
def mixedEntries : List (String × List UInt8) :=
  [("a/B$C.class", []), ("aB.class", []), ("a/B.class", []), ("META-INF/MANIFEST.MF", []),
    ("a-b/C.class", [])]

/-- A jar of these class files, and some of them in a directory. -/
def mixedFiles : FileTree :=
  ⟨[(["lib.jar"], .file (.archive mixedEntries)), (["out"], .directory),
    (["out", "a"], .directory), (["out", "a", "B.class"], .file (.plain [])),
    (["out", "a", ".class"], .file (.plain [])), (["out", "a-b"], .directory),
    (["out", "a-b", "C.class"], .file (.plain []))]⟩

theorem mixedFiles_listed :
    (mixedFiles.locate "/lib.jar" = .ok (["lib.jar"], .file (.archive mixedEntries)) ∧
      (∀ i, Archive.HasClass mixedEntries i → '.' ∉ i.toList) ∧
      ∃ jar, Archive.openAt mixedFiles "/lib.jar" "" = .ok jar ∧
        jar.index.Lists (Archive.HasClass mixedEntries)) ∧
    mixedFiles.locate "/out" = .ok (["out"], .directory) ∧
      (∀ i, ClassDirectory.HasClass (mixedFiles.filesBelow ["out"]) i → '.' ∉ i.toList) ∧
      ∃ classes, ClassDirectory.openAt mixedFiles "/out" = .ok classes ∧
        classes.index.Lists (ClassDirectory.HasClass (mixedFiles.filesBelow ["out"])) := by
  have jar : mixedFiles.locate "/lib.jar" =
      .ok (["lib.jar"], .file (.archive mixedEntries)) := by
    have pieces : FilePath.pieces "/lib.jar" = ["", "lib.jar"] := by decide
    refine FileTree.locate_of_names (by decide) pieces rfl ?_
    rw [FileTree.destination_cons (.file (.archive mixedEntries)) rfl (by decide) rfl nofun]
    exact FileTree.destination_nil ..
  have directory : mixedFiles.locate "/out" = .ok (["out"], .directory) := by
    have pieces : FilePath.pieces "/out" = ["", "out"] := by decide
    refine FileTree.locate_of_names (by decide) pieces rfl ?_
    rw [FileTree.destination_cons .directory rfl (by decide) rfl nofun]
    exact FileTree.destination_nil ..
  have inJar : ∀ i, Archive.HasClass mixedEntries i → '.' ∉ i.toList := by
    simp only [← Archive.mem_classes_iff_hasClass]
    decide
  have inDirectory : ∀ i, ClassDirectory.HasClass (mixedFiles.filesBelow ["out"]) i →
      '.' ∉ i.toList := by
    refine ClassDirectory.dotless_iff.2 ?_
    decide
  exact ⟨⟨jar, inJar, (classes_listed_in_order mixedFiles "/lib.jar" _).1 _ jar inJar⟩, directory,
    inDirectory, (classes_listed_in_order mixedFiles "/out" _).2 directory inDirectory⟩

end JvmScope
