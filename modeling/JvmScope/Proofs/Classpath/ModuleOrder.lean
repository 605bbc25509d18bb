import JvmScope.Proofs.Classpath.OwnNames
import Mathlib.Data.String.Basic

/-!
# The order of modules

A directory may list its files in any order. The modules of a JDK are sorted by an order in which
of two different names one always comes first, so they are searched in the same order whatever the
listing was. `Jdk.ModulesOpened` says what a JDK opens to by the names of its files alone: which
modules it has, which of them fails first, and from which of them a class is read.
-/

namespace JvmScope

namespace Jdk

variable {tree tree' : FileTree} {files files' : List String} {file : String}

/-! ## The order of the search -/

/-- Files are modules by their extension. -/
def IsModule (file : String) : Prop := (FilePath.splitExtension file).2 = some "jmod"

/-- The first of two modules is searched before the second: the base module before all others,
and these by their names. -/
def Before (a b : String) : Prop := b ≠ baseModule ∧ (a = baseModule ∨ a < b)

theorem moduleOrder_iff {a b : String} : moduleOrder a b = true ↔ a = b ∨ Before a b := by
  unfold moduleOrder Before
  simp only [Bool.or_eq_true, Bool.and_eq_true, beq_iff_eq, bne_iff_ne, ClassIndex.notAbove_iff]
  constructor
  · rintro (rfl | ⟨hb, notAbove⟩)
    · by_cases hb : b = baseModule
      · exact .inl hb.symm
      · exact .inr ⟨hb, .inl rfl⟩
    · rcases lt_or_eq_of_le notAbove with below | rfl
      · exact .inr ⟨hb, .inr below⟩
      · exact .inl rfl
  · rintro (rfl | ⟨hb, rfl | below⟩)
    · by_cases ha : a = baseModule
      · exact .inl ha
      · exact .inr ⟨ha, le_refl a⟩
    · exact .inl rfl
    · exact .inr ⟨hb, below.le⟩

theorem Before.trans {a b c : String} (hab : Before a b) (hbc : Before b c) : Before a c := by
  refine ⟨hbc.1, ?_⟩
  have below : b < c := hbc.2.resolve_left hab.1
  rcases hab.2 with base | less
  · exact .inl base
  · exact .inr (less.trans below)

theorem Before.asymm {a b : String} (hab : Before a b) (hba : Before b a) : False :=
  lt_asymm (hab.2.resolve_left hba.1) (hba.2.resolve_left hab.1)

theorem before_or {a b : String} : a = b ∨ Before a b ∨ Before b a := by
  by_cases ha : a = baseModule
  · by_cases hb : b = baseModule
    · exact .inl (ha.trans hb.symm)
    · exact .inr (.inl ⟨hb, .inl ha⟩)
  · by_cases hb : b = baseModule
    · exact .inr (.inr ⟨ha, .inl hb⟩)
    · rcases lt_trichotomy a b with below | same | above
      · exact .inr (.inl ⟨hb, .inr below⟩)
      · exact .inl same
      · exact .inr (.inr ⟨ha, .inr above⟩)

theorem moduleOrder_trans (a b c : String) (hab : moduleOrder a b = true)
    (hbc : moduleOrder b c = true) : moduleOrder a c = true := by
  rw [moduleOrder_iff] at hab hbc ⊢
  rcases hab with rfl | hab
  · exact hbc
  · rcases hbc with rfl | hbc
    · exact .inr hab
    · exact .inr (hab.trans hbc)

theorem moduleOrder_total (a b : String) : (moduleOrder a b || moduleOrder b a) = true := by
  rw [Bool.or_eq_true, moduleOrder_iff, moduleOrder_iff]
  rcases before_or (a := a) (b := b) with same | hab | hba
  · exact .inl (.inl same)
  · exact .inl (.inr hab)
  · exact .inr (.inr hba)

theorem pairwise_modulesOf (files : List String) :
    (modulesOf files).Pairwise fun a b => moduleOrder a b = true :=
  List.pairwise_mergeSort moduleOrder_trans moduleOrder_total _

theorem mem_modulesOf : file ∈ modulesOf files ↔ file ∈ files ∧ IsModule file := by
  unfold modulesOf IsModule
  rw [List.mem_mergeSort, List.mem_filter, beq_iff_eq]

/-- The modules are in the same order for every listing. -/
theorem modulesOf_eq_of_perm (perm : files.Perm files') : modulesOf files' = modulesOf files := by
  refine List.Perm.eq_of_pairwise (fun a b _ _ hab hba => ?_) (pairwise_modulesOf files')
    (pairwise_modulesOf files) ?_
  · rcases moduleOrder_iff.1 hab with same | hab
    · exact same
    · exact (moduleOrder_iff.1 hba).elim Eq.symm fun hba => (hab.asymm hba).elim
  · exact (List.mergeSort_perm _ _).trans
      ((perm.filter _).symm.trans (List.mergeSort_perm _ _).symm)

/-- Different modules are searched one before the other. -/
theorem pairwise_before (distinct : files.Nodup) : (modulesOf files).Pairwise Before := by
  have apart : (modulesOf files).Nodup :=
    (List.mergeSort_perm _ _).nodup_iff.2 (distinct.filter _)
  refine (pairwise_modulesOf files).imp₂ (fun a b h different => ?_) apart
  exact (moduleOrder_iff.1 h).resolve_left different

/-- The module that is searched first of those with a property. -/
structure FirstModule (files : List String) (p : String → Prop) (file : String) : Prop where
  listed : file ∈ files
  isModule : IsModule file
  holds : p file
  before : ∀ g ∈ files, IsModule g → Before g file → ¬p g

/-- The first module with a property is the first in the order of the search. -/
theorem firstModule_iff (distinct : files.Nodup) {p : String → Prop} :
    FirstModule files p file ↔
      ∃ front back, modulesOf files = front ++ file :: back ∧ (∀ g ∈ front, ¬p g) ∧ p file := by
  have ordered := pairwise_before distinct
  constructor
  · rintro ⟨listed, isModule, holds, before⟩
    obtain ⟨front, back, hsplit⟩ := List.append_of_mem (mem_modulesOf.2 ⟨listed, isModule⟩)
    refine ⟨front, back, hsplit, fun g hg => ?_, holds⟩
    rw [hsplit] at ordered
    have here : g ∈ files ∧ IsModule g := by
      rw [← mem_modulesOf, hsplit]
      exact List.mem_append_left _ hg
    exact before g here.1 here.2 ((List.pairwise_append.1 ordered).2.2 g hg file List.mem_cons_self)
  · rintro ⟨front, back, hsplit, earlier, holds⟩
    have here : file ∈ files ∧ IsModule file := by
      rw [← mem_modulesOf, hsplit]
      exact List.mem_append_right _ List.mem_cons_self
    refine ⟨here.1, here.2, holds, fun g hg isModule hbefore => ?_⟩
    have hmem := mem_modulesOf.2 ⟨hg, isModule⟩
    rw [hsplit] at ordered hmem
    rcases List.mem_append.1 hmem with hfront | hback
    · exact earlier g hfront
    · rcases List.mem_cons.1 hback with rfl | hback
      · exact (hbefore.asymm hbefore).elim
      · have later := List.rel_of_pairwise_cons (List.pairwise_append.1 ordered).2.1 hback
        exact (hbefore.asymm later).elim

/-- A traversal of the modules fails as the first of them does that fails. -/
theorem mapM_modulesOf_error_iff {ε β : Type} (distinct : files.Nodup)
    {f : String → Except ε β} {e : ε} :
    (modulesOf files).mapM f = .error e ↔
      ∃ file, FirstModule files (fun g => ∃ cause, f g = .error cause) file ∧
        f file = .error e := by
  rw [mapM_error_iff]
  constructor
  · rintro ⟨front, file, back, hsplit, hfront, hfile⟩
    refine ⟨file, (firstModule_iff distinct).2 ⟨front, back, hsplit, ?_, e, hfile⟩, hfile⟩
    rintro g hg ⟨cause, hcause⟩
    obtain ⟨a, ha⟩ := hfront g hg
    cases ha.symm.trans hcause
  · rintro ⟨file, first, hfile⟩
    obtain ⟨front, back, hsplit, hfront, -⟩ := (firstModule_iff distinct).1 first
    refine ⟨front, file, back, hsplit, fun g hg => ?_, hfile⟩
    cases hg' : f g with
    | ok a => exact ⟨a, rfl⟩
    | error cause => exact absurd ⟨cause, hg'⟩ (hfront g hg)

/-- A search through the modules finds what the first of them has that has something. -/
theorem findSome?_modulesOf_iff {β : Type} (distinct : files.Nodup) {f : String → Option β}
    {b : β} :
    (modulesOf files).findSome? f = some b ↔
      ∃ file, FirstModule files (fun g => f g ≠ none) file ∧ f file = some b := by
  rw [List.findSome?_eq_some_iff]
  constructor
  · rintro ⟨front, file, back, hsplit, hfile, hfront⟩
    have holds : f file ≠ none := Option.ne_none_iff_exists'.2 ⟨b, hfile⟩
    exact ⟨file, (firstModule_iff distinct).2
      ⟨front, back, hsplit, fun g hg => not_not.2 (hfront g hg), holds⟩, hfile⟩
  · rintro ⟨file, first, hfile⟩
    obtain ⟨front, back, hsplit, hfront, -⟩ := (firstModule_iff distinct).1 first
    exact ⟨front, file, back, hsplit, hfile, fun g hg => not_not.1 (hfront g hg)⟩

/-! ## Opening -/

/-- Opens a module of the installation. -/
def openModule (tree : FileTree) (root file : String) : Except ClasspathError Archive :=
  Archive.openAt tree (FilePath.join (FilePath.join root "jmods") file) classesFolder

/-- The class file that a module has, if it opens. -/
def classIn (tree : FileTree) (root internal file : String) : Option (List UInt8) :=
  (openModule tree root file).toOption.bind (·.readClass internal)

/-- What an installation with modules opens to, by the names of the files in the directory. -/
structure ModulesOpened (tree : FileTree) (root : String) (files : List String) : Prop where
  /-- Without modules there is nothing to open. -/
  empty : (∀ file ∈ files, ¬IsModule file) →
    ofRoot tree root = .error (.jdk (.noModulesFound (FilePath.join root "jmods")))
  /-- With modules, opening fails as the first one does that fails. -/
  failed : (∃ file ∈ files, IsModule file) → ∀ e, ofRoot tree root = .error e ↔
    ∃ file, FirstModule files (fun g => ∃ cause, openModule tree root g = .error cause) file ∧
      openModule tree root file = .error e
  /-- The archives are those of all modules, in the order of the search. -/
  opened : ∀ jdk, ofRoot tree root = .ok jdk → ∃ modules archives,
    jdk = .installed root archives ∧ modules.Pairwise Before ∧
      (∀ file, file ∈ modules ↔ file ∈ files ∧ IsModule file) ∧
      List.Forall₂ (fun file a => openModule tree root file = .ok a) modules archives
  /-- A class is read from the first module that has it. -/
  read : ∀ archives, ofRoot tree root = .ok (.installed root archives) → ∀ internal bytes,
    readClass archives internal = some bytes ↔
      ∃ file, FirstModule files (fun g => classIn tree root internal g ≠ none) file ∧
        classIn tree root internal file = some bytes
  /-- A definition is that of the first module that has a class under one of the spellings. -/
  definition : ∀ jdk, ofRoot tree root = .ok jdk → ∀ name d,
    jdk.source.resolve name = .ok (some d) →
    ∃ spelling ∈ QualifiedName.nestedSpellings name, ∃ file bytes c,
      FirstModule files
        (fun g => classIn tree root (QualifiedName.toInternal spelling) g ≠ none) file ∧
      classIn tree root (QualifiedName.toInternal spelling) file = some bytes ∧
      ClassFile.parse bytes = .ok c ∧ Loader.definition c .jdk = .ok d

theorem ofRoot_of_sameFiles (same : tree.SameFiles tree') (root : String) :
    ofRoot tree' root = ofRoot tree root := by
  have listed (place : Place) : modulesOf (tree'.list place) = modulesOf (tree.list place) :=
    modulesOf_eq_of_perm (same.list place)
  have opens : Archive.openAt tree' = Archive.openAt tree := by
    funext path folder
    unfold Archive.openAt
    rw [same.locate]
  have isFile : tree'.isFile = tree.isFile := by
    funext path
    unfold FileTree.isFile
    rw [same.locate]
  unfold ofRoot runtimeArchive?
  simp only [same.locate, listed, opens, isFile]

section
variable {root : String} {place : Place}
  (located : tree.locate (FilePath.join root "jmods") = .ok (place, .directory))
include located

theorem ofRoot_of_no_modules (none : modulesOf (tree.list place) = []) :
    ofRoot tree root = .error (.jdk (.noModulesFound (FilePath.join root "jmods"))) := by
  unfold ofRoot
  simp only [located, none]

theorem ofRoot_of_modules (some : modulesOf (tree.list place) ≠ []) :
    ofRoot tree root =
      .installed root <$> (modulesOf (tree.list place)).mapM (openModule tree root) := by
  unfold ofRoot
  simp only [located]
  rw [map_eq_pure_bind]
  rfl

/-- What opens has an archive for every module, in the order of the search. -/
theorem archives_of_ofRoot {jdk : Jdk} (h : ofRoot tree root = .ok jdk) :
    ∃ archives, jdk = .installed root archives ∧
      List.Forall₂ (fun file a => openModule tree root file = .ok a)
        (modulesOf (tree.list place)) archives := by
  by_cases none : modulesOf (tree.list place) = []
  · rw [ofRoot_of_no_modules located none] at h
    cases h
  · rw [ofRoot_of_modules located none, map_ok_iff] at h
    obtain ⟨archives, harchives, rfl⟩ := h
    exact ⟨archives, rfl, mapM_ok_iff_forall₂.1 harchives⟩

end

/-- Archives are read as the modules that they were opened from. -/
theorem readClass_of_forall₂ {root internal : String} {modules : List String}
    {archives : List Archive}
    (h : List.Forall₂ (fun file a => openModule tree root file = .ok a) modules archives) :
    readClass archives internal = modules.findSome? (classIn tree root internal) := by
  unfold readClass
  induction h with
  | nil => rfl
  | @cons file a modules archives hopen _ ih =>
      have here : classIn tree root internal file = a.readClass internal := by
        unfold classIn
        rw [hopen]
        rfl
      rw [List.findSome?_cons, List.findSome?_cons, here, ih]

/-- What opens is determined by the names of the files in the directory. -/
theorem modulesOpened {root : String} {place : Place}
    (distinct : (tree.nodes.map Prod.fst).Nodup)
    (located : tree.locate (FilePath.join root "jmods") = .ok (place, .directory)) :
    ModulesOpened tree root (tree.list place) := by
  have apart := FileTree.nodup_list distinct place
  have read : ∀ archives, ofRoot tree root = .ok (.installed root archives) →
      ∀ internal bytes, readClass archives internal = some bytes ↔
        ∃ file, FirstModule (tree.list place) (fun g => classIn tree root internal g ≠ none) file ∧
          classIn tree root internal file = some bytes := by
    intro archives h internal bytes
    obtain ⟨_, ⟨rfl⟩, hopened⟩ := archives_of_ofRoot located h
    rw [readClass_of_forall₂ hopened, findSome?_modulesOf_iff apart]
  refine ⟨fun noModule => ?_, fun hasModule e => ?_, fun jdk h => ?_, read,
    fun jdk h name d hd => ?_⟩
  · refine ofRoot_of_no_modules located (List.eq_nil_iff_forall_not_mem.2 fun file hfile => ?_)
    obtain ⟨listed, isModule⟩ := mem_modulesOf.1 hfile
    exact noModule file listed isModule
  · obtain ⟨file, listed, isModule⟩ := hasModule
    have hasModules := List.ne_nil_of_mem (mem_modulesOf.2 ⟨listed, isModule⟩)
    rw [ofRoot_of_modules located hasModules, map_error_iff, mapM_modulesOf_error_iff apart]
  · obtain ⟨archives, hjdk, hopened⟩ := archives_of_ofRoot located h
    exact ⟨_, archives, hjdk, pairwise_before apart, fun _ => mem_modulesOf, hopened⟩
  · obtain ⟨archives, rfl, -⟩ := archives_of_ofRoot located h
    have loaded := mapError_ok_iff.1 (ClassIndex.load_of_resolve hd)
    obtain ⟨spelling, hspelling, bytes, c, hread, hparse, hdefinition⟩ :=
      Loader.exists_bytes_of_loadFirst loaded
    obtain ⟨file, first, hfile⟩ := (read archives h _ bytes).1 (Except.ok.inj hread)
    exact ⟨spelling, hspelling, file, bytes, c, first, hfile, hparse, hdefinition⟩

/-- **The order in which a directory is listed does not matter.** An installation opens to the same
archives in the same order, or fails in the same way, for every order of the nodes in the file
tree. Of the modules in its directory the base module comes first and the others by their names;
the first of them that fails to open is the failure, and from the first of them that has a class
the class is read. -/
theorem ofRoot_of_perm {tree tree' : FileTree} (distinct : (tree.nodes.map Prod.fst).Nodup)
    (perm : tree.nodes.Perm tree'.nodes) (root : String) :
    ofRoot tree' root = ofRoot tree root ∧
      ∀ place, tree.locate (FilePath.join root "jmods") = .ok (place, .directory) →
        ModulesOpened tree root (tree.list place) :=
  ⟨ofRoot_of_sameFiles (FileTree.sameFiles_of_perm distinct perm) root,
    fun _ located => modulesOpened distinct located⟩

/-- Two modules that are no archives. -/
def brokenModules : FileTree :=
  ⟨[(["jmods"], .directory), (["jmods", "a.jmod"], .file (.plain [])),
    (["jmods", "java.base.jmod"], .file (.plain []))]⟩

theorem brokenModules_jmods :
    brokenModules.locate (FilePath.join "/" "jmods") = .ok (["jmods"], .directory) := by
  have path : FilePath.join "/" "jmods" = "/jmods" := by decide
  have pieces : FilePath.pieces "/jmods" = ["", "jmods"] := by decide
  refine FileTree.locate_of_names (by decide) (path ▸ pieces) rfl ?_
  rw [FileTree.destination_cons .directory rfl (by decide) rfl nofun]
  exact FileTree.destination_nil ..

theorem brokenModules_base :
    openModule brokenModules "/" baseModule =
      .error (.notAnArchive "/jmods/java.base.jmod") := by
  have path : FilePath.join (FilePath.join "/" "jmods") baseModule = "/jmods/java.base.jmod" := by
    decide
  have pieces : FilePath.pieces "/jmods/java.base.jmod" = ["", "jmods", "java.base.jmod"] := by
    decide
  have located : brokenModules.locate "/jmods/java.base.jmod" =
      .ok (["jmods", "java.base.jmod"], .file (.plain [])) := by
    refine FileTree.locate_of_names (by decide) pieces rfl ?_
    rw [FileTree.destination_cons .directory rfl (by decide) rfl nofun,
      FileTree.destination_cons (.file (.plain [])) rfl (by decide) rfl nofun]
    exact FileTree.destination_nil ..
  unfold openModule Archive.openAt
  rw [path, located]

/-- Listed the other way round it is still the base module that fails to open. -/
theorem ofRoot_brokenModules :
    (brokenModules.nodes.map Prod.fst).Nodup ∧
      brokenModules.nodes.Perm brokenModules.nodes.reverse ∧
      ofRoot ⟨brokenModules.nodes.reverse⟩ "/" =
        .error (.notAnArchive "/jmods/java.base.jmod") := by
  have distinct : (brokenModules.nodes.map Prod.fst).Nodup := by decide
  let backwards : FileTree := ⟨brokenModules.nodes.reverse⟩
  have perm : brokenModules.nodes.Perm backwards.nodes := (List.reverse_perm _).symm
  obtain ⟨same, modules⟩ := ofRoot_of_perm distinct perm "/"
  have listed : baseModule ∈ brokenModules.list ["jmods"] := by decide
  have isModule : IsModule baseModule := by
    unfold IsModule
    decide
  refine ⟨distinct, perm, same.trans ?_⟩
  refine ((modules _ brokenModules_jmods).failed ⟨_, listed, isModule⟩ _).2
    ⟨baseModule, ⟨listed, isModule, ⟨_, brokenModules_base⟩, ?_⟩, brokenModules_base⟩
  exact fun g _ _ hbefore => absurd rfl hbefore.1

end Jdk

end JvmScope
