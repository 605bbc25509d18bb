import JvmScope.ClassFile.Assembler
import JvmScope.Classpath.Jdk
import JvmScope.Proofs.Classpath.Generated
import JvmScope.Proofs.Classpath.Sessions
import JvmScope.Proofs.Files
import JvmScope.Proofs.QualifiedName

/-!
# The names of definitions that are found

A class file is found by its place and named by its content. Loading compares neither with the
other: a definition has the name that the class file gives itself, whatever it was found under.
`Loader.FoundUnder` says how the two go together, and `foundUnder_of_resolve` that they do so for
jars, JDKs and class directories, whose files count as they were when the name was first answered.
Where class files stand in the places of their names, a definition is found under a spelling of
its own name.
-/

namespace JvmScope

namespace Loader

variable {read : String → Except ClasspathError (Option (List UInt8))} {origin : Origin}
  {name : String} {d : TypeDefinition}

/-- The definition is that of a class file kept under a spelling of the name. It is named by the
class file, and if the class file is kept under its own name, that name is the spelling. -/
def FoundUnder (read : String → Except ClasspathError (Option (List UInt8))) (origin : Origin)
    (name : String) (d : TypeDefinition) : Prop :=
  ∃ spelling ∈ QualifiedName.nestedSpellings name, ∃ bytes c,
    read (QualifiedName.toInternal spelling) = .ok (some bytes) ∧
      ClassFile.parse bytes = .ok c ∧ definition c origin = .ok d ∧
      d.qualifiedName = QualifiedName.ofInternal c.thisClass ∧
      (c.thisClass = QualifiedName.toInternal spelling → d.qualifiedName = spelling)

theorem qualifiedName_of_definition {c : ClassFile} (h : definition c origin = .ok d) :
    d.qualifiedName = QualifiedName.ofInternal c.thisClass := by
  unfold definition at h
  obtain ⟨typeParameters, -, h⟩ := bind_ok_iff.1 h
  obtain ⟨fields, -, h⟩ := bind_ok_iff.1 h
  obtain ⟨callables, -, h⟩ := bind_ok_iff.1 h
  obtain rfl := pure_ok_iff.1 h
  rfl

/-- Loading finds a definition under a spelling of the name. -/
theorem foundUnder_of_load (valid : QualifiedName.isValid name = true)
    (h : load read origin name = .ok (some d)) : FoundUnder read origin name d := by
  obtain ⟨spelling, hspelling, bytes, c, hread, hparse, hdefinition⟩ := exists_bytes_of_loadFirst h
  have named := qualifiedName_of_definition hdefinition
  refine ⟨spelling, hspelling, bytes, c, hread, hparse, hdefinition, named, fun own => ?_⟩
  rw [named, own]
  exact QualifiedName.ofInternal_toInternal_of_notMem
    (QualifiedName.slash_notMem_of_nestedSpellings valid hspelling)

/-- An index answers with what is found in the place that was indexed. -/
theorem foundUnder_of_index {index : ClassIndex}
    (h : (index.source fun n => (load read origin n).mapError (·.toTypeError n)).resolve name =
      .ok (some d)) : FoundUnder read origin name d := by
  have valid := (TypeSource.resolve_some_iff.1 h).1
  exact foundUnder_of_load valid (mapError_ok_iff.1 (ClassIndex.load_of_resolve h))

/-- What jars, class directories and JDKs answer a name with is the definition of a class file
that is found under a spelling of the name; in a class directory, among the files as they were
when the name was first answered, which may be now. The core catalog answers every name with a
definition of just that name. -/
theorem foundUnder_of_resolve :
    (∀ (a : Archive) (name : String) (d : TypeDefinition),
        a.jarSource.resolve name = .ok (some d) →
        FoundUnder (fun internal => .ok (a.readClass internal)) (.archive a.path) name d) ∧
      (∀ (classes : ClassDirectory) (number : Nat) (past : List ClassDirectory.Question)
          (s : Session) (name : String) (d : TypeDefinition), classes.Reached number past s →
        (((classes.source number).resolve name).run.run s).1 = .ok (some d) →
        ∃ files, classes.FirstAnswered name (past ++ [⟨name, s.files⟩]) files (some d) ∧
          FoundUnder (classes.readClass files) (.directory classes.root) name d) ∧
      (∀ (root : String) (archives : List Archive) (name : String) (d : TypeDefinition),
        (Jdk.installed root archives).source.resolve name = .ok (some d) →
        FoundUnder (fun internal => .ok (Jdk.readClass archives internal)) .jdk name d) ∧
      ∀ (name : String) (d : TypeDefinition),
        Jdk.catalog.source.resolve name = .ok (some d) → d.qualifiedName = name := by
  refine ⟨?_, ?_, ?_, ?_⟩
  · intro a name d h
    exact foundUnder_of_index h
  · intro classes number past s name d reached h
    have valid := ClassDirectory.isValid_of_reply h
    obtain ⟨files, answered⟩ := (ClassDirectory.reply_ok_iff reached valid).1 h
    exact ⟨files, answered, foundUnder_of_load valid (mapError_ok_iff.1 answered.loaded)⟩
  · intro root archives name d h
    exact foundUnder_of_index h
  · intro name d h
    exact Catalog.table.exact name d h

/-- The bytes of a class with the given internal name. -/
def bytesOf (internalName : String) : List UInt8 :=
  (ClassFile.ofName internalName false (some "java/lang/Object")).assemble

/-- What is loaded of such a class. -/
def definitionOf (name : String) (origin : Origin) : TypeDefinition :=
  { TypeDefinition.empty name .classType with
    origin := origin
    superClass := some QualifiedName.object }

def nestedJar : Archive := .ofEntries "lib.jar" "" [("a/B$C.class", bytesOf "a/B$C")]

def nestedModule : Archive :=
  .ofEntries "a.jmod" Jdk.classesFolder [("classes/a/B$C.class", bytesOf "a/B$C")]

/-- The directory at the root of the files, with one class. -/
def rootClasses : ClassDirectory := ⟨"/", .ofNames ["B"]⟩

def rootFiles : FileTree := ⟨[(["B.class"], .file (.plain (bytesOf "B")))]⟩

theorem rootFiles_read : rootFiles.read "/B.class" = .ok (bytesOf "B") := by
  have pieces : FilePath.pieces "/B.class" = ["", "B.class"] := by decide
  have located : rootFiles.locate "/B.class" =
      .ok (["B.class"], .file (.plain (bytesOf "B"))) := by
    refine FileTree.locate_of_names (by decide) pieces rfl ?_
    rw [FileTree.destination_cons (.file (.plain (bytesOf "B"))) rfl (by decide) rfl nofun]
    exact FileTree.destination_nil ..
  unfold FileTree.read
  rw [located]
  rfl

/-- What the class file of the directory loads as, if it can be read. -/
def loadRead (bytes : Except IoError (List UInt8)) :
    Except ClasspathError (Option TypeDefinition) := do
  let bytes ← bytes.mapError (.io "/B.class")
  let c ← ofFormat "B" (ClassFile.parse bytes)
  let d ← definition c (.directory "/")
  pure (some d)

theorem rootClasses_load_eq (files : FileTree) :
    rootClasses.load files "B" =
      (loadRead (files.read "/B.class")).mapError (ClasspathError.toTypeError "B") := by
  have indexed : rootClasses.index.contains "B" = true := by cbv
  have path : FilePath.join rootClasses.root ("B" ++ ".class") = "/B.class" := by decide
  have spellings : QualifiedName.nestedSpellings "B" = ["B"] := by decide
  have internal : QualifiedName.toInternal "B" = "B" := by cbv
  unfold ClassDirectory.load load
  rw [spellings, loadFirst, internal]
  unfold ClassDirectory.readClass
  rw [if_pos indexed, path]
  dsimp only
  cases files.read "/B.class" <;> rfl

theorem rootClasses_load :
    rootClasses.load rootFiles "B" = .ok (some (definitionOf "B" (.directory "/"))) := by
  rw [rootClasses_load_eq, rootFiles_read]
  decide +kernel

/-- A session in which the class was asked for, and then all files were removed. -/
def emptied : Session :=
  { (((rootClasses.source 0).resolve "B").run.run (.start rootFiles)).2 with files := .empty }

theorem emptied_reached : rootClasses.Reached 0 [⟨"B", rootFiles⟩] emptied :=
  .change .empty (.ask "B" (.start rootFiles))

/-- The class is remembered. -/
theorem emptied_answer :
    (((rootClasses.source 0).resolve "B").run.run emptied).1 =
      .ok (some (definitionOf "B" (.directory "/"))) := by
  have valid : QualifiedName.isValid "B" = true := by decide
  refine (ClassDirectory.reply_ok_iff emptied_reached valid).2 ⟨rootFiles, ?_⟩
  exact ⟨[], [⟨"B", .empty⟩], rfl, rootClasses_load, nofun⟩

/-- Nested classes are found in a jar and in a JDK, and a class in a directory whose files are
gone. -/
theorem nested_foundUnder :
    FoundUnder (fun internal => .ok (nestedJar.readClass internal)) (.archive "lib.jar") "a.B.C"
        (definitionOf "a.B$C" (.archive "lib.jar")) ∧
      (∃ files, rootClasses.FirstAnswered "B" [⟨"B", rootFiles⟩, ⟨"B", .empty⟩] files
          (some (definitionOf "B" (.directory "/"))) ∧
        FoundUnder (rootClasses.readClass files) (.directory "/") "B"
          (definitionOf "B" (.directory "/"))) ∧
      FoundUnder (fun internal => .ok (Jdk.readClass [nestedModule] internal)) .jdk "a.B.C"
        (definitionOf "a.B$C" .jdk) ∧
      Catalog.listType.qualifiedName = "java.util.List" := by
  obtain ⟨ofJar, ofDirectory, ofJdk, ofCatalog⟩ := foundUnder_of_resolve
  refine ⟨?_, ?_, ?_, ?_⟩
  · exact ofJar nestedJar "a.B.C" _ (by decide +kernel)
  · exact ofDirectory rootClasses 0 _ emptied "B" _ emptied_reached emptied_answer
  · exact ofJdk "jdk" [nestedModule] "a.B.C" _ (by decide +kernel)
  · exact ofCatalog "java.util.List" _ (by decide +kernel)

/-- A jar with a class file in the place of another. -/
def misplacedJar : Archive := .ofEntries "lib.jar" "" [("a/B.class", bytesOf "x/Y")]

/-- A definition is not always found under a spelling of its own name. -/
theorem own_names_not_always_found :
    ¬∀ (a : Archive) (name : String) (d : TypeDefinition),
      QualifiedName.isValid name = true → a.jarSource.resolve name = .ok (some d) →
        d.qualifiedName ∈ QualifiedName.nestedSpellings name := by
  intro always
  have answered : misplacedJar.jarSource.resolve "a.B" =
      .ok (some (definitionOf "x.Y" (.archive "lib.jar"))) := by decide +kernel
  have found := always misplacedJar "a.B" _ (by decide +kernel) answered
  exact absurd found (by decide +kernel)

end Loader

end JvmScope
