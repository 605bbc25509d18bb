import JvmScope.Classpath.Archive
import JvmScope.Classpath.Catalog

/-!
# JDKs

Where the types of the platform come from: a modular installation with `jmods/`, an older one
with a runtime archive, or the core catalog where there is no installation.

`java.base.jmod` comes first among the modules, then the others by file name, so the order in
which a directory lists them does not matter.
-/

namespace JvmScope

/-- An opened JDK. -/
inductive Jdk
  | catalog
  | installed (root : String) (archives : List Archive)
  deriving DecidableEq, Repr

/-- What a search for a JDK is told by its surroundings. -/
structure Environment where
  /-- The home of the installation to use. -/
  javaHome : Option String
  /-- The directories of executables. -/
  searchPath : Option (List String)
  deriving DecidableEq, Repr

namespace Jdk

def isCatalog : Jdk → Bool
  | catalog => true
  | installed _ _ => false

/-- The root of an installation. -/
def root? : Jdk → Option String
  | catalog => none
  | installed root _ => some root

/-! ## Installations -/

/-- The module that holds the core types. -/
def baseModule : String := "java.base.jmod"

/-- The folder of a module that holds classes. -/
def classesFolder : String := "classes/"

/-- Module files in the order they are searched. -/
def moduleOrder (a b : String) : Bool :=
  a == baseModule || (b != baseModule && ClassIndex.notAbove a b)

/-- The modules among the files of a directory, in the order they are searched. -/
def modulesOf (fileNames : List String) : List String :=
  (fileNames.filter fun name => (FilePath.splitExtension name).2 == some "jmod").mergeSort
    moduleOrder

/-- The runtime archive of an installation without modules. -/
def runtimeArchive? (tree : FileTree) (root : String) : Option String :=
  ["jre/lib/rt.jar", "lib/rt.jar"].map (FilePath.join root) |>.find? tree.isFile

/-- Whether a directory looks like an installation. -/
def isRoot (tree : FileTree) (path : String) : Bool :=
  tree.isDirectory (FilePath.join path "jmods") || (runtimeArchive? tree path).isSome

/-- Opens the installation at a path. -/
def ofRoot (tree : FileTree) (root : String) : Except ClasspathError Jdk :=
  let jmods := FilePath.join root "jmods"
  match tree.locate jmods with
  | .ok (place, .directory) =>
    match modulesOf (tree.list place) with
    | [] => .error (.jdk (.noModulesFound jmods))
    | modules => do
      let archives ← modules.mapM fun name =>
        Archive.openAt tree (FilePath.join jmods name) classesFolder
      pure (.installed root archives)
  | _ =>
    match runtimeArchive? tree root with
    | some path => do
      let archive ← Archive.openAt tree path ""
      pure (.installed root [archive])
    | none => .error (.jdk (.notAJdk root))

/-! ## Discovery -/

/-- The path, or else its parent, if it looks like an installation. The home of an older
installation may be the `jre` inside it. -/
def rootAtOrAbove? (tree : FileTree) (path : String) : Option String :=
  if isRoot tree path then some path
  else
    let parent := FilePath.parentOrSelf path
    if isRoot tree parent then some parent else none

/-- The installation that owns the first `java` on the search path. -/
def rootOnSearchPath? (tree : FileTree) (searchPath : List String) : Option String := do
  let java ← searchPath.map (FilePath.join · "java") |>.find? tree.isFile
  let java ← tree.canonical? java
  let bin ← FilePath.parent? java
  let root ← FilePath.parent? bin
  rootAtOrAbove? tree root

/-- Finds and opens an installation: at `home` if given, else where the environment says. -/
def discover (tree : FileTree) (env : Environment) (home : Option String) :
    Except ClasspathError Jdk :=
  match home with
  | some home => ofRoot tree ((rootAtOrAbove? tree home).getD home)
  | none =>
    match (env.javaHome.bind (rootAtOrAbove? tree)) <|>
        (env.searchPath.bind (rootOnSearchPath? tree)) with
    | some root => ofRoot tree root
    | none => .error (.jdk .notFound)

/-! ## Types -/

/-- The class file with an internal name: that of the first archive which has one. -/
def readClass (archives : List Archive) (internalName : String) : Option (List UInt8) :=
  archives.findSome? (·.readClass internalName)

/-- The types of a JDK. -/
def source : Jdk → TypeSource (Except TypeError)
  | catalog => Catalog.table.source
  | installed _ archives =>
    ClassIndex.source (archives.flatMap Archive.index) fun name =>
      (Loader.load (fun internal => .ok (readClass archives internal)) .jdk name).mapError
        (·.toTypeError name)

end Jdk

end JvmScope
