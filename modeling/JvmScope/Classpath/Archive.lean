import JvmScope.Classpath.ClassIndex

/-!
# Archives

A zip archive of class files, indexed when it is opened. Jars keep classes at the top; the
modules of a JDK keep them below `classes/`.
-/

namespace JvmScope

/-- An opened archive. -/
structure Archive where
  path : String
  /-- What the entry names of classes start with. -/
  folder : String
  /-- Entries by name. -/
  entries : List (String × List UInt8)
  /-- The classes among the entries. -/
  index : ClassIndex
  deriving DecidableEq, Repr

namespace Archive

/-- What the entry names of classes end with. -/
def classSuffix : String := ".class"

/-- The internal name of the class that an entry holds. -/
def classOf? (folder entry : String) : Option String :=
  (Text.dropStart? folder entry).bind (Text.dropTail? classSuffix)

/-- The name of the entry that holds a class. -/
def entryOf (folder internalName : String) : String := folder ++ internalName ++ classSuffix

/-- The archive with the given entries. -/
def ofEntries (path folder : String) (entries : List (String × List UInt8)) : Archive where
  path := path
  folder := folder
  entries := entries
  index := .ofNames (entries.filterMap fun e => classOf? folder e.1)

/-- Opens the archive at a path. -/
def openAt (tree : FileTree) (path folder : String) : Except ClasspathError Archive :=
  match tree.locate path with
  | .error e => .error (.io path e)
  | .ok (_, .file (.archive entries)) => .ok (ofEntries path folder entries)
  | .ok _ => .error (.notAnArchive path)

/-- The class file with an internal name. The index of an opened archive has no class without an
entry, so there only classes that are not indexed are absent. -/
def readClass (a : Archive) (internalName : String) : Option (List UInt8) :=
  if a.index.contains internalName then a.entries.lookup (entryOf a.folder internalName)
  else none

/-- The types of a jar. -/
def jarSource (a : Archive) : TypeSource (Except TypeError) :=
  a.index.source fun name =>
    (Loader.load (fun internal => .ok (a.readClass internal)) (.archive a.path) name).mapError
      (·.toTypeError name)

end Archive

end JvmScope
