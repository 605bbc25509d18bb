import JvmScope.Files.FilePath

/-!
# File trees

The files that a classpath is read from: directories, files, archives and symbolic links, by
their place below the root. Looking a path up follows links and `..` the way a file system does;
too long a chain of links is an error, as is a component below something that is no directory.
A change made through a link changes what the link leads to, also where nothing is there yet.
-/

namespace JvmScope

/-- Why a file could not be read. -/
inductive IoError
  | notFound | notADirectory | isADirectory | nameTooLong | tooManyLinks | nulInPath | invalidUtf8
  deriving DecidableEq, Repr

namespace IoError

/-- The text shown for an error. -/
def message : IoError → String
  | notFound => "No such file or directory (os error 2)"
  | notADirectory => "Not a directory (os error 20)"
  | isADirectory => "Is a directory (os error 21)"
  | nameTooLong => "File name too long (os error 36)"
  | tooManyLinks => "Too many levels of symbolic links (os error 40)"
  | nulInPath => "file name contained an unexpected NUL byte"
  | invalidUtf8 => "stream did not contain valid UTF-8"

end IoError

/-- What a file holds. The entries of an archive are kept apart; names are distinct. -/
inductive FileContent
  | plain (bytes : List UInt8)
  | archive (entries : List (String × List UInt8))
  deriving DecidableEq, Repr

namespace FileContent

/-- The bytes of a file. Of an archive, only the mark it starts with is told. -/
def bytes : FileContent → List UInt8
  | plain bytes => bytes
  | archive [] => [0x50, 0x4B, 0x05, 0x06]
  | archive (_ :: _) => [0x50, 0x4B, 0x03, 0x04]

end FileContent

/-- A thing with a place in the tree. -/
inductive FileNode
  | directory
  | file (content : FileContent)
  | link (target : String)
  deriving DecidableEq, Repr

/-- A place: the names on the way from the root. -/
abbrev Place := List String

/-- Everything below the root, each place once. -/
structure FileTree where
  nodes : List (Place × FileNode)
  deriving DecidableEq, Repr

namespace FileTree

def empty : FileTree := ⟨[]⟩

/-- What stands at a place. The root is a directory. -/
def nodeAt (tree : FileTree) (place : Place) : Option FileNode :=
  if place.isEmpty then some .directory
  else (tree.nodes.find? (·.1 == place)).map (·.2)

/-- How many links a lookup follows. -/
def maxLinks : Nat := 40

/-- The longest component there can be, in bytes. -/
def maxNameSize : Nat := 255

/-- The longest path there can be, in bytes. -/
def maxPathSize : Nat := 4095

/-- Where components lead from a place, through at most `links` links. The last of them may name
something that is not there yet: what a path through a link that leads nowhere would make. -/
def destination (tree : FileTree) (links : Nat) (here : Place) (todo : List String) :
    Except IoError Place :=
  match todo with
  | [] => .ok here
  | name :: rest =>
    match tree.nodeAt here with
    | none => .error .notFound
    | some .directory =>
      if FilePath.isTrivial name then destination tree links here rest
      else if name = ".." then destination tree links here.dropLast rest
      else if maxNameSize < name.utf8ByteSize then .error .nameTooLong
      else
        match tree.nodeAt (here ++ [name]) with
        | none => if rest.isEmpty then .ok (here ++ [name]) else .error .notFound
        | some (.link target) =>
          if links = 0 then .error .tooManyLinks
          else
            destination tree (links - 1) (if FilePath.isAbsolute target then [] else here)
              (FilePath.pieces target ++ rest)
        | some _ => destination tree links (here ++ [name]) rest
    | some _ => .error .notADirectory
termination_by (links, todo.length)

/-- The place a path leads to, and what stands there. -/
def locate (tree : FileTree) (path : String) : Except IoError (Place × FileNode) :=
  if path.isEmpty then .error .notFound
  else if path.toList.contains '\x00' then .error .nulInPath
  else if maxPathSize < path.utf8ByteSize then .error .nameTooLong
  else do
    let place ← tree.destination maxLinks [] (FilePath.pieces path)
    match tree.nodeAt place with
    | some node => pure (place, node)
    | none => throw .notFound

/-- The text of a place. -/
def pathOf (place : Place) : String := "/" ++ "/".intercalate place

/-- The path without links and detours. -/
def canonical? (tree : FileTree) (path : String) : Option String :=
  match tree.locate path with
  | .ok (place, _) => some (pathOf place)
  | .error _ => none

def isDirectory (tree : FileTree) (path : String) : Bool :=
  match tree.locate path with
  | .ok (_, .directory) => true
  | _ => false

def isFile (tree : FileTree) (path : String) : Bool :=
  match tree.locate path with
  | .ok (_, .file _) => true
  | _ => false

/-- The bytes of the file a path leads to. -/
def read (tree : FileTree) (path : String) : Except IoError (List UInt8) := do
  match ← tree.locate path with
  | (_, .file content) => pure content.bytes
  | _ => throw .isADirectory

/-- The text of the file a path leads to. -/
def readText (tree : FileTree) (path : String) : Except IoError String := do
  let bytes ← tree.read path
  match String.fromUTF8? ⟨bytes.toArray⟩ with
  | some text => pure text
  | none => throw .invalidUtf8

/-- The names in a directory. -/
def list (tree : FileTree) (directory : Place) : List String :=
  tree.nodes.filterMap fun (place, _) =>
    if place.length = directory.length + 1 ∧ place.dropLast = directory then place.getLast?
    else none

/-- The files below a directory, by their places seen from it. Links are not followed. -/
def filesBelow (tree : FileTree) (directory : Place) : List Place :=
  tree.nodes.filterMap fun (place, node) =>
    match node with
    | .file _ => if directory.isPrefixOf place then some (place.drop directory.length) else none
    | _ => none

/-! ## Changes -/

/-- Puts a node at a place. -/
def put (tree : FileTree) (place : Place) (node : FileNode) : FileTree :=
  ⟨tree.nodes.filter (·.1 != place) ++ [(place, node)]⟩

/-- Where a name in a directory leads, or its own place if it leads nowhere. -/
def placeFrom (tree : FileTree) (here : Place) (name : String) : Place :=
  match tree.destination maxLinks here [name] with
  | .ok place => place
  | .error _ => here ++ [name]

/-- Goes on to a name in a directory, and makes a directory of it if there is nothing yet. -/
def enter (tree : FileTree) (here : Place) (name : String) : FileTree × Place :=
  let place := tree.placeFrom here name
  (if (tree.nodeAt place).isSome then tree else tree.put place .directory, place)

/-- The names in a path that lead somewhere. -/
def names (path : String) : List String := (FilePath.pieces path).filter (!FilePath.isTrivial ·)

/-- Puts a node where a path leads, with the directories on the way. -/
def write (tree : FileTree) (path : String) (node : FileNode) : FileTree :=
  match (names path).getLast? with
  | none => tree
  | some name =>
    let (tree, here) := (names path).dropLast.foldl (fun (tree, here) => tree.enter here) (tree, [])
    tree.put (tree.placeFrom here name) node

/-- Removes what stands at a path, and all below it. -/
def remove (tree : FileTree) (path : String) : FileTree :=
  match (names path).getLast? with
  | none => tree
  | some name =>
    let here := (names path).dropLast.foldl tree.placeFrom []
    ⟨tree.nodes.filter fun (place, _) => !(here ++ [name]).isPrefixOf place⟩

end FileTree

end JvmScope
