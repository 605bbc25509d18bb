import JvmScope.Classpath.ClassIndex

/-!
# Class directories

A directory of compiled classes, one class file per type, indexed when it is opened. Class files
are read when a name is first asked for. Found or absent, an answer is remembered and given
again from then on; an error is not, so a name that could not be read is tried anew.

The index is never brought up to date: a class whose file is gone is an error, not absent.
-/

namespace JvmScope

/-- An opened class directory. -/
structure ClassDirectory where
  root : String
  index : ClassIndex
  deriving DecidableEq, Repr

/-- The answers a class directory has given. -/
structure Memo where
  answers : List (String × Option TypeDefinition)
  deriving DecidableEq, Repr

namespace Memo

def empty : Memo := ⟨[]⟩

def lookup? (memo : Memo) (name : String) : Option (Option TypeDefinition) :=
  memo.answers.lookup name

def remember (memo : Memo) (name : String) (answer : Option TypeDefinition) : Memo :=
  ⟨(name, answer) :: memo.answers⟩

end Memo

namespace ClassDirectory

/-- The internal name of the class whose file has the given place below the root. -/
def classOf? (place : Place) : Option String :=
  match place.getLast? with
  | none => none
  | some name =>
    match FilePath.splitExtension name with
    | (_, some "class") =>
      some ("/".intercalate (place.dropLast ++ [FilePath.withoutExtension name]))
    | _ => none

/-- Opens the class directory at a path. -/
def openAt (tree : FileTree) (root : String) : Except ClasspathError ClassDirectory :=
  match tree.locate root with
  | .error e => .error (.io root e)
  | .ok (place, .directory) =>
    .ok { root, index := .ofNames ((tree.filesBelow place).filterMap classOf?) }
  | .ok _ => .error (.notADirectory root)

/-- The class file with an internal name. -/
def readClass (d : ClassDirectory) (tree : FileTree) (internalName : String) :
    Except ClasspathError (Option (List UInt8)) :=
  if d.index.contains internalName then
    let path := FilePath.join d.root (internalName ++ ".class")
    match tree.read path with
    | .ok bytes => .ok (some bytes)
    | .error e => .error (.io path e)
  else .ok none

/-- Loads a class as the files stand. -/
def load (d : ClassDirectory) (tree : FileTree) (name : String) :
    Except TypeError (Option TypeDefinition) :=
  (Loader.load (d.readClass tree) (.directory d.root) name).mapError (·.toTypeError name)

/-- Answers a name, remembered answers first. -/
def answer (d : ClassDirectory) (tree : FileTree) (memo : Memo) (name : String) :
    Except TypeError (Option TypeDefinition) × Memo :=
  match memo.lookup? name with
  | some answer => (.ok answer, memo)
  | none =>
    match d.load tree name with
    | .ok answer => (.ok answer, memo.remember name answer)
    | .error e => (.error e, memo)

end ClassDirectory

end JvmScope
