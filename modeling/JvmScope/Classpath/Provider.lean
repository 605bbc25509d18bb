import JvmScope.Classpath.ClassDirectory
import JvmScope.Classpath.Jdk

/-!
# Providers

The parts a classpath is put together from, once opened: hand-made tables, jars, class
directories, a JDK, and chains of providers. A chain answers with its first part that knows a
name, so chains of chains are as good as the list of their leaves.

Class directories read files when they are asked, and files may change. A `Session` holds the
files and what the directories remember, each of them for itself: the leaves of a provider are
numbered, and a directory has the memo of its number. So two that were opened at one path do not
share what they remember. The sources of providers live in `Live`, steps that may read and extend
the session. `Provider.frozen` is the source that a provider is as long as the session stands
still.
-/

namespace JvmScope

/-! ## Sessions -/

/-- The files at the moment, and the answers given so far by class directories, which are told
apart by numbers. -/
structure Session where
  files : FileTree
  memos : Nat → Memo

namespace Session

/-- A session in which nothing has been asked. -/
def start (files : FileTree) : Session := ⟨files, fun _ => .empty⟩

/-- Replaces what a class directory remembers. -/
def setMemo (s : Session) (number : Nat) (memo : Memo) : Session :=
  { s with memos := fun n => if n = number then memo else s.memos n }

variable (s : Session) (number : Nat) (memo : Memo)

@[simp] theorem files_setMemo : (s.setMemo number memo).files = s.files := rfl

@[simp] theorem memos_setMemo : (s.setMemo number memo).memos number = memo := if_pos rfl

theorem memos_setMemo_of_ne {other : Nat} (h : other ≠ number) :
    (s.setMemo number memo).memos other = s.memos other := if_neg h

@[simp] theorem setMemo_memos : s.setMemo number (s.memos number) = s := by
  unfold setMemo
  congr 1
  funext n
  split
  · rw [‹n = number›]
  · rfl

end Session

/-- Steps in a session. -/
abbrev Live := ExceptT TypeError (StateM Session)

namespace Live

/-- A step that leaves the session alone. -/
def ofExcept {α : Type} : Except TypeError α → Live α
  | .ok a => pure a
  | .error e => throw e

end Live

namespace TypeSource

/-- A source of fixed definitions, in a session. -/
def live (source : TypeSource (Except TypeError)) : TypeSource Live where
  Known := source.Known
  finite := source.finite
  find name := Live.ofExcept (source.find name)

/-- A source as it answers in a session that stands still. -/
def frozen (source : TypeSource Live) (session : Session) : TypeSource (Except TypeError) where
  Known := source.Known
  finite := source.finite
  find name := ((source.find name).run.run session).1

end TypeSource

/-- The types of a class directory, read as they are asked for. What it remembers is the memo
with its number. -/
def ClassDirectory.source (d : ClassDirectory) (number : Nat) : TypeSource Live :=
  d.index.source fun name => do
    let session ← get
    let (answer, memo) := d.answer session.files (session.memos number) name
    set (session.setMemo number memo)
    Live.ofExcept answer

/-! ## Opened providers -/

/-- An opened part of a classpath. -/
inductive Provider
  | table (types : TypeTable)
  | jar (archive : Archive)
  | directory (classes : ClassDirectory)
  | jdk (jdk : Jdk)
  | chain (parts : List Provider)

namespace Provider

mutual

/-- The providers that a provider consists of, chains dissolved. -/
def leaves : Provider → List Provider
  | chain parts => leavesAll parts
  | p => [p]

/-- The leaves of several providers, one after the other. -/
def leavesAll : List Provider → List Provider
  | [] => []
  | p :: rest => p.leaves ++ leavesAll rest

end

mutual

/-- The types of a provider whose leaves have the numbers from `number` on. -/
def sourceFrom (number : Nat) : Provider → TypeSource Live
  | table types => types.source
  | jar archive => archive.jarSource.live
  | directory classes => classes.source number
  | jdk j => j.source.live
  | chain parts => .chain (sourcesFrom number parts)

/-- The types of several providers, each by itself, with their leaves numbered throughout. -/
def sourcesFrom (number : Nat) : List Provider → List (TypeSource Live)
  | [] => []
  | p :: rest => p.sourceFrom number :: sourcesFrom (number + p.leaves.length) rest

end

/-- The types of a provider. -/
def source (p : Provider) : TypeSource Live := p.sourceFrom 0

/-- The types of a provider over files that do not change. -/
def frozen (p : Provider) (files : FileTree) : TypeSource (Except TypeError) :=
  p.source.frozen (.start files)

end Provider

/-! ## Classpaths -/

/-- An entry of a classpath. -/
inductive ClasspathEntry
  | jar (path : String)
  | directory (path : String)
  deriving DecidableEq, Repr

/-- Opens an entry of a classpath. -/
def ClasspathEntry.openIn (tree : FileTree) : ClasspathEntry → Except ClasspathError Provider
  | jar path => .jar <$> Archive.openAt tree path ""
  | directory path => .directory <$> ClassDirectory.openAt tree path

/-- Where the JDK stands among the entries of a classpath. -/
inductive JdkPosition
  /-- Platform types shadow all others of the same name. -/
  | first
  | last
  deriving DecidableEq, Repr

namespace Classpath

/-- Opens the entries in order, up to the first that fails, and places the JDK. -/
def openParts (tree : FileTree) (entries : List ClasspathEntry) (jdk : Jdk)
    (position : JdkPosition) : Except ClasspathError (List Provider) := do
  let parts ← entries.mapM (ClasspathEntry.openIn tree)
  pure (match position with
    | .first => .jdk jdk :: parts
    | .last => parts ++ [.jdk jdk])

end Classpath

/-! ## Descriptions -/

/-- A JDK to be opened. -/
inductive JdkSpec
  | catalog
  | ofRoot (path : String)
  | discovered (env : Environment) (home : Option String)
  deriving DecidableEq, Repr

/-- Opens a JDK. -/
def JdkSpec.openIn (tree : FileTree) : JdkSpec → Except ClasspathError Jdk
  | catalog => .ok .catalog
  | ofRoot path => Jdk.ofRoot tree path
  | discovered env home => Jdk.discover tree env home

/-- A provider to be opened. -/
inductive ProviderSpec
  | table (types : TypeTable)
  | jar (path : String)
  | directory (path : String)
  | jdk (spec : JdkSpec)
  | chain (parts : List ProviderSpec)
  | classpath (entries : List ClasspathEntry) (jdk : JdkSpec) (position : JdkPosition)

namespace ProviderSpec

mutual

/-- Opens a provider. Its parts are opened in order, the JDK of a classpath before its entries,
and the first failure is the failure of the whole. -/
def openIn (tree : FileTree) : ProviderSpec → Except ClasspathError Provider
  | table types => .ok (.table types)
  | jar path => (ClasspathEntry.jar path).openIn tree
  | directory path => (ClasspathEntry.directory path).openIn tree
  | jdk spec => .jdk <$> spec.openIn tree
  | chain parts => .chain <$> openAll tree parts
  | classpath entries spec position => do
    let opened ← spec.openIn tree
    let parts ← Classpath.openParts tree entries opened position
    pure (.chain parts)

/-- Opens several providers in order. -/
def openAll (tree : FileTree) : List ProviderSpec → Except ClasspathError (List Provider)
  | [] => .ok []
  | spec :: rest => do
    let p ← spec.openIn tree
    let ps ← openAll tree rest
    pure (p :: ps)

end

end ProviderSpec

end JvmScope
