import JvmScope.Config.Basic
import JvmScope.Toml.Reader

/-!
# Reading settings

Settings are written in TOML: `classpath` with `jars`, `class_dirs` and `jdk_position`, `jdk`
with `home` (or `jdk_home`), and `logging` with `level` and `json`. All may be left out, and
nothing else may be there. Instead of a table, a group may be an array of its values in this
order.
-/

namespace JvmScope

/-- Why there are no settings. -/
inductive ConfigError
  | io (path : String) (cause : IoError)
  /-- The text is no TOML, or has something in it that is no setting. -/
  | malformed
  deriving DecidableEq, Repr

namespace ConfigError

/-- The text shown for an error. -/
def message : ConfigError → String
  | io path cause => "cannot read " ++ path ++ ": " ++ cause.message
  | malformed => "invalid settings"

end ConfigError

namespace Toml.Value

/-- Whether a group of settings has no others than those of the given names. -/
def holdsOnly (names : List String) : Value → Bool
  | table _ entries => entries.all fun e => names.contains e.1
  | array _ => true
  | _ => false

/-- The value of a setting: the one under any of its names, or the one in its place. -/
def find? (place : Nat) (names : List String) : Value → Option Value
  | table _ entries => (entries.find? fun e => names.contains e.1).map (·.2)
  | array items => items[place]?
  | _ => none

/-- Whether a setting is there under two names. -/
def isAmbiguous (names : List String) : Value → Bool
  | table _ entries => 1 < (entries.filter fun e => names.contains e.1).length
  | _ => false

/-- Reads a setting of a group, which may be left out. -/
def setting {α : Type} (group : Value) (place : Nat) (names : List String) (standard : α)
    (read : Value → Option α) : Option α :=
  if group.isAmbiguous names then none
  else
    match group.find? place names with
    | some v => read v
    | none => some standard

def string? : Value → Option String
  | string s => some s
  | _ => none

def boolean? : Value → Option Bool
  | boolean b => some b
  | _ => none

def strings? : Value → Option (List String)
  | array items => items.mapM string?
  | _ => none

/-- Whether a value is an array or table with nothing in it. -/
def isHollow : Value → Bool
  | array [] | table _ [] => true
  | _ => false

/-- A position, as a name or as a table with nothing but this name in it. -/
def position? : Value → Option JdkPosition
  | string name => named? name
  | table _ [(name, content)] => if content.isHollow then named? name else none
  | _ => none
where
  /-- The position with a name. -/
  named? : String → Option JdkPosition
    | "first" => some .first
    | "last" => some .last
    | _ => none

end Toml.Value

open Toml (Value)

/-- Reads the settings of the classpath. -/
def ClasspathSettings.ofToml? (group : Value) : Option ClasspathSettings := do
  guard (group.holdsOnly ["jars", "class_dirs", "jdk_position"])
  let jars ← group.setting 0 ["jars"] [] Value.strings?
  let classDirs ← group.setting 1 ["class_dirs"] [] Value.strings?
  let jdkPosition ← group.setting 2 ["jdk_position"] .last Value.position?
  pure ⟨jars, classDirs, jdkPosition⟩

/-- Reads the settings of logging. -/
def LogSettings.ofToml? (group : Value) : Option LogSettings := do
  guard (group.holdsOnly ["level", "json"])
  let level ← group.setting 0 ["level"] standard.level Value.string?
  let json ← group.setting 1 ["json"] standard.json Value.boolean?
  pure ⟨level, json⟩

namespace Config

/-- Reads the home of the JDK. -/
def jdkHome? (group : Value) : Option (Option String) := do
  guard (group.holdsOnly ["home", "jdk_home"])
  group.setting 0 ["home", "jdk_home"] none fun v => some <$> v.string?

/-- Reads settings. -/
def ofToml? (root : Value) : Option Config := do
  guard (root.holdsOnly ["classpath", "jdk", "logging"])
  let classpath ← root.setting 0 ["classpath"] .standard ClasspathSettings.ofToml?
  let jdkHome ← root.setting 1 ["jdk"] none jdkHome?
  let logging ← root.setting 2 ["logging"] .standard LogSettings.ofToml?
  pure ⟨classpath, jdkHome, logging⟩

/-- The settings that a text states. -/
def parse (text : String) : Except ConfigError Config :=
  match (Toml.parse? text).bind fun entries => ofToml? (.table .headed entries) with
  | some c => .ok c
  | none => .error .malformed

/-- The settings in a file. Paths of the classpath are taken as seen from where the file is. -/
def load (tree : FileTree) (path : String) : Except ConfigError Config := do
  let text ← (tree.readText path).mapError (.io path)
  let c ← parse text
  match FilePath.parent? path with
  | some base => pure { c with classpath := c.classpath.rebase base }
  | none => pure c

end Config

end JvmScope
