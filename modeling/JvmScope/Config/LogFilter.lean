import JvmScope.Text.Alphanumeric
import JvmScope.Text.Blank

/-!
# Log filters

Which messages are logged, by their target and level. A filter is written as directives between
commas: a level for everything, `target=level`, or a bare target for all of its messages. It
keeps one directive per target, the last one given, the more specific ones first.

The level in the settings may be any text. `LogFilter.effective` makes the best of it and of
what the user adds from outside, and always has an answer.
-/

namespace JvmScope

/-- How much is logged, from nothing to everything. -/
inductive LogLevel
  | off | error | warn | info | debug | trace
  deriving DecidableEq, Repr

namespace LogLevel

def name : LogLevel → String
  | off => "off"
  | error => "error"
  | warn => "warn"
  | info => "info"
  | debug => "debug"
  | trace => "trace"

/-- The levels in the order of their numbers. -/
def all : List LogLevel := [off, error, warn, info, debug, trace]

/-- The level with a name, in letters of any case. -/
def ofName? (text : String) : Option LogLevel :=
  all.find? fun level => level.name == text.map Char.toLower

/-- The number that digits stand for, a plus sign in front allowed. -/
def number? (text : String) : Option Nat :=
  let digits := match text.toList with
    | '+' :: rest => rest
    | cs => cs
  if digits.isEmpty || !digits.all Char.isDigit then none
  else some (digits.foldl (fun n d => n * 10 + (d.toNat - '0'.toNat)) 0)

/-- The level with a name or number. -/
def ofText? (text : String) : Option LogLevel :=
  match number? text with
  | some n => all[n]?
  | none => ofName? text

end LogLevel

/-- A level for the messages of one target, or of all that have no directive of their own. -/
structure LogDirective where
  target : Option String
  level : LogLevel
  deriving DecidableEq, Repr

namespace LogDirective

/-- The written form. -/
def text (d : LogDirective) : String :=
  match d.target with
  | some target => target ++ "=" ++ d.level.name
  | none => d.level.name

/-- Whether a directive stands before another: longer targets first, then those later in the
alphabet, and a directive without a target last. -/
def precedes (d e : LogDirective) : Bool :=
  match d.target, e.target with
  | some s, some t =>
    t.utf8ByteSize < s.utf8ByteSize || (t.utf8ByteSize == s.utf8ByteSize && t < s)
  | some _, none => true
  | none, _ => false

/-- Characters that a target may start with. -/
def startsTarget (c : Char) : Bool :=
  c == '-' || c == ':' || c == '_' || Text.isAlphanumeric c

/-- The target alone, or a level for everything. -/
def ofWord (word : String) : LogDirective :=
  match LogLevel.ofText? word with
  | some level => ⟨none, level⟩
  | none => ⟨some word, .trace⟩

/-- The level after an equals sign; everything if it is left out. -/
def levelAfter? (text : String) : Option LogLevel :=
  if text.isEmpty then some .trace else LogLevel.ofText? text

/-- Reads a directive. White space around a word belongs to it, and none may stand before a
target that is followed by a level. -/
def parse? (text : String) : Option LogDirective :=
  let cs := text.toList
  match cs.dropWhile Text.isSpace with
  | [] => none
  | c :: _ =>
    let target := cs.takeWhile (· != '=')
    if !startsTarget c || target.contains '[' then none
    else
      match cs.dropWhile (· != '=') with
      | [] => some (ofWord text)
      | _ :: level =>
        if cs.head?.any Text.isSpace then none
        else (levelAfter? (String.ofList level)).map (⟨some (String.ofList target), ·⟩)

end LogDirective

/-- Directives, one per target, in their order. -/
structure LogFilter where
  directives : List LogDirective
  deriving DecidableEq, Repr

namespace LogFilter

/-- Puts a directive among others, in the place of one with its target. -/
def insertAmong (d : LogDirective) : List LogDirective → List LogDirective
  | [] => [d]
  | e :: rest =>
    if d.target = e.target then d :: rest
    else if d.precedes e then d :: e :: rest
    else e :: insertAmong d rest

def insert (f : LogFilter) (d : LogDirective) : LogFilter := ⟨insertAmong d f.directives⟩

/-- The filter of some directives; only errors are logged if there are none. -/
def ofList (directives : List LogDirective) : LogFilter :=
  if directives.isEmpty then ⟨[⟨none, .error⟩]⟩ else directives.foldl insert ⟨[]⟩

/-- Reads a filter. Nothing between two commas is no directive. -/
def parse? (text : String) : Option LogFilter := do
  let directives ← ((text.splitOn ",").filter (!·.isEmpty)).mapM LogDirective.parse?
  pure (ofList directives)

/-- The written form. -/
def text (f : LogFilter) : String := ",".intercalate (f.directives.map LogDirective.text)

/-- The directives that a level in the settings stands for. -/
def levelDirectives (level : String) : String :=
  let level := Text.trim level
  if level.isEmpty then LogLevel.info.name
  else if level.map Char.toLower = "warning" then LogLevel.warn.name
  else
    match LogLevel.ofName? level with
    | some known => known.name
    | none => level

/-- The filter for a level in the settings and directives from outside, which refine it. If the
two make no filter together, those from outside do alone, or else the level, or else `info`. -/
def effective (level : String) (outside : Option String) : LogFilter :=
  let configured := levelDirectives level
  let attempts := match outside.map Text.trim with
    | some added =>
      if added.isEmpty then [configured] else [configured ++ "," ++ added, added, configured]
    | none => [configured]
  (attempts.findSome? parse?).getD ⟨[⟨none, .info⟩]⟩

end LogFilter

end JvmScope
