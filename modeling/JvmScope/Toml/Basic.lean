/-!
# Settings in TOML

The values of a TOML document and the tables they make up. A document is a list of statements:
headers, which open tables, and entries, which put a value under a dotted key of the table that
was opened last. A table is written once: `addEntry` and `openTable` refuse whatever would write
it, or a value in it, a second time.

Floating-point numbers, dates and arrays of tables are not among the values.
-/

namespace JvmScope.Toml

/-- How a table came about, which decides what may still be added to it. -/
inductive TableKind
  /-- Written between braces, and complete. -/
  | inline
  /-- Opened by its header. -/
  | headed
  /-- On the way to a table that was opened by its header. -/
  | implied
  /-- Made by a dotted key. -/
  | dotted
  deriving DecidableEq, Repr

inductive Value
  | string (text : String)
  | boolean (value : Bool)
  | integer (value : Int)
  | array (items : List Value)
  | table (kind : TableKind) (entries : List (String × Value))
  deriving Repr

instance : Inhabited Value := ⟨.array []⟩

/-- The contents of a table, each key once. -/
abbrev Entries := List (String × Value)

namespace Entries

/-- Puts a value in the place of the one a key has. -/
def replace (entries : Entries) (key : String) (value : Value) : Entries :=
  entries.map fun e => if e.1 = key then (key, value) else e

/-- Adds a value under a dotted key. The tables on the way are made, or were made for other
dotted keys; a table that is only implied may be passed, but is not added to. -/
def addEntry : (path : List String) → Value → Entries → Option Entries
  | [], _, _ => none
  | [key], value, entries =>
    if (entries.lookup key).isSome then none else some (entries ++ [(key, value)])
  | key :: next :: path, value, entries =>
    match entries.lookup key with
    | none =>
      (addEntry (next :: path) value []).map fun sub => entries ++ [(key, .table .dotted sub)]
    | some (.table .dotted sub) =>
      (addEntry (next :: path) value sub).map fun sub => entries.replace key (.table .dotted sub)
    | some (.table .implied sub) =>
      if path.isEmpty then none
      else
        (addEntry (next :: path) value sub).map fun sub =>
          entries.replace key (.table .implied sub)
    | some _ => none

/-- Opens the table that a header names. It must not be there yet, unless it is implied. -/
def openTable : (path : List String) → Entries → Option Entries
  | [], _ => none
  | [key], entries =>
    match entries.lookup key with
    | none => some (entries ++ [(key, .table .headed [])])
    | some (.table .implied sub) => some (entries.replace key (.table .headed sub))
    | some _ => none
  | key :: next :: path, entries =>
    match entries.lookup key with
    | none =>
      (openTable (next :: path) []).map fun sub => entries ++ [(key, .table .implied sub)]
    | some (.table .inline _) => none
    | some (.table kind sub) =>
      (openTable (next :: path) sub).map fun sub => entries.replace key (.table kind sub)
    | some _ => none

/-- Adds a value under a dotted key of an open table. -/
def addWithin : (header path : List String) → Value → Entries → Option Entries
  | [], path, value, entries => addEntry path value entries
  | key :: header, path, value, entries =>
    match entries.lookup key with
    | some (.table kind sub) =>
      (addWithin header path value sub).map fun sub => entries.replace key (.table kind sub)
    | _ => none

end Entries

/-- A statement of a document. -/
inductive Statement
  | header (path : List String)
  | entry (path : List String) (value : Value)
  deriving Repr

/-- A document that has been read in part. -/
structure Draft where
  /-- The table that is open. -/
  header : List String
  root : Entries
  deriving Repr

namespace Draft

def add (draft : Draft) : Statement → Option Draft
  | .header path => (draft.root.openTable path).map fun root => ⟨path, root⟩
  | .entry path value =>
    (draft.root.addWithin draft.header path value).map fun root => ⟨draft.header, root⟩

end Draft

/-- The root table that statements make, if they agree with each other. -/
def ofStatements (statements : List Statement) : Option Entries :=
  (statements.foldlM Draft.add ⟨[], []⟩).map (·.root)

/-- The table that the entries between braces make, if they agree with each other. -/
def ofPairs (pairs : List (List String × Value)) : Option Entries :=
  pairs.foldlM (fun entries (path, value) => entries.addEntry path value) []

end JvmScope.Toml
