import JvmScope.Text.After
import JvmScope.Toml.Basic

/-!
# Reading TOML

Statements stand on lines of their own, and comments reach to the end of a line. Keys are bare
or quoted, strings are basic or literal and may run over lines; arrays may do so too, inline
tables may not. Line breaks of two characters are made one before anything is read.

How deep a document goes is limited: by `maxDepth` for the parts of a dotted key and for the
brackets and braces within each other. Headers and dotted keys may add up to more.
-/

namespace JvmScope.Toml

open Text (After Rest)

/-! ## Characters -/

/-- Blanks within a line. -/
def isBlank (c : Char) : Bool := c == ' ' || c == '\t'

/-- What may stand in comments and strings as it is. -/
def isPlain (c : Char) : Bool := c == '\t' || (0x20 ≤ c.toNat && c.toNat != 0x7F)

/-- What bare keys consist of. -/
def isKeyChar (c : Char) : Bool := c.isAlphanum || c == '_' || c == '-'

/-- The value of a hexadecimal digit. -/
def hexDigit? (c : Char) : Option Nat :=
  if c.isDigit then some (c.toNat - '0'.toNat)
  else if 'a' ≤ c ∧ c ≤ 'f' then some (c.toNat - 'a'.toNat + 10)
  else if 'A' ≤ c ∧ c ≤ 'F' then some (c.toNat - 'A'.toNat + 10)
  else none

/-- The text without blanks in front. -/
def skipBlanks (cs : List Char) : Rest cs :=
  ⟨cs.dropWhile isBlank, (List.dropWhile_suffix isBlank).length_le⟩

/-- The text after a comment, whose mark has been read. -/
def skipComment (cs : List Char) : Rest cs :=
  ⟨cs.dropWhile isPlain, (List.dropWhile_suffix isPlain).length_le⟩

/-- The text without the blanks, line breaks and comments in front. -/
def skipGap (inComment : Bool) (cs : List Char) : Rest cs :=
  match cs with
  | [] => ⟨[], Nat.le_refl _⟩
  | '\n' :: rest => ⟨(skipGap false rest).1, Nat.le_succ_of_le (skipGap false rest).2⟩
  | c :: rest =>
    if inComment then
      if isPlain c then ⟨(skipGap true rest).1, Nat.le_succ_of_le (skipGap true rest).2⟩
      else ⟨c :: rest, Nat.le_refl _⟩
    else if c = '#' then ⟨(skipGap true rest).1, Nat.le_succ_of_le (skipGap true rest).2⟩
    else if isBlank c then ⟨(skipGap false rest).1, Nat.le_succ_of_le (skipGap false rest).2⟩
    else ⟨c :: rest, Nat.le_refl _⟩

/-- The text after the character `c`, if it comes next after what `skip` skips. -/
def mark? (skip : (cs : List Char) → Rest cs) (c : Char) (cs : List Char) : Option (After cs) :=
  match skip cs with
  | ⟨[], _⟩ => none
  | ⟨d :: rest, h⟩ => if d = c then some ⟨rest, h⟩ else none

/-! ## Strings -/

/-- The character with the hexadecimal number in the first `count` characters. -/
def codePoint? (count : Nat) (cs : List Char) : Option (Char × Rest cs) :=
  match (cs.take count).mapM hexDigit? with
  | none => none
  | some digits =>
    let n := digits.foldl (fun n d => n * 16 + d) 0
    if digits.length = count ∧ n.isValidChar then
      some (Char.ofNat n, ⟨cs.drop count, by simp⟩)
    else none

/-- What an escape stands for, after its backslash. -/
def escape? (cs : List Char) : Option (Char × After cs) :=
  match cs with
  | [] => none
  | c :: rest =>
    match c with
    | 'b' => some ('\x08', ⟨rest, Nat.lt_succ_self _⟩)
    | 't' => some ('\t', ⟨rest, Nat.lt_succ_self _⟩)
    | 'n' => some ('\n', ⟨rest, Nat.lt_succ_self _⟩)
    | 'f' => some ('\x0c', ⟨rest, Nat.lt_succ_self _⟩)
    | 'r' => some ('\r', ⟨rest, Nat.lt_succ_self _⟩)
    | '"' => some ('"', ⟨rest, Nat.lt_succ_self _⟩)
    | '\\' => some ('\\', ⟨rest, Nat.lt_succ_self _⟩)
    | 'u' => (codePoint? 4 rest).map fun (d, r) => (d, ⟨r.1, Nat.lt_succ_of_le r.2⟩)
    | 'U' => (codePoint? 8 rest).map fun (d, r) => (d, ⟨r.1, Nat.lt_succ_of_le r.2⟩)
    | _ => none

/-- A basic string after its opening quote. -/
def basic? (cs : List Char) : Option (List Char × After cs) :=
  match cs with
  | [] => none
  | '"' :: rest => some ([], ⟨rest, by simp⟩)
  | '\\' :: rest =>
    match escape? rest with
    | none => none
    | some (c, ⟨rest', _⟩) =>
      (basic? rest').map fun (s, a) => (c :: s, a.weaken (by simp only [List.length_cons]; omega))
  | c :: rest =>
    if isPlain c then (basic? rest).map fun (s, a) => (c :: s, a.past) else none
termination_by cs.length
decreasing_by
  · simp only [List.length_cons]; omega
  · simp

/-- A literal string after its opening quote. -/
def literal? (cs : List Char) : Option (List Char × After cs) :=
  match cs with
  | [] => none
  | '\'' :: rest => some ([], ⟨rest, by simp⟩)
  | c :: rest =>
    if isPlain c then (literal? rest).map fun (s, a) => (c :: s, a.past) else none

/-- The end of a string over lines: three quotes, before which up to two may belong to the
text. -/
def ending? (quote : Char) (cs : List Char) : Option (List Char × After cs) :=
  let quotes := (cs.takeWhile (· == quote)).length
  if h : 3 ≤ quotes then
    some (List.replicate (min (quotes - 3) 2) quote,
      ⟨cs.drop (min (quotes - 3) 2 + 3), by
        have := (List.takeWhile_prefix (l := cs) (· == quote)).length_le
        simp only [List.length_drop]
        omega⟩)
  else none

/-- What follows a backslash that joins lines: the line break and the white space around it are
left out. -/
def joined? (cs : List Char) : Option (Rest cs) :=
  match cs.dropWhile isBlank with
  | '\n' :: _ =>
    some ⟨cs.dropWhile fun c => isBlank c || c == '\n',
      (List.dropWhile_suffix fun c => isBlank c || c == '\n').length_le⟩
  | _ => none

/-- A string over lines after its opening quotes. Only basic ones have escapes. -/
def overLines? (quote : Char) (cs : List Char) : Option (List Char × After cs) :=
  match ending? quote cs with
  | some found => some found
  | none =>
    match cs with
    | [] => none
    | c :: rest =>
      if c = '\\' ∧ quote = '"' then
        match joined? rest with
        | some ⟨rest', _⟩ =>
          (overLines? quote rest').map fun (s, a) =>
            (s, a.weaken (by simp only [List.length_cons]; omega))
        | none =>
          match escape? rest with
          | none => none
          | some (d, ⟨rest', _⟩) =>
            (overLines? quote rest').map fun (s, a) =>
              (d :: s, a.weaken (by simp only [List.length_cons]; omega))
      else if isPlain c || c == '\n' then
        (overLines? quote rest).map fun (s, a) => (c :: s, a.past)
      else none
termination_by cs.length
decreasing_by all_goals simp only [List.length_cons]; omega

/-- The text without a line break in front. -/
def skipBreak (cs : List Char) : Rest cs :=
  match cs with
  | [] => ⟨[], Nat.le_refl _⟩
  | c :: rest => if c = '\n' then Rest.tail c rest else ⟨c :: rest, Nat.le_refl _⟩

/-- A string of any form. -/
def string? (cs : List Char) : Option (List Char × After cs) :=
  match cs with
  | '"' :: '"' :: '"' :: rest =>
    (overLines? '"' (skipBreak rest).1).map fun (s, a) =>
      (s, a.weaken (by have := (skipBreak rest).2; simp; omega))
  | '\'' :: '\'' :: '\'' :: rest =>
    (overLines? '\'' (skipBreak rest).1).map fun (s, a) =>
      (s, a.weaken (by have := (skipBreak rest).2; simp; omega))
  | '"' :: rest => (basic? rest).map fun (s, a) => (s, a.past)
  | '\'' :: rest => (literal? rest).map fun (s, a) => (s, a.past)
  | _ => none

/-! ## Keys -/

/-- The most parts of a dotted key, and the most brackets and braces within each other. -/
def maxDepth : Nat := 79

/-- A key without dots. -/
def simpleKey? (cs : List Char) : Option (List Char × After cs) :=
  match cs with
  | '"' :: rest => (basic? rest).map fun (s, a) => (s, a.past)
  | '\'' :: rest => (literal? rest).map fun (s, a) => (s, a.past)
  | [] => none
  | c :: rest =>
    if isKeyChar c then
      some (c :: rest.takeWhile isKeyChar, ⟨rest.dropWhile isKeyChar,
        Nat.lt_succ_of_le (List.dropWhile_suffix isKeyChar).length_le⟩)
    else none

/-- Keys with dots between them. -/
def keyParts? (cs : List Char) : Option (List String × After cs) :=
  match simpleKey? cs with
  | none => none
  | some (key, ⟨rest, h⟩) =>
    match mark? skipBlanks '.' rest with
    | none => some ([String.ofList key], ⟨rest, h⟩)
    | some ⟨rest', _⟩ =>
      match skipBlanks rest' with
      | ⟨next, _⟩ =>
        (keyParts? next).map fun (keys, a) =>
          (String.ofList key :: keys, a.weaken (by omega))
termination_by cs.length
decreasing_by omega

/-- A dotted key. -/
def dottedKey? (cs : List Char) : Option (List String × After cs) :=
  (keyParts? cs).filter fun (keys, _) => keys.length ≤ maxDepth

/-! ## Numbers -/

/-- Digits, which single underscores may keep apart. -/
def digits? (digit? : Char → Option Nat) (cs : List Char) : Option (List Nat × After cs) :=
  match cs with
  | [] => none
  | c :: rest =>
    match digit? c with
    | none => none
    | some d =>
      match rest with
      | '_' :: rest' =>
        match digits? digit? rest' with
        | some (ds, a) => some (d :: ds, a.past.past)
        | none => some ([d], ⟨'_' :: rest', by simp⟩)
      | rest =>
        match digits? digit? rest with
        | some (ds, a) => some (d :: ds, a.past)
        | none => some ([d], ⟨rest, by simp⟩)

/-- A digit below `base`. -/
def digitBelow? (base : Nat) (c : Char) : Option Nat := (hexDigit? c).filter (· < base)

/-- A natural number in the given base. -/
def natural? (base : Nat) (cs : List Char) : Option (Nat × After cs) :=
  (digits? (digitBelow? base) cs).map fun (ds, a) => (ds.foldl (fun n d => n * base + d) 0, a)

/-- A decimal number, which has no idle zero in front. -/
def decimal? (cs : List Char) : Option (Nat × After cs) :=
  match digits? (digitBelow? 10) cs with
  | some (0 :: _ :: _, _) => none
  | some (ds, a) => some (ds.foldl (fun n d => n * 10 + d) 0, a)
  | none => none

/-- A number without a sign. -/
def unsigned? (cs : List Char) : Option (Nat × After cs) :=
  match cs with
  | '0' :: 'x' :: rest => (natural? 16 rest).map fun (n, a) => (n, a.past.past)
  | '0' :: 'o' :: rest => (natural? 8 rest).map fun (n, a) => (n, a.past.past)
  | '0' :: 'b' :: rest => (natural? 2 rest).map fun (n, a) => (n, a.past.past)
  | cs => decimal? cs

/-- An integer, which has to fit into 64 bits. -/
def integer? (cs : List Char) : Option (Int × After cs) :=
  let signed : Option (Int × After cs) :=
    match cs with
    | '-' :: rest => (decimal? rest).map fun (n, a) => (-n, a.past)
    | '+' :: rest => (decimal? rest).map fun (n, a) => (n, a.past)
    | cs => (unsigned? cs).map fun (n, a) => (n, a)
  signed.filter fun (n, _) => -0x8000000000000000 ≤ n && n < 0x8000000000000000

/-! ## Values -/

mutual

/-- A value, with at most `depth` brackets and braces within each other. -/
def value? (depth : Nat) (cs : List Char) : Option (Value × After cs) :=
  match cs with
  | 't' :: 'r' :: 'u' :: 'e' :: rest =>
    some (.boolean true, ⟨rest, by simp only [List.length_cons]; omega⟩)
  | 'f' :: 'a' :: 'l' :: 's' :: 'e' :: rest =>
    some (.boolean false, ⟨rest, by simp only [List.length_cons]; omega⟩)
  | '[' :: rest =>
    match depth with
    | 0 => none
    | depth + 1 => (items? depth rest).map fun (vs, a) => (.array vs, a.past)
  | '{' :: rest =>
    match depth with
    | 0 => none
    | depth + 1 =>
      match mark? skipBlanks '}' rest with
      | some a => some (.table .inline [], a.past)
      | none =>
        match pairs? depth rest with
        | none => none
        | some (pairs, a) =>
          (ofPairs pairs).map fun entries => (.table .inline entries, a.past)
  | cs =>
    match string? cs with
    | some (s, a) => some (.string (String.ofList s), a)
    | none => (integer? cs).map fun (n, a) => (.integer n, a)
termination_by 3 * cs.length

/-- The items of an array up to the closing bracket, which is consumed. -/
def items? (depth : Nat) (cs : List Char) : Option (List Value × After cs) :=
  match mark? (skipGap false) ']' cs with
  | some a => some ([], a)
  | none =>
    match skipGap false cs with
    | ⟨first, _⟩ =>
      match value? depth first with
      | none => none
      | some (v, ⟨rest, _⟩) =>
        match mark? (skipGap false) ',' rest with
        | some ⟨next, _⟩ => (items? depth next).map fun (vs, a) => (v :: vs, a.weaken (by omega))
        | none =>
          (mark? (skipGap false) ']' rest).map fun a => ([v], a.weaken (by omega))
termination_by 3 * cs.length + 1

/-- The entries of an inline table up to the closing brace, which is consumed. -/
def pairs? (depth : Nat) (cs : List Char) :
    Option (List (List String × Value) × After cs) :=
  match pair? depth cs with
  | none => none
  | some (p, ⟨rest, _⟩) =>
    match mark? skipBlanks ',' rest with
    | some ⟨next, _⟩ => (pairs? depth next).map fun (ps, a) => (p :: ps, a.weaken (by omega))
    | none => (mark? skipBlanks '}' rest).map fun a => ([p], a.weaken (by omega))
termination_by 3 * cs.length + 2

/-- A dotted key and its value, with blanks before them. -/
def pair? (depth : Nat) (cs : List Char) : Option ((List String × Value) × After cs) :=
  match skipBlanks cs with
  | ⟨first, _⟩ =>
    match dottedKey? first with
    | none => none
    | some (path, ⟨rest, _⟩) =>
      match mark? skipBlanks '=' rest with
      | none => none
      | some ⟨rest', _⟩ =>
        match skipBlanks rest' with
        | ⟨next, _⟩ => (value? depth next).map fun (v, a) => ((path, v), a.weaken (by omega))
termination_by 3 * cs.length + 1

end

/-! ## Documents -/

/-- The text after the end of a line, where nothing but a comment may stand before it. -/
def lineEnd? (cs : List Char) : Option (Rest cs) :=
  match skipBlanks cs with
  | ⟨[], _⟩ => some ⟨[], Nat.zero_le _⟩
  | ⟨c :: rest, h⟩ =>
    if c = '\n' then some ⟨rest, Nat.le_of_lt h⟩
    else if c = '#' then
      some ⟨(skipComment rest).1, Nat.le_trans (skipComment rest).2 (Nat.le_of_lt h)⟩
    else none

/-- A header after its opening bracket. -/
def header? (cs : List Char) : Option (List String × After cs) :=
  match skipBlanks cs with
  | ⟨first, _⟩ =>
    match dottedKey? first with
    | none => none
    | some (path, ⟨rest, _⟩) =>
      (mark? skipBlanks ']' rest).map fun a => (path, a.weaken (by omega))

/-- The statements of a document. -/
def statements? (cs : List Char) : Option (List Statement) :=
  match skipBlanks cs with
  | ⟨[], _⟩ => some []
  | ⟨c :: rest, _⟩ =>
    if c = '\n' then statements? rest
    else if c = '#' then
      match skipComment rest with
      | ⟨next, _⟩ => statements? next
    else if c = '[' then
      match header? rest with
      | none => none
      | some (path, ⟨rest', _⟩) =>
        match lineEnd? rest' with
        | none => none
        | some ⟨next, _⟩ => (statements? next).map (.header path :: ·)
    else
      match pair? maxDepth (c :: rest) with
      | none => none
      | some ((path, v), ⟨rest', _⟩) =>
        match lineEnd? rest' with
        | none => none
        | some ⟨next, _⟩ => (statements? next).map (.entry path v :: ·)
termination_by cs.length
decreasing_by all_goals simp at *; omega

/-- Every line break as one character. -/
def joinBreaks : List Char → List Char
  | '\r' :: '\n' :: rest => '\n' :: joinBreaks rest
  | c :: rest => c :: joinBreaks rest
  | [] => []

/-- The text without a byte order mark. -/
def dropMark : List Char → List Char
  | '\uFEFF' :: rest => rest
  | cs => cs

/-- The root table of a document. -/
def parse? (text : String) : Option Entries := do
  let statements ← statements? (joinBreaks (dropMark text.toList))
  ofStatements statements

end JvmScope.Toml
