import JvmScope.Text.Identifier

/-!
# Qualified names

Types are named by dot-separated identifiers (`java.lang.String`), the *dotted* form. Class
files and descriptors use the *internal* form, with `/` for `.`. A nested type has `$` between
its own name and its owner's, so a dotted name written in source may stand for several binary
names; `nestedSpellings` lists them, the name as written first and then with one more dot,
counted from the right, turned into `$`.

Names are plain strings: the operations are total on every string, and `isValid` says which
strings are names.
-/

namespace JvmScope.QualifiedName

/-- The root of the class hierarchy. -/
def object : String := "java.lang.Object"

/-- The type of string literals. -/
def string : String := "java.lang.String"

/-! ## Segments -/

/-- The pieces between dots, one more than there are dots. -/
def segments : List Char → List (List Char)
  | [] => [[]]
  | '.' :: rest => [] :: segments rest
  | c :: rest =>
    match segments rest with
    | [] => [[c]]
    | s :: more => (c :: s) :: more

/-- Whether every segment is an identifier. -/
def isValid (name : String) : Bool :=
  (segments name.toList).all Text.isIdentifier

/-- The last segment. -/
def simpleName (name : String) : String :=
  String.ofList (name.toList.reverse.takeWhile (· != '.')).reverse

/-- What precedes the last dot; empty for a name without one. -/
def packageName (name : String) : String :=
  String.ofList ((name.toList.reverse.dropWhile (· != '.')).drop 1).reverse

/-- The simple name under `space`, or alone when `space` is the empty namespace. -/
def qualify (space name : String) : String :=
  if space.isEmpty then name else space ++ "." ++ name

/-! ## Spellings -/

/-- Every `a` becomes a `b`. -/
def replaceChar (a b : Char) (c : Char) : Char := if c = a then b else c

/-- Internal form of a dotted name: `java.lang.String` to `java/lang/String`. -/
def toInternal (name : String) : String := name.map (replaceChar '.' '/')

/-- Dotted form of an internal name: `java/lang/String` to `java.lang.String`. -/
def ofInternal (name : String) : String := name.map (replaceChar '/' '.')

/-- The readings of a dotted name as nested types: `a.B.C`, `a.B$C`, `a$B$C`. -/
def nestedSpellingsOf : List Char → List (List Char)
  | [] => [[]]
  | '.' :: rest =>
    (nestedSpellingsOf rest).map ('.' :: ·) ++ ['$' :: rest.map (replaceChar '.' '$')]
  | c :: rest => (nestedSpellingsOf rest).map (c :: ·)

/-- The readings of a dotted name as nested types, as strings. -/
def nestedSpellings (name : String) : List String :=
  (nestedSpellingsOf name.toList).map String.ofList

/-! ## Which names can share a spelling

Two names with a common spelling differ only in which separator stands where. `flat` forgets
the separators, and `readings` lists the finitely many names with a given `flat` form; an index
of finitely many class names therefore answers finitely many names. -/

/-- Dots, slashes and dollar signs separate the parts of a name. -/
def isSeparator (c : Char) : Bool := c == '.' || c == '/' || c == '$'

/-- The name with every separator turned into `$`. -/
def flat (cs : List Char) : List Char := cs.map fun c => if isSeparator c then '$' else c

/-- All ways to read each `$` as one of the separators. -/
def readings : List Char → List (List Char)
  | [] => [[]]
  | '$' :: rest =>
    (readings rest).flatMap fun r => ['.' :: r, '/' :: r, '$' :: r]
  | c :: rest => (readings rest).map (c :: ·)

theorem flat_map_replaceChar {a b : Char} (ha : isSeparator a = true)
    (hb : isSeparator b = true) (cs : List Char) :
    flat (cs.map (replaceChar a b)) = flat cs := by
  simp only [flat, List.map_map]
  congr 1
  funext c
  by_cases h : c = a <;> simp_all [replaceChar]

theorem flat_nestedSpellingsOf {cs s : List Char} (h : s ∈ nestedSpellingsOf cs) :
    flat s = flat cs := by
  fun_induction nestedSpellingsOf cs generalizing s with
  | case1 => simp_all
  | case2 rest ih =>
    rcases List.mem_append.1 h with h | h
    · obtain ⟨t, ht, rfl⟩ := List.mem_map.1 h
      simpa [flat] using ih ht
    · obtain rfl := List.mem_singleton.1 h
      simpa [flat, isSeparator] using
        flat_map_replaceChar (a := '.') (b := '$') (by decide) (by decide) rest
  | case3 c rest _ ih =>
    obtain ⟨t, ht, rfl⟩ := List.mem_map.1 h
    simpa [flat] using ih ht

theorem mem_readings_flat (cs : List Char) : cs ∈ readings (flat cs) := by
  induction cs with
  | nil => simp [flat, readings]
  | cons c rest ih =>
    by_cases hc : isSeparator c = true
    · have : flat (c :: rest) = '$' :: flat rest := by simp [flat, hc]
      rw [this, readings]
      refine List.mem_flatMap.2 ⟨rest, ih, ?_⟩
      simp only [isSeparator, Bool.or_eq_true, beq_iff_eq] at hc
      simpa [or_assoc] using hc
    · have hne : c ≠ '$' := fun h => hc (by simp [h, isSeparator])
      have : flat (c :: rest) = c :: flat rest := by simp [flat, hc]
      rw [this, readings.eq_3 _ _ (by simpa using hne)]
      exact List.mem_map.2 ⟨rest, ih, rfl⟩

/-- A name is among the readings of the internal form of each of its spellings. -/
theorem mem_readings_of_nestedSpellings {name s : String} (h : s ∈ nestedSpellings name) :
    name.toList ∈ readings (flat (toInternal s).toList) := by
  obtain ⟨t, ht, rfl⟩ := List.mem_map.1 h
  rw [toInternal, String.toList_map, String.toList_ofList,
    flat_map_replaceChar (by decide) (by decide), flat_nestedSpellingsOf ht]
  exact mem_readings_flat _

end JvmScope.QualifiedName
