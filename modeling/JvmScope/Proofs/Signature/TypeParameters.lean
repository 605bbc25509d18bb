import JvmScope.Proofs.Signature.Grammar
import Mathlib.Data.List.Basic

/-!
# Reading type parameters

The readers of signatures are taken here without the bounds on the text that is left (`bare`), so
that what they do with the next character is an equation. From these it follows, by induction on
the trees of the grammar, that what is written of a tree is read as its erasure, and the text behind
it is left (`referenceType?_chars`): the name of a class is collected character by character, while
type arguments are read and forgotten. The main statement is `typeParameters_of_header`.
-/

namespace JvmScope.Signature

open Text (After Rest)

variable {α : Type} {c : Char} {cs rest after name : List Char} {t : JvmType}

/-- What was read and what is left of the text, without the bound on its length. -/
def bare {p : List Char → Prop} (x : Option (α × Subtype p)) : Option (α × List Char) :=
  x.map fun (a, left) => (a, left.1)

theorem bare_eq_some_iff {p : List Char → Prop} {x : Option (α × Subtype p)} {a : α}
    {left : List Char} : bare x = some (a, left) ↔ ∃ short, x = some (a, ⟨left, short⟩) := by
  constructor
  · intro h
    obtain ⟨⟨b, left', short⟩, rfl, same⟩ := Option.map_eq_some_iff.1 h
    obtain ⟨rfl, rfl⟩ := Prod.mk.inj same
    exact ⟨short, rfl⟩
  · rintro ⟨short, rfl⟩
    rfl

theorem map_val_weaken (left : Option (After after)) (shorter : after.length ≤ cs.length) :
    (left.map (·.weaken shorter)).map Subtype.val = left.map Subtype.val := by
  rw [Option.map_map]
  rfl

theorem isDelimiter_iff : isDelimiter c = true ↔ c ∈ ['.', ';', '[', '/', '<', '>', ':'] := by
  simp only [isDelimiter, Bool.or_eq_true, beq_iff_eq, List.mem_cons, List.not_mem_nil, or_false]
  tauto

/-! ## Identifiers -/

/-- An identifier ends where something follows it that is no part of it. -/
theorem terminated?_chars (name : Identifier) (ends : isDelimiter c = true) :
    bare (terminated? c (name.chars ++ c :: rest)) = some (name.chars, rest) := by
  have inside : ∀ d ∈ name.chars, (!isDelimiter d) = true := by
    intro d hd
    rw [Bool.not_eq_true', Bool.eq_false_iff]
    exact fun delimiter => name.plain d hd (isDelimiter_iff.1 delimiter)
  have taken : (name.chars ++ c :: rest).takeWhile (!isDelimiter ·) = name.chars := by
    rw [List.takeWhile_append_of_pos inside, List.takeWhile_cons_of_neg (by simp [ends]),
      List.append_nil]
  have left : (name.chars ++ c :: rest).dropWhile (!isDelimiter ·) = c :: rest := by
    rw [List.dropWhile_append_of_pos inside, List.dropWhile_cons_of_neg (by simp [ends])]
  unfold terminated?
  split
  · rename_i first more d others htake hdrop
    rw [taken] at htake
    rw [left] at hdrop
    obtain ⟨rfl, rfl⟩ := List.cons.inj hdrop
    rw [if_pos rfl]
    show some (first :: more, rest) = some (name.chars, rest)
    rw [htake]
  · rename_i none
    obtain ⟨first, more, chars⟩ := List.exists_cons_of_ne_nil name.nonempty
    exact (none first more c rest (taken.trans chars) left).elim

/-- No text that starts with an identifier starts with what ends one. -/
theorem Identifier.append_ne (name : Identifier) (ends : isDelimiter c = true) :
    name.chars ++ cs ≠ c :: rest := by
  intro same
  cases chars : name.chars with
  | nil => exact name.nonempty chars
  | cons d more =>
      rw [chars] at same
      have first : d = c := (List.cons.inj same).1
      exact name.plain d (chars ▸ List.mem_cons_self) (isDelimiter_iff.1 (first ▸ ends))

/-! ## The next character -/

theorem classType?_close (nonempty : name ≠ []) :
    bare (classType? name (';' :: rest)) =
      some (.object (String.ofList name.reverse), rest) := by
  rw [classType?, if_neg (by simpa using nonempty)]
  rfl

theorem classType?_dot :
    bare (classType? name ('.' :: rest)) = bare (classType? ('$' :: name) rest) := by
  rw [classType?]
  cases classType? ('$' :: name) rest <;> rfl

theorem classType?_cons (plain : c ∉ ['.', ';', '<']) :
    bare (classType? name (c :: rest)) = bare (classType? (c :: name) rest) := by
  simp only [List.mem_cons, List.not_mem_nil, or_false, not_or] at plain
  rw [classType?.eq_5 name c rest plain.2.1 plain.2.2 plain.1]
  cases classType? (c :: name) rest <;> rfl

/-- Type arguments are left out of the name of a class. -/
theorem classType?_open (h : (typeArguments? rest).map Subtype.val = some after) :
    bare (classType? name ('<' :: rest)) = bare (classType? name after) := by
  rw [classType?]
  split
  · rename_i none
    rw [none] at h
    cases h
  · rename_i left _ found
    rw [found] at h
    obtain rfl : left = after := Option.some.inj h
    cases classType? name left <;> rfl

theorem typeArguments?_any :
    (typeArguments? ('*' :: rest)).map Subtype.val = (typeArguments? rest).map Subtype.val := by
  rw [typeArguments?]
  cases typeArguments? rest <;> rfl

/-- What is read as a reference type starts like one. -/
theorem start_of_referenceType? (h : bare (referenceType? cs) = some (t, after)) :
    ∃ c rest, cs = c :: rest ∧ (c = 'L' ∨ c = 'T' ∨ c = '[') := by
  by_contra other
  have refused : referenceType? cs = none := by
    refine referenceType?.eq_4 cs ?_ ?_ ?_
    · rintro rest rfl
      exact other ⟨_, _, rfl, .inl rfl⟩
    · rintro rest rfl
      exact other ⟨_, _, rfl, .inr (.inl rfl)⟩
    · rintro c rest rfl
      exact other ⟨_, _, rfl, .inr (.inr rfl)⟩
  rw [refused] at h
  cases h

/-- A type among type arguments is read and forgotten. -/
theorem typeArguments?_type (h : bare (referenceType? cs) = some (t, after)) :
    (typeArguments? cs).map Subtype.val = (typeArguments? after).map Subtype.val := by
  obtain ⟨c, rest, rfl, start⟩ := start_of_referenceType? h
  -- Only behind the other characters that mean something here is a type looked for.
  have differs : ∀ d ∈ ['>', '*', '+', '-'], c = d → False := by
    rcases start with rfl | rfl | rfl <;> simp
  obtain ⟨short, found⟩ := bare_eq_some_iff.1 h
  rw [typeArguments?.eq_6 c rest (differs _ (by decide)) (differs _ (by decide))
    (differs _ (by decide)) (differs _ (by decide)), found]
  exact map_val_weaken _ (Nat.le_of_lt short)

/-- So is one with a wildcard in front of it. -/
theorem typeArguments?_bounded (wildcard : Wildcard)
    (h : bare (referenceType? cs) = some (t, after)) :
    (typeArguments? (wildcard.sign :: cs)).map Subtype.val =
      (typeArguments? after).map Subtype.val := by
  obtain ⟨short, found⟩ := bare_eq_some_iff.1 h
  cases wildcard with
  | upper =>
      rw [Wildcard.sign, typeArguments?, found]
      exact map_val_weaken _ (Nat.le_succ_of_le (Nat.le_of_lt short))
  | lower =>
      rw [Wildcard.sign, typeArguments?, found]
      exact map_val_weaken _ (Nat.le_succ_of_le (Nat.le_of_lt short))

theorem referenceType?_class :
    bare (referenceType? ('L' :: rest)) = bare (classType? [] rest) := by
  rw [referenceType?]
  cases classType? [] rest <;> rfl

theorem referenceType?_variable (h : bare (terminated? ';' rest) = some (name, after)) :
    bare (referenceType? ('T' :: rest)) = some (.object "java/lang/Object", after) := by
  obtain ⟨short, found⟩ := bare_eq_some_iff.1 h
  have erased : erasedVariable = .object "java/lang/Object" := by decide +kernel
  rw [referenceType?, found, ← erased]
  rfl

theorem referenceType?_primitives {kind : Primitive} (notVoid : kind ≠ .void) :
    bare (referenceType? ('[' :: kind.code :: rest)) = some (.array (.primitive kind), rest) := by
  rw [referenceType?, Primitive.ofFieldCode?_eq_some.2 ⟨rfl, notVoid⟩]
  rfl

theorem referenceType?_array (h : bare (referenceType? cs) = some (t, after)) :
    bare (referenceType? ('[' :: cs)) = some (.array t, after) := by
  obtain ⟨c, rest, rfl, start⟩ := start_of_referenceType? h
  have notPrimitive : Primitive.ofFieldCode? c = none := by
    rcases start with rfl | rfl | rfl <;> rfl
  obtain ⟨short, found⟩ := bare_eq_some_iff.1 h
  rw [referenceType?, notPrimitive, found]
  rfl

/-! ## Types -/

/-- Characters without a meaning in class types are collected. -/
theorem classType?_append (plain : ∀ c ∈ cs, c ∉ ['.', ';', '<']) :
    bare (classType? name (cs ++ rest)) = bare (classType? (cs.reverse ++ name) rest) := by
  induction cs generalizing name with
  | nil => rfl
  | cons c cs ih =>
      rw [List.cons_append, classType?_cons (plain c List.mem_cons_self),
        ih fun d hd => plain d (List.mem_cons_of_mem _ hd), List.reverse_cons, List.append_assoc,
        List.singleton_append]

theorem Identifier.plain_in_class (name : Identifier) : ∀ c ∈ name.chars, c ∉ ['.', ';', '<'] := by
  intro c hc special
  have delimiters : ∀ d ∈ ['.', ';', '<'], d ∈ ['.', ';', '[', '/', '<', '>', ':'] := by simp
  exact name.plain c hc (delimiters c special)

theorem packages_plain_in_class (packages : List Identifier) :
    ∀ c ∈ packages.flatMap (·.chars ++ ['/']), c ∉ ['.', ';', '<'] := by
  intro c hc
  obtain ⟨package, -, hc⟩ := List.mem_flatMap.1 hc
  rcases List.mem_append.1 hc with hc | hc
  · exact package.plain_in_class c hc
  · obtain rfl := List.mem_singleton.1 hc
    decide

-- The induction is on the tree that was written. The readers recurse over the length of the text
-- instead, which would have to be cut where the parts of the tree end.
mutual

/-- What is written of a reference type is read as what the type is erased to, whatever follows. -/
theorem referenceType?_chars (type : ReferenceType) (rest : List Char) :
    bare (referenceType? (type.chars ++ rest)) = some (type.erased, rest) := by
  cases type with
  | ofClass packages outermost inner =>
      have text : (ReferenceType.ofClass packages outermost inner).chars ++ rest =
          'L' :: (packages.flatMap (·.chars ++ ['/']) ++
            (outermost.chars ++ (innerChars inner ++ ';' :: rest))) := by
        simp [ReferenceType.chars]
      rw [text, referenceType?_class, classType?_append (packages_plain_in_class packages),
        classType?_simple, classType?_inner inner (by simp [outermost.name.nonempty])]
      simp [ReferenceType.erased]
  | typeVariable name =>
      have text : (ReferenceType.typeVariable name).chars ++ rest =
          'T' :: (name.chars ++ ';' :: rest) := by
        simp [ReferenceType.chars]
      rw [text]
      exact referenceType?_variable (terminated?_chars name rfl)
  | arrayOfPrimitive kind notVoid => exact referenceType?_primitives notVoid
  | array component =>
      rw [ReferenceType.chars, List.cons_append]
      exact referenceType?_array (referenceType?_chars component rest)

/-- Of a simple class its name is collected. -/
theorem classType?_simple (type : SimpleClass) (name rest : List Char) :
    bare (classType? name (type.chars ++ rest)) =
      bare (classType? (type.name.chars.reverse ++ name) rest) := by
  cases type with
  | mk simple args =>
      rw [SimpleClass.chars, List.append_assoc, classType?_append simple.plain_in_class,
        classType?_arguments args]
      rfl

/-- Of inner classes the names are collected, each after a `$`. -/
theorem classType?_inner (inner : List SimpleClass) {name rest : List Char}
    (nonempty : name ≠ []) :
    bare (classType? name (innerChars inner ++ ';' :: rest)) =
      some (.object (String.ofList (name.reverse ++ inner.flatMap ('$' :: ·.name.chars))),
        rest) := by
  cases inner with
  | nil =>
      rw [innerChars, List.nil_append, classType?_close nonempty, List.flatMap_nil,
        List.append_nil]
  | cons type inner =>
      rw [innerChars, List.cons_append, List.append_assoc, classType?_dot, classType?_simple type,
        classType?_inner inner (by simp)]
      simp

/-- Type arguments are passed over. -/
theorem classType?_arguments (args : List TypeArgument) (name rest : List Char) :
    bare (classType? name (argumentChars args ++ rest)) = bare (classType? name rest) := by
  cases args with
  | nil => rfl
  | cons first args =>
      have text : argumentChars (first :: args) ++ rest =
          '<' :: (first.chars ++ (moreChars args ++ '>' :: rest)) := by
        simp [argumentChars]
      rw [text]
      refine classType?_open ?_
      rw [typeArguments?_argument first, typeArguments?_more args, typeArguments?]
      rfl

theorem typeArguments?_argument (arg : TypeArgument) (rest : List Char) :
    (typeArguments? (arg.chars ++ rest)).map Subtype.val =
      (typeArguments? rest).map Subtype.val := by
  cases arg with
  | any => exact typeArguments?_any
  | exactly type => exact typeArguments?_type (referenceType?_chars type rest)
  | bounded wildcard type => exact typeArguments?_bounded wildcard (referenceType?_chars type rest)

theorem typeArguments?_more (args : List TypeArgument) (rest : List Char) :
    (typeArguments? (moreChars args ++ rest)).map Subtype.val =
      (typeArguments? rest).map Subtype.val := by
  cases args with
  | nil => rfl
  | cons arg args =>
      rw [moreChars, List.append_assoc, typeArguments?_argument arg, typeArguments?_more args]

end

/-! ## Bounds -/

theorem classBound?_of_referenceType? (h : bare (referenceType? cs) = some (t, after)) :
    bare (classBound? cs) = some ([t], after) := by
  obtain ⟨c, rest, rfl, start⟩ := start_of_referenceType? h
  obtain ⟨short, found⟩ := bare_eq_some_iff.1 h
  rw [classBound?, if_pos (by rcases start with rfl | rfl | rfl <;> rfl), found]
  rfl

theorem interfaceBounds?_cons (h : bare (referenceType? cs) = some (t, after)) :
    bare (interfaceBounds? (':' :: cs)) =
      (bare (interfaceBounds? after)).map fun (ts, left) => (t :: ts, left) := by
  obtain ⟨short, found⟩ := bare_eq_some_iff.1 h
  rw [interfaceBounds?, found]
  dsimp only
  cases interfaceBounds? after <;> rfl

/-- Bounds by interfaces are read as long as there are colons. -/
theorem interfaceBounds?_chars (bounds : List ReferenceType) (ends : ∀ cs, rest ≠ ':' :: cs) :
    bare (interfaceBounds? (bounds.flatMap (':' :: ·.chars) ++ rest)) =
      some (bounds.map ReferenceType.erased, rest) := by
  induction bounds with
  | nil =>
      rw [List.flatMap_nil, List.nil_append, interfaceBounds?.eq_2 rest ends]
      rfl
  | cons bound bounds ih =>
      rw [List.flatMap_cons, List.cons_append, List.cons_append, List.append_assoc,
        interfaceBounds?_cons (referenceType?_chars bound _), ih]
      rfl

/-! ## Parameters -/

theorem parameter?_of_parts {left : List Char} {classBound bounds : List JvmType}
    (named : bare (terminated? ':' cs) = some (name, rest))
    (first : bare (classBound? rest) = some (classBound, after))
    (others : bare (interfaceBounds? after) = some (bounds, left)) :
    bare (parameter? cs) = some (⟨String.ofList name, classBound ++ bounds⟩, left) := by
  obtain ⟨_, named⟩ := bare_eq_some_iff.1 named
  obtain ⟨_, first⟩ := bare_eq_some_iff.1 first
  obtain ⟨_, others⟩ := bare_eq_some_iff.1 others
  rw [parameter?, named]
  dsimp only
  rw [first]
  dsimp only
  rw [others]
  rfl

/-- Without a class bound there is a second colon behind the first one, so that nothing behind it is
taken for a class bound. -/
theorem classBound?_chars (p : FormalParameter) (rest : List Char) :
    bare (classBound? (p.classBound.toList.flatMap ReferenceType.chars ++
        (p.interfaceBounds.flatMap (':' :: ·.chars) ++ rest))) =
      some (p.classBound.toList.map ReferenceType.erased,
        p.interfaceBounds.flatMap (':' :: ·.chars) ++ rest) := by
  cases classBound : p.classBound with
  | some bound =>
      rw [Option.toList_some, List.flatMap_singleton]
      exact classBound?_of_referenceType? (referenceType?_chars bound _)
  | none =>
      obtain ⟨bound, bounds, interfaces⟩ :=
        List.exists_cons_of_ne_nil (p.bounded.resolve_left (not_not_intro classBound))
      rw [interfaces]
      rfl

/-- A type parameter is read with all its bounds, unless a colon follows it. -/
theorem parameter?_chars (p : FormalParameter) (ends : ∀ cs, rest ≠ ':' :: cs) :
    bare (parameter? (p.chars ++ rest)) = some (p.erased, rest) := by
  have text : p.chars ++ rest = p.name.chars ++ ':' ::
      (p.classBound.toList.flatMap ReferenceType.chars ++
        (p.interfaceBounds.flatMap (':' :: ·.chars) ++ rest)) := by
    simp [FormalParameter.chars]
  have erased : p.erased = ⟨String.ofList p.name.chars,
      p.classBound.toList.map ReferenceType.erased ++
        p.interfaceBounds.map ReferenceType.erased⟩ := by
    simp [FormalParameter.erased, FormalParameter.bounds]
  rw [text, erased]
  exact parameter?_of_parts (terminated?_chars p.name rfl) (classBound?_chars p rest)
    (interfaceBounds?_chars p.interfaceBounds ends)

/-- The text of a type parameter starts with its name. -/
theorem FormalParameter.append_ne (p : FormalParameter) (ends : isDelimiter c = true) :
    p.chars ++ cs ≠ c :: rest := by
  rw [FormalParameter.chars, List.append_assoc]
  exact p.name.append_ne ends

theorem parameters?_cons {p : TypeParameter} (closes : ∀ rest, cs ≠ '>' :: rest)
    (h : bare (parameter? cs) = some (p, after)) :
    parameters? cs = (parameters? after).map (p :: ·) := by
  obtain ⟨short, found⟩ := bare_eq_some_iff.1 h
  rw [parameters?.eq_2 cs closes, found]

/-- Type parameters are read up to the bracket, whatever follows it. -/
theorem parameters?_chars (params : List FormalParameter) (rest : List Char) :
    parameters? (params.flatMap FormalParameter.chars ++ '>' :: rest) =
      some (params.map FormalParameter.erased) := by
  induction params with
  | nil =>
      rw [List.flatMap_nil, List.nil_append, parameters?]
      rfl
  | cons p params ih =>
      -- The bounds end here: the next parameter starts with its name, not with a colon.
      have ends : ∀ cs, params.flatMap FormalParameter.chars ++ '>' :: rest ≠ ':' :: cs := by
        intro cs
        cases params with
        | nil => simp
        | cons q params =>
            rw [List.flatMap_cons, List.append_assoc]
            exact q.append_ne rfl
      rw [List.flatMap_cons, List.append_assoc,
        parameters?_cons (fun cs => p.append_ne rfl) (parameter?_chars p ends), ih]
      rfl

theorem typeParameters_of_parameters? {text : String} {p : TypeParameter} {ps : List TypeParameter}
    (opens : text.toList = '<' :: rest) (read : parameters? rest = some (p :: ps)) :
    typeParameters text = .ok (p :: ps) := by
  unfold typeParameters
  rw [opens]
  simp only [read]

/-- What is written of type parameters is read as their names with their bounds erased, in order,
whatever follows. A text that does not open with a bracket has none. -/
theorem typeParameters_of_header :
    (∀ (params : List FormalParameter) (after : String), params ≠ [] →
      typeParameters (header params ++ after) = .ok (params.map FormalParameter.erased)) ∧
    (∀ text : String, text.toList.head? ≠ some '<' → typeParameters text = .ok []) := by
  constructor
  · intro params after notEmpty
    obtain ⟨p, others, rfl⟩ := List.exists_cons_of_ne_nil notEmpty
    have opens : (header (p :: others) ++ after).toList =
        '<' :: ((p :: others).flatMap FormalParameter.chars ++ '>' :: after.toList) := by
      simp [header]
    exact typeParameters_of_parameters? opens (parameters?_chars (p :: others) after.toList)
  · intro text start
    unfold typeParameters
    split
    · rename_i rest opens
      rw [opens] at start
      exact absurd rfl start
    · rfl

/-- A parameter bounded by an interface only, whose type argument is the parameter itself, and one
bounded by an inner class with nested arguments and by an interface. -/
def cacheParameters : List FormalParameter :=
  let k : Identifier := ⟨"K".toList, by simp, by simp⟩
  let v : Identifier := ⟨"V".toList, by simp, by simp⟩
  let java : Identifier := ⟨"java".toList, by simp, by simp⟩
  let lang : Identifier := ⟨"lang".toList, by simp, by simp⟩
  let comparable : Identifier := ⟨"Comparable".toList, by simp, by simp⟩
  let cache : Identifier := ⟨"Cache".toList, by simp, by simp⟩
  let entry : Identifier := ⟨"Entry".toList, by simp, by simp⟩
  let runnable : Identifier := ⟨"Runnable".toList, by simp, by simp⟩
  [⟨k, none, [.ofClass [java, lang] (.mk comparable [.exactly (.typeVariable k)]) []],
      .inr (List.cons_ne_nil _ _)⟩,
    ⟨v, some (.ofClass [] (.mk cache [.bounded .upper (.array (.typeVariable k)), .any])
        [.mk entry [.exactly (.arrayOfPrimitive .int (by decide))]]),
      [.ofClass [java, lang] (.mk runnable []) []], .inl (Option.some_ne_none _)⟩]

theorem cacheParameters_read :
    typeParameters
        ("<K::Ljava/lang/Comparable<TK;>;V:LCache<+[TK;*>.Entry<[I>;:Ljava/lang/Runnable;>" ++
          "Ljava/lang/Object;") =
      .ok [⟨"K", [.object "java/lang/Comparable"]⟩,
        ⟨"V", [.object "Cache$Entry", .object "java/lang/Runnable"]⟩] ∧
    typeParameters "(I)V" = .ok [] := by
  have written : header cacheParameters =
      "<K::Ljava/lang/Comparable<TK;>;V:LCache<+[TK;*>.Entry<[I>;:Ljava/lang/Runnable;>" := by
    decide +kernel
  have erased : cacheParameters.map FormalParameter.erased =
      [⟨"K", [.object "java/lang/Comparable"]⟩,
        ⟨"V", [.object "Cache$Entry", .object "java/lang/Runnable"]⟩] := by
    decide +kernel
  rw [← written, ← erased]
  exact ⟨typeParameters_of_header.1 cacheParameters _ (List.cons_ne_nil _ _),
    typeParameters_of_header.2 _ (by decide +kernel)⟩

end JvmScope.Signature
