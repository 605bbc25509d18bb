import JvmScope.QualifiedName

/-!
# Characters of qualified names

A qualified name consists of dots and parts of identifiers (`dot_or_part_of_isValid`). So it
has no slash, which makes the internal form of a name reversible (`ofInternal_toInternal`), and
no semicolon, which makes the internal form fit into a descriptor (`fits_of_isValid`). A name
put under a namespace is a qualified name again (`isValid_qualify`).

The spellings of a name come of it by turning one dot after the other into a dollar sign, from
the right (`dotsTurned_nestedSpellings`).

The dot is the character before the slash, so among internal forms that have no dots the order is
that of the dotted forms (`ofInternal_lt_ofInternal`).
-/

namespace JvmScope.QualifiedName

variable {name space : String} {c : Char}

/-! ## Segments -/

theorem segments_ne_nil (cs : List Char) : segments cs ≠ [] := by
  fun_cases segments cs with
  | case1 => exact List.cons_ne_nil _ _
  | case2 => exact List.cons_ne_nil _ _
  | case3 => exact List.cons_ne_nil _ _
  | case4 => exact List.cons_ne_nil _ _

/-- A character that is no dot stands in a segment. -/
theorem exists_segment {cs : List Char} (hc : c ∈ cs) (hdot : c ≠ '.') :
    ∃ s ∈ segments cs, c ∈ s := by
  fun_induction segments cs with
  | case1 => exact absurd hc List.not_mem_nil
  | case2 rest ih =>
      rcases List.mem_cons.1 hc with rfl | hc
      · exact absurd rfl hdot
      · obtain ⟨s, hs, hcs⟩ := ih hc
        exact ⟨s, List.mem_cons_of_mem _ hs, hcs⟩
  | case3 d rest _ hempty => exact absurd hempty (segments_ne_nil rest)
  | case4 d rest _ s more hsplit ih =>
      rw [hsplit] at ih
      rcases List.mem_cons.1 hc with rfl | hc
      · exact ⟨c :: s, List.mem_cons_self, List.mem_cons_self⟩
      · obtain ⟨u, hu, hcu⟩ := ih hc
        rcases List.mem_cons.1 hu with rfl | hu
        · exact ⟨d :: u, List.mem_cons_self, List.mem_cons_of_mem _ hcu⟩
        · exact ⟨u, List.mem_cons_of_mem _ hu, hcu⟩

/-- The segments of two names joined by a dot are those of either. -/
theorem segments_append_dot (cs ds : List Char) :
    segments (cs ++ '.' :: ds) = segments cs ++ segments ds := by
  fun_induction segments cs with
  | case1 => rfl
  | case2 rest ih =>
      rw [List.cons_append, segments, ih]
      rfl
  | case3 d rest _ hempty => exact absurd hempty (segments_ne_nil rest)
  | case4 d rest hdot s more hsplit ih =>
      rw [List.cons_append, segments.eq_3 _ _ hdot, ih, hsplit]
      rfl

/-! ## Names -/

theorem dot_or_part_of_isValid (h : isValid name = true) (hc : c ∈ name.toList) :
    c = '.' ∨ Text.isIdentifierPart c = true := by
  by_cases hdot : c = '.'
  · exact .inl hdot
  · obtain ⟨s, hs, hcs⟩ := exists_segment hc hdot
    exact .inr (Text.isIdentifierPart_of_mem (List.all_eq_true.1 h s hs) hcs)

theorem ne_empty_of_isValid (h : isValid name = true) : name ≠ "" := by
  intro hempty
  subst hempty
  revert h
  decide

theorem isValid_qualify (hspace : space = "" ∨ isValid space = true)
    (h : isValid name = true) : isValid (qualify space name) = true := by
  unfold qualify
  by_cases hempty : space.isEmpty = true
  · rw [if_pos hempty]
    exact h
  · rw [if_neg hempty]
    have hs : isValid space = true := by
      rcases hspace with rfl | hs
      · exact absurd rfl hempty
      · exact hs
    have hsplit : (space ++ "." ++ name).toList = space.toList ++ '.' :: name.toList := by
      simp
    unfold isValid at hs h ⊢
    rw [hsplit, segments_append_dot, List.all_append, hs, h]
    rfl

/-! ## Internal forms -/

theorem toList_toInternal (name : String) :
    (toInternal name).toList = name.toList.map (replaceChar '.' '/') := String.toList_map

/-- Where `b` does not occur, putting it for `a` can be taken back. -/
theorem map_replaceChar_back {a b : Char} (h : b ∉ name.toList) :
    (name.map (replaceChar a b)).map (replaceChar b a) = name := by
  refine String.toList_injective ?_
  have back : ∀ c ∈ name.toList, replaceChar b a (replaceChar a b c) = c := by
    intro c hc
    unfold replaceChar
    by_cases ha : c = a
    · rw [if_pos ha, if_pos rfl, ha]
    · have hb : c ≠ b := fun he => h (he ▸ hc)
      -- any other character is left alone both ways
      rw [if_neg ha, if_neg hb]
  rw [String.toList_map, String.toList_map, List.map_map]
  exact (List.map_congr_left back).trans (List.map_id' _)

/-- Going over to the internal form loses nothing of a name without slashes. -/
theorem ofInternal_toInternal_of_notMem (h : '/' ∉ name.toList) :
    ofInternal (toInternal name) = name := map_replaceChar_back h

/-- Going back from the internal form loses nothing of a name without dots. -/
theorem toInternal_ofInternal_of_notMem (h : '.' ∉ name.toList) :
    toInternal (ofInternal name) = name := map_replaceChar_back h

/-- A character that is replaced is gone. -/
theorem notMem_map_replaceChar {a b : Char} (apart : b ≠ a) (name : String) :
    a ∉ (name.map (replaceChar a b)).toList := by
  rw [String.toList_map]
  intro h
  obtain ⟨c, -, hc⟩ := List.mem_map.1 h
  unfold replaceChar at hc
  split at hc
  · exact apart hc
  · rename_i different
    exact different hc

/-- An internal form has no dot in it. -/
theorem dot_notMem_toInternal (name : String) : '.' ∉ (toInternal name).toList :=
  notMem_map_replaceChar (by decide) name

/-- A dotted form has no slash in it. -/
theorem slash_notMem_ofInternal (name : String) : '/' ∉ (ofInternal name).toList :=
  notMem_map_replaceChar (by decide) name

theorem slash_notMem_of_isValid (h : isValid name = true) : '/' ∉ name.toList := by
  intro hslash
  rcases dot_or_part_of_isValid h hslash with hdot | hpart
  · exact absurd hdot (by decide)
  · exact absurd hpart (by decide)

/-- Going over to the internal form loses nothing of a qualified name. -/
theorem ofInternal_toInternal (h : isValid name = true) : ofInternal (toInternal name) = name :=
  ofInternal_toInternal_of_notMem (slash_notMem_of_isValid h)

/-! ## Order -/

/-- No character stands between the dot and the slash. Only a dot could lose its place when the
slash takes it. -/
theorem replaceChar_lt {a b : Char} (ha : a ≠ '.') (hb : b ≠ '.') (h : a < b) :
    replaceChar '/' '.' a < replaceChar '/' '.' b := by
  have dot : '.'.toNat = 46 := rfl
  have slash : '/'.toNat = 47 := rfl
  have ha' : a.toNat ≠ 46 := fun hdot => ha (Char.toNat_inj.1 hdot)
  have hb' : b.toNat ≠ 46 := fun hdot => hb (Char.toNat_inj.1 hdot)
  have below : a.toNat < b.toNat := h
  show (replaceChar '/' '.' a).toNat < (replaceChar '/' '.' b).toNat
  unfold replaceChar
  by_cases hsa : a = '/' <;> by_cases hsb : b = '/'
  · rw [hsa, hsb] at below
    omega
  · rw [hsa] at below
    rw [if_pos hsa, if_neg hsb]
    omega
  · rw [hsb] at below
    rw [if_neg hsa, if_pos hsb]
    omega
  · rw [if_neg hsa, if_neg hsb]
    exact below

/-- Texts are compared at the first place where they differ, so only the order of their own
characters has to be kept. -/
theorem map_lt_map {α β : Type} [LT α] [LT β] {f : α → β} {as bs : List α} (h : as < bs)
    (keeps : ∀ a ∈ as, ∀ b ∈ bs, a < b → f a < f b) : as.map f < bs.map f := by
  have lex : List.Lex (· < ·) as bs := h
  induction lex with
  | nil => exact List.Lex.nil
  | cons rest ih =>
      refine List.Lex.cons (ih rest fun a ha b hb => ?_)
      exact keeps a (List.mem_cons_of_mem _ ha) b (List.mem_cons_of_mem _ hb)
  | rel first => exact List.Lex.rel (keeps _ List.mem_cons_self _ List.mem_cons_self first)

/-- Going back from the internal form keeps the order of names without dots. -/
theorem ofInternal_lt_ofInternal {a b : String} (ha : '.' ∉ a.toList) (hb : '.' ∉ b.toList)
    (h : a < b) : ofInternal a < ofInternal b := by
  unfold ofInternal
  rw [String.lt_iff, String.toList_map, String.toList_map]
  refine map_lt_map (String.lt_iff.1 h) fun c hc d hd => replaceChar_lt ?_ ?_
  · rintro rfl
    exact ha hc
  · rintro rfl
    exact hb hd

/-- The characters of a spelling are those of the name, but for dollar signs. -/
theorem mem_of_mem_nestedSpellingsOf {cs s : List Char} (h : s ∈ nestedSpellingsOf cs)
    (hc : c ∈ s) : c ∈ cs ∨ c = '$' := by
  fun_induction nestedSpellingsOf cs generalizing s with
  | case1 =>
      rw [List.mem_singleton.1 h] at hc
      exact absurd hc List.not_mem_nil
  | case2 rest ih =>
      rcases List.mem_append.1 h with h | h
      · obtain ⟨t, ht, rfl⟩ := List.mem_map.1 h
        rcases List.mem_cons.1 hc with rfl | hc
        · exact .inl List.mem_cons_self
        · exact (ih ht hc).imp_left (List.mem_cons_of_mem _)
      · rw [List.mem_singleton.1 h] at hc
        rcases List.mem_cons.1 hc with rfl | hc
        · exact .inr rfl
        · obtain ⟨d, hd, rfl⟩ := List.mem_map.1 hc
          unfold replaceChar
          split
          · exact .inr rfl
          · exact .inl (List.mem_cons_of_mem _ hd)
  | case3 d rest _ ih =>
      obtain ⟨t, ht, rfl⟩ := List.mem_map.1 h
      rcases List.mem_cons.1 hc with rfl | hc
      · exact .inl List.mem_cons_self
      · exact (ih ht hc).imp_left (List.mem_cons_of_mem _)

/-- A spelling of a qualified name has no slash in it. -/
theorem slash_notMem_of_nestedSpellings {spelling : String} (h : isValid name = true)
    (hs : spelling ∈ nestedSpellings name) : '/' ∉ spelling.toList := by
  obtain ⟨s, hchars, rfl⟩ := List.mem_map.1 hs
  rw [String.toList_ofList]
  intro hslash
  rcases mem_of_mem_nestedSpellingsOf hchars hslash with hname | hdollar
  · exact slash_notMem_of_isValid h hname
  · exact absurd hdollar (by decide)

/-- The internal form of a qualified name is not empty and has no semicolon in it. -/
theorem fits_of_isValid (h : isValid name = true) :
    toInternal name ≠ "" ∧ ';' ∉ (toInternal name).toList := by
  constructor
  · intro hempty
    refine ne_empty_of_isValid h (String.toList_injective ?_)
    have hchars := congrArg String.toList hempty
    rw [toList_toInternal] at hchars
    exact List.map_eq_nil_iff.1 hchars
  · intro hmem
    rw [toList_toInternal] at hmem
    obtain ⟨c, hc, hsemicolon⟩ := List.mem_map.1 hmem
    unfold replaceChar at hsemicolon
    split at hsemicolon
    · exact absurd hsemicolon (by decide)
    · subst hsemicolon
      rcases dot_or_part_of_isValid h hc with hdot | hpart
      · exact absurd hdot (by decide)
      · exact absurd hpart (by decide)

/-! ## Spellings -/

/-- Each text of the list comes of the one before by turning its last dot into a dollar sign, and
the last text has no dot. -/
inductive DotsTurned : List Char → List (List Char) → Prop
  | last {cs : List Char} : '.' ∉ cs → DotsTurned cs [cs]
  | turn {front back : List Char} {rest : List (List Char)} : '.' ∉ back →
      DotsTurned (front ++ '$' :: back) rest →
      DotsTurned (front ++ '.' :: back) ((front ++ '.' :: back) :: rest)

theorem DotsTurned.exists_cons {cs : List Char} {l : List (List Char)} (h : DotsTurned cs l) :
    ∃ others, l = cs :: others := by
  cases h <;> exact ⟨_, rfl⟩

theorem map_dot_of_notMem {cs : List Char} (h : '.' ∉ cs) : cs.map (replaceChar '.' '$') = cs := by
  have same : ∀ c ∈ cs, replaceChar '.' '$' c = c := fun c hc =>
    if_neg fun (hdot : c = '.') => h (hdot ▸ hc)
  exact (List.map_congr_left same).trans (List.map_id' _)

/-- A character in front that is no dot stays there. -/
theorem DotsTurned.cons {cs : List Char} {l : List (List Char)} (h : DotsTurned cs l) {c : Char}
    (hc : c ≠ '.') : DotsTurned (c :: cs) (l.map (c :: ·)) := by
  induction h with
  | last none =>
      refine .last fun hmem => ?_
      rcases List.mem_cons.1 hmem with hdot | hmem
      · exact hc hdot.symm
      · exact none hmem
  | @turn front back rest none _ ih => exact @turn (c :: front) back _ none ih

/-- A dot in front is turned when all others are. -/
theorem DotsTurned.cons_dot {cs : List Char} {l : List (List Char)} (h : DotsTurned cs l) :
    DotsTurned ('.' :: cs) (l.map ('.' :: ·) ++ ['$' :: cs.map (replaceChar '.' '$')]) := by
  induction h with
  | @last cs none =>
      rw [map_dot_of_notMem none]
      refine @turn [] cs _ none (.last fun hmem => ?_)
      rcases List.mem_cons.1 hmem with hdollar | hmem
      · exact absurd hdollar (by decide)
      · exact none hmem
  | @turn front back rest none _ ih =>
      have turned : (front ++ '.' :: back).map (replaceChar '.' '$') =
          (front ++ '$' :: back).map (replaceChar '.' '$') := by
        rw [List.map_append, List.map_append]
        rfl
      rw [turned]
      exact @turn ('.' :: front) back _ none ih

theorem dotsTurned_nestedSpellingsOf (cs : List Char) : DotsTurned cs (nestedSpellingsOf cs) := by
  fun_induction nestedSpellingsOf cs with
  | case1 => exact .last List.not_mem_nil
  | case2 rest ih => exact ih.cons_dot
  | case3 c rest notDot ih => exact ih.cons fun hc => notDot hc

/-- The spellings of a name are the name itself and what comes of turning its dots into dollar
signs, one after the other from the right. -/
theorem dotsTurned_nestedSpellings (name : String) :
    DotsTurned name.toList ((nestedSpellings name).map String.toList) := by
  have chars : (nestedSpellings name).map String.toList = nestedSpellingsOf name.toList := by
    unfold nestedSpellings
    rw [List.map_map]
    exact (List.map_congr_left fun _ _ => String.toList_ofList).trans (List.map_id _)
  rw [chars]
  exact dotsTurned_nestedSpellingsOf name.toList

/-- The first spelling of a name is the name. -/
theorem exists_nestedSpellings_cons (name : String) :
    ∃ others, nestedSpellings name = name :: others := by
  obtain ⟨others, hchars⟩ := (dotsTurned_nestedSpellings name).exists_cons
  obtain ⟨first, rest, hspellings, hfirst, -⟩ := List.map_eq_cons_iff.1 hchars
  exact ⟨rest, by rw [hspellings, String.toList_injective hfirst]⟩

end JvmScope.QualifiedName
