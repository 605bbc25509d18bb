import JvmScope.ClassFile.ModifiedUtf8

/-!
# Modified UTF-8 read back

Text in modified UTF-8 is read as the text it was (`decode?_encode`). Its groups give back the
16-bit units of its characters (`units?_encode`), and these pair up to the characters again
(`charsOfUnits?_unitsOfChar`).

The reader tries plain UTF-8 first, and the bytes may be that as well. The two readings agree
(`eq_of_both_readings`): plain text without a zero character that also splits into groups of at
most three bytes has no supplementary character, so it is its own modified form
(`eq_encode_of_units?`). Plain UTF-8 of any text without a zero character is read as that text
(`decode?_plain`). So it makes no difference to a text which of the two is tried first, and
`readings_agree` has all of it.
-/

namespace JvmScope.ModifiedUtf8

/-! ## Groups and units -/

theorem toNat_toUInt8 {n : Nat} (h : n < 0x100) : n.toUInt8.toNat = n := by
  show n % 2 ^ 8 = n
  exact Nat.mod_eq_of_lt h

section
variable {a b c : UInt8} (rest : List UInt8)

theorem units?_one (pos : 0 < a.toNat) (small : a.toNat < 0x80) :
    units? (a :: rest) = (units? rest).map (a.toNat :: ·) := by
  rw [units?.eq_def]
  simp only [if_pos small, if_neg (Nat.ne_of_gt pos)]

theorem units?_two (ha : 0xC0 ≤ a.toNat ∧ a.toNat < 0xE0) (hb : isContinuation b = true) :
    units? (a :: b :: rest) =
      (units? rest).map ((a.toNat % 0x20 * 0x40 + b.toNat % 0x40) :: ·) := by
  have large : ¬a.toNat < 0x80 := by omega
  rw [units?, if_neg large, if_pos ha]
  exact if_pos hb

theorem units?_three (ha : 0xE0 ≤ a.toNat ∧ a.toNat < 0xF0) (hb : isContinuation b = true)
    (hc : isContinuation c = true) :
    units? (a :: b :: c :: rest) =
      (units? rest).map
        ((a.toNat % 0x10 * 0x1000 + b.toNat % 0x40 * 0x40 + c.toNat % 0x40) :: ·) := by
  have large : ¬a.toNat < 0x80 := by omega
  have notTwo : ¬(0xC0 ≤ a.toNat ∧ a.toNat < 0xE0) := by omega
  rw [units?, if_neg large, if_neg notTwo, if_pos ha]
  exact if_pos (by rw [hb, hc]; rfl)

/-- Groups of four bytes are refused. -/
theorem units?_four (ha : 0xF0 ≤ a.toNat) : units? (a :: rest) = none := by
  have large : ¬a.toNat < 0x80 := by omega
  have notTwo : ¬(0xC0 ≤ a.toNat ∧ a.toNat < 0xE0) := by omega
  have notThree : ¬(0xE0 ≤ a.toNat ∧ a.toNat < 0xF0) := by omega
  rw [units?.eq_def]
  simp only [if_neg large, if_neg notTwo, if_neg notThree]

end

theorem isContinuation_toUInt8 (n : Nat) : isContinuation (0x80 + n % 0x40).toUInt8 = true := by
  have bound : 0x80 + n % 0x40 < 0x100 := by omega
  rw [isContinuation, toNat_toUInt8 bound, Bool.and_eq_true, decide_eq_true_iff,
    decide_eq_true_iff]
  omega

/-- The group of a unit is read as the unit. -/
theorem units?_encodeUnit {u : Nat} (h : u < 0x10000) (rest : List UInt8) :
    units? (encodeUnit u ++ rest) = (units? rest).map (u :: ·) := by
  unfold encodeUnit
  split
  · rename_i small
    have hu : u.toUInt8.toNat = u := toNat_toUInt8 (by omega)
    have one := units?_one (a := u.toUInt8) rest (by omega) (by omega)
    rw [hu] at one
    exact one
  · split
    · have lead : (0xC0 + u / 0x40).toUInt8.toNat = 0xC0 + u / 0x40 := toNat_toUInt8 (by omega)
      have last : (0x80 + u % 0x40).toUInt8.toNat = 0x80 + u % 0x40 := toNat_toUInt8 (by omega)
      have two := units?_two (a := (0xC0 + u / 0x40).toUInt8) rest (by omega)
        (isContinuation_toUInt8 u)
      rw [lead, last] at two
      have value : (0xC0 + u / 0x40) % 0x20 * 0x40 + (0x80 + u % 0x40) % 0x40 = u := by omega
      rw [value] at two
      exact two
    · have lead : (0xE0 + u / 0x1000).toUInt8.toNat = 0xE0 + u / 0x1000 :=
        toNat_toUInt8 (by omega)
      have middle : (0x80 + u / 0x40 % 0x40).toUInt8.toNat = 0x80 + u / 0x40 % 0x40 :=
        toNat_toUInt8 (by omega)
      have last : (0x80 + u % 0x40).toUInt8.toNat = 0x80 + u % 0x40 := toNat_toUInt8 (by omega)
      have three := units?_three (a := (0xE0 + u / 0x1000).toUInt8) rest (by omega)
        (isContinuation_toUInt8 (u / 0x40)) (isContinuation_toUInt8 u)
      rw [lead, middle, last] at three
      have value : (0xE0 + u / 0x1000) % 0x10 * 0x1000 + (0x80 + u / 0x40 % 0x40) % 0x40 * 0x40 +
          (0x80 + u % 0x40) % 0x40 = u := by
        omega
      rw [value] at three
      exact three

theorem units?_flatMap_encodeUnit {us : List Nat} (h : ∀ u ∈ us, u < 0x10000)
    (rest : List UInt8) :
    units? (us.flatMap encodeUnit ++ rest) = (units? rest).map (us ++ ·) := by
  induction us with
  | nil =>
      rw [List.flatMap_nil, List.nil_append]
      cases units? rest <;> rfl
  | cons u us ih =>
      rw [List.flatMap_cons, List.append_assoc, units?_encodeUnit (h u List.mem_cons_self),
        ih fun v hv => h v (List.mem_cons_of_mem _ hv)]
      cases units? rest <;> rfl

/-! ## Units and characters -/

/-- Surrogates are no characters. -/
theorem toNat_lt (c : Char) : c.toNat < 0xD800 ∨ 0xDFFF < c.toNat ∧ c.toNat < 0x110000 :=
  c.valid

theorem unitsOfChar_lt (c : Char) : ∀ u ∈ unitsOfChar c, u < 0x10000 := by
  have range := toNat_lt c
  intro u hu
  unfold unitsOfChar at hu
  split at hu
  · rw [List.mem_singleton.1 hu]
    assumption
  · rcases List.mem_cons.1 hu with rfl | hu
    · omega
    · rw [List.mem_singleton.1 hu]
      omega

/-- The units of a character are read as the character. -/
theorem charsOfUnits?_unitsOfChar (c : Char) (rest : List Nat) :
    charsOfUnits? (unitsOfChar c ++ rest) = (charsOfUnits? rest).map (c :: ·) := by
  have range := toNat_lt c
  unfold unitsOfChar
  split
  · -- a character of one unit is no surrogate
    have notHigh : ¬isHighSurrogate c.toNat = true := by
      rw [isHighSurrogate, Bool.and_eq_true, decide_eq_true_iff, decide_eq_true_iff]
      omega
    have notLow : ¬isLowSurrogate c.toNat = true := by
      rw [isLowSurrogate, Bool.and_eq_true, decide_eq_true_iff, decide_eq_true_iff]
      omega
    rw [List.singleton_append, charsOfUnits?.eq_def]
    simp only [if_neg notHigh, if_neg notLow, Char.ofNat_toNat]
  · rename_i large
    have high : isHighSurrogate (0xD800 + (c.toNat - 0x10000) / 0x400) = true := by
      rw [isHighSurrogate, Bool.and_eq_true, decide_eq_true_iff, decide_eq_true_iff]
      omega
    have low : isLowSurrogate (0xDC00 + (c.toNat - 0x10000) % 0x400) = true := by
      rw [isLowSurrogate, Bool.and_eq_true, decide_eq_true_iff, decide_eq_true_iff]
      omega
    have value : 0x10000 + (0xD800 + (c.toNat - 0x10000) / 0x400 - 0xD800) * 0x400 +
        (0xDC00 + (c.toNat - 0x10000) % 0x400 - 0xDC00) = c.toNat := by
      omega
    rw [List.cons_append, List.singleton_append, charsOfUnits?.eq_def]
    simp only [if_pos high, if_pos low, value, Char.ofNat_toNat]

theorem charsOfUnits?_flatMap_unitsOfChar (cs : List Char) :
    charsOfUnits? (cs.flatMap unitsOfChar) = some cs := by
  induction cs with
  | nil => rfl
  | cons c cs ih =>
      rw [List.flatMap_cons, charsOfUnits?_unitsOfChar, ih]
      rfl

/-! ## Texts -/

/-- The groups of a character. -/
def encodeChar (c : Char) : List UInt8 := (unitsOfChar c).flatMap encodeUnit

theorem units?_encodeChar (c : Char) (rest : List UInt8) :
    units? (encodeChar c ++ rest) = (units? rest).map (unitsOfChar c ++ ·) :=
  units?_flatMap_encodeUnit (unitsOfChar_lt c) rest

theorem units?_encode (text : String) :
    units? (encode text) = some (text.toList.flatMap unitsOfChar) := by
  show units? (text.toList.flatMap encodeChar) = _
  induction text.toList with
  | nil => rfl
  | cons c cs ih =>
      rw [List.flatMap_cons, units?_encodeChar, ih]
      rfl

theorem decodeGroups?_encode (text : String) : decodeGroups? (encode text) = some text := by
  rw [decodeGroups?, units?_encode, Option.bind_some, charsOfUnits?_flatMap_unitsOfChar,
    Option.map_some, String.ofList_toList]

/-! ## Plain UTF-8 -/

/-- Up to U+FFFF, zero apart, plain UTF-8 is modified UTF-8. -/
theorem utf8EncodeChar_eq {c : Char} (nonzero : 0 < c.toNat) (small : c.toNat < 0x10000) :
    String.utf8EncodeChar c = encodeChar c := by
  have units : unitsOfChar c = [c.toNat] := if_pos small
  have value : c.val.toNat = c.toNat := rfl
  rw [encodeChar, units, List.flatMap_singleton]
  unfold String.utf8EncodeChar encodeUnit
  simp only [value]
  generalize c.toNat = v at nonzero small
  by_cases one : v < 0x80
  · have plain : v ≤ 127 := by omega
    rw [if_pos plain, if_pos ⟨nonzero, one⟩]
  · have notPlain : ¬v ≤ 127 := by omega
    have notOne : ¬(0 < v ∧ v < 0x80) := by omega
    rw [if_neg notPlain, if_neg notOne]
    by_cases two : v < 0x800
    · have plain : v ≤ 2047 := by omega
      have lead : v / 64 % 32 + 192 = 0xC0 + v / 0x40 := by omega
      rw [if_pos plain, if_pos two, lead, Nat.add_comm (v % 64)]
    · have notPlain : ¬v ≤ 2047 := by omega
      have three : v ≤ 65535 := by omega
      have lead : v / 4096 % 16 + 224 = 0xE0 + v / 0x1000 := by omega
      rw [if_neg notPlain, if_pos three, if_neg two, lead, Nat.add_comm (v % 64),
        Nat.add_comm (v / 64 % 64)]

/-- Above U+FFFF it has groups of four bytes. -/
theorem units?_utf8EncodeChar {c : Char} (large : ¬c.toNat < 0x10000) (rest : List UInt8) :
    units? (String.utf8EncodeChar c ++ rest) = none := by
  have value : c.val.toNat = c.toNat := rfl
  unfold String.utf8EncodeChar
  simp only [value]
  have notOne : ¬c.toNat ≤ 127 := by omega
  have notTwo : ¬c.toNat ≤ 2047 := by omega
  have notThree : ¬c.toNat ≤ 65535 := by omega
  rw [if_neg notOne, if_neg notTwo, if_neg notThree]
  refine units?_four _ ?_
  have lead := toNat_toUInt8 (n := c.toNat / 262144 % 8 + 240) (by omega)
  show 0xF0 ≤ (c.toNat / 262144 % 8 + 240).toUInt8.toNat
  omega

/-- Plain text without a zero character that splits into groups of at most three bytes is its
own modified form. -/
theorem eq_encode_of_units? {cs : List Char} (nonzero : ∀ c ∈ cs, 0 < c.toNat) {us : List Nat}
    (h : units? (cs.flatMap String.utf8EncodeChar) = some us) :
    cs.flatMap String.utf8EncodeChar = cs.flatMap encodeChar := by
  induction cs generalizing us with
  | nil => rfl
  | cons c cs ih =>
      rw [List.flatMap_cons] at h
      by_cases small : c.toNat < 0x10000
      · have group := utf8EncodeChar_eq (nonzero c List.mem_cons_self) small
        rw [group, units?_encodeChar] at h
        obtain ⟨rest, hrest, -⟩ := Option.map_eq_some_iff.1 h
        rw [List.flatMap_cons, List.flatMap_cons, group,
          ih (fun d hd => nonzero d (List.mem_cons_of_mem _ hd)) hrest]
      · rw [units?_utf8EncodeChar small] at h
        cases h

/-- The bytes of which UTF-8 text was read are the UTF-8 forms of its characters. -/
theorem bytes_of_fromUTF8? {bytes : List UInt8} {text : String}
    (h : String.fromUTF8? ⟨bytes.toArray⟩ = some text) :
    bytes = text.toList.flatMap String.utf8EncodeChar := by
  unfold String.fromUTF8? at h
  split at h
  · rename_i valid
    have stored : text.toByteArray = ⟨bytes.toArray⟩ := by
      rw [← Option.some.inj h]
      rfl
    have plain : (String.ofList text.toList).toByteArray = text.toList.utf8Encode :=
      String.toByteArray_ofList
    rw [String.ofList_toList, stored] at plain
    have same := congrArg (fun stored => stored.data.toList) plain
    rwa [List.utf8Encode, List.toList_data_toByteArray] at same
  · cases h

/-- The bytes of which plain text was read are the UTF-8 form of its characters, none of which
is zero. -/
theorem bytes_of_decodePlain? {bytes : List UInt8} {text : String}
    (h : decodePlain? bytes = some text) :
    bytes = text.toList.flatMap String.utf8EncodeChar ∧ ∀ c ∈ text.toList, 0 < c.toNat := by
  obtain ⟨hread, hfilter⟩ := Option.filter_eq_some_iff.1 h
  refine ⟨bytes_of_fromUTF8? hread, fun c hc => ?_⟩
  refine Nat.pos_of_ne_zero fun zero => ?_
  have isZero : c = '\x00' := Char.toNat_inj.1 zero
  subst isZero
  simp [hc] at hfilter

/-- UTF-8 without a zero byte is plain text. -/
theorem decodePlain?_of_fromUTF8? {bytes : List UInt8} {text : String}
    (h : String.fromUTF8? ⟨bytes.toArray⟩ = some text) (nonzero : 0 ∉ bytes) :
    decodePlain? bytes = some text := by
  have noZero : '\x00' ∉ text.toList := by
    intro zero
    -- the only UTF-8 form of a zero character is a zero byte
    have group : (0 : UInt8) ∈ String.utf8EncodeChar '\x00' := by decide
    refine nonzero ?_
    rw [bytes_of_fromUTF8? h]
    exact List.mem_flatMap.2 ⟨_, zero, group⟩
  unfold decodePlain?
  rw [h, Option.filter_some]
  simp [noZero]

/-- Bytes that can be read both ways stand for one text. -/
theorem eq_of_both_readings {bytes : List UInt8} {plain text : String}
    (hplain : decodePlain? bytes = some plain) (hgroups : decodeGroups? bytes = some text) :
    plain = text := by
  obtain ⟨hbytes, nonzero⟩ := bytes_of_decodePlain? hplain
  obtain ⟨chars, hchars, -⟩ := Option.map_eq_some_iff.1 hgroups
  obtain ⟨us, hunits, -⟩ := Option.bind_eq_some_iff.1 hchars
  rw [hbytes] at hunits
  have modified : bytes = encode plain := hbytes.trans (eq_encode_of_units? nonzero hunits)
  rw [modified, decodeGroups?_encode] at hgroups
  exact Option.some.inj hgroups

theorem toList_loop (bytes : ByteArray) (i : Nat) (before : List UInt8) :
    ByteArray.toList.loop bytes i before = before.reverse ++ bytes.data.toList.drop i := by
  fun_induction ByteArray.toList.loop bytes i before with
  | case1 i before here ih =>
      have bound : i < bytes.data.size := here
      have byte : bytes.get! i = bytes.data[i] := getElem!_pos bytes.data i bound
      have rest : bytes.data.toList.drop i = bytes.data[i] :: bytes.data.toList.drop (i + 1) :=
        List.drop_eq_getElem_cons bound
      rw [ih, byte, rest, List.reverse_cons, List.append_assoc, List.singleton_append]
  | case2 i before past =>
      have bound : bytes.data.toList.length ≤ i := Nat.le_of_not_lt past
      rw [List.drop_eq_nil_of_le bound, List.append_nil]

theorem toList_eq_data (bytes : ByteArray) : bytes.toList = bytes.data.toList :=
  toList_loop bytes 0 []

theorem length_plain (text : String) : text.toUTF8.toList.length = text.utf8ByteSize := by
  rw [toList_eq_data]
  rfl

/-- Plain UTF-8 is read as the text it was, unless that has a zero character. -/
theorem decode?_plain {text : String} (nonzero : '\x00' ∉ text.toList) :
    decode? text.toUTF8.toList = some text := by
  have stored : (⟨text.toUTF8.toList.toArray⟩ : ByteArray) = text.toUTF8 := by
    rw [toList_eq_data, Array.toArray_toList]
  have read : String.fromUTF8? text.toUTF8 = some text := dif_pos text.isValidUTF8
  have plain : decodePlain? text.toUTF8.toList = some text := by
    unfold decodePlain?
    rw [stored, read, Option.filter_some]
    simp [nonzero]
  rw [decode?, plain]
  rfl

/-- Text in modified UTF-8 is read as the text it was. -/
theorem decode?_encode (text : String) : decode? (encode text) = some text := by
  unfold decode?
  cases hplain : decodePlain? (encode text) with
  | none => exact decodeGroups?_encode text
  | some plain =>
      rw [eq_of_both_readings hplain (decodeGroups?_encode text)]
      rfl

/-! ## Both readings -/

theorem encode_singleton (c : Char) : encode (String.singleton c) = encodeChar c := by
  show (String.singleton c).toList.flatMap encodeChar = _
  rw [String.toList_singleton, List.flatMap_singleton]

/-- A supplementary character is written as two surrogates. The first three bytes hold its bits
from the tenth on, less the one that every supplementary character has, the others the rest. -/
theorem encodeChar_supplementary {c : Char} (large : 0xFFFF < c.toNat) :
    encodeChar c =
      [0xED, (0xA0 + (c.toNat / 0x10000 - 1)).toUInt8, (0x80 + c.toNat / 0x400 % 0x40).toUInt8,
        0xED, (0xB0 + c.toNat / 0x40 % 0x10).toUInt8, (0x80 + c.toNat % 0x40).toUInt8] := by
  have range := toNat_lt c
  have notSmall : ¬c.toNat < 0x10000 := by omega
  have units : unitsOfChar c =
      [0xD800 + (c.toNat - 0x10000) / 0x400, 0xDC00 + (c.toNat - 0x10000) % 0x400] :=
    if_neg notSmall
  -- both units are surrogates, which have groups of three bytes
  have three : ∀ u, 0x800 ≤ u → encodeUnit u =
      [(0xE0 + u / 0x1000).toUInt8, (0x80 + u / 0x40 % 0x40).toUInt8, (0x80 + u % 0x40).toUInt8] :=
    fun u hu => (if_neg (by omega)).trans (if_neg (by omega))
  have high := three (0xD800 + (c.toNat - 0x10000) / 0x400) (by omega)
  have low := three (0xDC00 + (c.toNat - 0x10000) % 0x400) (by omega)
  rw [encodeChar, units, List.flatMap_cons, List.flatMap_singleton, high, low]
  generalize c.toNat = v at range large
  have lead₁ : 0xE0 + (0xD800 + (v - 0x10000) / 0x400) / 0x1000 = 0xED := by omega
  have middle₁ : 0x80 + (0xD800 + (v - 0x10000) / 0x400) / 0x40 % 0x40 =
      0xA0 + (v / 0x10000 - 1) := by omega
  have last₁ : 0x80 + (0xD800 + (v - 0x10000) / 0x400) % 0x40 = 0x80 + v / 0x400 % 0x40 := by
    omega
  have lead₂ : 0xE0 + (0xDC00 + (v - 0x10000) % 0x400) / 0x1000 = 0xED := by omega
  have middle₂ : 0x80 + (0xDC00 + (v - 0x10000) % 0x400) / 0x40 % 0x40 =
      0xB0 + v / 0x40 % 0x10 := by omega
  have last₂ : 0x80 + (0xDC00 + (v - 0x10000) % 0x400) % 0x40 = 0x80 + v % 0x40 := by omega
  rw [lead₁, middle₁, last₁, lead₂, middle₂, last₂]
  rfl

/-- **Text is read as it was written, whichever way it was.** The modified form of a text, with
two bytes for a zero and twice three bytes for a supplementary character, is read as the text.
UTF-8 without a zero byte is read as UTF-8 is. And bytes that can be read both ways, as plain
UTF-8 and in groups of at most three bytes, stand for the same text in either reading. -/
theorem readings_agree :
    (∀ text, decode? (encode text) = some text) ∧
    encode (String.singleton '\x00') = [0xC0, 0x80] ∧
    (∀ c : Char, 0xFFFF < c.toNat → encode (String.singleton c) =
      [0xED, (0xA0 + (c.toNat / 0x10000 - 1)).toUInt8, (0x80 + c.toNat / 0x400 % 0x40).toUInt8,
        0xED, (0xB0 + c.toNat / 0x40 % 0x10).toUInt8, (0x80 + c.toNat % 0x40).toUInt8]) ∧
    (∀ bytes text, String.fromUTF8? ⟨bytes.toArray⟩ = some text → 0 ∉ bytes →
      decode? bytes = some text) ∧
    ∀ bytes plain text, decodePlain? bytes = some plain → decodeGroups? bytes = some text →
      plain = text := by
  refine ⟨decode?_encode, ?_, ?_, ?_, ?_⟩
  · rw [encode_singleton]
    rfl
  · intro c large
    rw [encode_singleton]
    exact encodeChar_supplementary large
  · intro bytes text standard nonzero
    rw [decode?, decodePlain?_of_fromUTF8? standard nonzero]
    rfl
  · intro bytes plain text hplain hgroups
    exact eq_of_both_readings hplain hgroups

/-- A face is read of six bytes and of four, and an accented letter of two in both readings. -/
theorem face_readings_agree :
    0xFFFF < '😀'.toNat ∧ decode? [0xED, 0xA0, 0xBD, 0xED, 0xB8, 0x80] = some "😀" ∧
    String.fromUTF8? ⟨#[0xF0, 0x9F, 0x98, 0x80]⟩ = some "😀" ∧
    (0 : UInt8) ∉ [0xF0, 0x9F, 0x98, 0x80] ∧
    decode? [0xF0, 0x9F, 0x98, 0x80] = some "😀" ∧
    ∃ plain text, decodePlain? [0xC3, 0xA9] = some plain ∧
      decodeGroups? [0xC3, 0xA9] = some text ∧ plain = text := by
  obtain ⟨modified, -, supplementary, standard, both⟩ := readings_agree
  have large : 0xFFFF < '😀'.toNat := by decide
  have face : String.fromUTF8? ⟨#[0xF0, 0x9F, 0x98, 0x80]⟩ = some "😀" :=
    dif_pos "😀".isValidUTF8
  have nonzero : (0 : UInt8) ∉ [0xF0, 0x9F, 0x98, 0x80] := by decide
  have plain : decodePlain? [0xC3, 0xA9] = some "é" :=
    decodePlain?_of_fromUTF8? (dif_pos "é".isValidUTF8) (by decide)
  have groups : decodeGroups? [0xC3, 0xA9] = some "é" := by decide
  refine ⟨large, ?_, face, nonzero, standard _ _ face nonzero, _, _, plain, groups,
    both _ _ _ plain groups⟩
  have read := modified (String.singleton '😀')
  rw [supplementary _ large] at read
  exact read

end JvmScope.ModifiedUtf8
