import JvmScope.ClassFile.Parser
import JvmScope.Proofs.Outcome
import Mathlib.Data.List.Forall2

/-!
# Framing

`Reads reader used a` says that `reader` takes exactly the bytes `used` for the item `a`: it
gives `a` and leaves behind whatever follows them, and in every shorter beginning of `used` it
finds that the bytes end early. The relation passes through `pure` and `>>=`, so it holds of a
reader as soon as it holds of its parts.

A reader is `Framed` if all its answers come about in this way. The readers of class files are
(`framed_read`), and therefore a class file ends where it ends (`parse_framed`): no beginning of
it is a class file, and nothing may follow it.
-/

namespace JvmScope

variable {α β : Type}

namespace ByteReader

/-! ## Reading exactly some bytes -/

/-- The reader takes exactly `used` for `a`. -/
structure Reads (reader : ByteReader α) (used : List UInt8) (a : α) : Prop where
  whole : ∀ rest, reader.run (used ++ rest) = .ok (a, rest)
  early : ∀ front, front <+: used → front ≠ used → reader.run front = .error .unexpectedEnd

/-- A proper beginning is shorter. -/
theorem length_lt_of_isPrefix {front used : List α} (h : front <+: used) (ne : front ≠ used) :
    front.length < used.length := by
  refine Nat.lt_of_le_of_ne h.length_le ?_
  intro same
  exact ne (h.eq_of_length same)

/-- A beginning of two parts ends inside the first part, or it goes on with a beginning of the
second. -/
theorem isPrefix_append_cases {front used more : List α} (h : front <+: used ++ more) :
    (front <+: used ∧ front ≠ used) ∨ ∃ taken, front = used ++ taken ∧ taken <+: more := by
  obtain ⟨missing, h⟩ := h
  rcases List.append_eq_append_iff.1 h with ⟨cut, rfl, -⟩ | ⟨taken, rfl, rfl⟩
  · cases cut with
    | nil => exact .inr ⟨[], by simp, List.nil_prefix⟩
    | cons c cut => exact .inl ⟨List.prefix_append front _, by simp⟩
  · exact .inr ⟨taken, rfl, List.prefix_append taken missing⟩

namespace Reads

variable {reader : ByteReader α} {used : List UInt8} {a : α}

/-- A reader that fails on everything shorter than `used` fails on its proper beginnings. -/
theorem ofLength (whole : ∀ rest, reader.run (used ++ rest) = .ok (a, rest))
    (short : ∀ front : List UInt8, front.length < used.length →
      reader.run front = .error .unexpectedEnd) : Reads reader used a where
  whole := whole
  early front h ne := short front (length_lt_of_isPrefix h ne)

protected theorem pure (a : α) : Reads (pure a) [] a where
  whole _ := rfl
  early _ h ne := absurd (List.prefix_nil.1 h) ne

/-- A step that consumes nothing. -/
protected theorem lift {x : Except FormatError α} (h : x = .ok a) :
    Reads (liftM x : ByteReader α) [] a where
  whole _ := by
    rw [h]
    rfl
  early _ h ne := absurd (List.prefix_nil.1 h) ne

protected theorem bind {f : α → ByteReader β} {more : List UInt8} {b : β}
    (first : Reads reader used a) (next : Reads (f a) more b) :
    Reads (reader >>= f) (used ++ more) b where
  whole rest := by
    rw [StateT.run_bind, List.append_assoc, first.whole]
    exact next.whole rest
  early front h ne := by
    rw [StateT.run_bind]
    rcases isPrefix_append_cases h with ⟨inside, other⟩ | ⟨taken, rfl, htaken⟩
    · rw [first.early front inside other]
      rfl
    · -- the first reader has its bytes, so it is the second one that runs out of them
      rw [first.whole]
      refine next.early taken htaken ?_
      intro same
      exact ne (by rw [same])

/-- A last step that consumes nothing. -/
protected theorem last {f : α → ByteReader β} {b : β} (first : Reads reader used a)
    (next : Reads (f a) [] b) : Reads (reader >>= f) used b := by
  have both := first.bind next
  rwa [List.append_nil] at both

protected theorem map {f : α → β} (h : Reads reader used a) :
    Reads (do let a ← reader; pure (f a)) used (f a) :=
  h.last (Reads.pure (f a))

/-! ## Using up all bytes -/

theorem runAll (h : Reads reader used a) : reader.runAll used = .ok a := by
  have whole := h.whole []
  rw [List.append_nil] at whole
  simp only [ByteReader.runAll, StateT.run_bind, whole]
  rfl

theorem runAll_early (h : Reads reader used a) {front : List UInt8} (before : front <+: used)
    (ne : front ≠ used) : reader.runAll front = .error .unexpectedEnd := by
  simp only [ByteReader.runAll, StateT.run_bind, h.early front before ne]
  rfl

theorem runAll_trailing (h : Reads reader used a) {extra : List UInt8} (ne : extra ≠ []) :
    reader.runAll (used ++ extra) = .error (.trailingBytes extra.length) := by
  cases extra with
  | nil => exact absurd rfl ne
  | cons b rest =>
      simp only [ByteReader.runAll, StateT.run_bind, h.whole]
      rfl

end Reads

/-- A value of which all bytes are used up has left nothing behind. -/
theorem run_of_runAll {reader : ByteReader α} {bytes : List UInt8} {a : α}
    (h : reader.runAll bytes = .ok a) : reader.run bytes = .ok (a, []) := by
  obtain ⟨⟨b, left⟩, hrun, hb⟩ := map_ok_iff.1 h
  rw [StateT.run_bind] at hrun
  obtain ⟨⟨c, rest⟩, hreader, hrun⟩ := bind_ok_iff.1 hrun
  rw [StateT.run_bind] at hrun
  obtain ⟨⟨_, rest'⟩, hfinish, hlast⟩ := bind_ok_iff.1 hrun
  cases rest with
  | nil =>
      have hc : (c, rest') = (b, left) := pure_ok_iff.1 hlast
      have hca : c = a := (Prod.mk.inj hc).1.trans hb
      rw [hreader, hca]
  | cons x rest => cases hfinish

/-! ## Framed readers -/

/-- Whatever the reader answers, it answers by reading exactly some bytes. -/
def Framed (reader : ByteReader α) : Prop :=
  ∀ bytes a rest, reader.run bytes = .ok (a, rest) →
    ∃ used, bytes = used ++ rest ∧ Reads reader used a

namespace Framed

protected theorem pure (a : α) : Framed (pure a) := by
  intro bytes b rest h
  obtain ⟨rfl, rfl⟩ := Prod.mk.inj (pure_ok_iff.1 h)
  exact ⟨[], rfl, Reads.pure a⟩

protected theorem throw (e : FormatError) : Framed (throw e : ByteReader α) := by
  intro bytes a rest h
  cases h

protected theorem lift (x : Except FormatError α) : Framed (liftM x : ByteReader α) := by
  intro bytes a rest h
  cases x with
  | error e => cases h
  | ok b =>
      cases h
      exact ⟨[], rfl, Reads.lift rfl⟩

protected theorem bind {reader : ByteReader α} {f : α → ByteReader β} (first : Framed reader)
    (next : ∀ a, Framed (f a)) : Framed (reader >>= f) := by
  intro bytes b rest h
  rw [StateT.run_bind] at h
  obtain ⟨⟨a, mid⟩, hfirst, hnext⟩ := bind_ok_iff.1 h
  obtain ⟨used, hused, reads⟩ := first bytes a mid hfirst
  obtain ⟨more, hmore, readsMore⟩ := next a mid b rest hnext
  refine ⟨used ++ more, ?_, reads.bind readsMore⟩
  rw [hused, hmore, List.append_assoc]

/-- Nothing is read after a failure. -/
protected theorem throw_bind (e : FormatError) (f : β → ByteReader α) :
    Framed (throw e >>= f) := by
  intro bytes a rest h
  cases h

protected theorem map {reader : ByteReader α} {f : α → β} (first : Framed reader) :
    Framed (do let a ← reader; pure (f a)) :=
  first.bind fun _ => Framed.pure _

protected theorem map₂ {γ : Type} {reader : ByteReader α} {more : ByteReader β} {f : α → β → γ}
    (first : Framed reader) (next : Framed more) :
    Framed (do let a ← reader; let b ← more; pure (f a b)) :=
  first.bind fun _ => next.map

end Framed

/-! ## Numbers and bytes -/

theorem reads_byte (b : UInt8) : Reads byte [b] b := by
  refine Reads.ofLength (fun _ => rfl) fun front h => ?_
  match front, h with
  | [], _ => rfl

theorem framed_byte : Framed byte := by
  intro bytes a rest h
  match bytes, h with
  | b :: rest, rfl => exact ⟨[b], rfl, reads_byte b⟩

/-- Two bytes are the number that has them as its high and its low part. -/
theorem reads_word (a b : UInt8) :
    Reads word [a, b] (a.toNat * 0x100 + b.toNat).toUInt16 := by
  refine Reads.ofLength (fun _ => rfl) fun front h => ?_
  match front, h with
  | [], _ => rfl
  | [_], _ => rfl

theorem framed_word : Framed word := by
  intro bytes v rest h
  match bytes, h with
  | a :: b :: rest, rfl => exact ⟨[a, b], rfl, reads_word a b⟩

theorem reads_doubleWord (a b c d : UInt8) :
    Reads doubleWord [a, b, c, d]
      (a.toNat * 0x1000000 + b.toNat * 0x10000 + c.toNat * 0x100 + d.toNat).toUInt32 := by
  refine Reads.ofLength (fun _ => rfl) fun front h => ?_
  match front, h with
  | [], _ => rfl
  | [_], _ => rfl
  | [_, _], _ => rfl
  | [_, _, _], _ => rfl

theorem framed_doubleWord : Framed doubleWord := by
  intro bytes v rest h
  match bytes, h with
  | a :: b :: c :: d :: rest, rfl => exact ⟨[a, b, c, d], rfl, reads_doubleWord a b c d⟩

theorem split?_append (used rest : List α) :
    split? used.length (used ++ rest) = some (used, rest) := by
  induction used with
  | nil => rfl
  | cons a used ih =>
      rw [List.length_cons, List.cons_append, split?, ih]
      rfl

theorem split?_short {n : Nat} {front : List α} (h : front.length < n) :
    split? n front = none := by
  induction n generalizing front with
  | zero => exact absurd h (Nat.not_lt_zero _)
  | succ n ih =>
      cases front with
      | nil => rfl
      | cons a front =>
          rw [split?, ih (Nat.lt_of_succ_lt_succ h)]
          rfl

theorem eq_of_split? {n : Nat} {bytes taken left : List α}
    (h : split? n bytes = some (taken, left)) : bytes = taken ++ left ∧ taken.length = n := by
  induction n generalizing bytes taken with
  | zero =>
      cases h
      exact ⟨rfl, rfl⟩
  | succ n ih =>
      cases bytes with
      | nil => cases h
      | cons a bytes =>
          rw [split?] at h
          obtain ⟨⟨front, left'⟩, hsplit, he⟩ := Option.map_eq_some_iff.1 h
          obtain ⟨rfl, rfl⟩ := Prod.mk.inj he
          obtain ⟨rfl, hlength⟩ := ih hsplit
          exact ⟨rfl, by rw [List.length_cons, hlength]⟩

theorem reads_take (used : List UInt8) : Reads (take used.length) used used := by
  refine Reads.ofLength (fun rest => ?_) fun front h => ?_
  · show take used.length (used ++ rest) = _
    rw [take, split?_append]
  · show take used.length front = _
    rw [take, split?_short h]

theorem framed_take (n : Nat) : Framed (take n) := by
  intro bytes used rest h
  have hrun : take n bytes = .ok (used, rest) := h
  unfold take at hrun
  split at hrun
  · rename_i r hsplit
    obtain rfl := Except.ok.inj hrun
    obtain ⟨hbytes, hlength⟩ := eq_of_split? hsplit
    refine ⟨used, hbytes, ?_⟩
    rw [← hlength]
    exact reads_take used
  · cases hrun

/-! ## Tables -/

theorem framed_times {item : ByteReader α} (h : Framed item) (n : Nat) :
    Framed (times item n) := by
  induction n with
  | zero => exact Framed.pure []
  | succ n ih => exact h.map₂ ih

theorem framed_table {item : ByteReader α} (h : Framed item) : Framed (table item) :=
  framed_word.bind fun _ => framed_times h _

end ByteReader

/-! ## Class files -/

namespace ClassFile

open ByteReader

namespace ConstantPool

theorem framed_readConstant : Framed readConstant := by
  unfold readConstant
  refine framed_byte.bind fun tag => ?_
  -- a case for every tag: the text first, the numbers and indices after it
  split
  · refine framed_word.bind fun length => (framed_take _).bind fun bytes => ?_
    split
    · exact Framed.pure _
    · exact Framed.throw _
  · exact framed_doubleWord.map
  · exact framed_doubleWord.map
  · exact framed_doubleWord.map₂ framed_doubleWord
  · exact framed_doubleWord.map₂ framed_doubleWord
  · exact framed_word.map
  · exact framed_word.map
  · exact framed_word.map₂ framed_word
  · exact framed_word.map₂ framed_word
  · exact framed_word.map₂ framed_word
  · exact framed_word.map₂ framed_word
  · exact framed_byte.map₂ framed_word
  · exact framed_word.map
  · exact framed_word.map₂ framed_word
  · exact framed_word.map₂ framed_word
  · exact framed_word.map
  · exact framed_word.map
  · exact Framed.throw _

theorem framed_readSlots (n : Nat) : Framed (readSlots n) := by
  fun_induction readSlots n with
  | case1 => exact Framed.pure []
  | case2 n ihWide ih =>
      refine framed_readConstant.bind fun c => ?_
      split
      · exact ihWide.map
      · exact ih.map

theorem framed_readPool : Framed ConstantPool.read :=
  framed_word.bind fun _ => (framed_readSlots _).map

theorem framed_readText (pool : ConstantPool) : Framed pool.readText :=
  framed_word.bind fun _ => Framed.lift _

theorem framed_readClassName (pool : ConstantPool) : Framed pool.readClassName :=
  framed_word.bind fun _ => Framed.lift _

end ConstantPool

variable (pool : ConstantPool)

theorem framed_readAttribute : Framed (readAttribute pool) := by
  unfold readAttribute
  refine pool.framed_readText.bind fun name => ?_
  refine framed_doubleWord.bind fun length => (framed_take _).bind fun body => ?_
  -- the body has been consumed as a whole: what is read of it cannot run past its end
  split
  · exact (Framed.lift _).map
  · exact Framed.pure none

theorem framed_readAttributes : Framed (readAttributes pool) :=
  (framed_table (framed_readAttribute pool)).map

theorem framed_readMember : Framed (readMember pool) := by
  refine framed_word.bind fun flags => pool.framed_readText.bind fun name => ?_
  exact pool.framed_readText.map₂ (framed_readAttributes pool)

theorem framed_readSuperClass : Framed (readSuperClass pool) := by
  unfold readSuperClass
  refine framed_word.bind fun index => ?_
  split
  · exact Framed.pure none
  · exact (Framed.lift _).map

/-- Class files are read item by item, each item on account of its own bytes. -/
theorem framed_read : Framed read := by
  unfold read
  refine framed_doubleWord.bind fun found => ?_
  split
  · exact Framed.throw_bind _ _
  · refine framed_word.bind fun minorVersion => framed_word.bind fun majorVersion => ?_
    refine ConstantPool.framed_readPool.bind fun pool => framed_word.bind fun flags => ?_
    refine pool.framed_readClassName.bind fun thisClass => ?_
    refine (framed_readSuperClass pool).bind fun superClass => ?_
    refine (framed_table pool.framed_readClassName).bind fun interfaces => ?_
    refine (framed_table (framed_readMember pool)).bind fun fields => ?_
    exact (framed_table (framed_readMember pool)).map₂ (framed_readAttributes pool)

/-- A class file ends where it ends: a proper beginning of it ends early, and bytes that follow
it are left over. -/
theorem parse_framed {bytes : List UInt8} {c : ClassFile} (h : parse bytes = .ok c) :
    (∀ front, front <+: bytes → front ≠ bytes → parse front = .error .unexpectedEnd) ∧
      ∀ extra, extra ≠ [] → parse (bytes ++ extra) = .error (.trailingBytes extra.length) := by
  obtain ⟨used, hused, reads⟩ := framed_read bytes c [] (run_of_runAll h)
  rw [List.append_nil] at hused
  subst hused
  exact ⟨fun front before ne => reads.runAll_early before ne,
    fun extra ne => reads.runAll_trailing ne⟩

/-- A generic class with a constant of eight bytes, a text outside plain UTF-8, and a method with
an attribute that is skipped and one that is not. -/
def boxLayout : Layout where
  minorVersion := 0
  majorVersion := 52
  constants :=
    [.utf8 "demo/Box", .classRef 1, .utf8 "java/lang/Object", .classRef 3, .long 0 7,
      .utf8 "get", .utf8 "()Ljava/lang/Object;", .utf8 "Signature", .utf8 "()TT;",
      .utf8 "Note\x00😀"]
  flags := Access.isPublic
  thisClass := 2
  superClass := 4
  interfaces := []
  fields := []
  methods := [⟨Access.isPublic, 7, 8, [⟨11, [1, 2, 3]⟩, ⟨9, bytes2 10⟩]⟩]
  attributes := []

/-- The class that it describes. -/
def box : ClassFile where
  minorVersion := 0
  majorVersion := 52
  flags := Access.isPublic
  thisClass := "demo/Box"
  superClass := some "java/lang/Object"
  interfaces := []
  fields := []
  methods := [⟨Access.isPublic, "get", "()Ljava/lang/Object;", some "()TT;"⟩]
  signature := none

/-- The bytes of that class. -/
def boxBytes : List UInt8 := boxLayout.encode ModifiedUtf8.encode

/-- Cut inside a constant, or with a byte more, the bytes are no class file. -/
theorem boxBytes_framed :
    parse boxBytes = .ok box ∧ parse (boxBytes.take 30) = .error .unexpectedEnd ∧
      parse (boxBytes ++ [0]) = .error (.trailingBytes 1) := by
  have parsed : parse boxBytes = .ok box := by decide +kernel
  obtain ⟨early, trailing⟩ := parse_framed parsed
  refine ⟨parsed, early _ (List.take_prefix 30 boxBytes) ?_, trailing [0] (by decide)⟩
  have shorter : (boxBytes.take 30).length ≠ boxBytes.length := by decide +kernel
  exact fun same => shorter (congrArg List.length same)

end ClassFile

end JvmScope
