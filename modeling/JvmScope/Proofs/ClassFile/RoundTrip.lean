import JvmScope.Proofs.ClassFile.Content
import JvmScope.Proofs.ClassFile.Framing
import JvmScope.Proofs.ClassFile.ModifiedUtf8

/-!
# Class files read back

What a layout says and what is read of its bytes is the same class file (`parse_encode`). Both
halves meet at `Reads`: every item of a layout is written as bytes that the reader of such items
takes exactly, constants first, then attributes and members over the pool that the constants
make, and the whole file last (`reads_layout`). Texts may be written in any way in which they
are read again (`TextsWritten`), modified UTF-8 being one.
-/

namespace JvmScope.ClassFile

open ByteReader

variable {α β : Type}

/-! ## Numbers and tables -/

theorem reads_bytes2 (v : UInt16) : Reads word (bytes2 v) v := by
  have bound : v.toNat < 0x10000 := v.toNat_lt
  have high : (v.toNat / 0x100).toUInt8.toNat = v.toNat / 0x100 :=
    ModifiedUtf8.toNat_toUInt8 (by omega)
  have low : v.toNat.toUInt8.toNat = v.toNat % 0x100 := rfl
  have value : ((v.toNat / 0x100).toUInt8.toNat * 0x100 + v.toNat.toUInt8.toNat).toUInt16 = v := by
    rw [high, low, Nat.div_add_mod']
    exact UInt16.ofNat_toNat
  have reads := reads_word (v.toNat / 0x100).toUInt8 v.toNat.toUInt8
  rwa [value] at reads

theorem reads_bytes4 (v : UInt32) : Reads doubleWord (bytes4 v) v := by
  have bound : v.toNat < 0x100000000 := v.toNat_lt
  have first : (v.toNat / 0x1000000).toUInt8.toNat = v.toNat / 0x1000000 :=
    ModifiedUtf8.toNat_toUInt8 (by omega)
  have second : (v.toNat / 0x10000).toUInt8.toNat = v.toNat / 0x10000 % 0x100 := rfl
  have third : (v.toNat / 0x100).toUInt8.toNat = v.toNat / 0x100 % 0x100 := rfl
  have fourth : v.toNat.toUInt8.toNat = v.toNat % 0x100 := rfl
  have reads := reads_doubleWord (v.toNat / 0x1000000).toUInt8 (v.toNat / 0x10000).toUInt8
    (v.toNat / 0x100).toUInt8 v.toNat.toUInt8
  rw [first, second, third, fourth] at reads
  have value : v.toNat / 0x1000000 * 0x1000000 + v.toNat / 0x10000 % 0x100 * 0x10000 +
      v.toNat / 0x100 % 0x100 * 0x100 + v.toNat % 0x100 = v.toNat := by
    omega
  rw [value] at reads
  have same : v.toNat.toUInt32 = v := UInt32.ofNat_toNat
  rwa [same] at reads

theorem toNat_count {n : Nat} (h : n ≤ 0xFFFF) : n.toUInt16.toNat = n := by
  show n % 2 ^ 16 = n
  exact Nat.mod_eq_of_lt (by omega)

theorem toNat_length {n : Nat} (h : n ≤ 0xFFFFFFFF) : n.toUInt32.toNat = n := by
  show n % 2 ^ 32 = n
  exact Nat.mod_eq_of_lt (by omega)

section
variable {item : ByteReader β} {encode : α → List UInt8} {xs : List α} {ys : List β}

theorem reads_times (h : List.Forall₂ (fun x y => Reads item (encode x) y) xs ys) :
    Reads (times item xs.length) (xs.flatMap encode) ys := by
  induction h with
  | nil => exact Reads.pure []
  | cons hitem hrest ih => exact hitem.bind ih.map

/-- A table is read item by item. -/
theorem reads_table (h : List.Forall₂ (fun x y => Reads item (encode x) y) xs ys)
    (count : xs.length ≤ 0xFFFF) : Reads (table item) (encodeTable encode xs) ys := by
  have items := reads_times h
  rw [← toNat_count count] at items
  exact (reads_bytes2 xs.length.toUInt16).bind items

end

/-! ## The constant pool -/

/-- The bytes of a text fit their field, and the text is what is read of them. -/
def TextWritten (ofText : String → List UInt8) (text : String) : Prop :=
  (ofText text).length ≤ 0xFFFF ∧ ModifiedUtf8.decode? (ofText text) = some text

/-- All texts among the constants are written in this way. -/
def TextsWritten (ofText : String → List UInt8) (constants : List Constant) : Prop :=
  ∀ text, Constant.utf8 text ∈ constants → TextWritten ofText text

theorem Layout.WellFormed.textsWritten {f : Layout} (wf : f.WellFormed) :
    TextsWritten ModifiedUtf8.encode f.constants :=
  fun text h => ⟨wf.texts text h, ModifiedUtf8.decode?_encode text⟩

namespace ConstantPool

variable {ofText : String → List UInt8}

theorem reads_constant (c : Constant) (written : ∀ text, c = .utf8 text → TextWritten ofText text) :
    Reads readConstant (c.encode ofText) c := by
  have tagged : ∀ {tag : UInt8} {f : UInt8 → ByteReader Constant} {bytes : List UInt8},
      Reads (f tag) bytes c → Reads (byte >>= f) (tag :: bytes) c :=
    fun h => (reads_byte _).bind h
  unfold readConstant
  cases c with
  | utf8 text =>
      obtain ⟨fits, decoded⟩ := written text rfl
      have body := reads_take (ofText text)
      rw [← toNat_count fits] at body
      refine tagged ((reads_bytes2 _).bind (body.last ?_))
      rw [decoded]
      exact Reads.pure _
  | integer bits => exact tagged (reads_bytes4 bits).map
  | float bits => exact tagged (reads_bytes4 bits).map
  | long high low => exact tagged ((reads_bytes4 high).bind (reads_bytes4 low).map)
  | double high low => exact tagged ((reads_bytes4 high).bind (reads_bytes4 low).map)
  | classRef name => exact tagged (reads_bytes2 name).map
  | string value => exact tagged (reads_bytes2 value).map
  | fieldRef owner nt => exact tagged ((reads_bytes2 owner).bind (reads_bytes2 nt).map)
  | methodRef owner nt => exact tagged ((reads_bytes2 owner).bind (reads_bytes2 nt).map)
  | interfaceMethodRef owner nt => exact tagged ((reads_bytes2 owner).bind (reads_bytes2 nt).map)
  | nameAndType name descriptor =>
      exact tagged ((reads_bytes2 name).bind (reads_bytes2 descriptor).map)
  | methodHandle kind reference =>
      exact tagged ((reads_byte kind).bind (reads_bytes2 reference).map)
  | methodType descriptor => exact tagged (reads_bytes2 descriptor).map
  | dynamic bootstrap nt => exact tagged ((reads_bytes2 bootstrap).bind (reads_bytes2 nt).map)
  | invokeDynamic bootstrap nt =>
      exact tagged ((reads_bytes2 bootstrap).bind (reads_bytes2 nt).map)
  | moduleRef name => exact tagged (reads_bytes2 name).map
  | packageRef name => exact tagged (reads_bytes2 name).map

/-- Constants are read until the indices are used up that they take. -/
theorem reads_slots {constants : List Constant} (written : TextsWritten ofText constants) :
    Reads (readSlots (Constant.slots constants).length)
      (constants.flatMap (Constant.encode ofText)) (Constant.slots constants) := by
  induction constants with
  | nil =>
      rw [Constant.slots, List.length_nil, readSlots]
      exact Reads.pure []
  | cons c rest ih =>
      have first := reads_constant c fun text h => written text (h ▸ List.mem_cons_self)
      have others := ih fun text h => written text (List.mem_cons_of_mem _ h)
      rw [Constant.slots, List.flatMap_cons]
      -- after a wide constant the reader counts one index more without reading anything for it
      by_cases wide : c.isWide = true
      · rw [if_pos wide, List.length_cons, List.length_cons, readSlots]
        refine first.bind ?_
        rw [if_pos wide]
        exact others.map
      · rw [if_neg wide, List.length_cons, readSlots]
        refine first.bind ?_
        rw [if_neg wide]
        exact others.map

theorem reads_pool {constants : List Constant} (written : TextsWritten ofText constants)
    (count : 1 + (constants.map Constant.width).sum ≤ 0xFFFF) :
    Reads ConstantPool.read
      (count2 ((Constant.slots constants).length + 1) ++
        constants.flatMap (Constant.encode ofText))
      (ofConstants constants) := by
  have bound : (Constant.slots constants).length + 1 ≤ 0xFFFF := by
    rw [Constant.length_slots, Nat.add_comm]
    exact count
  have slots := reads_slots written
  have count : (Constant.slots constants).length =
      ((Constant.slots constants).length + 1).toUInt16.toNat - 1 := by
    rw [toNat_count bound, Nat.add_sub_cancel]
  rw [count] at slots
  exact (reads_bytes2 _).bind slots.map

variable {constants : List Constant} {index : UInt16}

theorem reads_text {text : String} (h : TextAt constants index text) :
    Reads (ofConstants constants).readText (bytes2 index) text :=
  (reads_bytes2 index).last (Reads.lift (getText_of_textAt h))

theorem reads_className {name : String} (h : ClassAt constants index name) :
    Reads (ofConstants constants).readClassName (bytes2 index) name :=
  (reads_bytes2 index).last (Reads.lift (getClassName_of_classAt h))

end ConstantPool

/-! ## Attributes -/

variable {constants : List Constant}

open ConstantPool (ofConstants)

theorem bytes2_inj {v w : UInt16} (h : bytes2 v = bytes2 w) : v = w := by
  have read := (reads_bytes2 v).runAll
  rw [h, (reads_bytes2 w).runAll] at read
  exact (Except.ok.inj read).symm

/-- An attribute holds one signature or none. -/
theorem AttributeIn.unique {a : RawAttribute} {s t : Option String}
    (hs : AttributeIn constants a s) (ht : AttributeIn constants a t) : s = t := by
  cases hs with
  | signature hname hbody htext =>
      cases ht with
      | signature hname' hbody' htext' =>
          obtain rfl := bytes2_inj (hbody.symm.trans hbody')
          rw [htext.unique htext']
      | other hname' ne => exact absurd (hname'.unique hname) ne
  | other hname ne =>
      cases ht with
      | signature hname' => exact absurd (hname.unique hname') ne
      | other => rfl

theorem AttributeIn.textAt {a : RawAttribute} {text : String}
    (h : AttributeIn constants a (some text)) : TextAt constants a.name "Signature" := by
  cases h with
  | signature hname => exact hname

theorem reads_attribute {a : RawAttribute} {signature : Option String}
    (h : AttributeIn constants a signature) (body : a.body.length ≤ 0xFFFFFFFF) :
    Reads (readAttribute (ofConstants constants)) a.encode signature := by
  have taken := reads_take a.body
  rw [← toNat_length body] at taken
  unfold readAttribute
  rw [RawAttribute.encode, List.append_assoc]
  cases h with
  | @signature index text hname hbody htext =>
      refine (ConstantPool.reads_text hname).bind ((reads_bytes4 _).bind (taken.last ?_))
      rw [if_pos rfl, hbody]
      exact (Reads.lift (ConstantPool.reads_text htext).runAll).map
  | other hname ne =>
      refine (ConstantPool.reads_text hname).bind ((reads_bytes4 _).bind (taken.last ?_))
      rw [if_neg ne]
      exact Reads.pure none

/-- An attribute that is not named for a signature holds none. -/
theorem AttributeIn.none_of_apart {a : RawAttribute} {s : Option String}
    (h : AttributeIn constants a s) (apart : ¬TextAt constants a.name "Signature") :
    AttributeIn constants a none := by
  cases h with
  | signature hname => exact absurd hname apart
  | other hname ne => exact .other hname ne

/-- The signatures found in a table of attributes are the one there is, if there is one. -/
theorem filterMap_of_signatureIn {attributes : List RawAttribute} {found : List (Option String)}
    (each : List.Forall₂ (AttributeIn constants) attributes found)
    (named : ∀ a ∈ attributes, ∃ signature, AttributeIn constants a signature)
    (once : attributes.Pairwise fun a b =>
      ¬(TextAt constants a.name "Signature" ∧ TextAt constants b.name "Signature"))
    {signature : Option String} (h : SignatureIn constants attributes signature) :
    found.filterMap id = signature.toList := by
  induction each generalizing signature with
  | nil =>
      cases h with
      | absent => rfl
      | present ha => exact absurd ha List.not_mem_nil
  | @cons a o attributes found ha each ih =>
      obtain ⟨apart, once⟩ := List.pairwise_cons.1 once
      have namedRest := fun b hb => named b (List.mem_cons_of_mem _ hb)
      cases o with
      | none =>
          -- the first attribute is of another name: a signature is among the others
          refine ih namedRest once ?_
          cases h with
          | absent none => exact .absent fun b hb => none b (List.mem_cons_of_mem _ hb)
          | present hb holds =>
              rcases List.mem_cons.1 hb with rfl | hb
              · cases ha.unique holds
              · exact .present hb holds
      | some text =>
          -- the first attribute is the one named for it: the others are not
          have others : found.filterMap id = [] := by
            have absent : SignatureIn constants attributes none := .absent fun b hb => by
              obtain ⟨s, hs⟩ := namedRest b hb
              exact hs.none_of_apart fun hname => apart b hb ⟨ha.textAt, hname⟩
            exact ih namedRest once absent
          have front : (some text :: found).filterMap id = text :: found.filterMap id := rfl
          rw [front, others]
          cases h with
          | absent none => cases ha.unique (none a List.mem_cons_self)
          | present hb holds =>
              rcases List.mem_cons.1 hb with rfl | hb
              · cases ha.unique holds
                rfl
              · exact absurd ⟨ha.textAt, holds.textAt⟩ (apart _ hb)

theorem reads_attributes {attributes : List RawAttribute}
    (fits : AttributesFit constants attributes) {signature : Option String}
    (h : SignatureIn constants attributes signature) :
    Reads (readAttributes (ofConstants constants)) (encodeTable RawAttribute.encode attributes)
      signature := by
  obtain ⟨found, each⟩ := exists_forall₂ fits.named
  have items : List.Forall₂
      (fun a s => Reads (readAttribute (ofConstants constants)) a.encode s) attributes found := by
    have bounded := (List.forall₂_and_left attributes found).2 ⟨fits.bodies, each⟩
    exact bounded.imp fun a s h => reads_attribute h.2 h.1
  have last : (found.filterMap id).getLast? = signature := by
    rw [filterMap_of_signatureIn each fits.named fits.once h]
    cases signature <;> rfl
  rw [← last]
  exact (reads_table items fits.count).map

/-! ## Members and files -/

theorem reads_member {raw : RawMember} {m : ClassMember} (h : MemberIn constants raw m)
    (fits : MemberFits constants raw) :
    Reads (readMember (ofConstants constants)) raw.encode m := by
  rw [RawMember.encode, h.flags, List.append_assoc, List.append_assoc]
  refine (reads_bytes2 _).bind ((ConstantPool.reads_text h.name).bind ?_)
  exact (ConstantPool.reads_text h.descriptor).bind (reads_attributes fits.attributes h.signature).map

theorem reads_members {members : List RawMember} {ms : List ClassMember}
    (h : List.Forall₂ (MemberIn constants) members ms) (fits : MembersFit constants members) :
    Reads (table (readMember (ofConstants constants))) (encodeTable RawMember.encode members)
      ms := by
  have each := (List.forall₂_and_left members ms).2 ⟨fits.each, h⟩
  exact reads_table (each.imp fun raw m h => reads_member h.2 h.1) fits.count

theorem reads_superClass {index : UInt16} {name : Option String}
    (h : SuperClassAt constants index name) :
    Reads (readSuperClass (ofConstants constants)) (bytes2 index) name := by
  unfold readSuperClass
  cases h with
  | absent => exact (reads_bytes2 0).last (Reads.pure none)
  | present hclass =>
      refine (reads_bytes2 index).last ?_
      rw [if_neg hclass.ne_zero]
      exact (Reads.lift (ConstantPool.getClassName_of_classAt hclass)).map

/-- The bytes of a layout whose texts are written and whose tables fit are read as the class file
that it describes. -/
theorem reads_layout {ofText : String → List UInt8} {f : Layout} {c : ClassFile}
    (written : TextsWritten ofText f.constants) (fit : f.TablesFit) (h : f.Describes c) :
    Reads read (f.encode ofText) c := by
  have interfaces := reads_table (h.interfaces.imp fun _ _ => ConstantPool.reads_className)
    fit.interfaceCount
  have fields := reads_members h.fields fit.fields
  have methods := reads_members h.methods fit.methods
  have signature := reads_attributes fit.attributes h.signature
  unfold read Layout.encode
  simp only [List.append_assoc]
  -- the items in the order of the file; what comes after the pool is read over it
  refine (reads_bytes4 magic).bind ?_
  rw [if_neg (fun ne => ne rfl)]
  rw [h.minorVersion, h.majorVersion, h.flags]
  refine (reads_bytes2 c.minorVersion).bind ((reads_bytes2 c.majorVersion).bind ?_)
  rw [← List.append_assoc (count2 _)]
  refine (ConstantPool.reads_pool written fit.poolCount).bind ((reads_bytes2 c.flags).bind ?_)
  refine (ConstantPool.reads_className h.thisClass).bind ?_
  refine (reads_superClass h.superClass).bind (interfaces.bind ?_)
  exact fields.bind (methods.bind signature.map)

/-- The bytes of a well-formed layout are read as the class file that it describes. -/
theorem reads_encode {f : Layout} {c : ClassFile} (wf : f.WellFormed) (h : f.Describes c) :
    Reads read (f.encode ModifiedUtf8.encode) c :=
  reads_layout wf.textsWritten wf.tablesFit h

/-- A well-formed layout describes one class file, and this is what its bytes hold. -/
theorem parse_encode (f : Layout) (wf : f.WellFormed) :
    ∃ c, parse (f.encode ModifiedUtf8.encode) = .ok c ∧ ∀ d, f.Describes d ↔ d = c := by
  obtain ⟨c, hc⟩ := wf.exists_describes
  have parsed : parse (f.encode ModifiedUtf8.encode) = .ok c := (reads_encode wf hc).runAll
  refine ⟨c, parsed, fun d => ⟨fun hd => ?_, fun hd => hd ▸ hc⟩⟩
  have other : parse (f.encode ModifiedUtf8.encode) = .ok d := (reads_encode wf hd).runAll
  rw [parsed] at other
  exact (Except.ok.inj other).symm

/-- The text after the first `before` constants of the layout. -/
theorem boxLayout_text (before : Nat) {index : UInt16} {text : String}
    (h : boxLayout.constants[before]? = some (.utf8 text))
    (counted : index.toNat = 1 + ((boxLayout.constants.take before).map Constant.width).sum) :
    TextAt boxLayout.constants index text := by
  obtain ⟨bound, hc⟩ := List.getElem?_eq_some_iff.1 h
  refine ⟨_, boxLayout.constants.drop (before + 1), ?_, counted⟩
  rw [← hc, List.getElem_cons_drop, List.take_append_drop]

theorem boxLayout_describes : boxLayout.Describes box where
  minorVersion := rfl
  majorVersion := rfl
  flags := rfl
  thisClass := ⟨1, ⟨boxLayout.constants.take 1, boxLayout.constants.drop 2, rfl, rfl⟩,
    boxLayout_text 0 rfl rfl⟩
  superClass := .present ⟨3, ⟨boxLayout.constants.take 3, boxLayout.constants.drop 4, rfl, rfl⟩,
    boxLayout_text 2 rfl rfl⟩
  interfaces := .nil
  fields := .nil
  methods := .cons ⟨rfl, boxLayout_text 5 rfl rfl, boxLayout_text 6 rfl rfl,
    .present (.tail _ (.head _))
      (.signature (boxLayout_text 7 rfl rfl) rfl (boxLayout_text 8 rfl rfl))⟩ .nil
  signature := .absent nofun

theorem boxLayout_wellFormed : boxLayout.WellFormed where
  poolCount := by decide
  texts := by
    intro text h
    simp only [boxLayout, List.mem_cons, Constant.utf8.injEq, reduceCtorEq, List.not_mem_nil,
      false_or, or_false] at h
    rcases h with rfl | rfl | rfl | rfl | rfl | rfl | rfl <;> decide +kernel
  thisClass := ⟨_, boxLayout_describes.thisClass⟩
  superClass := by
    cases boxLayout_describes.superClass with
    | present h => exact .inr ⟨_, h⟩
  interfaceCount := by decide
  interfaces := nofun
  fields := ⟨by decide, nofun⟩
  methods := by
    refine ⟨by decide, fun raw hraw => ?_⟩
    rw [List.mem_singleton.1 hraw]
    have note : TextAt boxLayout.constants 11 "Note\x00😀" := boxLayout_text 9 rfl rfl
    have apart : ¬TextAt boxLayout.constants 11 "Signature" := fun h =>
      absurd (note.unique h) (by decide)
    refine ⟨⟨_, boxLayout_text 5 rfl rfl⟩, ⟨_, boxLayout_text 6 rfl rfl⟩, by decide, by decide,
      fun a ha => ?_, by simp [apart]⟩
    simp only [List.mem_cons, List.not_mem_nil, or_false] at ha
    rcases ha with rfl | rfl
    · exact ⟨none, .other note (by decide)⟩
    · exact ⟨_, .signature (boxLayout_text 7 rfl rfl) rfl (boxLayout_text 8 rfl rfl)⟩
  attributes := ⟨by decide, nofun, nofun, .nil⟩

theorem boxLayout_parsed :
    boxLayout.WellFormed ∧ boxLayout.Describes box ∧
      parse (boxLayout.encode ModifiedUtf8.encode) = .ok box := by
  obtain ⟨c, parsed, only⟩ := parse_encode boxLayout boxLayout_wellFormed
  have same : box = c := (only box).1 boxLayout_describes
  exact ⟨boxLayout_wellFormed, boxLayout_describes, by rw [same]; exact parsed⟩

end JvmScope.ClassFile
