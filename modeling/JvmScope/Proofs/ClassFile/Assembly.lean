import JvmScope.ClassFile.Assembler
import JvmScope.Proofs.ClassFile.RoundTrip

/-!
# Assembled class files

The bytes that are assembled of a class file are parsed as this class file (`parse_assemble`). The
assembler numbers constants as it comes upon them, and an index that it has written has to be
right in the pool as it will be in the end. So every step is looked at over all pools that may
come of it: `Pooling.Yields` says that a step adds constants to whatever pool it finds, and what
holds of its outcome in any larger pool whose indices are enough. It holds of `intern`, where an
index is found or made, and passes through `>>=` and traversals; each item of a class file is laid
out by such a step, and the whole layout describes the class file (`yields_layout`).

For a class that is described detail by detail, `parse_ofDetails` says what is parsed in terms of
the details alone.
-/

namespace JvmScope.ClassFile

/-! ## Pools -/

/-- The constants that the assembler pools: texts with the property `ok`, and classes. -/
inductive Pooled (ok : String → Prop) : Constant → Prop
  | text {value : String} (h : ok value) : Pooled ok (.utf8 value)
  | classRef (name : UInt16) : Pooled ok (.classRef name)

theorem Pooled.width {ok : String → Prop} {c : Constant} (h : Pooled ok c) : c.width = 1 := by
  cases h with
  | text => rfl
  | classRef => rfl

/-- A pool of such constants that leaves an index for each. -/
structure FullPool (ok : String → Prop) (constants : List Constant) : Prop where
  pooled : ∀ c ∈ constants, Pooled ok c
  bound : constants.length ≤ 0xFFFE

theorem sum_width {ok : String → Prop} {constants : List Constant}
    (h : ∀ c ∈ constants, Pooled ok c) : (constants.map Constant.width).sum = constants.length := by
  induction constants with
  | nil => rfl
  | cons c rest ih =>
      rw [List.map_cons, List.sum_cons, List.length_cons, (h c List.mem_cons_self).width,
        ih fun d hd => h d (List.mem_cons_of_mem _ hd), Nat.add_comm]

theorem FullPool.constantAt {ok : String → Prop} {front back : List Constant} {c : Constant}
    (full : FullPool ok (front ++ c :: back)) :
    ConstantAt (front ++ c :: back) (front.length + 1).toUInt16 c := by
  have bound := full.bound
  rw [List.length_append, List.length_cons] at bound
  refine ⟨front, back, rfl, ?_⟩
  rw [sum_width fun d hd => full.pooled d (List.mem_append_left _ hd),
    toNat_count (by omega), Nat.add_comm]

namespace Pooling

variable {α β : Type} {ok : String → Prop}

/-! ## Steps -/

/-- Whatever pool a step finds, it adds pooled constants at its end, and its outcome is as `P` says
in every full pool that comes of it. -/
structure Yields (ok : String → Prop) (step : Pooling α) (P : List Constant → α → Prop) :
    Prop where
  adds : ∀ pool, pool <+: (step.run pool).2
  keeps : ∀ pool, (∀ c ∈ pool, Pooled ok c) → ∀ c ∈ (step.run pool).2, Pooled ok c
  gives : ∀ pool constants, (step.run pool).2 <+: constants → FullPool ok constants →
    P constants (step.run pool).1

namespace Yields

variable {P : List Constant → α → Prop} {Q : List Constant → β → Prop}

protected theorem pure {a : α} (h : ∀ constants, FullPool ok constants → P constants a) :
    Yields ok (pure a) P where
  adds _ := List.prefix_rfl
  keeps _ pooled := pooled
  gives _ constants _ full := h constants full

/-- What the first step yields holds in all pools that come of the second. -/
protected theorem bind {x : Pooling α} {f : α → Pooling β} (hx : Yields ok x P)
    (hf : ∀ a, Yields ok (f a) fun constants b => P constants a → Q constants b) :
    Yields ok (x >>= f) Q where
  adds pool := (hx.adds pool).trans ((hf _).adds _)
  keeps pool pooled := (hf _).keeps _ (hx.keeps pool pooled)
  gives pool constants later full :=
    (hf _).gives _ constants later full
      (hx.gives pool constants (((hf _).adds _).trans later) full)

theorem mono {Q : List Constant → α → Prop} {step : Pooling α} (h : Yields ok step P)
    (weaker : ∀ constants a, P constants a → Q constants a) : Yields ok step Q where
  adds := h.adds
  keeps := h.keeps
  gives pool constants later full := weaker _ _ (h.gives pool constants later full)

theorem mapM {f : α → Pooling β} {R : α → List Constant → β → Prop} {l : List α}
    (h : ∀ a ∈ l, Yields ok (f a) (R a)) :
    Yields ok (l.mapM f) fun constants results =>
      List.Forall₂ (fun b a => R a constants b) results l := by
  induction l with
  | nil =>
      rw [List.mapM_nil]
      exact .pure fun _ _ => .nil
  | cons a rest ih =>
      rw [List.mapM_cons]
      refine (h a List.mem_cons_self).bind fun b => ?_
      refine (ih fun c hc => h c (List.mem_cons_of_mem _ hc)).bind fun results => ?_
      exact .pure fun constants _ hresults hb => .cons hb hresults

end Yields

/-! ## Constants -/

/-- A constant is found where it stands, or added at the end. -/
theorem run_intern (c : Constant) (pool : List Constant) :
    ∃ added front back, (intern c).run pool = ((front.length + 1).toUInt16, pool ++ added) ∧
      pool ++ added = front ++ c :: back ∧ ∀ d ∈ added, d = c := by
  cases found : pool.findIdx? (· == c) with
  | none =>
      refine ⟨[c], pool, [], ?_, rfl, fun d hd => List.mem_singleton.1 hd⟩
      show intern c pool = _
      rw [intern, found]
  | some i =>
      obtain ⟨bound, same, -⟩ := List.findIdx?_eq_some_iff_getElem.1 found
      have split : pool = pool.take i ++ c :: pool.drop (i + 1) := by
        rw [← beq_iff_eq.1 same, List.getElem_cons_drop, List.take_append_drop]
      refine ⟨[], pool.take i, pool.drop (i + 1), ?_, ?_, fun d hd => absurd hd List.not_mem_nil⟩
      · show intern c pool = _
        rw [intern, found, List.append_nil, List.length_take, Nat.min_eq_left (Nat.le_of_lt bound)]
      · rw [List.append_nil]
        exact split

theorem yields_intern {c : Constant} (h : Pooled ok c) :
    Yields ok (intern c) fun constants index => ConstantAt constants index c where
  adds pool := by
    obtain ⟨added, front, back, run, -⟩ := run_intern c pool
    rw [run]
    exact List.prefix_append pool added
  keeps pool pooled := by
    obtain ⟨added, front, back, run, -, new⟩ := run_intern c pool
    rw [run]
    intro d hd
    rcases List.mem_append.1 hd with hd | hd
    · exact pooled d hd
    · exact new d hd ▸ h
  gives pool constants later full := by
    obtain ⟨added, front, back, run, split, -⟩ := run_intern c pool
    rw [run] at later ⊢
    obtain ⟨rest, rfl⟩ := later
    simp only [split, List.append_assoc, List.cons_append] at full ⊢
    exact full.constantAt

theorem yields_text {value : String} (h : ok value) :
    Yields ok (text value) fun constants index => TextAt constants index value :=
  yields_intern (.text h)

theorem yields_className {name : String} (h : ok name) :
    Yields ok (className name) fun constants index => ClassAt constants index name := by
  refine (yields_text h).bind fun target => ?_
  exact (yields_intern (.classRef target)).mono fun constants index hclass htext =>
    ⟨target, hclass, htext⟩

/-! ## Attributes and members -/

/-- No attribute at all, or one that holds the signature. -/
theorem yields_signature (own : ok "Signature") {signature : Option String}
    (h : ∀ text ∈ signature, ok text) :
    Yields ok (Pooling.signature signature) fun constants attributes =>
      SignatureIn constants attributes signature ∧ AttributesFit constants attributes := by
  cases signature with
  | none => exact .pure fun _ _ => ⟨.absent nofun, ⟨by decide, nofun, nofun, .nil⟩⟩
  | some text =>
      refine (yields_text own).bind fun name => (yields_text (h text rfl)).bind fun index => ?_
      refine .pure fun constants _ hindex hname => ?_
      have holds : AttributeIn constants ⟨name, bytes2 index⟩ (some text) :=
        .signature hname rfl hindex
      refine ⟨.present List.mem_cons_self holds, ?_⟩
      refine ⟨Nat.le_of_ble_eq_true rfl, fun a ha => ?_, fun a ha => ?_,
        List.pairwise_singleton _ _⟩
      · rw [List.mem_singleton.1 ha]
        exact Nat.le_of_ble_eq_true rfl
      · rw [List.mem_singleton.1 ha]
        exact ⟨_, holds⟩

end Pooling

/-- The texts that a field or method is made of. -/
def memberTexts (m : ClassMember) : List String :=
  m.name :: m.descriptor :: m.signature.toList

/-- The texts that a class file is made of. -/
def texts (c : ClassFile) : List String :=
  c.thisClass :: c.superClass.toList ++ c.interfaces ++ c.fields.flatMap memberTexts ++
    c.methods.flatMap memberTexts ++ c.signature.toList

theorem forall_texts_iff {ok : String → Prop} {c : ClassFile} :
    (∀ text ∈ c.texts, ok text) ↔ ok c.thisClass ∧ (∀ name ∈ c.superClass, ok name) ∧
      (∀ name ∈ c.interfaces, ok name) ∧ (∀ m ∈ c.fields, ∀ text ∈ memberTexts m, ok text) ∧
      (∀ m ∈ c.methods, ∀ text ∈ memberTexts m, ok text) ∧ ∀ text ∈ c.signature, ok text := by
  simp only [texts, List.cons_append, List.forall_mem_cons, List.forall_mem_append,
    List.forall_mem_flatMap, Option.mem_toList, Option.mem_def, and_assoc]

namespace Pooling

variable {ok : String → Prop}

theorem yields_member (own : ok "Signature") {m : ClassMember}
    (h : ∀ text ∈ memberTexts m, ok text) :
    Yields ok (member m) fun constants raw =>
      MemberIn constants raw m ∧ MemberFits constants raw := by
  simp only [memberTexts, List.forall_mem_cons, Option.mem_toList] at h
  obtain ⟨hname, hdescriptor, hsignature⟩ := h
  refine (yields_text hname).bind fun name => (yields_text hdescriptor).bind fun descriptor => ?_
  refine (yields_signature own hsignature).bind fun attributes => ?_
  refine .pure fun constants _ hattributes hdescriptor hname => ?_
  obtain ⟨hsignature, hfit⟩ := hattributes
  exact ⟨⟨rfl, hname, hdescriptor, hsignature⟩, ⟨⟨_, hname⟩, ⟨_, hdescriptor⟩, hfit⟩⟩

/-- The members of a table are laid out one by one, and fit the table if they can be counted. -/
theorem yields_members (own : ok "Signature") {ms : List ClassMember}
    (h : ∀ m ∈ ms, ∀ text ∈ memberTexts m, ok text) (count : ms.length ≤ 0xFFFF) :
    Yields ok (ms.mapM member) fun constants members =>
      List.Forall₂ (MemberIn constants) members ms ∧ MembersFit constants members := by
  refine (Yields.mapM fun m hm => yields_member own (h m hm)).mono fun constants members each => ?_
  obtain ⟨fit, described⟩ := (List.forall₂_and_left members ms).1 (each.imp fun _ _ => And.symm)
  exact ⟨described, described.length_eq ▸ count, fit⟩

theorem yields_superClass {name : Option String} (h : ∀ text ∈ name, ok text) :
    Yields ok (superClass name) fun constants index => SuperClassAt constants index name := by
  cases name with
  | none => exact .pure fun _ _ => .absent
  | some text => exact (yields_className (h text rfl)).mono fun _ _ => .present

/-- The layout that is made with any full pool describes the class file and fits the format. -/
theorem yields_layout (own : ok "Signature") {c : ClassFile} (h : ∀ text ∈ c.texts, ok text)
    (interfaceCount : c.interfaces.length ≤ 0xFFFF) (fieldCount : c.fields.length ≤ 0xFFFF)
    (methodCount : c.methods.length ≤ 0xFFFF) :
    Yields ok (layout c) fun constants f =>
      (f constants).Describes c ∧ (f constants).TablesFit := by
  obtain ⟨thisText, superTexts, interfaceTexts, fieldTexts, methodTexts, signatureTexts⟩ :=
    forall_texts_iff.1 h
  unfold layout
  refine (yields_className thisText).bind fun thisClass => ?_
  refine (yields_superClass superTexts).bind fun superClass => ?_
  refine (Yields.mapM fun name hname => yields_className (interfaceTexts name hname)).bind
    fun interfaces => ?_
  refine (yields_members own fieldTexts fieldCount).bind fun fields => ?_
  refine (yields_members own methodTexts methodCount).bind fun methods => ?_
  refine (yields_signature own signatureTexts).bind fun attributes => ?_
  refine .pure fun constants full hattributes hmethods hfields hinterfaces hsuper hthis => ?_
  have poolCount : 1 + (constants.map Constant.width).sum ≤ 0xFFFF := by
    have bound := full.bound
    rw [sum_width full.pooled]
    omega
  refine ⟨⟨rfl, rfl, rfl, hthis, hsuper, hinterfaces, hfields.1, hmethods.1, hattributes.1⟩, ?_⟩
  exact ⟨poolCount, hinterfaces.length_eq ▸ interfaceCount, hfields.2, hmethods.2, hattributes.2⟩

end Pooling

/-! ## Whole class files -/

/-- The pool of a layout is the one that was there when everything was laid out. -/
theorem constants_toLayout (c : ClassFile) :
    c.toLayout.constants = ((Pooling.layout c).run []).2 := rfl

/-- A text that plain UTF-8 can carry through a class file. -/
def Plain (text : String) : Prop := '\x00' ∉ text.toList ∧ text.utf8ByteSize ≤ 0xFFFF

theorem Plain.textWritten {text : String} (h : Plain text) :
    TextWritten (fun text => text.toUTF8.toList) text := by
  refine ⟨?_, ModifiedUtf8.decode?_plain h.1⟩
  rw [ModifiedUtf8.length_plain]
  exact h.2

/-- The bytes that are assembled of a class file are parsed as this class file. -/
theorem parse_assemble {c : ClassFile} (plain : ∀ text ∈ c.texts, Plain text)
    (interfaces : c.interfaces.length ≤ 0xFFFF) (fields : c.fields.length ≤ 0xFFFF)
    (methods : c.methods.length ≤ 0xFFFF) (pool : c.toLayout.constants.length ≤ 0xFFFE) :
    parse c.assemble = .ok c := by
  have own : Plain "Signature" := by
    unfold Plain
    decide +kernel
  have yields := Pooling.yields_layout own plain interfaces fields methods
  have pooled : ∀ constant ∈ c.toLayout.constants, Pooled Plain constant := by
    rw [constants_toLayout]
    exact yields.keeps [] fun _ h => absurd h List.not_mem_nil
  have laidOut : c.toLayout.Describes c ∧ c.toLayout.TablesFit := by
    have given := yields.gives [] c.toLayout.constants
    rw [constants_toLayout] at given pooled pool
    exact given List.prefix_rfl ⟨pooled, pool⟩
  have written : TextsWritten (fun text => text.toUTF8.toList) c.toLayout.constants := by
    intro text htext
    cases pooled _ htext with
    | text plain => exact plain.textWritten
  exact (reads_layout written laidOut.2 laidOut.1).runAll

/-! ## Described classes -/

namespace Detail

/-- The texts that a detail is made of. -/
def texts : Detail → List String
  | asInterface => []
  | superClass name => name.toList
  | implements name => [name]
  | signature text => [text]
  | field name descriptor _ => [name, descriptor]
  | method name descriptor generic _ => name :: descriptor :: generic.toList

@[simp] def superClass? : Detail → Option (Option String)
  | superClass name => some name
  | _ => none

@[simp] def interface? : Detail → Option String
  | implements name => some name
  | _ => none

@[simp] def signature? : Detail → Option String
  | signature text => some text
  | _ => none

@[simp] def field? : Detail → Option ClassMember
  | field name descriptor flags => some ⟨flags, name, descriptor, none⟩
  | _ => none

@[simp] def method? : Detail → Option ClassMember
  | method name descriptor generic flags => some ⟨flags, name, descriptor, generic⟩
  | _ => none

end Detail

/-- One more detail brings in its own texts and no others. -/
theorem texts_withDetail {ok : String → Prop} {c : ClassFile} {detail : Detail}
    (hc : ∀ text ∈ c.texts, ok text) (hdetail : ∀ text ∈ detail.texts, ok text) :
    ∀ text ∈ (c.withDetail detail).texts, ok text := by
  rw [forall_texts_iff] at hc ⊢
  obtain ⟨hthis, hsuper, hinterfaces, hfields, hmethods, hsignature⟩ := hc
  cases detail with
  | asInterface => exact ⟨hthis, hsuper, hinterfaces, hfields, hmethods, hsignature⟩
  | superClass name =>
      refine ⟨hthis, fun text htext => ?_, hinterfaces, hfields, hmethods, hsignature⟩
      exact hdetail text (Option.mem_toList.2 htext)
  | implements name =>
      refine ⟨hthis, hsuper, ?_, hfields, hmethods, hsignature⟩
      exact List.forall_mem_append.2 ⟨hinterfaces, hdetail⟩
  | signature text =>
      refine ⟨hthis, hsuper, hinterfaces, hfields, hmethods, ?_⟩
      intro replaced hreplaced
      obtain rfl := Option.some.inj hreplaced
      exact hdetail text List.mem_cons_self
  | field name descriptor flags =>
      refine ⟨hthis, hsuper, hinterfaces, ?_, hmethods, hsignature⟩
      exact List.forall_mem_append.2 ⟨hfields, List.forall_mem_singleton.2 hdetail⟩
  | method name descriptor signature flags =>
      refine ⟨hthis, hsuper, hinterfaces, hfields, ?_, hsignature⟩
      exact List.forall_mem_append.2 ⟨hmethods, List.forall_mem_singleton.2 hdetail⟩

theorem texts_ofDetails {ok : String → Prop} {name : String} {details : List Detail}
    (above : ok "java/lang/Object") (h : ∀ text ∈ name :: details.flatMap Detail.texts, ok text) :
    ∀ text ∈ (ofDetails name details).texts, ok text := by
  obtain ⟨hname, hdetails⟩ := List.forall_mem_cons.1 h
  rw [List.forall_mem_flatMap] at hdetails
  have start : ∀ text ∈ (ofName name false (some "java/lang/Object")).texts, ok text := by
    simp [ofName, texts, hname, above]
  refine List.foldlRecOn (motive := fun c => ∀ text ∈ c.texts, ok text) details withDetail start
    fun c hc detail hdetail => ?_
  exact texts_withDetail hc (hdetails detail hdetail)

/-- What a class becomes detail by detail: the last word counts for what can be said once, and
the rest is kept in order. -/
theorem foldl_withDetail (details : List Detail) (c : ClassFile) :
    details.foldl withDetail c =
      { minorVersion := c.minorVersion
        majorVersion := c.majorVersion
        flags :=
          if .asInterface ∈ details then
            Access.isPublic ||| Access.isInterface ||| Access.isAbstract
          else c.flags
        thisClass := c.thisClass
        superClass := (details.filterMap Detail.superClass?).getLast?.getD c.superClass
        interfaces := c.interfaces ++ details.filterMap Detail.interface?
        fields := c.fields ++ details.filterMap Detail.field?
        methods := c.methods ++ details.filterMap Detail.method?
        signature := (details.filterMap Detail.signature?).getLast?.or c.signature } := by
  induction details generalizing c with
  | nil => simp
  | cons detail rest ih =>
      rw [List.foldl_cons, ih]
      cases detail <;> simp [withDetail, List.filterMap_cons, List.getLast?_cons]

/-- The class that is described by some details is assembled to bytes of which just that is
parsed: a class of version 52 with the given name, the flags of an interface if it was said to be
one, the superclass that was said last, if any was, interfaces and members in the order in which
they were said, and the generic signature that was said last. The texts have to be free of zero
characters and fit their length field, as do the tables; and every constant needs an index. -/
theorem parse_ofDetails (name : String) (details : List Detail)
    (plain : ∀ text ∈ name :: details.flatMap Detail.texts,
      '\x00' ∉ text.toList ∧ text.utf8ByteSize ≤ 0xFFFF)
    (interfaces : (details.filterMap Detail.interface?).length ≤ 0xFFFF)
    (fields : (details.filterMap Detail.field?).length ≤ 0xFFFF)
    (methods : (details.filterMap Detail.method?).length ≤ 0xFFFF)
    (pool : (ofDetails name details).toLayout.constants.length ≤ 0xFFFE) :
    parse (ofDetails name details).assemble = .ok
      { minorVersion := 0
        majorVersion := 52
        flags :=
          if .asInterface ∈ details then
            Access.isPublic ||| Access.isInterface ||| Access.isAbstract
          else Access.isPublic ||| Access.isSuper
        thisClass := name
        superClass :=
          (details.filterMap Detail.superClass?).getLast?.getD (some "java/lang/Object")
        interfaces := details.filterMap Detail.interface?
        fields := details.filterMap Detail.field?
        methods := details.filterMap Detail.method?
        signature := (details.filterMap Detail.signature?).getLast? } := by
  have above : Plain "java/lang/Object" := by
    unfold Plain
    decide +kernel
  have described := foldl_withDetail details (ofName name false (some "java/lang/Object"))
  simp only [ofName, List.nil_append, Option.or_none] at described
  change ofDetails name details = _ at described
  have parsed : parse (ofDetails name details).assemble = .ok (ofDetails name details) := by
    refine parse_assemble (texts_ofDetails above plain) ?_ ?_ ?_ pool
    · rw [described]
      exact interfaces
    · rw [described]
      exact fields
    · rw [described]
      exact methods
  rw [parsed, described]
  rfl

/-- Details with texts that coincide: the class, its interface and its generic signature have one
text, and a field and the generic signature of a method are called like the attribute. The
superclass is taken back. -/
def noteDetails : List Detail :=
  [.superClass (some "lib/Note"), .implements "lib/Note", .field "Signature" "I" 1,
    .method "😀" "()V" (some "Signature") 1, .signature "lib/Note", .superClass none]

theorem noteDetails_parsed :
    parse (ofDetails "lib/Note" noteDetails).assemble = .ok
      { minorVersion := 0, majorVersion := 52, flags := 0x21, thisClass := "lib/Note",
        superClass := none, interfaces := ["lib/Note"],
        fields := [⟨1, "Signature", "I", none⟩],
        methods := [⟨1, "😀", "()V", some "Signature"⟩], signature := some "lib/Note" } := by
  refine parse_ofDetails "lib/Note" noteDetails ?_ (by decide) (by decide) (by decide) ?_
  · decide +kernel
  · decide +kernel

end JvmScope.ClassFile
