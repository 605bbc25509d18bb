import JvmScope.ClassFile.Parser
import Mathlib.Algebra.GroupWithZero.Nat
import Mathlib.Data.List.Forall2

/-!
# What a layout says

The items of a class file refer to the constant pool by index, and an index is a matter of
counting: the constants stand one after the other from index 1 on, and one of eight bytes takes
two indices (`ConstantAt`). `Layout.Describes` follows the references and says of which class
file a layout is the layout; it knows nothing of bytes or of how the pool is held.

`Layout.WellFormed` collects what a layout has to be like to describe anything and to fit the
format: references lead to constants of the right kind, and counts and lengths fit their fields.
A well-formed layout describes a class file (`exists_describes`). The parser's pool answers an
index with the constant that stands there (`get_of_constantAt`).
-/

namespace JvmScope.ClassFile

/-! ## References -/

/-- How many indices a constant takes. -/
def Constant.width (c : Constant) : Nat := if c.isWide then 2 else 1

variable (constants : List Constant)

/-- The constant stands at the index: the ones before it take the indices from 1 on. -/
def ConstantAt (index : UInt16) (c : Constant) : Prop :=
  ∃ front back, constants = front ++ c :: back ∧
    index.toNat = 1 + (front.map Constant.width).sum

/-- The index refers to a text. -/
def TextAt (index : UInt16) (text : String) : Prop := ConstantAt constants index (.utf8 text)

/-- The index refers to a class of the given internal name. -/
def ClassAt (index : UInt16) (name : String) : Prop :=
  ∃ target, ConstantAt constants index (.classRef target) ∧ TextAt constants target name

/-- The generic signature that an attribute holds. Attributes of other names hold none, whatever
is in them. -/
inductive AttributeIn (a : RawAttribute) : Option String → Prop
  | signature {index : UInt16} {text : String} : TextAt constants a.name "Signature" →
      a.body = bytes2 index → TextAt constants index text → AttributeIn a (some text)
  | other {name : String} : TextAt constants a.name name → name ≠ "Signature" →
      AttributeIn a none

/-- The generic signature among attributes. -/
inductive SignatureIn (attributes : List RawAttribute) : Option String → Prop
  | absent : (∀ a ∈ attributes, AttributeIn constants a none) → SignatureIn attributes none
  | present {a : RawAttribute} {text : String} : a ∈ attributes →
      AttributeIn constants a (some text) → SignatureIn attributes (some text)

/-- The field or method that a member is. -/
structure MemberIn (raw : RawMember) (m : ClassMember) : Prop where
  flags : raw.flags = m.flags
  name : TextAt constants raw.name m.name
  descriptor : TextAt constants raw.descriptor m.descriptor
  signature : SignatureIn constants raw.attributes m.signature

/-- The superclass that an index refers to. -/
inductive SuperClassAt : UInt16 → Option String → Prop
  | absent : SuperClassAt 0 none
  | present {index : UInt16} {name : String} : ClassAt constants index name →
      SuperClassAt index (some name)

/-- The class file that a layout is the layout of. -/
structure Layout.Describes (f : Layout) (c : ClassFile) : Prop where
  minorVersion : f.minorVersion = c.minorVersion
  majorVersion : f.majorVersion = c.majorVersion
  flags : f.flags = c.flags
  thisClass : ClassAt f.constants f.thisClass c.thisClass
  superClass : SuperClassAt f.constants f.superClass c.superClass
  interfaces : List.Forall₂ (ClassAt f.constants) f.interfaces c.interfaces
  fields : List.Forall₂ (MemberIn f.constants) f.fields c.fields
  methods : List.Forall₂ (MemberIn f.constants) f.methods c.methods
  signature : SignatureIn f.constants f.attributes c.signature

/-! ## Well-formed layouts -/

/-- A table of attributes: each is named by a text, at most one is named for a signature, and
that one holds the index of a text. -/
structure AttributesFit (attributes : List RawAttribute) : Prop where
  count : attributes.length ≤ 0xFFFF
  bodies : ∀ a ∈ attributes, a.body.length ≤ 0xFFFFFFFF
  named : ∀ a ∈ attributes, ∃ signature, AttributeIn constants a signature
  once : attributes.Pairwise fun a b =>
    ¬(TextAt constants a.name "Signature" ∧ TextAt constants b.name "Signature")

/-- A field or method whose name and descriptor are texts. -/
structure MemberFits (raw : RawMember) : Prop where
  name : ∃ text, TextAt constants raw.name text
  descriptor : ∃ text, TextAt constants raw.descriptor text
  attributes : AttributesFit constants raw.attributes

/-- A table of fields or methods. -/
structure MembersFit (members : List RawMember) : Prop where
  count : members.length ≤ 0xFFFF
  each : ∀ raw ∈ members, MemberFits constants raw

/-- A layout that can be written and describes something. Texts are written in modified UTF-8. -/
structure Layout.WellFormed (f : Layout) : Prop where
  poolCount : 1 + (f.constants.map Constant.width).sum ≤ 0xFFFF
  texts : ∀ text, Constant.utf8 text ∈ f.constants →
    (ModifiedUtf8.encode text).length ≤ 0xFFFF
  thisClass : ∃ name, ClassAt f.constants f.thisClass name
  superClass : f.superClass = 0 ∨ ∃ name, ClassAt f.constants f.superClass name
  interfaceCount : f.interfaces.length ≤ 0xFFFF
  interfaces : ∀ index ∈ f.interfaces, ∃ name, ClassAt f.constants index name
  fields : MembersFit f.constants f.fields
  methods : MembersFit f.constants f.methods
  attributes : AttributesFit f.constants f.attributes

/-- A layout whose counts and tables fit the format, whatever its texts are like. -/
structure Layout.TablesFit (f : Layout) : Prop where
  poolCount : 1 + (f.constants.map Constant.width).sum ≤ 0xFFFF
  interfaceCount : f.interfaces.length ≤ 0xFFFF
  fields : MembersFit f.constants f.fields
  methods : MembersFit f.constants f.methods
  attributes : AttributesFit f.constants f.attributes

variable {constants}

theorem Layout.WellFormed.tablesFit {f : Layout} (wf : f.WellFormed) : f.TablesFit where
  poolCount := wf.poolCount
  interfaceCount := wf.interfaceCount
  fields := wf.fields
  methods := wf.methods
  attributes := wf.attributes

/-! ## Every well-formed layout describes a class file -/

/-- Where every element is related to something, so is the list. -/
theorem exists_forall₂ {α β : Type} {R : α → β → Prop} {l : List α}
    (h : ∀ a ∈ l, ∃ b, R a b) : ∃ results, List.Forall₂ R l results := by
  induction l with
  | nil => exact ⟨[], .nil⟩
  | cons a rest ih =>
      obtain ⟨b, hb⟩ := h a List.mem_cons_self
      obtain ⟨results, hresults⟩ := ih fun c hc => h c (List.mem_cons_of_mem _ hc)
      exact ⟨b :: results, .cons hb hresults⟩

theorem AttributesFit.exists_signature {attributes : List RawAttribute}
    (fits : AttributesFit constants attributes) :
    ∃ signature, SignatureIn constants attributes signature := by
  by_cases h : ∃ a ∈ attributes, ∃ text, AttributeIn constants a (some text)
  · obtain ⟨a, ha, text, holds⟩ := h
    exact ⟨some text, .present ha holds⟩
  · refine ⟨none, .absent fun a ha => ?_⟩
    obtain ⟨signature, holds⟩ := fits.named a ha
    cases signature with
    | none => exact holds
    | some text => exact absurd ⟨a, ha, text, holds⟩ h

theorem MembersFit.exists_members {members : List RawMember}
    (fits : MembersFit constants members) :
    ∃ ms, List.Forall₂ (MemberIn constants) members ms := by
  refine exists_forall₂ fun raw hraw => ?_
  obtain ⟨name, hname⟩ := (fits.each raw hraw).name
  obtain ⟨descriptor, hdescriptor⟩ := (fits.each raw hraw).descriptor
  obtain ⟨signature, hsignature⟩ := (fits.each raw hraw).attributes.exists_signature
  exact ⟨⟨raw.flags, name, descriptor, signature⟩, rfl, hname, hdescriptor, hsignature⟩

theorem Layout.WellFormed.exists_superClass {f : Layout} (wf : f.WellFormed) :
    ∃ name, SuperClassAt f.constants f.superClass name := by
  rcases wf.superClass with zero | ⟨name, h⟩
  · rw [zero]
    exact ⟨none, .absent⟩
  · exact ⟨some name, .present h⟩

/-- A well-formed layout describes a class file. -/
theorem Layout.WellFormed.exists_describes {f : Layout} (wf : f.WellFormed) :
    ∃ c, f.Describes c := by
  obtain ⟨thisClass, hthis⟩ := wf.thisClass
  obtain ⟨superClass, hsuper⟩ := wf.exists_superClass
  obtain ⟨interfaces, hinterfaces⟩ := exists_forall₂ wf.interfaces
  obtain ⟨fields, hfields⟩ := wf.fields.exists_members
  obtain ⟨methods, hmethods⟩ := wf.methods.exists_members
  obtain ⟨signature, hsignature⟩ := wf.attributes.exists_signature
  exact ⟨⟨f.minorVersion, f.majorVersion, f.flags, thisClass, superClass, interfaces, fields,
    methods, signature⟩, rfl, rfl, rfl, hthis, hsuper, hinterfaces, hfields, hmethods,
    hsignature⟩

/-! ## Looking constants up -/

theorem Constant.slots_append (front back : List Constant) :
    slots (front ++ back) = slots front ++ slots back := by
  induction front with
  | nil => rfl
  | cons c front ih =>
      rw [List.cons_append, slots, slots, ih]
      split <;> rfl

theorem Constant.length_slots (cs : List Constant) :
    (slots cs).length = (cs.map width).sum := by
  induction cs with
  | nil => rfl
  | cons c rest ih =>
      rw [slots, List.map_cons, List.sum_cons, width]
      split
      · rw [List.length_cons, List.length_cons, ih]
        omega
      · rw [List.length_cons, ih]
        omega

namespace ConstantPool

/-- The pool as the parser holds it. -/
def ofConstants (constants : List Constant) : ConstantPool := none :: Constant.slots constants

variable {index : UInt16}

/-- The pool answers an index with the constant that stands there. -/
theorem get_of_constantAt {c : Constant} (h : ConstantAt constants index c) :
    (ofConstants constants).get index = .ok c := by
  obtain ⟨front, back, hconstants, hindex⟩ := h
  have first : (Constant.slots (c :: back))[0]? = some (some c) := by
    rw [Constant.slots]
    split <;> rfl
  have stored : (ofConstants constants)[index.toNat]? = some (some c) := by
    rw [ofConstants, hindex, Nat.add_comm, List.getElem?_cons_succ, hconstants,
      Constant.slots_append, ← Constant.length_slots,
      List.getElem?_append_right (Nat.le_refl _), Nat.sub_self]
    exact first
  unfold get
  rw [stored]

theorem getText_of_textAt {text : String} (h : TextAt constants index text) :
    (ofConstants constants).getText index = .ok text := by
  unfold getText
  rw [get_of_constantAt h]
  rfl

theorem getClassName_of_classAt {name : String} (h : ClassAt constants index name) :
    (ofConstants constants).getClassName index = .ok name := by
  obtain ⟨target, hclass, htext⟩ := h
  unfold getClassName
  rw [get_of_constantAt hclass]
  exact getText_of_textAt htext

end ConstantPool

/-- At most one text stands at an index. -/
theorem TextAt.unique {index : UInt16} {s t : String} (hs : TextAt constants index s)
    (ht : TextAt constants index t) : s = t := by
  have both := ConstantPool.getText_of_textAt hs
  rw [ConstantPool.getText_of_textAt ht] at both
  exact (Except.ok.inj both).symm

/-- Index 0 refers to nothing. -/
theorem ClassAt.ne_zero {index : UInt16} {name : String} (h : ClassAt constants index name) :
    index ≠ 0 := by
  obtain ⟨_, ⟨front, back, -, hindex⟩, -⟩ := h
  rintro rfl
  have zero : (0 : UInt16).toNat = 0 := rfl
  omega

end JvmScope.ClassFile
