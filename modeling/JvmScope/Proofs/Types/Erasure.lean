import JvmScope.Proofs.Descriptor.MethodType
import JvmScope.Proofs.QualifiedName
import JvmScope.Proofs.Types.Source
import JvmScope.Types.Assignability

/-!
# Usages and descriptors

A usage is projected to the type that the virtual machine sees, and read back from it with the
help of a source. On the way type arguments are lost, and an unsigned type is left as the
primitive that stores it: what comes back is the usage `erased`. Reading back undoes the
projection of every usage that is `Describable`, and the projection undoes reading back, as long
as the descriptor names no class with a dot in it (`jvmType_of_ofJvmType`).

Reading a usage straight off a text, as `ofText` does, leaves open what to do with a text that is
no descriptor. On the text of a JVM type it does what reading the type does (`ofText_text`), so a
legal descriptor is only refused for a class that the source does not deliver. The main statement
is `usages_and_descriptors_inverse`.
-/

namespace JvmScope

/-! ## Descriptors of single types -/

namespace JvmType

/-- Exactly the texts of types that a method may return are accepted. -/
theorem ofDescriptor_ok_iff {text : String} {j : JvmType} :
    ofDescriptor text = .ok j ↔ text = j.text ∧ Descriptor.IsReturn j := by
  unfold ofDescriptor
  by_cases hvoid : text = "V"
  · subst hvoid
    rw [if_pos rfl, Except.ok.injEq]
    constructor
    · rintro rfl
      exact ⟨rfl, .inl rfl⟩
    · rintro ⟨htext, -⟩
      exact text_inj htext
  · rw [if_neg hvoid]
    constructor
    · intro h
      split at h
      · rename_i t hread
        cases h
        obtain ⟨htext, hfield⟩ := Descriptor.parseField_ok_iff.1 hread
        exact ⟨htext, .inr hfield⟩
      · cases h
    · rintro ⟨htext, hreturn⟩
      rcases hreturn with rfl | hfield
      · exact absurd htext hvoid
      · rw [Descriptor.parseField_ok_iff.2 ⟨htext, hfield⟩]

/-- The class that the type names, if it names one, is named without dots. -/
def Dotless : JvmType → Prop
  | primitive _ => True
  | object name => '.' ∉ name.toList
  | array component => component.Dotless

theorem dotless_iff {t : JvmType} : t.Dotless ↔ '.' ∉ t.chars := by
  induction t with
  | primitive k => cases k <;> simp [Dotless, chars, Primitive.code]
  | object name => simp [Dotless, chars]
  | array component ih => simp [Dotless, chars, ih]

theorem dotless_ofDotted (name : String) : (ofDotted name).Dotless :=
  QualifiedName.dot_notMem_toInternal name

end JvmType

namespace TypeUsage

variable {source : TypeSource (Except TypeError)} {t : TypeUsage} {j : JvmType}

/-! ## Projecting -/

/-- The usage without type arguments, and with primitives for unsigned types. -/
def erased : TypeUsage → TypeUsage
  | basic t => primitive t.storage
  | reference d _ => ofDefinition d
  | array e => array e.erased
  | t => t

/-- Usages that have a descriptor which the source can make sense of: every class in them has a
name that the source answers, and no array is one of `void`. -/
inductive Describable (source : TypeSource (Except TypeError)) : TypeUsage → Prop
  | primitive (k : Primitive) : Describable source (primitive k)
  | basic (t : Unsigned) : Describable source (basic t)
  | reference {d e : TypeDefinition} (args : List TypeUsage)
      (answered : source.resolve d.qualifiedName = .ok (some e)) :
      Describable source (reference d args)
  | array {e : TypeUsage} (notVoid : e.isVoid = false) (element : Describable source e) :
      Describable source (array e)

theorem isVoid_iff : t.isVoid = true ↔ t = .void := by
  unfold isVoid TypeUsage.void
  split
  · exact iff_of_true rfl rfl
  · rename_i h
    exact iff_of_false Bool.false_ne_true h

/-- Only `void` is projected to `void`. -/
theorem jvmType_void (h : t.jvmType = .ok j) : t = .void ↔ j = .primitive .void := by
  cases t with
  | primitive k =>
      obtain rfl := Except.ok.inj h
      simp [TypeUsage.void]
  | basic u =>
      obtain rfl := Except.ok.inj h
      simp [TypeUsage.void, u.storage_ne_void]
  | reference d args =>
      obtain rfl := Except.ok.inj h
      simp [TypeUsage.void, TypeDefinition.jvmType, JvmType.ofDotted]
  | array e =>
      rw [TypeUsage.jvmType] at h
      split at h
      · cases h
      · obtain ⟨component, -, h⟩ := bind_ok_iff.1 h
        obtain rfl := pure_ok_iff.1 h
        simp [TypeUsage.void]
  | function | typeVar => cases h

/-- The JVM type of a class that the source answers is read as the class. -/
theorem ofJvmType_of_resolve {name : String} {d : TypeDefinition}
    (answered : source.resolve name = .ok (some d)) :
    ofJvmType source (.ofDotted name) = .ok (ofDefinition d) := by
  obtain ⟨valid, -⟩ := TypeSource.resolve_some_iff.1 answered
  rw [JvmType.ofDotted, ofJvmType, QualifiedName.ofInternal_toInternal valid]
  exact bind_of_ok (TypeSource.require_ok_iff.2 answered)

/-- A usage is projected, and read back it is itself but for what the projection erases. -/
theorem Describable.exists_ofJvmType (exact : source.Exact) (h : t.Describable source) :
    ∃ j back, t.jvmType = .ok j ∧ ofJvmType source j = .ok back ∧ back.same t.erased = true := by
  induction h with
  | primitive k => exact ⟨.primitive k, .primitive k, rfl, rfl, by simp [erased, same]⟩
  | basic u =>
      exact ⟨.primitive u.storage, .primitive u.storage, rfl, rfl, by simp [erased, same]⟩
  | @reference d e args answered =>
      refine ⟨d.jvmType, ofDefinition e, rfl, ofJvmType_of_resolve answered, ?_⟩
      simp [erased, ofDefinition, same, sameAll, exact _ _ answered]
  | @array e notVoid _ ih =>
      obtain ⟨j, back, hproject, hread, hsame⟩ := ih
      refine ⟨.array j, .array back, ?_, ?_, ?_⟩
      · rw [jvmType, notVoid, if_neg Bool.false_ne_true, hproject]
        rfl
      · rw [ofJvmType, hread]
        rfl
      · rw [erased, same]
        exact hsame

/-! ## Reading back -/

/-- What is read back from a descriptor is projected to it. The one type that is not, an array of
`void`, has no descriptor, and a name with a dot in it comes back with a slash. -/
theorem jvmType_of_ofJvmType (exact : source.Exact) (legal : Descriptor.IsReturn j)
    (dotless : j.Dotless) (h : ofJvmType source j = .ok t) : t.jvmType = .ok j := by
  induction j generalizing t with
  | primitive k =>
      obtain rfl := pure_ok_iff.1 h
      rfl
  | object name =>
      obtain ⟨d, hd, h⟩ := bind_ok_iff.1 h
      obtain rfl := pure_ok_iff.1 h
      have hname := exact _ _ (TypeSource.require_ok_iff.1 hd)
      rw [ofDefinition, jvmType, TypeDefinition.jvmType, JvmType.ofDotted, hname,
        QualifiedName.toInternal_ofInternal_of_notMem dotless]
  | array component ih =>
      obtain ⟨e, he, h⟩ := bind_ok_iff.1 h
      obtain rfl := pure_ok_iff.1 h
      obtain ⟨⟨notVoid, harrays⟩, hspelled⟩ := Descriptor.isReturn_iff.1 legal
      have hproject : e.jvmType = .ok component :=
        ih (Descriptor.isReturn_iff.2 ⟨harrays, hspelled⟩) dotless he
      have he' : e.isVoid ≠ true := by
        intro hvoid
        exact notVoid ((jvmType_void hproject).1 (isVoid_iff.1 hvoid))
      rw [jvmType, if_neg he', hproject]
      rfl

/-- Reading back only fails where a class that is named is not delivered. -/
theorem ofJvmType_fails (source : TypeSource (Except TypeError)) (j : JvmType) :
    FailsOnly (fun e => ∃ name, source.require name = .error e) (ofJvmType source j) := by
  induction j with
  | primitive k => exact .pure _
  | object name =>
      refine .bind ?_ fun d _ => .pure _
      intro e he
      exact ⟨_, he⟩
  | array component ih => exact .bind ih fun e _ => .pure _

/-! ## Reading texts -/

/-- What stands between `L` and `;` is the name of the class, whatever it is. -/
theorem className_of_text (name : String) :
    (Text.dropStart? "L" (JvmType.object name).text).bind (Text.dropTail? ";") = some name := by
  have hstart : Text.dropStart? "L" (JvmType.object name).text = some (name ++ ";") := by
    refine Text.dropStart?_eq_some.2 (String.toList_injective ?_)
    simp [JvmType.chars]
  rw [hstart, Option.bind_some]
  exact Text.dropTail?_eq_some.2 rfl

/-- No letter of a primitive is the `L` that starts the name of a class. -/
theorem className_of_code (k : Primitive) :
    (Text.dropStart? "L" (JvmType.primitive k).text).bind (Text.dropTail? ";") = none := by
  cases k <;> rfl

theorem ofScalarText_object (name : String) :
    ofScalarText source (JvmType.object name).text = ofJvmType source (.object name) := by
  unfold ofScalarText
  rw [className_of_text]
  rfl

theorem ofScalarText_primitive (k : Primitive) :
    ofScalarText source (JvmType.primitive k).text = ofJvmType source (.primitive k) := by
  unfold ofScalarText
  rw [className_of_code, JvmType.toList_text, JvmType.chars]
  simp only [Primitive.ofCode?_code]
  rfl

/-- Reading the text of a JVM type is reading the type, legal or not. -/
theorem ofText_text (source : TypeSource (Except TypeError)) (j : JvmType) :
    ofText source j.text = ofJvmType source j := by
  unfold ofText
  rw [JvmType.toList_text]
  induction j with
  | primitive k =>
      rw [← ofScalarText_primitive, JvmType.chars, ofChars.eq_2 _ _ fun rest h => ?_]
      · rfl
      · exact (JvmType.code_ne k).2 (List.cons.inj h).1
  | object name =>
      rw [← ofScalarText_object, JvmType.chars, ofChars.eq_2 _ _ fun rest h => ?_]
      · rfl
      · exact absurd (List.cons.inj h).1 (by decide)
  | array component ih =>
      rw [JvmType.chars, ofChars, ih]
      rfl

/-! ## There and back -/

/-- Usages and descriptors are inverse to each other, up to what a descriptor does not say.
A describable usage has a descriptor, and reads back from it without its type arguments and
with primitives for unsigned types. A usage that was read from a legal descriptor without dots
has this descriptor. And a legal descriptor is never refused as being none, whatever reads it,
unless the source itself answers a name in this way. -/
theorem usages_and_descriptors_inverse (source : TypeSource (Except TypeError)) :
    (source.Exact → ∀ t : TypeUsage, t.Describable source →
      ∃ j back, t.jvmType = .ok j ∧ ofJvmType source j = .ok back ∧
        back.same t.erased = true) ∧
    (source.Exact → ∀ text j t, JvmType.ofDescriptor text = .ok j → j.Dotless →
      ofJvmType source j = .ok t → t.jvmType = .ok j) ∧
    ((∀ name text, source.resolve name ≠ .error (.unsupportedDescriptor text)) →
      ∀ text j, JvmType.ofDescriptor text = .ok j →
        ofText source text = ofJvmType source j ∧
          ∀ other, ofText source text ≠ .error (.unsupportedDescriptor other)) := by
  refine ⟨fun exact t describable => describable.exists_ofJvmType exact, ?_, ?_⟩
  · intro exact text j t accepted dotless hread
    exact jvmType_of_ofJvmType exact (JvmType.ofDescriptor_ok_iff.1 accepted).2 dotless hread
  · intro otherwise text j accepted
    obtain ⟨rfl, -⟩ := JvmType.ofDescriptor_ok_iff.1 accepted
    refine ⟨ofText_text source j, ?_⟩
    intro other hfails
    rw [ofText_text] at hfails
    obtain ⟨name, hrequire⟩ := ofJvmType_fails source j _ hfails
    rcases TypeSource.require_error hrequire with hresolve | hmissing
    · exact otherwise name other hresolve
    · cases hmissing

/-- A library with a class `lib.Shelf`. -/
def shelfLibrary : TypeSource (Except TypeError) :=
  TypeTable.source ⟨[.empty "lib.Shelf" .classType]⟩

/-- Shelves of arrays of `ubyte`. -/
def byteShelves : TypeUsage :=
  array (reference (.empty "lib.Shelf" .classType) [array (basic .ubyte)])

theorem shelves_and_descriptors :
    (∃ j back, byteShelves.jvmType = .ok j ∧ ofJvmType shelfLibrary j = .ok back ∧
      back.same (array (ofDefinition (.empty "lib.Shelf" .classType))) = true) ∧
    (array (array (ofDefinition (.empty "lib.Shelf" .classType)))).jvmType =
      .ok (.array (.array (.object "lib/Shelf"))) ∧
    ∀ other, ofText shelfLibrary "[Llib/Book;" ≠ .error (.unsupportedDescriptor other) := by
  obtain ⟨there, back, refused⟩ := usages_and_descriptors_inverse shelfLibrary
  have answered : shelfLibrary.resolve "lib.Shelf" = .ok (some (.empty "lib.Shelf" .classType)) := by
    rfl
  have exact : shelfLibrary.Exact := TypeTable.exact _
  have named : JvmType.ofDotted "lib.Shelf" = .object "lib/Shelf" := by decide +kernel
  refine ⟨there exact byteShelves (.array rfl (.reference _ answered)), ?_, ?_⟩
  · refine back exact "[[Llib/Shelf;" (.array (.array (.object "lib/Shelf"))) _ rfl
      (by simp [JvmType.Dotless]) ?_
    rw [ofJvmType, ofJvmType, ← named, ofJvmType_of_resolve answered]
    rfl
  · refine (refused ?_ "[Llib/Book;" (.array (.object "lib/Book")) rfl).2
    intro name text h
    cases TypeTable.resolve_error h

end TypeUsage

end JvmScope
