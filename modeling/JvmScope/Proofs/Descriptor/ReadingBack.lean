import JvmScope.Proofs.Descriptor.MethodType
import Mathlib.Data.List.Basic

/-!
# Descriptors and their texts

Reading and writing descriptors are inverse to each other (`descriptors_and_texts_inverse`). What
is written of a field type, or of a method type, is read back as this very type, although nothing
stands between the types of parameters; and what is read is written as it was. All other texts are
refused, and the error has the whole text in it, wherever reading came to its end.
-/

namespace JvmScope

/-- A method descriptor is written type by type. -/
theorem JvmType.methodText_eq (params : List JvmType) (result : JvmType) :
    methodText params result = "(" ++ String.join (params.map text) ++ ")" ++ result.text := by
  have hjoin : (String.join (params.map text)).toList = params.flatMap chars := by
    rw [String.toList_join, List.flatMap_map]
    exact List.flatMap_congr fun t _ => toList_text t
  refine String.toList_injective ?_
  simp [methodText, hjoin]

namespace Descriptor

variable {α : Type} {read : List Char → Option (α × List Char)} {text : String}

/-- A text that is not read to its end is refused as a whole. -/
theorem whole_error_iff :
    whole read text = .error (.invalidDescriptor text) ↔ ¬∃ a, whole read text = .ok a := by
  unfold whole
  split
  · exact iff_of_false nofun fun refused => refused ⟨_, rfl⟩
  · exact iff_of_true rfl nofun

/-- The texts that are read as field types are those of field types, each as the type it is the
text of. The texts that are read as method types are the texts of field types in parentheses with
the text of a field type or `V` behind them, each as these types. Any other text is refused, and
the error carries all of it. -/
theorem descriptors_and_texts_inverse (text : String) :
    (∀ t, parseField text = .ok t ↔ IsField t ∧ t.text = text) ∧
    (∀ d, parseMethod text = .ok d ↔ IsMethod d ∧
      "(" ++ String.join (d.params.map JvmType.text) ++ ")" ++ d.result.text = text) ∧
    (parseField text = .error (.invalidDescriptor text) ↔ ¬∃ t, IsField t ∧ t.text = text) ∧
    (parseMethod text = .error (.invalidDescriptor text) ↔ ¬∃ d, IsMethod d ∧
      "(" ++ String.join (d.params.map JvmType.text) ++ ")" ++ d.result.text = text) ∧
    (JvmType.primitive .void).text = "V" := by
  have field : ∀ t, parseField text = .ok t ↔ IsField t ∧ t.text = text := by
    intro t
    rw [parseField_ok_iff, and_comm, eq_comm]
  have method : ∀ d, parseMethod text = .ok d ↔ IsMethod d ∧
      "(" ++ String.join (d.params.map JvmType.text) ++ ")" ++ d.result.text = text := by
    intro d
    rw [parseMethod_ok_iff, and_comm, eq_comm, MethodDescriptor.text, JvmType.methodText_eq]
  refine ⟨field, method, ?_, ?_, rfl⟩
  · simp only [← field]
    exact whole_error_iff
  · simp only [← method]
    exact whole_error_iff

end Descriptor

end JvmScope
