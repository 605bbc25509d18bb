import JvmScope.Classpath.Loader
import JvmScope.Proofs.Signature.TypeParameters
import JvmScope.Proofs.Types.Erasure

/-!
# Bounds of type parameters

Signatures are read leniently: in the name of a class any character may stand, brackets and colons
included, as long as it means nothing there, and type arguments may stand wherever a character may.
What is left of a bound is a legal type all the same. The name collected for a class is not empty,
and it has no `;` in it, since the first one outside of type arguments ends it. Of the letters that
stand for primitives only those of field types are taken for components of arrays.

So the descriptor of a bound is always read as this bound. Whether the bounds of type parameters are
taken as they are or written out and read again, the same signatures load, with the same parameters
(`parametersByParts_eq`). The main statement is `bounds_always_load`.
-/

namespace JvmScope

namespace Signature

open Descriptor (IsField)
open Text (After Rest)

variable {t : JvmType} {cs name after : List Char} {bounds : List JvmType} {p : TypeParameter}
  {params : List TypeParameter} {text : String}

/-- Field types that are classes or arrays. -/
def IsBound (t : JvmType) : Prop := IsField t ∧ t.isReference = true

/-! ## Single bounds -/

theorem isBound_object (nonempty : name ≠ []) (endable : ';' ∉ name) :
    IsBound (.object (String.ofList name)) := by
  refine ⟨⟨fun empty => nonempty (String.ofList_eq_empty_iff.1 empty), ?_⟩, rfl⟩
  rw [String.toList_ofList]
  exact endable

theorem IsBound.array (h : IsBound t) : IsBound (.array t) := ⟨h.1, rfl⟩

/-- A class is named by the characters that were collected, and by those in front of the `;`. -/
theorem isBound_of_classType? (h : bare (classType? name cs) = some (t, after))
    (endable : ';' ∉ name) : IsBound t := by
  -- the text behind type arguments is shorter, but need not be the rest of this one
  induction hlength : cs.length using Nat.strongRecOn generalizing name cs with
  | ind length ih =>
      subst hlength
      cases cs with
      | nil =>
          rw [classType?] at h
          cases h
      | cons c rest =>
          by_cases special : c ∈ ['.', ';', '<']
          · simp only [List.mem_cons, List.not_mem_nil, or_false] at special
            rcases special with rfl | rfl | rfl
            · rw [classType?_dot] at h
              exact ih _ (Nat.lt_succ_self _) h (by simpa using endable) rfl
            · by_cases nonempty : name = []
              · rw [classType?, nonempty] at h
                cases h
              · rw [classType?_close nonempty] at h
                obtain ⟨rfl, -⟩ := Prod.mk.inj (Option.some.inj h)
                exact isBound_object (by simpa using nonempty) (by simpa using endable)
            · cases args : typeArguments? rest with
              | none =>
                  rw [classType?, args] at h
                  cases h
              | some behind =>
                  rw [classType?_open (congrArg (Option.map Subtype.val) args)] at h
                  exact ih _ (Nat.lt_succ_of_lt behind.2) h endable rfl
          · rw [classType?_cons special] at h
            refine ih _ (Nat.lt_succ_self _) h ?_ rfl
            rw [List.mem_cons, not_or]
            refine ⟨?_, endable⟩
            rintro rfl
            exact special (by decide)

theorem isBound_erasedVariable : IsBound erasedVariable :=
  ⟨⟨by decide +kernel, by decide +kernel⟩, rfl⟩

/-- What is read as a reference type is erased to a legal one. -/
theorem isBound_of_referenceType? {left : After cs} (h : referenceType? cs = some (t, left)) :
    IsBound t := by
  induction cs generalizing t with
  | nil =>
      rw [referenceType?.eq_4 [] (by simp) (by simp) (by simp)] at h
      cases h
  | cons c cs ih =>
      have read := bare_eq_some_iff.2 ⟨left.2, h⟩
      obtain ⟨_, _, same, start⟩ := start_of_referenceType? read
      obtain ⟨rfl, rfl⟩ := List.cons.inj same
      rcases start with rfl | rfl | rfl
      · rw [referenceType?_class] at read
        exact isBound_of_classType? read List.not_mem_nil
      · rw [referenceType?] at h
        obtain ⟨_, -, erased⟩ := Option.map_eq_some_iff.1 h
        obtain ⟨rfl, -⟩ := Prod.mk.inj erased
        exact isBound_erasedVariable
      · cases cs with
        | nil =>
            rw [referenceType?.eq_4 ['['] (by simp) (by simp) (by simp)] at h
            cases h
        | cons c rest =>
            rw [referenceType?] at h
            split at h
            · rename_i code
              obtain ⟨rfl, -⟩ := Prod.mk.inj (Option.some.inj h)
              exact ⟨(Primitive.ofFieldCode?_eq_some.1 code).2, rfl⟩
            · obtain ⟨_, component, erased⟩ := Option.map_eq_some_iff.1 h
              obtain ⟨rfl, -⟩ := Prod.mk.inj erased
              exact (ih component).array

/-! ## Type parameters -/

theorem isBound_of_classBound? {left : Rest cs} (h : classBound? cs = some (bounds, left)) :
    ∀ b ∈ bounds, IsBound b := by
  unfold classBound? at h
  split at h
  · obtain ⟨_, read, same⟩ := Option.map_eq_some_iff.1 h
    obtain ⟨rfl, -⟩ := Prod.mk.inj same
    rw [List.forall_mem_singleton]
    exact isBound_of_referenceType? read
  · obtain ⟨rfl, -⟩ := Prod.mk.inj (Option.some.inj h)
    exact List.forall_mem_nil _

theorem isBound_of_interfaceBounds? {left : Rest cs}
    (h : interfaceBounds? cs = some (bounds, left)) : ∀ b ∈ bounds, IsBound b := by
  fun_induction interfaceBounds? cs generalizing bounds with
  | case1 => cases h
  | case2 rest t behind short read ih =>
      obtain ⟨_, more, same⟩ := Option.map_eq_some_iff.1 h
      obtain ⟨rfl, -⟩ := Prod.mk.inj same
      rw [List.forall_mem_cons]
      exact ⟨isBound_of_referenceType? read, ih more⟩
  | case3 =>
      obtain ⟨rfl, -⟩ := Prod.mk.inj (Option.some.inj h)
      exact List.forall_mem_nil _

/-- Type parameters with a name and legal bounds. -/
structure IsLegal (p : TypeParameter) : Prop where
  name : p.name ≠ ""
  bounds : ∀ b ∈ p.bounds, IsBound b

theorem nonempty_of_terminated? {c : Char} {left : After cs}
    (h : terminated? c cs = some (name, left)) : name ≠ [] := by
  unfold terminated? at h
  split at h
  · split at h
    · obtain ⟨rfl, -⟩ := Prod.mk.inj (Option.some.inj h)
      exact List.cons_ne_nil _ _
    · cases h
  · cases h

theorem isLegal_of_parameter? {left : After cs} (h : parameter? cs = some (p, left)) :
    IsLegal p := by
  unfold parameter? at h
  split at h
  · cases h
  · rename_i named
    split at h
    · cases h
    · rename_i first
      obtain ⟨_, others, same⟩ := Option.map_eq_some_iff.1 h
      obtain ⟨rfl, -⟩ := Prod.mk.inj same
      have nonempty := nonempty_of_terminated? named
      refine ⟨fun empty => nonempty (String.ofList_eq_empty_iff.1 empty), ?_⟩
      rw [List.forall_mem_append]
      exact ⟨isBound_of_classBound? first, isBound_of_interfaceBounds? others⟩

theorem isLegal_of_parameters? (h : parameters? cs = some params) : ∀ p ∈ params, IsLegal p := by
  fun_induction parameters? cs generalizing params with
  | case1 =>
      obtain rfl := Option.some.inj h
      exact List.forall_mem_nil _
  | case2 => cases h
  | case3 cs closes p behind short read ih =>
      obtain ⟨_, more, rfl⟩ := Option.map_eq_some_iff.1 h
      rw [List.forall_mem_cons]
      exact ⟨isLegal_of_parameter? read, ih more⟩

/-- Whatever text is accepted, its type parameters are legal. -/
theorem isLegal_of_typeParameters (h : typeParameters text = .ok params) :
    ∀ p ∈ params, IsLegal p := by
  unfold typeParameters at h
  split at h
  · split at h
    · rename_i read
      obtain rfl := Except.ok.inj h
      exact isLegal_of_parameters? read
    · cases h
  · obtain rfl := Except.ok.inj h
    exact List.forall_mem_nil _

/-- The descriptor of a bound is read as the bound. -/
theorem IsBound.ofDescriptor_text (h : IsBound t) : JvmType.ofDescriptor t.text = .ok t :=
  JvmType.ofDescriptor_ok_iff.2 ⟨rfl, .inr h.1⟩

end Signature

namespace Loader

/-- The type parameters of a signature, each of their bounds written out and read by itself. -/
def parametersByParts (owner : String) :
    Option String → Except ClasspathError (List TypeParameter)
  | none => pure []
  | some signature => do
    let params ← ofFormat owner (Signature.typeParameters signature)
    params.mapM fun p => do
      let bounds ← (p.bounds.mapM fun b => JvmType.ofDescriptor b.text).mapError .type
      pure { p with bounds }

/-- Reading bounds from their descriptors neither changes type parameters nor fails. -/
theorem parametersByParts_eq (owner : String) (signature : Option String) :
    parametersByParts owner signature = typeParameters owner signature := by
  cases signature with
  | none => rfl
  | some text =>
      show (do
        let params ← ofFormat owner (Signature.typeParameters text)
        params.mapM fun p => do
          let bounds ← (p.bounds.mapM fun b => JvmType.ofDescriptor b.text).mapError .type
          pure { p with bounds }) = ofFormat owner (Signature.typeParameters text)
      cases accepted : Signature.typeParameters text with
      | error => rfl
      | ok params =>
          refine mapM_ok_iff_forall₂.2 (List.forall₂_same.2 fun p mem => ?_)
          have legal := Signature.isLegal_of_typeParameters accepted p mem
          have read : (p.bounds.mapM fun b => JvmType.ofDescriptor b.text) = .ok p.bounds :=
            mapM_ok_iff_forall₂.2 (List.forall₂_same.2 fun b hb =>
              (legal.bounds b hb).ofDescriptor_text)
          rw [read]
          rfl

/-- Let a text be accepted as a signature, grammatical or not. Each of its type parameters has a
name, and each of their bounds is a class or an array, the descriptor of which is accepted and read
as this bound. So no signature fails to load for a bound: reading all bounds from their descriptors
gives the same type parameters, or the same failure to read the signature. -/
theorem bounds_always_load (text : String) :
    (∀ params, Signature.typeParameters text = .ok params → ∀ p ∈ params, p.name ≠ "" ∧
      ∀ b ∈ p.bounds, JvmType.ofDescriptor b.text = .ok b ∧ b.isReference = true) ∧
    ∀ owner, parametersByParts owner (some text) =
      ofFormat owner (Signature.typeParameters text) := by
  constructor
  · intro params accepted p mem
    have legal := Signature.isLegal_of_typeParameters accepted p mem
    exact ⟨legal.name, fun b hb => ⟨(legal.bounds b hb).ofDescriptor_text, (legal.bounds b hb).2⟩⟩
  · intro owner
    exact parametersByParts_eq owner (some text)

/-- Type parameters that are read from an ungrammatical text: a class has a bracket and a colon in
its name and arguments in the middle of it, and a variable is an interface bound. -/
def looseParameters : List TypeParameter :=
  [⟨"T", [.object "a>b:c$d", .array (.array (.object "x"))]⟩, ⟨"U", [.object "java/lang/Object"]⟩]

theorem looseParameters_load :
    Signature.typeParameters "<T:La>b:c<+[I>.d;:[[Lx;U::TT;>" = .ok looseParameters ∧
    (∀ p ∈ looseParameters, p.name ≠ "" ∧
      ∀ b ∈ p.bounds, JvmType.ofDescriptor b.text = .ok b ∧ b.isReference = true) ∧
    parametersByParts "lib.Loose" (some "<T:La>b:c<+[I>.d;:[[Lx;U::TT;>") =
      .ok looseParameters := by
  have accepted :
      Signature.typeParameters "<T:La>b:c<+[I>.d;:[[Lx;U::TT;>" = .ok looseParameters := by
    cbv
  have load := bounds_always_load "<T:La>b:c<+[I>.d;:[[Lx;U::TT;>"
  refine ⟨accepted, load.1 _ accepted, ?_⟩
  rw [load.2 "lib.Loose", accepted]
  rfl

end Loader

end JvmScope
