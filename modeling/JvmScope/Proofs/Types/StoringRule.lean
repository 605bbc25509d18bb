import JvmScope.Proofs.Types.Substitution
import JvmScope.Proofs.Types.Subtypes

/-!
# The rule of storing

`TypeUsage.Fits` is the rule by which a value of one type can be stored where another is expected,
with one clause for each way in which it can. It leaves open when a class is below another one, and
there are two readings of that. If it is what a search finds (`Found`), the rule holds exactly of
the usages whose comparison succeeds (`assignable_iff_fits`). If it is what the supertypes that the
source delivers lead to (`IsAbove`), the rule is what any answer of a comparison is about
(`answer_iff_fits`), and only a comparison without an answer says nothing about it.
-/

namespace JvmScope.TypeUsage

variable {source : TypeSource (Except TypeError)} {Below : TypeDefinition → String → Prop}
  {t u e f : TypeUsage} {answer : Bool}

/-- Type arguments are looked at: both references have some, and they name one class. -/
def ArgsCompared (d : TypeDefinition) (as : List TypeUsage) (e : TypeDefinition)
    (bs : List TypeUsage) : Prop :=
  d.qualifiedName = e.qualifiedName ∧ ¬as.isEmpty ∧ ¬bs.isEmpty

/-- The rule by which a value of the first type can be stored where the second is expected, given
when a class is below one of some name. -/
inductive Fits (Below : TypeDefinition → String → Prop) : TypeUsage → TypeUsage → Prop
  | widened {k l : Primitive} (widens : k.widensTo l = true) :
      Fits Below (primitive k) (primitive l)
  /-- Unsigned types widen as their storage does. -/
  | unsignedWidened {v : Unsigned} {l : Primitive} (widens : v.storage.widensTo l = true) :
      Fits Below (basic v) (primitive l)
  | intoUnsigned (v : Unsigned) : Fits Below (primitive v.storage) (basic v)
  | unsigned (v : Unsigned) : Fits Below (basic v) (basic v)
  | sameArgs {d e : TypeDefinition} {as bs : List TypeUsage} (compared : ArgsCompared d as e bs)
      (same : sameAll as bs = true) : Fits Below (reference d as) (reference e bs)
  | subtype {d e : TypeDefinition} {as bs : List TypeUsage} (ignored : ¬ArgsCompared d as e bs)
      (isBelow : Below d e.qualifiedName) : Fits Below (reference d as) (reference e bs)
  /-- Neither widening nor storage counts inside of arrays. -/
  | exactElement {e : TypeUsage} (isPrimitive : e.isPrimitive = true) :
      Fits Below (array e) (array e)
  | element {e f : TypeUsage} (neither : (e.isPrimitive || f.isPrimitive) = false)
      (inner : Fits Below e f) : Fits Below (array e) (array f)
  | function {ps qs : List TypeUsage} {r r' : TypeUsage} (number : ps.length = qs.length)
      (params : ∀ pair ∈ ps.zip qs, Fits Below pair.1 pair.2) (result : Fits Below r r') :
      Fits Below (function ps r) (function qs r')

theorem fits_functions_iff {ps qs : List TypeUsage} :
    Fits Below (function ps e) (function qs f) ↔
      ps.length = qs.length ∧ (∀ pair ∈ ps.zip qs, Fits Below pair.1 pair.2) ∧ Fits Below e f := by
  constructor
  · intro fits
    cases fits with
    | function number params result => exact ⟨number, params, result⟩
  · rintro ⟨number, params, result⟩
    exact .function number params result

/-! ## What answers say -/

/-- A search for a supertype that ends with an answer says whether the class is below that name. -/
def Decides (source : TypeSource (Except TypeError)) (Below : TypeDefinition → String → Prop) :
    Prop :=
  ∀ d name found, d.isSubtypeOf source name = .ok found → (found = true ↔ Below d name)

theorem decides_isAbove (source : TypeSource (Except TypeError)) :
    Decides source (TypeDefinition.IsAbove source) :=
  fun _ _ _ h => TypeDefinition.isSubtypeOf_ok_iff h

theorem assignableTo_compared {d e : TypeDefinition} {as bs : List TypeUsage}
    (compared : ArgsCompared d as e bs) :
    assignableTo source (reference d as) (reference e bs) = .ok (sameAll as bs) := by
  rw [assignableTo]
  exact if_pos compared

theorem assignableTo_ignored {d e : TypeDefinition} {as bs : List TypeUsage}
    (ignored : ¬ArgsCompared d as e bs) :
    assignableTo source (reference d as) (reference e bs) =
      d.isSubtypeOf source e.qualifiedName := by
  rw [assignableTo]
  exact if_neg ignored

/-- Where a comparison is refused at once, the usages must not fit. -/
theorem refused_iff {p : Prop} (h : (pure false : Except TypeError Bool) = .ok answer)
    (never : ¬p) : answer = true ↔ p := by
  obtain rfl := pure_ok_iff.1 h
  exact iff_of_false Bool.false_ne_true never

theorem answer_iff_fits_references (decides : Decides source Below) {d e : TypeDefinition}
    {as bs : List TypeUsage}
    (h : assignableTo source (reference d as) (reference e bs) = .ok answer) :
    answer = true ↔ Fits Below (reference d as) (reference e bs) := by
  by_cases compared : ArgsCompared d as e bs
  · rw [assignableTo_compared compared] at h
    obtain rfl := Except.ok.inj h
    constructor
    · exact .sameArgs compared
    · intro fits
      cases fits with
      | sameArgs _ same => exact same
      | subtype ignored => exact absurd compared ignored
  · rw [assignableTo_ignored compared] at h
    rw [decides _ _ _ h]
    constructor
    · exact .subtype compared
    · intro fits
      cases fits with
      | sameArgs compared' => exact absurd compared' compared
      | subtype _ isBelow => exact isBelow

theorem answer_iff_fits_arrays
    (element : ∀ answer, assignableTo source e f = .ok answer → (answer = true ↔ Fits Below e f))
    (h : assignableTo source (array e) (array f) = .ok answer) :
    answer = true ↔ Fits Below (array e) (array f) := by
  cases either : e.isPrimitive || f.isPrimitive with
  | true =>
      obtain ⟨b, decided, same⟩ := assignableTo_arrays_exact source either
      obtain rfl := Except.ok.inj (decided.symm.trans h)
      rw [same]
      constructor
      · rintro rfl
        rw [Bool.or_self] at either
        exact .exactElement either
      · intro fits
        cases fits with
        | exactElement => rfl
        | element neither => exact Bool.noConfusion (either.symm.trans neither)
  | false =>
      rw [assignableTo_arrays source either] at h
      rw [element answer h]
      constructor
      · exact .element either
      · intro fits
        cases fits with
        | exactElement isPrimitive =>
            rw [isPrimitive] at either
            cases either
        | element _ inner => exact inner

/-- Parameters are compared in order, and the first one that does not fit decides. -/
theorem answer_iff_fits_all {ps qs : List TypeUsage}
    (each : ∀ p ∈ ps, ∀ q answer, assignableTo source p q = .ok answer →
      (answer = true ↔ Fits Below p q))
    (h : assignableAll source ps qs = .ok answer) :
    answer = true ↔ ∀ pair ∈ ps.zip qs, Fits Below pair.1 pair.2 := by
  induction ps generalizing qs with
  | nil =>
      obtain rfl := pure_ok_iff.1 h
      exact iff_of_true rfl (List.forall_mem_nil _)
  | cons p ps ih =>
      cases qs with
      | nil =>
          obtain rfl := pure_ok_iff.1 h
          exact iff_of_true rfl (List.forall_mem_nil _)
      | cons q qs =>
          rw [assignableAll] at h
          obtain ⟨first, hfirst, h⟩ := bind_ok_iff.1 h
          have firstFits := each p List.mem_cons_self q first hfirst
          rw [List.zip_cons_cons, List.forall_mem_cons, ← firstFits]
          cases first with
          | true =>
              have rest := ih (fun p hp => each p (List.mem_cons_of_mem _ hp)) h
              rw [rest]
              exact (and_iff_right rfl).symm
          | false => exact refused_iff h fun both => Bool.false_ne_true both.1

theorem answer_iff_fits_functions {ps qs : List TypeUsage}
    (each : ∀ p ∈ ps, ∀ q answer, assignableTo source p q = .ok answer →
      (answer = true ↔ Fits Below p q))
    (result : ∀ answer, assignableTo source e f = .ok answer → (answer = true ↔ Fits Below e f))
    (h : assignableTo source (function ps e) (function qs f) = .ok answer) :
    answer = true ↔ Fits Below (function ps e) (function qs f) := by
  rw [fits_functions_iff]
  by_cases number : ps.length = qs.length
  · rw [assignableTo_functions source number] at h
    obtain ⟨all, hall, h⟩ := bind_ok_iff.1 h
    rw [and_iff_right number, ← answer_iff_fits_all each hall]
    cases all with
    | true => rw [result answer h, and_iff_right rfl]
    | false => exact refused_iff h fun both => Bool.false_ne_true both.1
  · rw [assignableTo, if_neg number] at h
    exact refused_iff h fun parts => number parts.1

/-- A comparison that ends with an answer says whether the value fits. -/
theorem answer_iff_fits (decides : Decides source Below)
    (h : assignableTo source t u = .ok answer) : answer = true ↔ Fits Below t u := by
  -- only usages of one shape, or a primitive and an unsigned type, have anything to compare
  induction t using inductionOn generalizing u answer with
  | primitive k =>
      cases u with
      | primitive l =>
          obtain rfl := pure_ok_iff.1 h
          constructor
          · exact .widened
          · intro fits
            cases fits with
            | widened widens => exact widens
      | basic v =>
          obtain rfl := pure_ok_iff.1 h
          rw [beq_iff_eq]
          constructor
          · rintro rfl
            exact .intoUnsigned v
          · intro fits
            cases fits with
            | intoUnsigned => rfl
      | typeVar => cases h
      | reference | array | function => exact refused_iff h nofun
  | basic v =>
      cases u with
      | primitive l =>
          obtain rfl := pure_ok_iff.1 h
          constructor
          · exact .unsignedWidened
          · intro fits
            cases fits with
            | unsignedWidened widens => exact widens
      | basic w =>
          obtain rfl := pure_ok_iff.1 h
          rw [beq_iff_eq]
          constructor
          · rintro rfl
            exact .unsigned v
          · intro fits
            cases fits with
            | unsigned => rfl
      | typeVar => cases h
      | reference | array | function => exact refused_iff h nofun
  | reference d as =>
      cases u with
      | reference e bs => exact answer_iff_fits_references decides h
      | typeVar => cases h
      | primitive | basic | array | function => exact refused_iff h nofun
  | array e ih =>
      cases u with
      | array f => exact answer_iff_fits_arrays (fun _ => ih) h
      | typeVar => cases h
      | primitive | basic | reference | function => exact refused_iff h nofun
  | function ps r ih ihResult =>
      cases u with
      | function qs r' =>
          exact answer_iff_fits_functions (fun p hp _ _ => ih p hp) (fun _ => ihResult) h
      | typeVar => cases h
      | primitive | basic | reference | array => exact refused_iff h nofun
  | typeVar => cases h

/-! ## Comparisons that succeed -/

/-- The search for the name succeeds. -/
def Found (source : TypeSource (Except TypeError)) (d : TypeDefinition) (name : String) : Prop :=
  d.isSubtypeOf source name = .ok true

theorem decides_found (source : TypeSource (Except TypeError)) : Decides source (Found source) := by
  intro d name found h
  unfold Found
  rw [h, Except.ok.injEq]

theorem assignableAll_of_zip {ps qs : List TypeUsage}
    (h : ∀ pair ∈ ps.zip qs, assignableTo source pair.1 pair.2 = .ok true) :
    assignableAll source ps qs = .ok true := by
  induction ps generalizing qs with
  | nil => rfl
  | cons p ps ih =>
      cases qs with
      | nil => rfl
      | cons q qs =>
          rw [List.zip_cons_cons, List.forall_mem_cons] at h
          rw [assignableAll, bind_of_ok h.1]
          exact ih h.2

/-- Where the searches that are needed succeed, the comparison does. -/
theorem assignable_of_fits (h : Fits (Found source) t u) : assignableTo source t u = .ok true := by
  induction h with
  | widened widens | unsignedWidened widens =>
      rw [assignableTo, widens]
      rfl
  | intoUnsigned v | unsigned v =>
      rw [assignableTo, beq_self_eq_true]
      rfl
  | sameArgs compared same => rw [assignableTo_compared compared, same]
  | subtype ignored isBelow =>
      rw [assignableTo_ignored ignored]
      exact isBelow
  | @exactElement e isPrimitive =>
      have either : (e.isPrimitive || e.isPrimitive) = true := by rw [isPrimitive, Bool.or_self]
      obtain ⟨b, decided, same⟩ := assignableTo_arrays_exact source either
      obtain rfl := same.2 rfl
      exact decided
  | element neither _ ih =>
      rw [assignableTo_arrays source neither]
      exact ih
  | function number _ _ ih ihResult =>
      rw [assignableTo_functions source number, bind_of_ok (assignableAll_of_zip ih)]
      exact ihResult

/-- The comparisons that succeed are those of usages that fit by what searches find. -/
theorem assignable_iff_fits : assignableTo source t u = .ok true ↔ Fits (Found source) t u := by
  constructor
  · intro h
    exact (answer_iff_fits (decides_found source) h).1 rfl
  · exact assignable_of_fits

end JvmScope.TypeUsage
