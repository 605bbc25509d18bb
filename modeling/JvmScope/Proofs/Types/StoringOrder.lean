import JvmScope.Proofs.Types.Failures
import JvmScope.Proofs.Types.Passing
import JvmScope.Proofs.Types.StoringRule
import Mathlib.Data.List.Forall2

/-!
# Storing as an order

Without unsigned types and type arguments, storing orders the types of values: every type can be
stored as itself, and what can be stored on can be stored at once. The type in the middle always has
the shape of the two others, also inside of arrays and functions, so the rule `Fits` is transitive
because widening is and being a subtype is.

A comparison need not find this out. It fails where a supertype of a class is missing, although the
two comparisons it follows from may have ended before they came to it. But it never answers that the
value cannot be stored. The main statement is `storing_preorder`.
-/

namespace JvmScope.TypeUsage

open TypeDefinition (IsAbove)

variable {source : TypeSource (Except TypeError)} {Below : TypeDefinition → String → Prop}
  {a b c t u : TypeUsage}

/-- Usages without unsigned types, type variables and type arguments, where each class is the one
that the source delivers under its name. -/
inductive Simple (source : TypeSource (Except TypeError)) : TypeUsage → Prop
  | primitive (k : Primitive) : Simple source (primitive k)
  | reference {d : TypeDefinition} (own : source.Delivers d) : Simple source (reference d [])
  | array {e : TypeUsage} (element : Simple source e) : Simple source (array e)
  | function {ps : List TypeUsage} {r : TypeUsage} (params : ∀ p ∈ ps, Simple source p)
      (result : Simple source r) : Simple source (function ps r)

theorem not_argsCompared_nil {d e : TypeDefinition} {bs : List TypeUsage} :
    ¬ArgsCompared d [] e bs := by
  rintro ⟨-, nonempty, -⟩
  exact nonempty rfl

/-! ## The order -/

/-- Every type fits itself. -/
theorem Simple.fits_self (self : ∀ d, Below d d.qualifiedName) (h : t.Simple source) :
    Fits Below t t := by
  induction h with
  | primitive k => exact .widened k.widensTo_self
  | @reference d own => exact .subtype not_argsCompared_nil (self d)
  | @array e element ih =>
      cases isPrimitive : e.isPrimitive with
      | true => exact .exactElement isPrimitive
      | false => exact .element (by rw [isPrimitive, Bool.or_self]) ih
  | @function ps r params result ih ihResult =>
      have each : List.Forall₂ (Fits Below) ps ps := List.forall₂_same.2 ih
      refine .function rfl ?_ ihResult
      rintro ⟨p, q⟩ mem
      exact (List.forall₂_iff_zip.1 each).2 mem

/-- Between the elements of two lists at one place stands that of a third one. -/
theorem exists_between {α β γ : Type} {as : List α} {bs : List β} {cs : List γ}
    (number : as.length = bs.length) {pair : α × γ} (mem : pair ∈ as.zip cs) :
    ∃ b, (pair.1, b) ∈ as.zip bs ∧ (b, pair.2) ∈ bs.zip cs := by
  induction as generalizing bs cs with
  | nil => exact absurd mem List.not_mem_nil
  | cons a as ih =>
      cases bs with
      | nil => cases number
      | cons b bs =>
          cases cs with
          | nil => exact absurd mem List.not_mem_nil
          | cons c cs =>
              rcases List.mem_cons.1 mem with rfl | mem
              · exact ⟨b, List.mem_cons_self, List.mem_cons_self⟩
              · obtain ⟨between, first, last⟩ := ih (Nat.succ.inj number) mem
                exact ⟨between, List.mem_cons_of_mem _ first, List.mem_cons_of_mem _ last⟩

theorem fits_arrays_trans {e f g : TypeUsage}
    (element : Fits Below e f → Fits Below f g → Fits Below e g)
    (first : Fits Below (array e) (array f)) (second : Fits Below (array f) (array g)) :
    Fits Below (array e) (array g) := by
  cases first with
  | exactElement => exact second
  | element neither inner =>
      cases second with
      | exactElement => exact .element neither inner
      | element neither' inner' =>
          have left := ((Bool.or_eq_false_iff ..).1 neither).1
          have right := ((Bool.or_eq_false_iff ..).1 neither').2
          exact .element (by rw [left, right, Bool.or_self]) (element inner inner')

theorem fits_functions_trans {ps qs rs : List TypeUsage} {e f g : TypeUsage}
    (each : ∀ p ∈ ps, ∀ q ∈ qs, ∀ r ∈ rs, Fits Below p q → Fits Below q r → Fits Below p r)
    (result : Fits Below e f → Fits Below f g → Fits Below e g)
    (first : Fits Below (function ps e) (function qs f))
    (second : Fits Below (function qs f) (function rs g)) :
    Fits Below (function ps e) (function rs g) := by
  obtain ⟨number, params, first⟩ := fits_functions_iff.1 first
  obtain ⟨number', params', second⟩ := fits_functions_iff.1 second
  refine .function (number.trans number') ?_ (result first second)
  intro pair mem
  obtain ⟨q, left, right⟩ := exists_between number mem
  exact each _ (List.of_mem_zip left).1 q (List.of_mem_zip left).2 _ (List.of_mem_zip right).2
    (params _ left) (params' _ right)

/-- The rule is transitive. -/
theorem Simple.fits_trans (exact : source.Exact) (top : source.RootOnTop) (ha : a.Simple source)
    (hb : b.Simple source) (hc : c.Simple source) (hab : Fits (IsAbove source) a b)
    (hbc : Fits (IsAbove source) b c) : Fits (IsAbove source) a c := by
  -- types of different shapes never fit, so the three types have one shape
  induction ha generalizing b c with
  | primitive k =>
      cases hab with
      | intoUnsigned => cases hb
      | widened first =>
          cases hbc with
          | intoUnsigned => cases hc
          | widened second => exact .widened (Primitive.widensTo_trans first second)
  | reference own =>
      cases hab with
      | sameArgs compared => exact absurd compared not_argsCompared_nil
      | subtype _ lower =>
          cases hb with
          | reference middle =>
              cases hbc with
              | sameArgs compared => exact absurd compared not_argsCompared_nil
              | subtype _ upper =>
                  have above := lower.trans exact top own middle upper
                  exact .subtype not_argsCompared_nil above
  | array _ ih =>
      cases hb with
      | array middle =>
          cases hc with
          | array last => exact fits_arrays_trans (ih middle last) hab hbc
          | primitive | reference | function => cases hbc
      | primitive | reference | function => cases hab
  | function _ _ ih ihResult =>
      cases hb with
      | function middle middleResult =>
          cases hc with
          | function last lastResult =>
              refine fits_functions_trans ?_ (ihResult middleResult lastResult) hab hbc
              exact fun p hp q hq r hr => ih p hp (middle q hq) (last r hr)
          | primitive | reference | array => cases hbc
      | primitive | reference | array => cases hab

/-! ## Failures -/

theorem assignableAll_fails {ps qs : List TypeUsage}
    (each : ∀ p ∈ ps, ∀ q ∈ qs, FailsOnly source.Misses (assignableTo source p q)) :
    FailsOnly source.Misses (assignableAll source ps qs) := by
  induction ps generalizing qs with
  | nil => exact .pure _
  | cons p ps ih =>
      cases qs with
      | nil => exact .pure _
      | cons q qs =>
          rw [assignableAll]
          refine .bind (each p List.mem_cons_self q List.mem_cons_self) fun fits _ => ?_
          cases fits with
          | false => exact .pure _
          | true =>
              exact ih fun p hp q hq =>
                each p (List.mem_cons_of_mem _ hp) q (List.mem_cons_of_mem _ hq)

/-- Without type variables a comparison only fails for a supertype that cannot be had. -/
theorem Simple.assignableTo_fails (ht : t.Simple source) (hu : u.Simple source) :
    FailsOnly source.Misses (assignableTo source t u) := by
  induction ht generalizing u with
  | primitive => cases hu <;> exact .pure _
  | @reference d own =>
      cases hu with
      | @reference e target =>
          rw [assignableTo_ignored not_argsCompared_nil]
          exact d.isSubtypeOf_misses e.qualifiedName
      | primitive | array | function => exact .pure _
  | @array e element ih =>
      cases hu with
      | @array f target =>
          cases either : e.isPrimitive || f.isPrimitive with
          | true =>
              obtain ⟨answer, decided, -⟩ := assignableTo_arrays_exact source either
              rw [decided]
              exact .pure _
          | false =>
              rw [assignableTo_arrays source either]
              exact ih target
      | primitive | reference | function => exact .pure _
  | @function ps r params result ih ihResult =>
      cases hu with
      | @function qs r' targets target =>
          by_cases number : ps.length = qs.length
          · rw [assignableTo_functions source number]
            refine .bind (assignableAll_fails fun p hp q hq => ih p hp (targets q hq)) ?_
            intro fits _
            cases fits with
            | false => exact .pure _
            | true => exact ihResult target
          · rw [assignableTo, if_neg number]
            exact .pure _
      | primitive | reference | array => exact .pure _

/-- Over a source that answers names with definitions of these names, and that has nothing above
`java.lang.Object`, storing is a preorder of the types without unsigned types, type variables and
type arguments. A value can be stored where its own type is expected. If it can be stored where a
second type is expected, and values of the second where a third is, then it is never answered that
the value cannot be stored where the third is expected. There is no answer at all only where some
supertype cannot be had. -/
theorem storing_preorder (exact : source.Exact) (top : source.RootOnTop) :
    (∀ a, a.Simple source → assignableTo source a a = .ok true) ∧
    ∀ a b c, a.Simple source → b.Simple source → c.Simple source →
      assignableTo source a b = .ok true → assignableTo source b c = .ok true →
      assignableTo source a c ≠ .ok false ∧
        ∀ e, assignableTo source a c = .error e → source.Misses e := by
  constructor
  · intro a ha
    have self : ∀ d, Found source d d.qualifiedName := by
      intro d
      unfold Found TypeDefinition.isSubtypeOf
      exact if_pos (.inr rfl)
    exact assignable_of_fits (ha.fits_self self)
  · intro a b c ha hb hc hab hbc
    have decides := decides_isAbove source
    have fits : Fits (IsAbove source) a c :=
      ha.fits_trans exact top hb hc ((answer_iff_fits decides hab).1 rfl)
        ((answer_iff_fits decides hbc).1 rfl)
    refine ⟨fun refused => ?_, ha.assignableTo_fails hc⟩
    exact Bool.false_ne_true ((answer_iff_fits decides refused).2 fits)

/-! ## A gap on the way up -/

/-- Functions that make squares of a `byte`. -/
def squareMaker : TypeUsage :=
  function [primitive .byte] (array (reference JvmType.square []))

/-- Functions that make quads of an `int`. -/
def quadMaker : TypeUsage :=
  function [primitive .int] (array (reference JvmType.quad []))

/-- Functions that make shapes of a `long`. -/
def shapeMaker : TypeUsage :=
  function [primitive .long] (array (ofDefinition (.empty "lib.Shape" .interfaceType)))

/-- Makers are compared as their parameters and the classes of what they make. -/
theorem makers_fit {k l : Primitive} {d e : TypeDefinition} (widens : k.widensTo l = true)
    (below : Below d e.qualifiedName) :
    Fits Below (function [primitive k] (array (reference d [])))
      (function [primitive l] (array (reference e []))) := by
  refine .function rfl ?_ (.element rfl (.subtype not_argsCompared_nil below))
  intro pair mem
  rw [List.mem_singleton.1 mem]
  exact .widened widens

theorem maker_simple {k : Primitive} {d : TypeDefinition} (own : source.Delivers d) :
    (function [primitive k] (array (reference d []))).Simple source := by
  refine .function (fun p mem => ?_) (.array (.reference own))
  rw [List.mem_singleton.1 mem]
  exact .primitive k

theorem makers_in_order :
    assignableTo JvmType.shapeLibrary squareMaker squareMaker = .ok true ∧
    assignableTo JvmType.shapeLibrary squareMaker shapeMaker ≠ .ok false ∧
      ∀ e, assignableTo JvmType.shapeLibrary squareMaker shapeMaker = .error e →
        JvmType.shapeLibrary.Misses e := by
  have squares : squareMaker.Simple JvmType.shapeLibrary := maker_simple JvmType.square_delivered
  have quads : quadMaker.Simple JvmType.shapeLibrary := maker_simple JvmType.quad_delivered
  have shapes : shapeMaker.Simple JvmType.shapeLibrary := maker_simple rfl
  have first : assignableTo JvmType.shapeLibrary squareMaker quadMaker = .ok true :=
    assignable_of_fits (makers_fit (by decide)
      (TypeDefinition.isSubtypeOf_first (by decide) (by decide) rfl))
  have second : assignableTo JvmType.shapeLibrary quadMaker shapeMaker = .ok true :=
    assignable_of_fits (makers_fit (by decide)
      (TypeDefinition.isSubtypeOf_first (by decide) (by decide) rfl))
  obtain ⟨self, order⟩ :=
    storing_preorder (TypeTable.exact JvmType.shapes) JvmType.shapeLibrary_rootOnTop
  exact ⟨self _ squares, order _ quadMaker _ squares quads shapes first second⟩

end JvmScope.TypeUsage
