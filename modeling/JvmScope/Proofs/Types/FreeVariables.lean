import JvmScope.Proofs.Outcome
import JvmScope.Types.Assignability

/-!
# Comparing usages with type variables

Whether a value can be stored is not known as long as a type variable stands in the way, so a
comparison that meets one fails. What it answers should then be the answer after every
substitution.

One place is an exception. Arrays are compared by the storage of their elements as soon as one of
these is a primitive or an unsigned type, and an element that is a variable counts as another
element then, although it may stand for the very same one. `Overlooked` says of two usages that
they hold such arrays in corresponding places. Of usages without type arguments,
`answer_of_substitute` says that the two answers differ if and only if the substitution makes
the comparison succeed and a variable was overlooked, and that where there is no answer before the
substitution, the failure is that of a variable.
-/

namespace JvmScope.TypeUsage

variable {source : TypeSource (Except TypeError)} {s : String → Option TypeUsage}
  {t u e f : TypeUsage}

/-! ## Variables -/

mutual

/-- The names of the type variables in a usage, those in bounds excepted. -/
def varNames : TypeUsage → List String
  | typeVar name _ _ => [name]
  | array e => varNames e
  | function params result => varNamesAll params ++ varNames result
  | reference _ args => varNamesAll args
  | primitive _ | basic _ => []

/-- The names of the type variables in several usages. -/
def varNamesAll : List TypeUsage → List String
  | [] => []
  | t :: rest => varNames t ++ varNamesAll rest

end

/-- No reference in the usage has type arguments, those in bounds excepted. -/
inductive Plain : TypeUsage → Prop
  | primitive (k : Primitive) : Plain (primitive k)
  | basic (t : Unsigned) : Plain (basic t)
  | reference (d : TypeDefinition) : Plain (ofDefinition d)
  | array {e : TypeUsage} (element : Plain e) : Plain (array e)
  | function {ps : List TypeUsage} {r : TypeUsage} (params : ∀ p ∈ ps, Plain p)
      (result : Plain r) : Plain (function ps r)
  | typeVar (name : String) (site : GenericSite) (bounds : List TypeUsage) :
      Plain (typeVar name site bounds)

/-- In corresponding places of the two usages, an array of a primitive or unsigned type meets an
array of a variable that stands for this type. -/
inductive Overlooked (s : String → Option TypeUsage) : TypeUsage → TypeUsage → Prop
  | left {name : String} {site : GenericSite} {bounds : List TypeUsage} {e : TypeUsage}
      (primitive : e.isPrimitive = true) (bound : s name = some e) :
      Overlooked s (array (typeVar name site bounds)) (array e)
  | right {name : String} {site : GenericSite} {bounds : List TypeUsage} {e : TypeUsage}
      (primitive : e.isPrimitive = true) (bound : s name = some e) :
      Overlooked s (array e) (array (typeVar name site bounds))
  | element {e f : TypeUsage} (inner : Overlooked s e f) : Overlooked s (array e) (array f)
  | param {ps qs : List TypeUsage} {p q r r' : TypeUsage} (mem : (p, q) ∈ ps.zip qs)
      (inner : Overlooked s p q) : Overlooked s (function ps r) (function qs r')
  | result {ps qs : List TypeUsage} {r r' : TypeUsage} (inner : Overlooked s r r') :
      Overlooked s (function ps r) (function qs r')

/-! ## Substitution and shape -/

theorem substitute_of_isPrimitive (h : t.isPrimitive = true) : t.substitute s = t := by
  cases t with
  | primitive | basic => rw [substitute]
  | reference | array | function | typeVar => cases h

/-- What is no variable keeps its shape. -/
theorem isPrimitive_substitute (h : t.isVariable = false) :
    (t.substitute s).isPrimitive = t.isPrimitive := by
  cases t with
  | typeVar => cases h
  | primitive | basic | reference | array | function => rfl

/-- What a substitution turns into a primitive is a variable that stands for it. -/
theorem variable_of_substitute (primitive : e.isPrimitive = true) (h : t.substitute s = e)
    (other : t ≠ e) : ∃ name site bounds, t = typeVar name site bounds ∧ s name = some e := by
  cases t with
  | typeVar name site bounds =>
      refine ⟨name, site, bounds, rfl, ?_⟩
      rw [substitute] at h
      cases hbound : s name with
      | none =>
          rw [hbound] at h
          exact absurd h other
      | some bound =>
          rw [hbound] at h
          exact congrArg some h
  | primitive | basic => exact absurd h other
  | reference | array | function =>
      rw [substitute] at h
      subst h
      cases primitive

theorem substituteAll_length (ps : List TypeUsage) : (substituteAll s ps).length = ps.length := by
  induction ps with
  | nil => rfl
  | cons p ps ih => rw [substituteAll, List.length_cons, List.length_cons, ih]

/-! ## Comparing -/

theorem assignableTo_of_mem_zip {ps qs : List TypeUsage} {pair : TypeUsage × TypeUsage}
    (h : assignableAll source ps qs = .ok true) (mem : pair ∈ ps.zip qs) :
    assignableTo source pair.1 pair.2 = .ok true := by
  induction ps generalizing qs with
  | nil => exact absurd mem List.not_mem_nil
  | cons p ps ih =>
      cases qs with
      | nil => exact absurd mem List.not_mem_nil
      | cons q qs =>
          rw [assignableAll] at h
          obtain ⟨fits, hfits, h⟩ := bind_ok_iff.1 h
          cases fits with
          | false => cases h
          | true =>
              rcases List.mem_cons.1 mem with rfl | mem
              · exact hfits
              · exact ih h mem

/-- Functions are assignable if their parameters and results are. -/
theorem assignable_parts {ps qs : List TypeUsage} {r r' : TypeUsage}
    (h : assignableTo source (function ps r) (function qs r') = .ok true) :
    assignableAll source ps qs = .ok true ∧ assignableTo source r r' = .ok true := by
  by_cases number : ps.length = qs.length
  · rw [assignableTo_functions source number] at h
    obtain ⟨fits, hfits, h⟩ := bind_ok_iff.1 h
    cases fits with
    | true => exact ⟨hfits, h⟩
    | false => cases h
  · rw [assignableTo, if_neg number] at h
    cases h

/-- Arrays are not assignable if their elements differ and one is a primitive or unsigned type. -/
theorem not_assignable_arrays (either : (e.isPrimitive || f.isPrimitive) = true) (other : e ≠ f) :
    assignableTo source (array e) (array f) ≠ .ok true := by
  intro taken
  obtain ⟨b, answer, same⟩ := assignableTo_arrays_exact source either
  obtain rfl := Except.ok.inj (answer.symm.trans taken)
  exact other (same.1 rfl)

/-- Where a variable is overlooked, the comparison does not succeed. -/
theorem Overlooked.not_assignable (h : Overlooked s t u) : assignableTo source t u ≠ .ok true := by
  induction h with
  | left primitive bound =>
      refine not_assignable_arrays (Bool.or_eq_true_iff.2 (.inr primitive)) ?_
      rintro rfl
      cases primitive
  | right primitive bound =>
      refine not_assignable_arrays (Bool.or_eq_true_iff.2 (.inl primitive)) ?_
      rintro rfl
      cases primitive
  | @element e f inner ih =>
      -- only arrays and functions have inner places
      have neither : (e.isPrimitive || f.isPrimitive) = false := by cases inner <;> rfl
      rw [assignableTo_arrays source neither]
      exact ih
  | param mem inner ih =>
      intro taken
      exact ih (assignableTo_of_mem_zip (assignable_parts taken).1 mem)
  | result inner ih =>
      intro taken
      exact ih (assignable_parts taken).2

/-! ## Before and after -/

/-- What a comparison may say before a substitution, after which it answers `after`: the same; that
a variable stands in the way, one of those in `names`; or that the value cannot be stored, although
it can be, because a variable was overlooked. -/
inductive Before (names : String → Prop) (overlooks : Prop) (after : Bool) :
    Except TypeError Bool → Prop
  | same : Before names overlooks after (.ok after)
  | refused {name : String} (mem : names name) :
      Before names overlooks after (.error (.unsupported .assignability name))
  | overlooked (isSo : overlooks) (turned : after = true) : Before names overlooks after (.ok false)

variable {names names' : String → Prop} {overlooks overlooks' : Prop} {after : Bool}
  {x x' y y' : Except TypeError Bool}

theorem Before.of_eq (unchanged : x = x') (h : x' = .ok after) : Before names overlooks after x := by
  rw [unchanged, h]
  exact .same

theorem Before.mono (h : Before names overlooks after x) (more : ∀ name, names name → names' name)
    (weaker : overlooks → overlooks') : Before names' overlooks' after x := by
  cases h with
  | same => exact .same
  | refused mem => exact .refused (more _ mem)
  | overlooked isSo turned => exact .overlooked (weaker isSo) turned

/-- Two comparisons one after the other, the second only if the first succeeds. -/
theorem Before.both (hx : ∀ a, x' = .ok a → Before names overlooks a x)
    (hy : ∀ a, y' = .ok a → Before names overlooks a y)
    (h : (do if ← x' then y' else pure false) = .ok after) :
    Before names overlooks after (do if ← x then y else pure false) := by
  obtain ⟨fits, hfits, h⟩ := bind_ok_iff.1 h
  cases hx fits hfits with
  | same =>
      cases fits with
      | true => exact hy after h
      | false =>
          obtain rfl := pure_ok_iff.1 h
          exact .same
  | refused mem => exact .refused mem
  | overlooked isSo turned =>
      -- the first comparison fails before and succeeds after, so all depends on the second
      cases after with
      | true => exact .overlooked isSo rfl
      | false => exact .same

/-- The names of the variables in either of two usages. -/
def Mentions (t u : TypeUsage) (name : String) : Prop := name ∈ t.varNames ∨ name ∈ u.varNames

/-- Of two elements that only a substitution makes the same, one being a primitive, the other is a
variable. -/
theorem overlooked_of_substitute (either : (e.isPrimitive || f.isPrimitive) = true) (other : e ≠ f)
    (equal : e.substitute s = f.substitute s) : Overlooked s (array e) (array f) := by
  rcases Bool.or_eq_true_iff.1 either with primitive | primitive
  · rw [substitute_of_isPrimitive primitive] at equal
    obtain ⟨name, site, bounds, rfl, bound⟩ :=
      variable_of_substitute primitive equal.symm other.symm
    exact .right primitive bound
  · rw [substitute_of_isPrimitive primitive] at equal
    obtain ⟨name, site, bounds, rfl, bound⟩ := variable_of_substitute primitive equal other
    exact .left primitive bound

theorem before_arrays_exact (either : (e.isPrimitive || f.isPrimitive) = true)
    (h : assignableTo source (array (e.substitute s)) (array (f.substitute s)) = .ok after) :
    Before names (Overlooked s (array e) (array f)) after
      (assignableTo source (array e) (array f)) := by
  obtain ⟨b, answer, same⟩ := assignableTo_arrays_exact source either
  have either' : ((e.substitute s).isPrimitive || (f.substitute s).isPrimitive) = true := by
    rcases Bool.or_eq_true_iff.1 either with primitive | primitive
    · rw [substitute_of_isPrimitive primitive, primitive, Bool.true_or]
    · rw [substitute_of_isPrimitive primitive, primitive, Bool.or_true]
  obtain ⟨b', answer', same'⟩ := assignableTo_arrays_exact source either'
  obtain rfl := Except.ok.inj (answer'.symm.trans h)
  rw [answer]
  cases b with
  | true =>
      have kept : b' = true := same'.2 (congrArg _ (same.1 rfl))
      rw [kept]
      exact .same
  | false =>
      cases b' with
      | false => exact .same
      | true =>
          have other : e ≠ f := fun equal => Bool.false_ne_true (same.2 equal)
          exact .overlooked (overlooked_of_substitute either other (same'.1 rfl)) rfl

/-- Parameters are compared one by one. -/
theorem before_all {ps qs : List TypeUsage}
    (each : ∀ p ∈ ps, ∀ q ∈ qs, ∀ a,
      assignableTo source (p.substitute s) (q.substitute s) = .ok a →
        Before (Mentions p q) (Overlooked s p q) a (assignableTo source p q))
    (h : assignableAll source (substituteAll s ps) (substituteAll s qs) = .ok after) :
    Before (fun name => name ∈ varNamesAll ps ∨ name ∈ varNamesAll qs)
      (∃ pair ∈ ps.zip qs, Overlooked s pair.1 pair.2) after (assignableAll source ps qs) := by
  induction ps generalizing qs after with
  | nil =>
      obtain rfl := pure_ok_iff.1 h
      exact .same
  | cons p ps ih =>
      cases qs with
      | nil =>
          obtain rfl := pure_ok_iff.1 h
          exact .same
      | cons q qs =>
          rw [substituteAll, substituteAll, assignableAll] at h
          rw [assignableAll]
          refine .both (fun a ha => ?_) (fun a ha => ?_) h
          · have first := each p List.mem_cons_self q List.mem_cons_self a ha
            refine first.mono (fun name mem => ?_) fun unseen => ?_
            · exact mem.imp (List.mem_append_left _) (List.mem_append_left _)
            · exact ⟨(p, q), List.mem_cons_self, unseen⟩
          · have rest := ih (fun p hp q hq => each p (List.mem_cons_of_mem _ hp) q
              (List.mem_cons_of_mem _ hq)) ha
            refine rest.mono (fun name mem => ?_) ?_
            · exact mem.imp (List.mem_append_right _) (List.mem_append_right _)
            · rintro ⟨pair, mem, unseen⟩
              exact ⟨pair, List.mem_cons_of_mem _ mem, unseen⟩

/-- A variable stands in the way. -/
theorem before_variable (either : (t.isVariable || u.isVariable) = true) :
    Before (Mentions t u) overlooks after (assignableTo source t u) := by
  cases t with
  | typeVar => exact .refused (.inl List.mem_cons_self)
  | primitive | basic | reference | array | function =>
      cases u with
      | typeVar => exact .refused (.inr List.mem_cons_self)
      | primitive | basic | reference | array | function => cases either

theorem before_arrays (element : ∀ a,
      assignableTo source (e.substitute s) (f.substitute s) = .ok a →
        Before (Mentions e f) (Overlooked s e f) a (assignableTo source e f))
    (h : assignableTo source (array (e.substitute s)) (array (f.substitute s)) = .ok after) :
    Before (Mentions (array e) (array f)) (Overlooked s (array e) (array f)) after
      (assignableTo source (array e) (array f)) := by
  cases either : e.isPrimitive || f.isPrimitive with
  | true => exact before_arrays_exact either h
  | false =>
      rw [assignableTo_arrays source either]
      show Before (Mentions e f) _ after (assignableTo source e f)
      cases inWay : e.isVariable || f.isVariable with
      | true => exact before_variable inWay
      | false =>
          -- no element changes its shape, so the elements are compared afterwards as well
          obtain ⟨he, hf⟩ := (Bool.or_eq_false_iff ..).1 inWay
          have neither : ((e.substitute s).isPrimitive || (f.substitute s).isPrimitive) = false := by
            rw [isPrimitive_substitute he, isPrimitive_substitute hf, either]
          rw [assignableTo_arrays source neither] at h
          exact (element after h).mono (fun _ mem => mem) .element

theorem before_functions {ps qs : List TypeUsage} {r r' : TypeUsage}
    (each : ∀ p ∈ ps, ∀ q ∈ qs, ∀ a,
      assignableTo source (p.substitute s) (q.substitute s) = .ok a →
        Before (Mentions p q) (Overlooked s p q) a (assignableTo source p q))
    (result : ∀ a, assignableTo source (r.substitute s) (r'.substitute s) = .ok a →
      Before (Mentions r r') (Overlooked s r r') a (assignableTo source r r'))
    (h : assignableTo source (function (substituteAll s ps) (r.substitute s))
      (function (substituteAll s qs) (r'.substitute s)) = .ok after) :
    Before (Mentions (function ps r) (function qs r'))
      (Overlooked s (function ps r) (function qs r')) after
      (assignableTo source (function ps r) (function qs r')) := by
  by_cases number : ps.length = qs.length
  · have number' : (substituteAll s ps).length = (substituteAll s qs).length := by
      rw [substituteAll_length, substituteAll_length, number]
    rw [assignableTo_functions source number'] at h
    rw [assignableTo_functions source number]
    refine .both (fun a ha => ?_) (fun a ha => ?_) h
    · refine (before_all each ha).mono (fun name mem => ?_) ?_
      · exact mem.imp (List.mem_append_left _) (List.mem_append_left _)
      · rintro ⟨pair, mem, unseen⟩
        exact .param mem unseen
    · refine (result a ha).mono (fun name mem => ?_) .result
      exact mem.imp (List.mem_append_right _) (List.mem_append_right _)
  · have number' : ¬(substituteAll s ps).length = (substituteAll s qs).length := by
      rw [substituteAll_length, substituteAll_length]
      exact number
    rw [assignableTo, if_neg number'] at h
    rw [assignableTo, if_neg number]
    obtain rfl := pure_ok_iff.1 h
    exact .same

/-- What a comparison says before a substitution. -/
theorem before_substitute (ht : t.Plain) (hu : u.Plain)
    (h : assignableTo source (t.substitute s) (u.substitute s) = .ok after) :
    Before (Mentions t u) (Overlooked s t u) after (assignableTo source t u) := by
  -- usages of different shapes stay so, and usages without parts stay what they are
  induction ht generalizing u after with
  | typeVar => exact before_variable rfl
  | primitive | basic | reference =>
      cases hu with
      | typeVar => exact before_variable rfl
      | primitive | basic | reference | array | function => exact .of_eq rfl h
  | @array e element ih =>
      cases hu with
      | typeVar => exact before_variable rfl
      | primitive | basic | reference | function => exact .of_eq rfl h
      | array targetElement => exact before_arrays (fun a => ih targetElement) h
  | @function ps r params result ih ihResult =>
      cases hu with
      | typeVar => exact before_variable rfl
      | primitive | basic | reference | array => exact .of_eq rfl h
      | function targetParams targetResult =>
          refine before_functions (fun p hp q hq a => ?_) (fun a => ihResult targetResult) h
          exact ih p hp (targetParams q hq)

/-- Let two usages without type arguments be compared after a substitution, with an answer. If they
are compared with an answer before it as well, the two answers differ if and only if the one after
it is yes and a variable was overlooked; and if they are compared without an answer before it,
the comparison refuses one of their variables. -/
theorem answer_of_substitute (ht : t.Plain) (hu : u.Plain)
    (h : assignableTo source (t.substitute s) (u.substitute s) = .ok after) :
    (∀ before, assignableTo source t u = .ok before →
      (before ≠ after ↔ after = true ∧ Overlooked s t u)) ∧
    ∀ e, assignableTo source t u = .error e →
      ∃ name, Mentions t u name ∧ e = .unsupported .assignability name := by
  have compared := before_substitute ht hu h
  constructor
  · intro before answer
    constructor
    · intro differ
      rw [answer] at compared
      cases compared with
      | same => exact absurd rfl differ
      | overlooked isSo turned => exact ⟨turned, isSo⟩
    · rintro ⟨rfl, isSo⟩ rfl
      exact isSo.not_assignable answer
  · intro e failure
    rw [failure] at compared
    cases compared with
    | @refused name mem => exact ⟨name, mem, rfl⟩

/-! ## An overlooked variable -/

/-- The variable of a class of boxes. -/
def boxed : TypeUsage := typeVar "T" (.ofClass "lib.Box") []

/-- It stands for `int`. -/
def asInt (name : String) : Option TypeUsage :=
  if name = "T" then some (primitive .int) else none

/-- Functions on arrays of arrays of `int`. -/
def onIntGrids : TypeUsage := function [array (array (primitive .int))] void

/-- Functions on arrays of arrays of the variable. -/
def onGrids : TypeUsage := function [array (array boxed)] void

theorem onGrids_overlooked :
    onIntGrids.Plain ∧ onGrids.Plain ∧
    assignableTo (TypeTable.empty.source : TypeSource (Except TypeError)) onIntGrids onGrids =
      .ok false ∧
    assignableTo (TypeTable.empty.source : TypeSource (Except TypeError))
      (onIntGrids.substitute asInt) (onGrids.substitute asInt) = .ok true ∧
    Overlooked asInt onIntGrids onGrids := by
  have onGridsOf : ∀ e : TypeUsage, e.Plain → (function [array (array e)] void).Plain := by
    intro e he
    refine .function (fun p hp => ?_) (.primitive .void)
    rw [List.mem_singleton.1 hp]
    exact .array (.array he)
  have intPlain : onIntGrids.Plain := onGridsOf _ (.primitive .int)
  have plain : onGrids.Plain := onGridsOf boxed (.typeVar _ _ _)
  have before : assignableTo (TypeTable.empty.source : TypeSource (Except TypeError)) onIntGrids
      onGrids = .ok false := rfl
  have after : assignableTo (TypeTable.empty.source : TypeSource (Except TypeError))
      (onIntGrids.substitute asInt) (onGrids.substitute asInt) = .ok true := rfl
  have differ : false ≠ true := nofun
  have answers := (answer_of_substitute intPlain plain after).1 false before
  exact ⟨intPlain, plain, before, after, (answers.1 differ).2⟩

/-- A comparison sometimes answers although a variable decides. -/
theorem variables_not_always_refused :
    ¬∀ (table : TypeTable) (s : String → Option TypeUsage) (t u : TypeUsage) (before after : Bool),
      t.Plain → u.Plain →
      assignableTo (table.source : TypeSource (Except TypeError)) t u = .ok before →
      assignableTo (table.source : TypeSource (Except TypeError)) (t.substitute s)
        (u.substitute s) = .ok after → before = after := by
  intro always
  have equal := always .empty asInt (array (primitive .int)) (array boxed) false true
    (.array (.primitive .int)) (.array (.typeVar _ _ _)) rfl rfl
  cases equal

end JvmScope.TypeUsage
