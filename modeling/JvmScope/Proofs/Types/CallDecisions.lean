import JvmScope.Proofs.Types.Reordering
import JvmScope.Proofs.Types.Selection

/-!
# How calls are decided

A call is decided by the methods that it can select among, `candidates`, and by which of them
take its arguments, `fitting`: it finds the only one that does, or it fails because there is none
or because there are several (`findMethod_eq`, `applicable_ok_iff`). Of all of them it has to be
known whether they do, and what a source fails with before is passed on.

So the order of methods decides nothing: in another order a call selects among a permutation of
the methods, of which the same ones take its arguments, or it is again not known of all whether
they do (`findMethod_reordered`). `findMethod_decided` puts both together.
-/

namespace JvmScope

variable {source source' : TypeSource (Except TypeError)} {d d' e : TypeDefinition}
  {name : String} {args : List JvmType} {isStatic : Bool}

/-! ## What takes the arguments -/

section Choices

variable {α : Type} {params : α → List JvmType} {choices choices' : List α}

/-- In another order the same choices take the arguments, or it is again not known. -/
theorem applicable_reordered (h : source.Reordered source') (perm : choices.Perm choices') :
    (∃ found found', found.Perm found' ∧ applicable source params args choices = .ok found ∧
      applicable source' params args choices' = .ok found') ∨
    ∃ cause cause', applicable source params args choices = .error cause ∧
      applicable source' params args choices' = .error cause' := by
  have same : ∀ c, isApplicable source (params c) args = isApplicable source' (params c) args :=
    fun c => isApplicable_reordered h _ _
  have known_iff : (∀ c ∈ choices, ∃ fits, isApplicable source (params c) args = .ok fits) ↔
      ∀ c ∈ choices', ∃ fits, isApplicable source' (params c) args = .ok fits := by
    simp only [same, perm.mem_iff]
  -- one choice that cannot be judged fails the selection wherever it stands, but which failure is
  -- reported depends on the order
  by_cases known : ∀ c ∈ choices, ∃ fits, isApplicable source (params c) args = .ok fits
  · refine .inl ⟨_, _, ?_, applicable_ok_iff.2 ⟨known, rfl⟩,
      applicable_ok_iff.2 ⟨known_iff.1 known, rfl⟩⟩
    unfold fitting
    simp only [same]
    exact perm.filter _
  · refine .inr ?_
    cases hfound : applicable source params args choices with
    | ok found => exact absurd (applicable_ok_iff.1 hfound).1 known
    | error cause =>
        cases hfound' : applicable source' params args choices' with
        | ok found' => exact absurd (known_iff.2 (applicable_ok_iff.1 hfound').1) known
        | error cause' => exact ⟨cause, cause', rfl, rfl⟩

end Choices

namespace TypeDefinition

/-! ## Calls -/

/-- The methods that a call can select among: those of its name that are called on a value or on
the type as it asks. -/
def candidates (source : TypeSource (Except TypeError)) (d : TypeDefinition) (name : String)
    (isStatic : Bool) : Except TypeError (List OwnedMethod) :=
  (·.filter (·.method.isStatic == isStatic)) <$> d.methodsNamed source name

/-- What a call comes to if these methods take its arguments. -/
def decision (d : TypeDefinition) (name : String) (args : List JvmType) :
    List OwnedMethod → Except TypeError MethodTarget
  | [] => .error (.noApplicableMethod d.qualifiedName name (args.map JvmType.text))
  | [c] => .ok ⟨QualifiedName.toInternal c.owner, c.method.name, c.method.descriptor,
      c.method.isStatic⟩
  | found => .error (.ambiguousCall d.qualifiedName name (found.map (·.method.descriptor)))

/-- A call collects the methods it can select among, and is decided by those of them that take its
arguments. -/
theorem findMethod_eq : d.findMethod source name args isStatic = (do
    let methods ← d.candidates source name isStatic
    let found ← applicable source (·.method.params) args methods
    d.decision name args found) := by
  unfold findMethod candidates selectApplicable
  cases d.methodsNamed source name with
  | error cause => rfl
  | ok methods =>
      show (applicable source _ args _ >>= _) >>= _ = applicable source _ args _ >>= _
      rw [bind_assoc]
      apply bind_congr
      intro found
      match found with
      | [] => rfl
      | [_] => rfl
      | _ :: _ :: _ => rfl

/-- A call that does not fail for want of types is decided by the methods that take its
arguments. -/
theorem findMethod_cases (source : TypeSource (Except TypeError)) (d : TypeDefinition)
    (name : String) (args : List JvmType) (isStatic : Bool) :
    (∃ methods, d.candidates source name isStatic = .ok methods ∧
      (∀ c ∈ methods, ∃ fits, isApplicable source c.method.params args = .ok fits) ∧
      d.findMethod source name args isStatic =
        d.decision name args (fitting source (·.method.params) args methods)) ∨
    ∃ e, source.Misses e ∧ d.findMethod source name args isStatic = .error e := by
  rw [findMethod_eq]
  cases hmethods : d.candidates source name isStatic with
  | error e =>
      refine .inr ⟨e, ?_, rfl⟩
      have walk : d.methodsNamed source name = .error e := by
        unfold candidates at hmethods
        cases hnamed : d.methodsNamed source name with
        | ok methods =>
            rw [hnamed] at hmethods
            cases hmethods
        | error cause =>
            rw [hnamed] at hmethods
            cases hmethods
            rfl
      exact walkFrom_fails _ _ _ _ _ (methodsNamed_error_iff.1 walk)
  | ok methods =>
      rw [bind_of_ok rfl]
      cases hfound : applicable source (·.method.params) args methods with
      | error e => exact .inr ⟨e, applicable_fails _ _ _ _ hfound, rfl⟩
      | ok found =>
          obtain ⟨known, rfl⟩ := applicable_ok_iff.1 hfound
          exact .inl ⟨methods, rfl, known, rfl⟩

/-- The results of two calls, but for the order in which methods are reported. -/
inductive SameDecision : Except TypeError MethodTarget → Except TypeError MethodTarget → Prop
  | same (result : Except TypeError MethodTarget) : SameDecision result result
  | ambiguous {owner called : String} {descriptors descriptors' : List String}
      (perm : descriptors.Perm descriptors') :
      SameDecision (.error (.ambiguousCall owner called descriptors))
        (.error (.ambiguousCall owner called descriptors'))

theorem decision_reordered (hd : d.Reordered d') {found found' : List OwnedMethod}
    (perm : found.Perm found') :
    SameDecision (d.decision name args found) (d'.decision name args found') := by
  match found, found', perm.length_eq with
  | [], [], _ =>
      unfold decision
      rw [hd.qualifiedName_eq]
      exact .same _
  | [c], [c'], _ =>
      obtain rfl := List.singleton_perm_singleton.1 perm
      exact .same _
  | _ :: _ :: _, _ :: _ :: _, _ =>
      unfold decision
      rw [hd.qualifiedName_eq]
      exact .ambiguous (perm.map _)

theorem candidates_reordered (h : source.Reordered source') (hd : d.Reordered d')
    (distinct : ∀ e, InHierarchy source d e → e.DescriptorsDistinct) :
    Alike List.Perm (d.candidates source name isStatic)
      (d'.candidates source' name isStatic) := by
  unfold candidates methodsNamed
  rw [walk_eq_foldl, walk_eq_foldl]
  rw [Functor.map_map, Functor.map_map]
  apply (allSupertypes_reordered h hd).map
  intro supers supers' hsupers reordered
  apply List.Perm.filter
  refine visibleIn_reordered ?_ (.cons hd reordered)
  intro e he
  exact distinct e (inHierarchy_of_allSupertypes hsupers e he)

/-- Reordered declarations give a call the same methods to select among, and the same of them take
its arguments. -/
theorem findMethod_reordered (h : source.Reordered source') (hd : d.Reordered d')
    (distinct : ∀ e, InHierarchy source d e → e.DescriptorsDistinct) (name : String)
    (args : List JvmType) (isStatic : Bool) :
    SameDecision (d.findMethod source name args isStatic)
      (d'.findMethod source' name args isStatic) ∨
    ∃ e e', source.Misses e ∧ d.findMethod source name args isStatic = .error e ∧
      d'.findMethod source' name args isStatic = .error e' := by
  rw [findMethod_eq, findMethod_eq]
  have alike : Alike List.Perm (d.candidates source name isStatic)
      (d'.candidates source' name isStatic) := candidates_reordered h hd distinct
  generalize d.candidates source name isStatic = x at alike
  generalize d'.candidates source' name isStatic = y at alike
  cases alike with
  | error e => exact .inl (.same _)
  | ok perm =>
      rw [bind_of_ok rfl, bind_of_ok rfl]
      rcases applicable_reordered h perm with ⟨found, found', same, hfound, hfound'⟩ |
        ⟨e, e', failed, failed'⟩
      · rw [hfound, hfound']
        exact .inl (decision_reordered hd same)
      · rw [failed, failed']
        exact .inr ⟨e, e', applicable_fails _ _ _ _ failed, rfl, rfl⟩

theorem eq_nil_of_decision {found : List OwnedMethod} {owner called : String}
    {texts : List String}
    (h : d.decision name args found = .error (.noApplicableMethod owner called texts)) :
    found = [] := by
  match found with
  | [] => rfl
  | [c] => simp [decision] at h
  | _ :: _ :: _ => simp [decision] at h

theorem reported_of_decision {found : List OwnedMethod} {owner called : String}
    {descriptors : List String}
    (h : d.decision name args found = .error (.ambiguousCall owner called descriptors)) :
    2 ≤ found.length ∧ descriptors = found.map (·.method.descriptor) := by
  match found with
  | [] => simp [decision] at h
  | [c] => simp [decision] at h
  | _ :: _ :: _ =>
      cases h
      exact ⟨by simp, rfl⟩

/-- A call fails for want of a method only if none takes its arguments. -/
theorem not_applies_of_noApplicableMethod {owner called : String} {texts : List String}
    (h : d.findMethod source name args isStatic =
      .error (.noApplicableMethod owner called texts)) :
    (∃ methods, d.candidates source name isStatic = .ok methods ∧
      ∀ c ∈ methods, isApplicable source c.method.params args = .ok false) ∨
    source.FailsWith (.noApplicableMethod owner called texts) := by
  rcases findMethod_cases source d name args isStatic with
    ⟨methods, hmethods, known, decided⟩ | ⟨e, misses, failed⟩
  · rw [decided] at h
    refine .inl ⟨methods, hmethods, ?_⟩
    have none := eq_nil_of_decision h
    intro c hc
    obtain ⟨fits, hfits⟩ := known c hc
    cases fits with
    | false => exact hfits
    | true =>
        -- a method that takes the arguments would be among those that decide
        have listed : c ∈ fitting source (·.method.params) args methods :=
          mem_fitting_iff.2 ⟨hc, hfits⟩
        rw [none] at listed
        exact absurd listed List.not_mem_nil
  · rw [failed] at h
    cases h
    exact .inr (misses.failsWith nofun)

/-- A call is ambiguous only if several methods take its arguments, and they are reported. -/
theorem fitting_of_ambiguousCall {owner called : String} {descriptors : List String}
    (h : d.findMethod source name args isStatic =
      .error (.ambiguousCall owner called descriptors)) :
    (∃ methods, d.candidates source name isStatic = .ok methods ∧
      2 ≤ (fitting source (·.method.params) args methods).length ∧
      descriptors = (fitting source (·.method.params) args methods).map (·.method.descriptor)) ∨
    source.FailsWith (.ambiguousCall owner called descriptors) := by
  rcases findMethod_cases source d name args isStatic with
    ⟨methods, hmethods, -, decided⟩ | ⟨e, misses, failed⟩
  · rw [decided] at h
    exact .inl ⟨methods, hmethods, reported_of_decision h⟩
  · rw [failed] at h
    cases h
    exact .inr (misses.failsWith nofun)

/-- **A call is decided by the methods that take its arguments, and not by their order.** A call
finds a method only if this one takes its arguments and no other one of those that it can select
among. It fails for want of a method only if none does, and as ambiguous only if at least two do,
which are reported; or else the source answers a name with that very failure itself. If methods
are listed in another order by definitions that declare no two methods of one name and descriptor,
the call finds the same method, fails for want of one again, or reports the same methods, and a
failure of the source remains a failure. -/
theorem findMethod_decided (source : TypeSource (Except TypeError)) (d : TypeDefinition)
    (name : String) (args : List JvmType) (isStatic : Bool) :
    (∀ target, d.findMethod source name args isStatic = .ok target →
      ∃ methods c, d.candidates source name isStatic = .ok methods ∧
        OnlyApplicable source (·.method.params) args methods c ∧
        target = ⟨QualifiedName.toInternal c.owner, c.method.name, c.method.descriptor,
          c.method.isStatic⟩) ∧
    (∀ owner called texts, d.findMethod source name args isStatic =
        .error (.noApplicableMethod owner called texts) →
      (∃ methods, d.candidates source name isStatic = .ok methods ∧
        ∀ c ∈ methods, isApplicable source c.method.params args = .ok false) ∨
      source.FailsWith (.noApplicableMethod owner called texts)) ∧
    (∀ owner called descriptors, d.findMethod source name args isStatic =
        .error (.ambiguousCall owner called descriptors) →
      (∃ methods, d.candidates source name isStatic = .ok methods ∧
        2 ≤ (fitting source (·.method.params) args methods).length ∧
        descriptors = (fitting source (·.method.params) args methods).map
          (·.method.descriptor)) ∨
      source.FailsWith (.ambiguousCall owner called descriptors)) ∧
    ∀ source' d', source.Reordered source' → d.Reordered d' →
      (∀ e, InHierarchy source d e → e.DescriptorsDistinct) →
      (∀ target, d.findMethod source name args isStatic = .ok target →
        d'.findMethod source' name args isStatic = .ok target) ∧
      (∀ owner called texts, d.findMethod source name args isStatic =
          .error (.noApplicableMethod owner called texts) →
        d'.findMethod source' name args isStatic =
          .error (.noApplicableMethod owner called texts) ∨
        source.FailsWith (.noApplicableMethod owner called texts)) ∧
      (∀ owner called descriptors, d.findMethod source name args isStatic =
          .error (.ambiguousCall owner called descriptors) →
        (∃ descriptors', descriptors.Perm descriptors' ∧
          d'.findMethod source' name args isStatic =
            .error (.ambiguousCall owner called descriptors')) ∨
        source.FailsWith (.ambiguousCall owner called descriptors)) ∧
      ∀ e, d.findMethod source name args isStatic = .error e →
        ∃ e', d'.findMethod source' name args isStatic = .error e' := by
  refine ⟨?_, fun _ _ _ => not_applies_of_noApplicableMethod,
    fun _ _ _ => fitting_of_ambiguousCall, ?_⟩
  · intro target h
    obtain ⟨methods, c, hmethods, only, rfl⟩ := findMethod_ok_iff.1 h
    refine ⟨_, c, map_ok_iff.2 ⟨methods, hmethods, rfl⟩, only, ?_⟩
    obtain rfl := beq_iff_eq.1 (List.mem_filter.1 only.mem).2
    rfl
  · intro source' d' h hd distinct
    have both := findMethod_reordered h hd distinct name args isStatic
    generalize d.findMethod source name args isStatic = result at both
    generalize d'.findMethod source' name args isStatic = result' at both
    rcases both with same | ⟨e, e', misses, rfl, rfl⟩
    · cases same with
      | same =>
          refine ⟨fun _ => id, fun _ _ _ => .inl, ?_, fun e failed => ⟨e, failed⟩⟩
          intro owner called descriptors failed
          exact .inl ⟨descriptors, .refl _, failed⟩
      | ambiguous perm =>
          refine ⟨nofun, nofun, ?_, fun _ _ => ⟨_, rfl⟩⟩
          intro owner called descriptors failed
          cases failed
          exact .inl ⟨_, perm, rfl⟩
    · refine ⟨nofun, ?_, ?_, fun _ _ => ⟨_, rfl⟩⟩
      · intro owner called texts failed
        cases failed
        exact .inr (misses.failsWith nofun)
      · intro owner called descriptors failed
        cases failed
        exact .inr (misses.failsWith nofun)

/-! ## Printing in two orders -/

/-- A class that prints any object, and characters in particular. -/
def printer : TypeDefinition :=
  { TypeDefinition.empty "lib.Printer" .classType with
    methods := [⟨"print", [.object "java/lang/Object"], .primitive .void, false, []⟩,
      ⟨"print", [.array (.primitive .char)], .primitive .void, false, []⟩] }

/-- The methods are listed backwards. -/
def reversed (d : TypeDefinition) : TypeDefinition := { d with methods := d.methods.reverse }

theorem reordered_reversed (d : TypeDefinition) : d.Reordered d.reversed where
  rest := rfl
  methods := d.methods.reverse_perm.symm

def printing : TypeTable := ⟨[printer]⟩

def printingReversed : TypeTable := ⟨[printer.reversed]⟩

theorem print_chars_ambiguous :
    printer.findMethod (printing.source : TypeSource (Except TypeError)) "print"
      [.array (.primitive .char)] false =
      .error (.ambiguousCall "lib.Printer" "print" ["(Ljava/lang/Object;)V", "([C)V"]) := by
  have supers : printer.allSupertypes (printing.source : TypeSource (Except TypeError)) =
      .ok [] := by
    show walkFrom _ _ _ [] _ = _
    rw [walkFrom]
    rfl
  unfold findMethod
  rw [methodsNamed_of_allSupertypes supers]
  decide +kernel

theorem print_chars_reordered :
    ∃ descriptors, ["(Ljava/lang/Object;)V", "([C)V"].Perm descriptors ∧
      printer.reversed.findMethod (printingReversed.source : TypeSource (Except TypeError)) "print"
          [.array (.primitive .char)] false =
        .error (.ambiguousCall "lib.Printer" "print" descriptors) := by
  have tables : (printing.source : TypeSource (Except TypeError)).Reordered
      printingReversed.source := TypeTable.reordered (.cons printer.reordered_reversed .nil)
  have distinct : ∀ e, InHierarchy printing.source printer e → e.DescriptorsDistinct := by
    intro e he
    have same : e = printer := by
      induction he with
      | self => rfl
      | above _ declared _ ih =>
          rw [ih] at declared
          exact absurd declared List.not_mem_nil
    rw [same]
    unfold DescriptorsDistinct
    decide +kernel
  obtain ⟨-, -, -, reorder⟩ := findMethod_decided printing.source printer "print"
    [.array (.primitive .char)] false
  obtain ⟨-, -, ambiguous, -⟩ := reorder _ _ tables printer.reordered_reversed distinct
  rcases ambiguous _ _ _ print_chars_ambiguous with reported | ⟨name, failed⟩
  · exact reported
  · cases TypeTable.resolve_error failed

end TypeDefinition

end JvmScope
