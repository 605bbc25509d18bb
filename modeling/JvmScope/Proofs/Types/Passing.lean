import JvmScope.Proofs.Types.Erasure
import JvmScope.Proofs.Types.Subtypes

/-!
# What a parameter accepts

`JvmType.Accepts` is the rule by which a parameter takes an argument: its own type, an array of
references whose component its own component takes, any array where it is `java.lang.Object`, and
a subtype. A comparison that ends with an answer answers as the rule says (`accepts_ok_iff`).

The rule is transitive, although the type in the middle may have another shape than the two
others: only `java.lang.Object` takes arrays and classes alike, and nothing but itself takes it.
So what can be passed on can be passed at once, unless the search for the supertype fails on the
way, and then it fails above the class of the argument. This is `accepts_trans`.
-/

namespace JvmScope.JvmType

open TypeDefinition (Reachable)

variable {source : TypeSource (Except TypeError)} {expected actual : JvmType}

/-- The rule by which a parameter takes an argument. -/
inductive Accepts (source : TypeSource (Except TypeError)) : JvmType → JvmType → Prop
  | same (t : JvmType) : Accepts source t t
  | array {expected actual : JvmType} (expectedRef : expected.isPrimitive = false)
      (actualRef : actual.isPrimitive = false) (component : Accepts source expected actual) :
      Accepts source (.array expected) (.array actual)
  | root {expected : JvmType} (isRoot : expected = .ofDotted QualifiedName.object)
      (component : JvmType) : Accepts source expected (.array component)
  | subtype {expected actual : String} {d : TypeDefinition}
      (answered : source.resolve (QualifiedName.ofInternal actual) = .ok (some d))
      (above : d.IsAbove source (QualifiedName.ofInternal expected)) :
      Accepts source (.object expected) (.object actual)

/-! ## Comparing -/

theorem accepts_self (t : JvmType) : t.accepts source t = .ok true := by
  unfold accepts
  rw [if_pos rfl]
  rfl

/-- Arrays of references are compared as their components are. -/
theorem accepts_array (expectedRef : expected.isPrimitive = false)
    (actualRef : actual.isPrimitive = false) :
    (array expected).accepts source (array actual) = expected.accepts source actual := by
  by_cases same : expected = actual
  · subst same
    rw [accepts_self, accepts_self]
  · rw [accepts, if_neg (fun h => same (JvmType.array.inj h)), expectedRef, actualRef]
    rfl

/-- Classes are compared by their names. -/
theorem accepts_object {expected actual : String} (other : expected ≠ actual) :
    (object expected).accepts source (object actual) = (do
      let d ← source.require (QualifiedName.ofInternal actual)
      d.isSubtypeOf source (QualifiedName.ofInternal expected)) := by
  rw [accepts, if_neg (fun h => other (JvmType.object.inj h))]

/-- The class of a definition that the source delivers is compared as the definition is. -/
theorem accepts_jvmType {name : String} {d : TypeDefinition} (own : source.Delivers d)
    (valid : QualifiedName.isValid name = true) (other : name ≠ d.qualifiedName) :
    (ofDotted name).accepts source d.jvmType = d.isSubtypeOf source name := by
  have back := QualifiedName.ofInternal_toInternal valid
  have backOwn := QualifiedName.ofInternal_toInternal (TypeSource.resolve_some_iff.1 own).1
  have names : QualifiedName.toInternal name ≠ QualifiedName.toInternal d.qualifiedName := by
    intro same
    apply other
    rw [← back, same, backOwn]
  rw [TypeDefinition.jvmType, ofDotted, ofDotted, accepts_object names, back, backOwn,
    bind_of_ok (TypeSource.require_ok_iff.2 own)]

/-- A primitive takes itself only. -/
theorem accepts_primitive (k : Primitive) :
    (primitive k).accepts source actual = .ok (decide (primitive k = actual)) := by
  by_cases same : primitive k = actual
  · subst same
    rw [accepts_self, decide_eq_true rfl]
  · unfold accepts
    rw [if_neg same, decide_eq_false same]
    cases actual <;> rfl

/-- Arrays with a primitive component are taken where they are declared. -/
theorem accepts_array_exact (either : (expected.isPrimitive || actual.isPrimitive) = true) :
    (array expected).accepts source (array actual) = .ok (decide (expected = actual)) := by
  by_cases same : expected = actual
  · subst same
    rw [accepts_self, decide_eq_true rfl]
  · rw [accepts, if_neg (fun h => same (JvmType.array.inj h)), if_pos either,
      decide_eq_false same]
    rfl

theorem accepts_array_ok_iff {taken : Bool}
    (component : expected.accepts source actual = .ok taken →
      (taken = true ↔ Accepts source expected actual))
    (h : (array expected).accepts source (array actual) = .ok taken) :
    taken = true ↔ Accepts source (array expected) (array actual) := by
  cases either : expected.isPrimitive || actual.isPrimitive with
  | true =>
      rw [accepts_array_exact either] at h
      obtain rfl := Except.ok.inj h
      rw [decide_eq_true_iff]
      constructor
      · rintro rfl
        exact .same _
      · intro accepted
        cases accepted with
        | same => rfl
        | array expectedRef actualRef =>
            rw [expectedRef, actualRef] at either
            cases either
        | root isRoot => cases isRoot
  | false =>
      obtain ⟨expectedRef, actualRef⟩ := (Bool.or_eq_false_iff ..).1 either
      rw [accepts_array expectedRef actualRef] at h
      rw [component h]
      constructor
      · exact .array expectedRef actualRef
      · intro accepted
        cases accepted with
        | same => exact .same _
        | array _ _ component => exact component
        | root isRoot => cases isRoot

theorem accepts_object_ok_iff {name other : String} {taken : Bool}
    (h : (object name).accepts source (object other) = .ok taken) :
    taken = true ↔ Accepts source (object name) (object other) := by
  by_cases same : name = other
  · subst same
    rw [accepts_self] at h
    obtain rfl := Except.ok.inj h
    exact iff_of_true rfl (.same _)
  · rw [accepts_object same] at h
    obtain ⟨d, hd, h⟩ := bind_ok_iff.1 h
    have answered := TypeSource.require_ok_iff.1 hd
    rw [TypeDefinition.isSubtypeOf_ok_iff h]
    constructor
    · intro above
      exact .subtype answered above
    · intro accepted
      cases accepted with
      | same => exact absurd rfl same
      | subtype answered' above =>
          obtain rfl := Option.some.inj (Except.ok.inj (answered.symm.trans answered'))
          exact above

/-- A comparison that ends with an answer answers as the rule says. -/
theorem accepts_ok_iff {taken : Bool} (h : expected.accepts source actual = .ok taken) :
    taken = true ↔ Accepts source expected actual := by
  induction expected generalizing actual with
  | primitive k =>
      rw [accepts_primitive] at h
      obtain rfl := Except.ok.inj h
      rw [decide_eq_true_iff]
      constructor
      · rintro rfl
        exact .same _
      · intro accepted
        cases accepted with
        | same => rfl
        | root isRoot => cases isRoot
  | object name =>
      cases actual with
      | primitive k =>
          obtain rfl := Except.ok.inj h
          exact iff_of_false Bool.false_ne_true nofun
      | object other => exact accepts_object_ok_iff h
      | array component =>
          obtain rfl := Except.ok.inj h
          rw [beq_iff_eq]
          constructor
          · intro isRoot
            exact .root isRoot component
          · intro accepted
            cases accepted with
            | root isRoot => exact isRoot
  | array component ih =>
      cases actual with
      | primitive | object =>
          obtain rfl := Except.ok.inj h
          exact iff_of_false Bool.false_ne_true nofun
      | array other => exact accepts_array_ok_iff ih h

/-! ## Passing on -/

/-- The dotted name of the class that values of the type, or the elements at the bottom of the
array, are instances of. -/
def className? : JvmType → Option String
  | primitive _ => none
  | object name => some (QualifiedName.ofInternal name)
  | array component => component.className?

/-- The failure is that of a supertype of the type's class, which the source has. -/
def FailsAbove (source : TypeSource (Except TypeError)) (t : JvmType) (e : TypeError) : Prop :=
  ∃ name d super, t.className? = some name ∧ source.resolve name = .ok (some d) ∧
    Reachable source d.supertypes super ∧ source.require super = .error e

/-- Whoever takes `java.lang.Object` is `java.lang.Object`. -/
theorem eq_root_of_above {name : String} {d : TypeDefinition} (exact : source.Exact)
    (top : source.RootOnTop) (dotless : (object name).Dotless)
    (answered : source.resolve QualifiedName.object = .ok (some d))
    (above : d.IsAbove source (QualifiedName.ofInternal name)) :
    object name = ofDotted QualifiedName.object := by
  have root := above.eq_root exact top answered
  rw [ofDotted, ← root, QualifiedName.toInternal_ofInternal_of_notMem dotless]

theorem ofInternal_root {name : String} (isRoot : object name = ofDotted QualifiedName.object) :
    QualifiedName.ofInternal name = QualifiedName.object := by
  rw [JvmType.object.inj isRoot]
  exact QualifiedName.ofInternal_toInternal (by decide)

/-- The rule is transitive. -/
theorem Accepts.trans {a b c : JvmType} (exact : source.Exact) (top : source.RootOnTop)
    (dotless : a.Dotless) (hab : Accepts source a b) (hbc : Accepts source b c) :
    Accepts source a c := by
  induction hab generalizing c with
  | same => exact hbc
  | array expectedRef actualRef component ih =>
      cases hbc with
      | same => exact .array expectedRef actualRef component
      | array _ lastRef last => exact .array expectedRef lastRef (ih dotless last)
      | root isRoot => cases isRoot
  | root isRoot component =>
      -- the middle type is an array, so the last one is an array as well
      cases hbc with
      | same => exact .root isRoot _
      | array => exact .root isRoot _
      | root => exact .root isRoot _
  | subtype answered above =>
      cases hbc with
      | same => exact .subtype answered above
      | root middleRoot component =>
          rw [ofInternal_root middleRoot] at answered
          exact .root (eq_root_of_above exact top dotless answered above) component
      | subtype lowest middle =>
          exact .subtype lowest (middle.trans exact top (exact.delivers lowest) answered above)

/-- Where the rule says that an argument is taken, the comparison can only fail above its class. -/
theorem Accepts.failsAbove {e : TypeError} (accepted : Accepts source expected actual)
    (h : expected.accepts source actual = .error e) : actual.FailsAbove source e := by
  induction accepted with
  | same t =>
      rw [accepts_self] at h
      cases h
  | array expectedRef actualRef _ ih =>
      rw [accepts_array expectedRef actualRef] at h
      exact ih h
  | root isRoot component =>
      subst isRoot
      cases h
  | @subtype expected actual d answered above =>
      by_cases same : expected = actual
      · subst same
        rw [accepts_self] at h
        cases h
      · rw [accepts_object same, bind_of_ok (TypeSource.require_ok_iff.2 answered)] at h
        obtain ⟨super, reachable, failed⟩ := TypeDefinition.isSubtypeOf_error h
        exact ⟨_, d, super, rfl, answered, reachable, failed⟩

/-- What can be passed on can be passed at once: a type that takes another takes whatever that one
takes, unless a supertype of the last one's class cannot be resolved. Over a source that answers
names with definitions of these names, and for which nothing is above `java.lang.Object`. -/
theorem accepts_trans {a b c : JvmType} (exact : source.Exact) (top : source.RootOnTop)
    (dotless : a.Dotless) (hab : a.accepts source b = .ok true)
    (hbc : b.accepts source c = .ok true) :
    a.accepts source c = .ok true ∨
      ∃ e, a.accepts source c = .error e ∧ c.FailsAbove source e := by
  have accepted : Accepts source a c :=
    ((accepts_ok_iff hab).1 rfl).trans exact top dotless ((accepts_ok_iff hbc).1 rfl)
  cases h : a.accepts source c with
  | ok taken =>
      obtain rfl := (accepts_ok_iff h).2 accepted
      exact .inl rfl
  | error e => exact .inr ⟨e, rfl, accepted.failsAbove h⟩

/-! ## A hierarchy with a gap -/

/-- A class of shapes. -/
def quad : TypeDefinition :=
  { TypeDefinition.empty "lib.Quad" .classType with interfaces := ["lib.Shape"] }

/-- A subclass that also implements what the library does not have. -/
def square : TypeDefinition :=
  { TypeDefinition.empty "lib.Square" .classType with
    superClass := some "lib.Quad"
    interfaces := ["lib.Gone"] }

def shapes : TypeTable :=
  ⟨[.empty QualifiedName.object .classType, .empty "lib.Shape" .interfaceType, quad, square]⟩

def shapeLibrary : TypeSource (Except TypeError) := shapes.source

theorem shapeLibrary_rootOnTop : shapeLibrary.RootOnTop := by
  intro d answered
  obtain ⟨mem, hname⟩ := TypeTable.mem_of_resolve answered
  have top : ∀ d ∈ shapes.types, d.qualifiedName = QualifiedName.object → d.supertypes = [] := by
    decide
  exact top d mem hname

theorem quad_delivered : shapeLibrary.Delivers quad := rfl

theorem square_delivered : shapeLibrary.Delivers square := rfl

theorem shapes_accept_quads :
    (array (ofDotted "lib.Shape")).accepts shapeLibrary (array quad.jvmType) = .ok true := by
  rw [accepts_array rfl rfl, accepts_jvmType quad_delivered (by decide) (by decide)]
  exact TypeDefinition.isSubtypeOf_first (by decide) (by decide) rfl

theorem quads_accept_squares :
    (array quad.jvmType).accepts shapeLibrary (array square.jvmType) = .ok true := by
  rw [accepts_array rfl rfl]
  show (ofDotted "lib.Quad").accepts shapeLibrary square.jvmType = .ok true
  rw [accepts_jvmType square_delivered (by decide) (by decide)]
  exact TypeDefinition.isSubtypeOf_first (by decide) (by decide) rfl

theorem squares_passed_on :
    (array (ofDotted "lib.Shape")).accepts shapeLibrary (array square.jvmType) = .ok true ∨
      ∃ e, (array (ofDotted "lib.Shape")).accepts shapeLibrary (array square.jvmType) = .error e ∧
        (array square.jvmType).FailsAbove shapeLibrary e :=
  accepts_trans (TypeTable.exact shapes) shapeLibrary_rootOnTop (dotless_ofDotted "lib.Shape")
    shapes_accept_quads quads_accept_squares

end JvmScope.JvmType
