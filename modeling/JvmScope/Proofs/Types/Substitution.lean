import JvmScope.Proofs.Types.FreeVariables

/-!
# Substitution

A substitution goes into everything a usage is made of, type arguments included, and leaves the
bounds of variables alone. Since usages hold lists of usages, what is true of all of them is proved
by `inductionOn`, which hands on what is known of every usage in such a list.

Two substitutions one after the other are one substitution (`substitute_substitute`), and usages
without a variable that is bound stay as they are (`substitute_of_unbound`). Neither would tell a
substitution from doing nothing, so the main statement `substitution_composes` also says which
variables are left: those of the usages that have been put in, in place of the bound ones.
-/

namespace JvmScope.TypeUsage

variable {s r : String → Option TypeUsage} {t : TypeUsage} {ts : List TypeUsage} {name : String}

/-! ## Usages in lists of usages -/

@[elab_as_elim]
theorem inductionOn {motive : TypeUsage → Prop} (t : TypeUsage)
    (primitive : ∀ k, motive (primitive k)) (basic : ∀ u, motive (basic u))
    (reference : ∀ d args, (∀ a ∈ args, motive a) → motive (reference d args))
    (array : ∀ e, motive e → motive (array e))
    (function : ∀ params result, (∀ p ∈ params, motive p) → motive result →
      motive (function params result))
    (typeVar : ∀ name site bounds, (∀ b ∈ bounds, motive b) → motive (typeVar name site bounds)) :
    motive t := by
  refine TypeUsage.rec (motive_1 := motive) (motive_2 := fun ts => ∀ t ∈ ts, motive t) primitive
    basic reference array function typeVar ?_ ?_ t
  · intro t mem
    cases mem
  · intro first rest ih ihRest t mem
    rcases List.mem_cons.1 mem with rfl | mem
    · exact ih
    · exact ihRest t mem

theorem substituteAll_eq_map (s : String → Option TypeUsage) (ts : List TypeUsage) :
    substituteAll s ts = ts.map (substitute s) := by
  induction ts with
  | nil => rfl
  | cons t ts ih => rw [substituteAll, List.map_cons, ih]

theorem varNamesAll_eq_flatMap (ts : List TypeUsage) : varNamesAll ts = ts.flatMap varNames := by
  induction ts with
  | nil => rfl
  | cons t ts ih => rw [varNamesAll, List.flatMap_cons, ih]

/-! ## One substitution after the other -/

/-- The bindings of two substitutions one after the other: what is bound by the first has the second
one applied to it, and the second one's own bindings are left for all other names. -/
def composed (s r : String → Option TypeUsage) (name : String) : Option TypeUsage :=
  match s name with
  | some bound => some (bound.substitute r)
  | none => r name

theorem composed_of_bound {bound : TypeUsage} (h : s name = some bound) :
    composed s r name = some (bound.substitute r) := by
  rw [composed, h]

theorem composed_of_unbound (h : s name = none) : composed s r name = r name := by
  rw [composed, h]

theorem substituteAll_substituteAll
    (each : ∀ t ∈ ts, (t.substitute s).substitute r = t.substitute (composed s r)) :
    substituteAll r (substituteAll s ts) = substituteAll (composed s r) ts := by
  simp only [substituteAll_eq_map, List.map_map]
  exact List.map_congr_left each

/-- Two substitutions one after the other are one. -/
theorem substitute_substitute (s r : String → Option TypeUsage) (t : TypeUsage) :
    (t.substitute s).substitute r = t.substitute (composed s r) := by
  induction t using inductionOn with
  | primitive | basic => rfl
  | reference d args ih =>
      simp only [substitute]
      rw [substituteAll_substituteAll ih]
  | array e ih =>
      simp only [substitute]
      rw [ih]
  | function params result ih ihResult =>
      simp only [substitute]
      rw [substituteAll_substituteAll ih, ihResult]
  | typeVar name site bounds =>
      simp only [substitute]
      cases h : s name with
      | some bound => rw [composed_of_bound h, Option.getD_some, Option.getD_some]
      | none => rw [composed_of_unbound h, Option.getD_none, substitute]

/-! ## Which variables are replaced -/

theorem substituteAll_of_unbound (each : ∀ t ∈ ts, (∀ name ∈ t.varNames, s name = none) →
      t.substitute s = t) (unbound : ∀ name ∈ varNamesAll ts, s name = none) :
    substituteAll s ts = ts := by
  rw [varNamesAll_eq_flatMap] at unbound
  have same : ∀ t ∈ ts, t.substitute s = id t := by
    intro t mem
    exact each t mem fun name inside => unbound name (List.mem_flatMap.2 ⟨t, mem, inside⟩)
  rw [substituteAll_eq_map, List.map_congr_left same, List.map_id]

/-- A usage whose variables are all unbound stays as it is, whatever is bound in the bounds of these
variables. -/
theorem substitute_of_unbound (unbound : ∀ name ∈ t.varNames, s name = none) :
    t.substitute s = t := by
  induction t using inductionOn with
  | primitive | basic => rfl
  | reference d args ih =>
      rw [substitute, substituteAll_of_unbound ih unbound]
  | array e ih => rw [substitute, ih unbound]
  | function params result ih ihResult =>
      have inParams : ∀ name ∈ varNamesAll params, s name = none :=
        fun name mem => unbound name (List.mem_append_left _ mem)
      have inResult : ∀ name ∈ result.varNames, s name = none :=
        fun name mem => unbound name (List.mem_append_right _ mem)
      rw [substitute, substituteAll_of_unbound ih inParams, ihResult inResult]
  | typeVar name site bounds =>
      rw [substitute, unbound name List.mem_cons_self, Option.getD_none]

/-- The names of the variables that are left of the variable of a name. -/
def namesLeft (s : String → Option TypeUsage) (name : String) : List String :=
  match s name with
  | some bound => bound.varNames
  | none => [name]

theorem varNamesAll_substituteAll
    (each : ∀ t ∈ ts, (t.substitute s).varNames = t.varNames.flatMap (namesLeft s)) :
    varNamesAll (substituteAll s ts) = (varNamesAll ts).flatMap (namesLeft s) := by
  rw [substituteAll_eq_map, varNamesAll_eq_flatMap, varNamesAll_eq_flatMap, List.flatMap_map,
    List.flatMap_assoc]
  exact List.flatMap_congr each

/-- In place of a bound variable stand the variables of what it is bound to. -/
theorem varNames_substitute (s : String → Option TypeUsage) (t : TypeUsage) :
    (t.substitute s).varNames = t.varNames.flatMap (namesLeft s) := by
  induction t using inductionOn with
  | primitive | basic => rfl
  | reference d args ih => exact varNamesAll_substituteAll ih
  | array e ih => exact ih
  | function params result ih ihResult =>
      rw [substitute, varNames, varNames, varNamesAll_substituteAll ih, ihResult,
        List.flatMap_append]
  | typeVar name site bounds =>
      rw [substitute, varNames, List.flatMap_singleton, namesLeft]
      cases h : s name with
      | some bound => rfl
      | none => rfl

/-- Two substitutions one after the other are one, by which each name that the first one binds
stands for its image under the second one, and each other name for what the second one binds it to.
A usage stays as it is if none of its variables outside of bounds is bound. And wherever a variable
is bound, the variables of what it is bound to stand in its place. -/
theorem substitution_composes (s r : String → Option TypeUsage) (t : TypeUsage) :
    (t.substitute s).substitute r = t.substitute (composed s r) ∧
    ((∀ name ∈ t.varNames, s name = none) → t.substitute s = t) ∧
    (t.substitute s).varNames = t.varNames.flatMap (namesLeft s) :=
  ⟨substitute_substitute s r t, substitute_of_unbound, varNames_substitute s t⟩

/-- The variable of a class of pairs, `K` or `V`. -/
def ofPair (name : String) : TypeUsage := typeVar name (.ofClass "lib.Pair") []

/-- Keys are arrays of values. -/
def keysAsArrays (name : String) : Option TypeUsage :=
  if name = "K" then some (array (ofPair "V")) else none

/-- Values are of type `int`. -/
def valuesAsInt (name : String) : Option TypeUsage :=
  if name = "V" then some (primitive .int) else none

/-- Functions from keys and arrays of values to pairs of the two. -/
def pairing : TypeUsage :=
  function [ofPair "K", array (ofPair "V")]
    (reference (.empty "lib.Pair" .classType) [ofPair "K", ofPair "V"])

/-- Arrays of a variable that is bounded by keys. -/
def keyed : TypeUsage := array (typeVar "E" (.ofClass "lib.Set") [ofPair "K"])

theorem keyed_stays :
    (∀ name ∈ keyed.varNames, keysAsArrays name = none) ∧
    keyed.substitute keysAsArrays = keyed := by
  have unbound : ∀ name ∈ keyed.varNames, keysAsArrays name = none := by decide
  exact ⟨unbound, (substitution_composes keysAsArrays valuesAsInt keyed).2.1 unbound⟩

example : (pairing.substitute keysAsArrays).substitute valuesAsInt =
    function [array (primitive .int), array (primitive .int)]
      (reference (.empty "lib.Pair" .classType) [array (primitive .int), primitive .int]) := rfl

end JvmScope.TypeUsage
