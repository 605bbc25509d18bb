import JvmScope.Proofs.Types.Erasure
import JvmScope.Proofs.Types.StoringRule

/-!
# What substitution keeps

A comparison that succeeds, or a projection to the virtual machine that ends with a type, has met no
type variable where it would have had to look at one. Variables may still be hidden in type
arguments, which are compared with one another and erased, and there they are replaced on both sides
alike. So whatever a substitution puts in, what holds of usages still holds of their instances. This
is `kept_by_substitution`.

For comparisons it is a property of the rule `Fits`, whatever classes are below one another.
-/

namespace JvmScope.TypeUsage

variable {source : TypeSource (Except TypeError)} {Below : TypeDefinition → String → Prop}
  {s : String → Option TypeUsage} {t u : TypeUsage} {ts us as bs : List TypeUsage}
  {d e : TypeDefinition} {j : JvmType}

/-! ## Equality -/

theorem sameAll_self (each : ∀ t ∈ ts, same t t = true) : sameAll ts ts = true := by
  induction ts with
  | nil => rfl
  | cons t ts ih =>
      rw [List.forall_mem_cons] at each
      rw [sameAll, each.1, ih each.2]
      rfl

theorem same_self (t : TypeUsage) : same t t = true := by
  induction t using inductionOn with
  | primitive | basic => rw [same, beq_self_eq_true]
  | reference d args ih => rw [same, beq_self_eq_true, sameAll_self ih]; rfl
  | array e ih => rw [same, ih]
  | function params result ih ihResult =>
      rw [same, sameAll_self ih, ihResult]
      rfl
  | typeVar name site bounds ih =>
      rw [same, beq_self_eq_true, beq_self_eq_true, sameAll_self ih]
      rfl

theorem sameAll_substituteAll
    (each : ∀ t ∈ ts, ∀ u, same t u = true → same (t.substitute s) (u.substitute s) = true)
    (h : sameAll ts us = true) : sameAll (substituteAll s ts) (substituteAll s us) = true := by
  induction ts generalizing us with
  | nil =>
      cases us with
      | nil => rfl
      | cons => cases h
  | cons t ts ih =>
      cases us with
      | nil => cases h
      | cons u us =>
          rw [List.forall_mem_cons] at each
          rw [sameAll, Bool.and_eq_true] at h
          rw [substituteAll, substituteAll, sameAll, each.1 u h.1, ih each.2 h.2]
          rfl

/-- Equal usages have equal instances. -/
theorem same_substitute (h : same t u = true) :
    same (t.substitute s) (u.substitute s) = true := by
  induction t using inductionOn generalizing u with
  | primitive k =>
      cases u with
      | primitive => exact h
      | basic | reference | array | function | typeVar => cases h
  | basic v =>
      cases u with
      | basic => exact h
      | primitive | reference | array | function | typeVar => cases h
  | reference d args ih =>
      cases u with
      | reference e args' =>
          rw [same, Bool.and_eq_true] at h
          rw [substitute, substitute, same, h.1, sameAll_substituteAll (fun t ht u => ih t ht) h.2]
          rfl
      | primitive | basic | array | function | typeVar => cases h
  | array e ih =>
      cases u with
      | array f => exact ih h
      | primitive | basic | reference | function | typeVar => cases h
  | function params result ih ihResult =>
      cases u with
      | function params' result' =>
          rw [same, Bool.and_eq_true] at h
          rw [substitute, substitute, same, sameAll_substituteAll (fun t ht u => ih t ht) h.1,
            ihResult h.2]
          rfl
      | primitive | basic | reference | array | typeVar => cases h
  | typeVar name site bounds =>
      cases u with
      | typeVar name' site' bounds' =>
          -- equal variables have one name, so they are bound to one usage or both not at all
          have unchanged := h
          rw [same, Bool.and_eq_true, Bool.and_eq_true, beq_iff_eq] at h
          obtain ⟨⟨rfl, -⟩, -⟩ := h
          rw [substitute, substitute]
          cases s name with
          | some bound => exact same_self bound
          | none => exact unchanged
      | primitive | basic | reference | array | function => cases h

/-! ## The rule of storing -/

theorem isEmpty_substituteAll (ts : List TypeUsage) :
    (substituteAll s ts).isEmpty = ts.isEmpty := by
  cases ts <;> rfl

/-- A substitution does not change whether type arguments are looked at. -/
theorem argsCompared_substituteAll :
    ArgsCompared d (substituteAll s as) e (substituteAll s bs) ↔ ArgsCompared d as e bs := by
  unfold ArgsCompared
  rw [isEmpty_substituteAll, isEmpty_substituteAll]

/-- What fits, or is fitted, is no variable. -/
theorem Fits.notVariable (h : Fits Below t u) : t.isVariable = false ∧ u.isVariable = false := by
  cases h <;> exact ⟨rfl, rfl⟩

/-- The rule is kept, whatever classes are below one another. -/
theorem Fits.substitute (h : Fits Below t u) : Fits Below (t.substitute s) (u.substitute s) := by
  induction h with
  | widened widens => exact .widened widens
  | unsignedWidened widens => exact .unsignedWidened widens
  | intoUnsigned v => exact .intoUnsigned v
  | unsigned v => exact .unsigned v
  | sameArgs compared same =>
      refine .sameArgs (argsCompared_substituteAll.2 compared) ?_
      exact sameAll_substituteAll (fun _ _ _ => same_substitute) same
  | subtype ignored isBelow =>
      exact .subtype (fun compared => ignored (argsCompared_substituteAll.1 compared)) isBelow
  | exactElement isPrimitive =>
      refine .exactElement ?_
      rw [substitute_of_isPrimitive isPrimitive]
      exact isPrimitive
  | element neither inner ih =>
      -- the elements are no variables, so no primitive takes their place
      obtain ⟨left, right⟩ := inner.notVariable
      refine .element ?_ ih
      rw [isPrimitive_substitute left, isPrimitive_substitute right]
      exact neither
  | function number _ _ ih ihResult =>
      refine .function ?_ ?_ ihResult
      · rw [substituteAll_length, substituteAll_length]
        exact number
      · intro pair mem
        rw [substituteAll_eq_map, substituteAll_eq_map, List.zip_map] at mem
        obtain ⟨before, hbefore, rfl⟩ := List.mem_map.1 mem
        exact ih before hbefore

/-! ## Descriptors -/

/-- What has a descriptor keeps it. -/
theorem jvmType_substitute (h : t.jvmType = .ok j) : (t.substitute s).jvmType = .ok j := by
  induction t using inductionOn generalizing j with
  | primitive | basic => exact h
  | reference d args => exact h
  | array e ih =>
      rw [jvmType] at h
      split at h
      · cases h
      · rename_i notVoid
        obtain ⟨component, hcomponent, h⟩ := bind_ok_iff.1 h
        have kept := ih hcomponent
        have notVoid' : (e.substitute s).isVoid ≠ true := by
          intro isVoid
          have voidComponent := (jvmType_void kept).1 (isVoid_iff.1 isVoid)
          exact notVoid (isVoid_iff.2 ((jvmType_void hcomponent).2 voidComponent))
        rw [substitute, jvmType, if_neg notVoid', kept]
        exact h
  | function | typeVar => cases h

/-- If a value of one type can be stored where another is expected, this is so for the instances of
the two types as well, and a usage with a descriptor has instances with the same descriptor. Type
variables in type arguments are no exception. -/
theorem kept_by_substitution (source : TypeSource (Except TypeError))
    (s : String → Option TypeUsage) (t u : TypeUsage) :
    (assignableTo source t u = .ok true →
      assignableTo source (t.substitute s) (u.substitute s) = .ok true) ∧
    ∀ j, t.jvmType = .ok j → (t.substitute s).jvmType = .ok j := by
  constructor
  · intro h
    exact assignable_of_fits (assignable_iff_fits.1 h).substitute
  · intro j h
    exact jvmType_substitute h

/-- Boxes with the variable of their class for an argument. -/
def genericBox : TypeUsage := reference (.empty "lib.Box" .classType) [boxed]

/-- Functions from such boxes to arrays of them. -/
def fillingBoxes : TypeUsage := function [genericBox] (array genericBox)

/-- Functions from such boxes to arrays of boxes of any kind. -/
def fillingAny : TypeUsage :=
  function [genericBox] (array (ofDefinition (.empty "lib.Box" .classType)))

theorem boxes_kept :
    (assignableTo (TypeTable.empty.source : TypeSource (Except TypeError)) fillingBoxes fillingAny =
        .ok true ∧
      assignableTo (TypeTable.empty.source : TypeSource (Except TypeError))
        (fillingBoxes.substitute asInt) (fillingAny.substitute asInt) = .ok true) ∧
    ((array genericBox).jvmType = .ok (.array (.ofDotted "lib.Box")) ∧
      ((array genericBox).substitute asInt).jvmType = .ok (.array (.ofDotted "lib.Box"))) := by
  have stored : assignableTo (TypeTable.empty.source : TypeSource (Except TypeError)) fillingBoxes
      fillingAny = .ok true := rfl
  have described : (array genericBox).jvmType = .ok (.array (.ofDotted "lib.Box")) := rfl
  exact ⟨⟨stored, (kept_by_substitution _ asInt _ _).1 stored⟩, described,
    (kept_by_substitution TypeTable.empty.source asInt _ genericBox).2 _ described⟩

end JvmScope.TypeUsage
