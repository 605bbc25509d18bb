import JvmScope.Proofs.Types.Source
import JvmScope.Types.Hierarchy

/-!
# Subtypes

The search for a supertype goes upwards from a list of names, each name once, and looks at
nothing above `java.lang.Object`. What it could come to is `Reachable`. A search that ends with an
answer says whether its target is reachable (`reaches_ok_iff`): when it ends empty-handed, the
names it has looked up are closed under going upwards. A search that fails has come upon a name
that the source does not deliver (`reaches_error`).

So a definition is a subtype of what `IsAbove` says, and being above is transitive, as long as
the source answers names with definitions of these names and has nothing above
`java.lang.Object` (`IsAbove.trans`). No hierarchy has to be complete or free of cycles for
this.
-/

namespace JvmScope

variable {source : TypeSource (Except TypeError)}

namespace TypeSource

/-- The source answers the name of the definition with the definition. -/
def Delivers (source : TypeSource (Except TypeError)) (d : TypeDefinition) : Prop :=
  source.resolve d.qualifiedName = .ok (some d)

theorem Exact.delivers {name : String} {d : TypeDefinition} (exact : source.Exact)
    (answered : source.resolve name = .ok (some d)) : source.Delivers d := by
  have hname := exact name d answered
  unfold Delivers
  rw [hname]
  exact answered

/-- Where the source has the root of the hierarchy, the root has no supertypes. -/
def RootOnTop (source : TypeSource (Except TypeError)) : Prop :=
  ∀ d, source.resolve QualifiedName.object = .ok (some d) → d.supertypes = []

theorem require_of_requireKnown {name : String} {e : TypeError}
    (h : source.requireKnown name = .error e) : source.require name = .error e :=
  bind_of_error h

end TypeSource

namespace TypeDefinition

/-! ## Names above names -/

/-- The names that a search starting from `names` can come to. -/
inductive Reachable (source : TypeSource (Except TypeError)) (names : List String) : String → Prop
  | listed {name : String} (mem : name ∈ names) : Reachable source names name
  /-- Nothing is looked at above the root. -/
  | above {name super : String} {d : TypeDefinition} (below : Reachable source names name)
      (notRoot : name ≠ QualifiedName.object) (answered : source.resolve name = .ok (some d))
      (declared : super ∈ d.supertypes) : Reachable source names super

variable {names queue visited : List String} {name target super : String} {d : TypeDefinition}

/-- A search that starts from reachable names comes to reachable names. -/
theorem Reachable.trans (first : ∀ name ∈ queue, Reachable source names name)
    (h : Reachable source queue target) : Reachable source names target := by
  induction h with
  | listed mem => exact first _ mem
  | above _ notRoot answered declared ih => exact .above ih notRoot answered declared

/-- What is reachable from a part of a list is reachable from all of it. -/
theorem Reachable.tail (h : Reachable source queue target) :
    Reachable source (name :: queue) target :=
  h.trans fun _ mem => .listed (List.mem_cons_of_mem _ mem)

/-- What a search can come to after looking a name up, it could come to before. -/
theorem Reachable.lookedUp (notRoot : name ≠ QualifiedName.object)
    (answered : source.resolve name = .ok (some d))
    (h : Reachable source (queue ++ d.supertypes) target) :
    Reachable source (name :: queue) target := by
  refine h.trans fun other mem => ?_
  rcases List.mem_append.1 mem with waiting | declared
  · exact .listed (List.mem_cons_of_mem _ waiting)
  · exact .above (.listed List.mem_cons_self) notRoot answered declared

theorem not_reachable_nil : ¬Reachable source [] target := by
  intro h
  induction h with
  | listed mem => exact List.not_mem_nil mem
  | above _ _ _ _ ih => exact ih

/-! ## Searches -/

/-- A target that is found is reachable. -/
theorem reachable_of_reaches (h : reaches source target visited queue = .ok true) :
    Reachable source queue target := by
  fun_induction reaches source target visited queue with
  | case1 => cases h
  | case2 => exact .listed List.mem_cons_self
  | case3 visited name queue other passed ih => exact (ih h).tail
  | case4 visited name queue other fresh ih =>
      obtain ⟨⟨d, known⟩, hd, h⟩ := bind_ok_iff.1 h
      have notRoot : name ≠ QualifiedName.object := fun root => fresh (.inl root)
      exact (ih d known h).lookedUp notRoot (TypeSource.resolve_of_requireKnown hd)

/-- The names in `visited` have been looked up, and what stands above them has been met: it is the
root, has been looked up too, or waits in `queue`. -/
def Explored (source : TypeSource (Except TypeError)) (visited queue : List String) : Prop :=
  ∀ name ∈ visited, ∃ d, source.resolve name = .ok (some d) ∧
    ∀ super ∈ d.supertypes, super = QualifiedName.object ∨ super ∈ visited ∨ super ∈ queue

/-- A name that was passed over need not wait. -/
theorem Explored.pass (h : Explored source visited (name :: queue))
    (passed : name = QualifiedName.object ∨ name ∈ visited) : Explored source visited queue := by
  intro other mem
  obtain ⟨d, answered, above⟩ := h other mem
  refine ⟨d, answered, fun super declared => ?_⟩
  rcases above super declared with root | seen | waiting
  · exact .inl root
  · exact .inr (.inl seen)
  · rcases List.mem_cons.1 waiting with rfl | waiting
    · exact passed.imp_right .inl
    · exact .inr (.inr waiting)

/-- When a name is looked up, the names above it begin to wait. -/
theorem Explored.lookUp (h : Explored source visited (name :: queue))
    (answered : source.resolve name = .ok (some d)) :
    Explored source (name :: visited) (queue ++ d.supertypes) := by
  intro other mem
  rcases List.mem_cons.1 mem with rfl | mem
  · exact ⟨d, answered, fun super declared => .inr (.inr (List.mem_append_right _ declared))⟩
  · obtain ⟨e, answered, above⟩ := h other mem
    refine ⟨e, answered, fun super declared => ?_⟩
    rcases above super declared with root | seen | waiting
    · exact .inl root
    · exact .inr (.inl (List.mem_cons_of_mem _ seen))
    · rcases List.mem_cons.1 waiting with rfl | waiting
      · exact .inr (.inl List.mem_cons_self)
      · exact .inr (.inr (List.mem_append_left _ waiting))

/-- A search that ends without its target has looked up everything that it could come to, and
its target is not among it. -/
theorem exists_explored (explored : Explored source visited queue) (unseen : target ∉ visited)
    (h : reaches source target visited queue = .ok false) :
    ∃ all, Explored source all [] ∧ target ∉ all ∧ (∀ name ∈ visited, name ∈ all) ∧
      ∀ name ∈ queue, name = QualifiedName.object ∨ name ∈ all := by
  fun_induction reaches source target visited queue with
  | case1 visited =>
      exact ⟨visited, explored, unseen, fun _ mem => mem, fun _ mem => absurd mem List.not_mem_nil⟩
  | case2 => cases h
  | case3 visited name queue other passed ih =>
      obtain ⟨all, closed, missing, seen, met⟩ := ih (explored.pass passed) unseen h
      refine ⟨all, closed, missing, seen, fun waiting mem => ?_⟩
      rcases List.mem_cons.1 mem with rfl | mem
      · exact passed.imp_right (seen _)
      · exact met waiting mem
  | case4 visited name queue other fresh ih =>
      obtain ⟨⟨d, known⟩, hd, h⟩ := bind_ok_iff.1 h
      have answered := TypeSource.resolve_of_requireKnown hd
      have unseen' : target ∉ name :: visited := fun mem =>
        (List.mem_cons.1 mem).elim (fun same => other same.symm) unseen
      obtain ⟨all, closed, missing, seen, met⟩ := ih d known (explored.lookUp answered) unseen' h
      refine ⟨all, closed, missing, fun name mem => seen name (List.mem_cons_of_mem _ mem), ?_⟩
      intro waiting mem
      rcases List.mem_cons.1 mem with rfl | mem
      · exact .inr (seen _ List.mem_cons_self)
      · exact met waiting (List.mem_append_left _ mem)

/-- Nothing is reachable beyond names that have all been looked up. -/
theorem Explored.mem_of_reachable (closed : Explored source visited [])
    (first : ∀ name ∈ names, name = QualifiedName.object ∨ name ∈ visited)
    (h : Reachable source names target) : target = QualifiedName.object ∨ target ∈ visited := by
  induction h with
  | listed mem => exact first _ mem
  | above _ notRoot answered declared ih =>
      obtain ⟨e, same, above⟩ := closed _ (ih.resolve_left notRoot)
      obtain rfl := Option.some.inj (Except.ok.inj (answered.symm.trans same))
      rcases above _ declared with root | seen | waiting
      · exact .inl root
      · exact .inr seen
      · exact absurd waiting List.not_mem_nil

/-- An answer of a search says whether its target is reachable. -/
theorem reaches_ok_iff {found : Bool} (notRoot : target ≠ QualifiedName.object)
    (h : reaches source target [] queue = .ok found) :
    found = true ↔ Reachable source queue target := by
  constructor
  · rintro rfl
    exact reachable_of_reaches h
  · intro reachable
    cases found with
    | true => rfl
    | false =>
        have start : Explored source [] queue := fun _ mem => absurd mem List.not_mem_nil
        obtain ⟨all, closed, missing, -, met⟩ := exists_explored start List.not_mem_nil h
        exact absurd (closed.mem_of_reachable met reachable) (not_or.2 ⟨notRoot, missing⟩)

/-- A search only fails at a name that it comes to and that the source does not deliver, which is
never the root. -/
theorem reaches_error {e : TypeError} (h : reaches source target visited queue = .error e) :
    ∃ name, name ≠ QualifiedName.object ∧ Reachable source queue name ∧
      source.require name = .error e := by
  fun_induction reaches source target visited queue with
  | case1 => cases h
  | case2 => cases h
  | case3 visited name queue other passed ih =>
      obtain ⟨missing, notRoot, reachable, failed⟩ := ih h
      exact ⟨missing, notRoot, reachable.tail, failed⟩
  | case4 visited name queue other fresh ih =>
      have notRoot : name ≠ QualifiedName.object := fun root => fresh (.inl root)
      cases hd : source.requireKnown name with
      | error cause =>
          rw [bind_of_error hd] at h
          cases h
          exact ⟨name, notRoot, .listed List.mem_cons_self, TypeSource.require_of_requireKnown hd⟩
      | ok answer =>
          rw [bind_of_ok hd] at h
          obtain ⟨missing, notRoot', reachable, failed⟩ := ih answer.1 answer.2 h
          have answered := TypeSource.resolve_of_requireKnown hd
          exact ⟨missing, notRoot', reachable.lookedUp notRoot answered, failed⟩

/-! ## Subtypes -/

/-- The name is that of the type itself, of a type above it, or of the root, which is above every
type. -/
def IsAbove (source : TypeSource (Except TypeError)) (d : TypeDefinition) (name : String) : Prop :=
  name = QualifiedName.object ∨ d.qualifiedName = name ∨ Reachable source d.supertypes name

/-- An answer to whether a type is a subtype says whether the other type is above it. -/
theorem isSubtypeOf_ok_iff {found : Bool} (h : d.isSubtypeOf source target = .ok found) :
    found = true ↔ d.IsAbove source target := by
  unfold isSubtypeOf at h
  split at h
  · rename_i near
    obtain rfl := pure_ok_iff.1 h
    exact iff_of_true rfl (or_assoc.1 (.inl near))
  · rename_i far
    rw [reaches_ok_iff (fun root => far (.inl root)) h]
    exact ⟨fun reachable => .inr (.inr reachable),
      fun above => (or_assoc.2 above).resolve_left far⟩

/-- Whether a type is a subtype is only left open for a supertype that the source does not
deliver. -/
theorem isSubtypeOf_error {e : TypeError} (h : d.isSubtypeOf source target = .error e) :
    ∃ name, Reachable source d.supertypes name ∧ source.require name = .error e := by
  unfold isSubtypeOf at h
  split at h
  · cases h
  · obtain ⟨name, -, reachable, failed⟩ := reaches_error h
    exact ⟨name, reachable, failed⟩

/-- The supertype that is declared first is found at once. -/
theorem isSubtypeOf_first {more : List String} (notRoot : target ≠ QualifiedName.object)
    (other : d.qualifiedName ≠ target) (first : d.supertypes = target :: more) :
    d.isSubtypeOf source target = .ok true := by
  unfold isSubtypeOf
  rw [if_neg (not_or.2 ⟨notRoot, other⟩), first, reaches, if_pos rfl]
  rfl

/-- Only the root itself is above the root. -/
theorem IsAbove.eq_root (exact : source.Exact) (top : source.RootOnTop)
    (answered : source.resolve QualifiedName.object = .ok (some d))
    (above : d.IsAbove source target) : target = QualifiedName.object := by
  rcases above with root | self | reachable
  · exact root
  · rw [← self]
    exact exact _ d answered
  · rw [top d answered] at reachable
    exact absurd reachable not_reachable_nil

/-- What is above a type that is above another is above this one. -/
theorem IsAbove.trans {e : TypeDefinition} (exact : source.Exact) (top : source.RootOnTop)
    (own : source.Delivers d) (answered : source.resolve name = .ok (some e))
    (lower : d.IsAbove source name) (upper : e.IsAbove source target) :
    d.IsAbove source target := by
  by_cases root : name = QualifiedName.object
  · subst root
    exact .inl (upper.eq_root exact top answered)
  · have hname : e.qualifiedName = name := exact name e answered
    rcases upper with isRoot | self | reachable
    · exact .inl isRoot
    · rw [← self, hname]
      exact lower
    · rcases lower with isRoot | self | below
      · exact absurd isRoot root
      · have delivered : source.resolve name = .ok (some d) := self ▸ own
        obtain rfl := Option.some.inj (Except.ok.inj (answered.symm.trans delivered))
        exact .inr (.inr reachable)
      · refine .inr (.inr (reachable.trans ?_))
        intro super declared
        exact .above below root answered declared

end TypeDefinition

end JvmScope
