import JvmScope.Proofs.FirstOccurrences
import JvmScope.Proofs.Types.Hiding
import JvmScope.Proofs.Types.Subtypes
import Mathlib.Data.List.Nodup
import Mathlib.Data.List.Perm.Subperm

/-!
# Breadth-first order

What it means that a walk goes upwards nearest first is said here without a queue and without a
record of what was seen. `namesAbove` lists the names that are a number of steps above a name, once
for every way upwards and in the order of declaration; in a hierarchy that runs in circles these
lists never end. `nearestFirst` puts such levels one behind the other and keeps every name where it
stands first.

A walk keeps to this order. Its invariant is `Walked`: what has been passed and what waits are
together the supertypes of the definitions that were visited, and these are named by the first
occurrences in what has been passed. When nothing waits any more, the names visited are a fixed
point of going one level up, and there is only one that the type reaches as a whole
(`breadthFirst_of_allSupertypes`).

A walk that nothing stops comes to its end exactly where all supertypes have definitions
(`exists_allSupertypes_iff`).
-/

namespace JvmScope

variable {source : TypeSource (Except TypeError)}

namespace TypeSource

/-! ## Levels of names -/

/-- The names directly above a name. -/
def above (source : TypeSource (Except TypeError)) (name : String) : List String :=
  match source.resolve name with
  | .ok (some e) => e.supertypes
  | _ => []

/-- The names so many steps above a name, once for every way upwards: those above the first name
of the level below come first, a superclass before the interfaces. -/
def namesAbove (source : TypeSource (Except TypeError)) (name : String) : Nat → List String
  | 0 => [name]
  | steps + 1 => (source.namesAbove name steps).flatMap source.above

/-- The names on the first levels above a name, level by level, each where it stands first. -/
def nearestFirst (source : TypeSource (Except TypeError)) (name : String) (levels : Nat) :
    List String :=
  ((List.range levels).flatMap (source.namesAbove name)).eraseDups

variable {name : String}

theorem Delivers.above {d : TypeDefinition} (h : source.Delivers d) :
    source.above d.qualifiedName = d.supertypes := by
  unfold TypeSource.above
  rw [h]

theorem nearestFirst_prefix (source : TypeSource (Except TypeError)) (name : String)
    (levels : Nat) : source.nearestFirst name levels <+: source.nearestFirst name (levels + 1) := by
  refine eraseDups_prefix ⟨source.namesAbove name levels, ?_⟩
  rw [List.range_succ, List.flatMap_append, List.flatMap_singleton]

/-- One more level is one step up from the levels before, beside the name itself. -/
theorem nearestFirst_succ (source : TypeSource (Except TypeError)) (name : String)
    (levels : Nat) :
    source.nearestFirst name (levels + 1) =
      (name :: (source.nearestFirst name levels).flatMap source.above).eraseDups := by
  -- level 0 is the name alone, and every other level is one step up from the one before
  have shift : (List.range (levels + 1)).flatMap (source.namesAbove name) =
      [name] ++ ((List.range levels).flatMap (source.namesAbove name)).flatMap source.above := by
    rw [List.range_succ_eq_map, List.flatMap_cons, List.flatMap_map, List.flatMap_assoc]
    rfl
  unfold nearestFirst
  rw [shift]
  exact (eraseDups_flatMap_eraseDups [name] source.above _).symm

end TypeSource

namespace TypeDefinition

variable {d e f : TypeDefinition} {name : String} {defs supers : List TypeDefinition}
  {visited queue : List String}

/-! ## Hierarchies -/

/-- The type itself and all definitions above it, the root of the hierarchy being a type like any
other. -/
inductive InHierarchy (source : TypeSource (Except TypeError)) (d : TypeDefinition) :
    TypeDefinition → Prop
  | self : InHierarchy source d d
  | above {e f : TypeDefinition} {name : String} (below : InHierarchy source d e)
      (declared : name ∈ e.supertypes) (answered : source.resolve name = .ok (some f)) :
      InHierarchy source d f

/-- The definitions are named level by level above `d`, each where it is met first, on however many
levels they may be looked for. -/
structure BreadthFirst (source : TypeSource (Except TypeError)) (d : TypeDefinition)
    (defs : List TypeDefinition) : Prop where
  delivered : ∀ e ∈ defs, source.Delivers e
  order : ∀ levels, defs.length ≤ levels →
    defs.map (·.qualifiedName) = source.nearestFirst d.qualifiedName levels

theorem InHierarchy.delivers (exact : source.Exact) (own : source.Delivers d)
    (h : InHierarchy source d e) : source.Delivers e := by
  cases h with
  | self => exact own
  | above _ _ answered => exact exact.delivers answered

/-! ## What a walk comes to -/

/-- A walk upwards from `d` has visited types of the hierarchy, and their supertypes wait. -/
structure Climbs (source : TypeSource (Except TypeError)) (d : TypeDefinition)
    (defs : List TypeDefinition) (queue : List String) : Prop where
  visited : ∀ e ∈ defs, InHierarchy source d e
  waiting : ∀ name ∈ queue, ∃ b, InHierarchy source d b ∧ name ∈ b.supertypes

theorem climbs_start : Climbs source d [d] d.supertypes where
  visited e he := by
    rw [List.mem_singleton.1 he]
    exact .self
  waiting name mem := ⟨d, .self, mem⟩

theorem Climbs.pass (h : Climbs source d defs (name :: queue)) : Climbs source d defs queue where
  visited := h.visited
  waiting other mem := h.waiting other (List.mem_cons_of_mem _ mem)

theorem Climbs.visit (h : Climbs source d defs (name :: queue))
    (answered : source.resolve name = .ok (some e)) :
    Climbs source d (defs ++ [e]) (queue ++ e.supertypes) := by
  obtain ⟨b, hb, declared⟩ := h.waiting name List.mem_cons_self
  have new : InHierarchy source d e := .above hb declared answered
  constructor
  · intro other mem
    rcases List.mem_append.1 mem with old | mem
    · exact h.visited other old
    · rw [List.mem_singleton.1 mem]
      exact new
  · intro super mem
    rcases List.mem_append.1 mem with waiting | declared
    · exact h.waiting super (List.mem_cons_of_mem _ waiting)
    · exact ⟨e, new, declared⟩

theorem Climbs.walkFrom_ok {seen : List TypeDefinition}
    (h : Climbs source d (d :: seen) queue)
    (result : walkFrom source (fun seen e => .next (seen ++ [e])) visited queue seen =
      .ok supers) : ∀ e ∈ d :: supers, InHierarchy source d e := by
  fun_induction walkFrom source (fun (seen : List TypeDefinition) e => .next (seen ++ [e]))
      visited queue seen with
  | case1 visited seen =>
      obtain rfl := pure_ok_iff.1 result
      exact h.visited
  | case2 visited seen name queue old ih => exact ih h.pass result
  | case3 visited seen name queue fresh ih =>
      obtain ⟨⟨e, known⟩, he, result⟩ := bind_ok_iff.1 result
      exact ih e known _ (h.visit (TypeSource.resolve_of_requireKnown he)) result

/-- A walk fails at a supertype that the source does not deliver. -/
theorem Climbs.walkFrom_error {seen : List TypeDefinition} {cause : TypeError}
    (h : Climbs source d (d :: seen) queue)
    (result : walkFrom source (fun seen e => .next (seen ++ [e])) visited queue seen =
      .error cause) :
    ∃ b, InHierarchy source d b ∧ ∃ super ∈ b.supertypes, source.require super = .error cause := by
  fun_induction walkFrom source (fun (seen : List TypeDefinition) e => .next (seen ++ [e]))
      visited queue seen with
  | case1 visited seen => cases result
  | case2 visited seen name queue old ih => exact ih h.pass result
  | case3 visited seen name queue fresh ih =>
      cases he : source.requireKnown name with
      | error failure =>
          rw [bind_of_error he] at result
          cases result
          obtain ⟨b, hb, declared⟩ := h.waiting name List.mem_cons_self
          exact ⟨b, hb, name, declared, TypeSource.require_of_requireKnown he⟩
      | ok answer =>
          rw [bind_of_ok he] at result
          have answered := TypeSource.resolve_of_requireKnown he
          exact ih answer.1 answer.2 _ (h.visit answered) result

/-- A walk visits types of the hierarchy only. -/
theorem inHierarchy_of_allSupertypes (h : d.allSupertypes source = .ok supers) :
    ∀ e ∈ d :: supers, InHierarchy source d e := climbs_start.walkFrom_ok h

/-- Only a supertype that the source does not deliver keeps a walk from its end. -/
theorem missing_of_allSupertypes {cause : TypeError} (h : d.allSupertypes source = .error cause) :
    ∃ b, InHierarchy source d b ∧ ∃ super ∈ b.supertypes, source.require super = .error cause :=
  climbs_start.walkFrom_error h

/-! ## In which order -/

/-- How far a walk upwards from `d` has come that has visited `defs`. -/
structure Walked (source : TypeSource (Except TypeError)) (d : TypeDefinition)
    (defs : List TypeDefinition) (visited queue : List String) : Prop where
  seen : ∀ name, name ∈ visited ↔ name ∈ defs.map (·.qualifiedName)
  delivered : ∀ e ∈ defs, source.Delivers e
  /-- The supertypes of the visited definitions were passed or wait, and where one was passed for
  the first time, it was visited. -/
  passed : ∃ passed, passed ++ queue = defs.flatMap (·.supertypes) ∧
    (d.qualifiedName :: passed).eraseDups = defs.map (·.qualifiedName)

theorem walked_start (own : source.Delivers d) :
    Walked source d [d] [d.qualifiedName] d.supertypes where
  seen _ := Iff.rfl
  delivered e he := by
    rw [List.mem_singleton.1 he]
    exact own
  passed := ⟨[], by simp, rfl⟩

/-- A name that was seen before is passed without a visit. -/
theorem Walked.pass (h : Walked source d defs visited (name :: queue)) (seen : name ∈ visited) :
    Walked source d defs visited queue where
  seen := h.seen
  delivered := h.delivered
  passed := by
    obtain ⟨passed, all, first⟩ := h.passed
    have again : name ∈ d.qualifiedName :: passed := by
      rw [← List.mem_eraseDups, first]
      exact (h.seen name).1 seen
    refine ⟨passed ++ [name], by simpa using all, ?_⟩
    rw [← List.cons_append, eraseDups_concat_of_mem again]
    exact first

/-- A name that was not seen before is visited, and its supertypes wait behind all others. -/
theorem Walked.visit (exact : source.Exact) (h : Walked source d defs visited (name :: queue))
    (fresh : name ∉ visited) (answered : source.resolve name = .ok (some e)) :
    Walked source d (defs ++ [e]) (name :: visited) (queue ++ e.supertypes) := by
  obtain ⟨passed, all, first⟩ := h.passed
  have hname : e.qualifiedName = name := exact name e answered
  have new : name ∉ d.qualifiedName :: passed := by
    rw [← List.mem_eraseDups, first]
    exact fun seen => fresh ((h.seen name).2 seen)
  refine ⟨?_, ?_, passed ++ [name], ?_, ?_⟩
  · intro other
    simp [h.seen other, hname, or_comm]
  · intro b hb
    rcases List.mem_append.1 hb with hb | hb
    · exact h.delivered b hb
    · rw [List.mem_singleton.1 hb]
      exact exact.delivers answered
  · simp [← all]
  · rw [← List.cons_append, eraseDups_concat_of_notMem new, first]
    simp [hname]

/-- A walk that comes to its end leaves nothing waiting. -/
theorem Walked.walkFrom_ok (exact : source.Exact) {seen : List TypeDefinition}
    (h : Walked source d (d :: seen) visited queue)
    (result : walkFrom source (fun seen e => .next (seen ++ [e])) visited queue seen =
      .ok supers) : ∃ visited, Walked source d (d :: supers) visited [] := by
  fun_induction walkFrom source (fun (seen : List TypeDefinition) e => .next (seen ++ [e]))
      visited queue seen with
  | case1 visited seen =>
      obtain rfl := pure_ok_iff.1 result
      exact ⟨visited, h⟩
  | case2 visited seen name queue old ih => exact ih (h.pass old) result
  | case3 visited seen name queue fresh ih =>
      obtain ⟨⟨e, known⟩, he, result⟩ := bind_ok_iff.1 result
      have answered := TypeSource.resolve_of_requireKnown he
      exact ih e known (seen ++ [e]) (h.visit exact fresh answered) result

/-! ## The order of a walk -/

/-- Names to which going one step up adds none name the whole hierarchy. -/
theorem InHierarchy.mem_of_fixed (exact : source.Exact) (own : source.Delivers d)
    {names : List String}
    (fixed : (d.qualifiedName :: names.flatMap source.above).eraseDups = names)
    (h : InHierarchy source d e) : e.qualifiedName ∈ names := by
  induction h with
  | self =>
      rw [← fixed]
      exact List.mem_eraseDups.2 List.mem_cons_self
  | @above b f name below declared answered ih =>
      have up : name ∈ names.flatMap source.above := by
        refine List.mem_flatMap.2 ⟨b.qualifiedName, ih, ?_⟩
        rw [(below.delivers exact own).above]
        exact declared
      rw [exact name f answered, ← fixed]
      exact List.mem_eraseDups.2 (List.mem_cons_of_mem _ up)

/-- The names of a finished walk are those that going one step up from them leads to. -/
theorem Walked.fixed (h : Walked source d defs visited []) :
    (d.qualifiedName :: (defs.map (·.qualifiedName)).flatMap source.above).eraseDups =
      defs.map (·.qualifiedName) := by
  obtain ⟨passed, all, first⟩ := h.passed
  have supers : (defs.map (·.qualifiedName)).flatMap source.above =
      defs.flatMap (·.supertypes) := by
    rw [List.flatMap_map]
    exact List.flatMap_congr fun e he => (h.delivered e he).above
  rw [List.append_nil] at all
  rw [supers, ← all]
  exact first

/-- A finished walk has visited the whole hierarchy. -/
theorem Walked.mem_of_inHierarchy (exact : source.Exact) (own : source.Delivers d)
    (h : Walked source d defs visited []) (he : InHierarchy source d e) : e ∈ defs := by
  obtain ⟨b, hb, same⟩ := List.mem_map.1 (he.mem_of_fixed exact own h.fixed)
  have delivered : source.resolve e.qualifiedName = .ok (some b) := same ▸ h.delivered b hb
  obtain rfl := Option.some.inj (Except.ok.inj (delivered.symm.trans (he.delivers exact own)))
  exact hb

/-- The names on the first levels stand at the beginning of a finished walk. -/
theorem Walked.nearestFirst_prefix (h : Walked source d defs visited []) (levels : Nat) :
    source.nearestFirst d.qualifiedName levels <+: defs.map (·.qualifiedName) := by
  induction levels with
  | zero => exact List.nil_prefix
  | succ levels ih =>
      obtain ⟨more, hmore⟩ := ih
      rw [TypeSource.nearestFirst_succ, ← h.fixed, ← hmore, List.flatMap_append]
      exact eraseDups_prefix ⟨_, List.cons_append⟩

/-- Levels that hold no new name hold all names of the hierarchy. -/
theorem Walked.nearestFirst_of_stable (exact : source.Exact) (own : source.Delivers d)
    (h : Walked source d defs visited []) (inside : ∀ e ∈ defs, InHierarchy source d e)
    {levels : Nat}
    (stable : source.nearestFirst d.qualifiedName (levels + 1) =
      source.nearestFirst d.qualifiedName levels) :
    source.nearestFirst d.qualifiedName levels = defs.map (·.qualifiedName) := by
  have step := TypeSource.nearestFirst_succ source d.qualifiedName levels
  rw [stable] at step
  generalize hnames : source.nearestFirst d.qualifiedName levels = names at step
  have complete : defs.map (·.qualifiedName) ⊆ names := by
    intro name hname
    obtain ⟨e, he, rfl⟩ := List.mem_map.1 hname
    exact (inside e he).mem_of_fixed exact own step.symm
  -- a prefix that lacks no name of a list without repetition is the whole list
  have once : (defs.map (·.qualifiedName)).Nodup := by
    rw [← h.fixed]
    exact nodup_eraseDups _
  have first : names <+: defs.map (·.qualifiedName) := hnames ▸ h.nearestFirst_prefix levels
  have long := (List.subperm_of_subset once complete).length_le
  exact first.eq_of_length (Nat.le_antisymm first.length_le long)

/-- Each level holds a new name, until all names were met. -/
theorem Walked.order (exact : source.Exact) (own : source.Delivers d)
    (h : Walked source d defs visited []) (inside : ∀ e ∈ defs, InHierarchy source d e)
    (levels : Nat) :
    source.nearestFirst d.qualifiedName levels = defs.map (·.qualifiedName) ∨
      levels ≤ (source.nearestFirst d.qualifiedName levels).length := by
  induction levels with
  | zero => exact .inr (Nat.zero_le _)
  | succ levels ih =>
      have grows := TypeSource.nearestFirst_prefix source d.qualifiedName levels
      by_cases stable : source.nearestFirst d.qualifiedName (levels + 1) =
          source.nearestFirst d.qualifiedName levels
      · left
        rw [stable]
        exact h.nearestFirst_of_stable exact own inside stable
      · rcases ih with all | long
        · left
          rw [TypeSource.nearestFirst_succ, all]
          exact h.fixed
        -- the level is new and the prefix grows, so it is longer by one at least
        · right
          have longer : (source.nearestFirst d.qualifiedName levels).length ≠
              (source.nearestFirst d.qualifiedName (levels + 1)).length :=
            fun same => stable (grows.eq_of_length same).symm
          have := grows.length_le
          omega

theorem Walked.breadthFirst (exact : source.Exact) (own : source.Delivers d)
    (h : Walked source d defs visited []) (inside : ∀ e ∈ defs, InHierarchy source d e) :
    BreadthFirst source d defs where
  delivered := h.delivered
  order levels enough := by
    rcases h.order exact own inside levels with all | long
    · exact all.symm
    -- a prefix as long as the whole list is the whole list
    · have first := h.nearestFirst_prefix levels
      refine (first.eq_of_length (Nat.le_antisymm first.length_le ?_)).symm
      rw [List.length_map]
      exact Nat.le_trans enough long

/-- A walk visits the hierarchy in breadth-first order. -/
theorem breadthFirst_of_allSupertypes (exact : source.Exact) (own : source.Delivers d)
    (h : d.allSupertypes source = .ok supers) :
    BreadthFirst source d (d :: supers) ∧ ∀ e, e ∈ d :: supers ↔ InHierarchy source d e := by
  obtain ⟨visited, walked⟩ := (walked_start own).walkFrom_ok exact h
  have inside := inHierarchy_of_allSupertypes h
  exact ⟨walked.breadthFirst exact own inside,
    fun e => ⟨inside e, walked.mem_of_inHierarchy exact own⟩⟩

/-- Every supertype in the hierarchy of `d` has a definition. -/
def Rooted (source : TypeSource (Except TypeError)) (d : TypeDefinition) : Prop :=
  ∀ e, InHierarchy source d e → ∀ super ∈ e.supertypes, ∃ f, source.resolve super = .ok (some f)

/-- A walk that nothing stops comes to its end where all supertypes have definitions, and only
there. -/
theorem exists_allSupertypes_iff (exact : source.Exact) (own : source.Delivers d) :
    (∃ supers, d.allSupertypes source = .ok supers) ↔ Rooted source d := by
  constructor
  · rintro ⟨supers, h⟩ e he super declared
    obtain ⟨visited, walked⟩ := (walked_start own).walkFrom_ok exact h
    -- the names of a finished walk are closed under going up, and each has a definition
    have met : super ∈ (d :: supers).map (·.qualifiedName) := by
      rw [← walked.fixed]
      refine List.mem_eraseDups.2 (List.mem_cons_of_mem _ ?_)
      refine List.mem_flatMap.2 ⟨e.qualifiedName, ?_, ?_⟩
      · exact List.mem_map.2 ⟨e, walked.mem_of_inHierarchy exact own he, rfl⟩
      · rw [(he.delivers exact own).above]
        exact declared
    obtain ⟨f, hf, rfl⟩ := List.mem_map.1 met
    exact ⟨f, walked.delivered f hf⟩
  · intro rooted
    cases h : d.allSupertypes source with
    | ok supers => exact ⟨supers, rfl⟩
    | error e =>
        obtain ⟨b, hb, super, declared, failed⟩ := missing_of_allSupertypes h
        obtain ⟨f, answered⟩ := rooted b hb super declared
        rw [TypeSource.require_ok_iff.2 answered] at failed
        cases failed

end TypeDefinition

end JvmScope
