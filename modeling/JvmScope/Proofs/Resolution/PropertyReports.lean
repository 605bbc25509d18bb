import JvmScope.Proofs.Resolution.DocumentOrder
import JvmScope.Proofs.Resolution.PropertyUses

/-!
# How often an unknown property type is reported

A property whose written type is unknown is reported by its own check. Where all nodes stand at
places of their own, another report at its place is the same error once more, from a node that
the error has spread to, and there is one for every such node.
`Resolver.reported_once_iff` says when the report at the property is the only one there.
-/

namespace JvmScope

/-- No two nodes stand at the same place. -/
def Tree.DistinctRanges (t : Tree) : Prop :=
  ∀ a < t.size, ∀ b < t.size, t.range a = t.range b → a = b

instance (t : Tree) : Decidable t.DistinctRanges :=
  inferInstanceAs (Decidable (∀ a < t.size, ∀ b < t.size, t.range a = t.range b → a = b))

/-- An element of a list without repetition is alone in it if all elements are equal to it. -/
theorem length_eq_one_iff_of_mem {α : Type} {l : List α} {a : α} (nodup : l.Nodup) (ha : a ∈ l) :
    l.length = 1 ↔ ∀ b ∈ l, b = a := by
  constructor
  · intro h b hb
    obtain ⟨c, rfl⟩ := List.length_eq_one_iff.1 h
    rw [List.mem_singleton.1 ha, List.mem_singleton.1 hb]
  · intro h
    rw [List.eq_replicate_of_mem h] at nodup ⊢
    have hle := List.nodup_replicate.1 nodup
    have hpos : 0 < l.length := List.length_pos_of_mem ha
    rw [List.length_replicate]
    omega

namespace Resolver

variable {r : Resolver} {p n : NodeId} {missing : String} {place : TextRange}

/-- Whether a mistake of the node is reported at the given place. -/
def reportsAt (r : Resolver) (place : TextRange) (n : NodeId) : Bool :=
  (r.mistake? n).any fun d => decide (d.range = place)

theorem reportsAt_iff :
    r.reportsAt place n = true ↔ ∃ e, r.checkNode n = .error e ∧ e.range? = some place := by
  unfold reportsAt mistake?
  cases r.checkNode n with
  | ok u => simp
  | error e =>
      cases hrange : e.range? with
      | none => simp [hrange]
      | some range => simp [hrange]

/-- The reports at a place are those of the nodes that report there. -/
theorem length_reports (place : TextRange) (ids : List NodeId) :
    ((ids.filterMap r.mistake?).filter (·.range = place)).length =
      (ids.filter (r.reportsAt place)).length := by
  induction ids with
  | nil => rfl
  | cons n rest ih =>
      cases hnoted : r.mistake? n with
      | none =>
          have silent : ¬r.reportsAt place n = true := by simp [reportsAt, hnoted]
          rw [List.filterMap_cons_none hnoted, List.filter_cons_of_neg silent]
          exact ih
      | some d =>
          rw [List.filterMap_cons_some hnoted]
          by_cases here : d.range = place
          · have reports : r.reportsAt place n = true := by simp [reportsAt, hnoted, here]
            rw [List.filter_cons_of_pos (by simpa using here), List.filter_cons_of_pos reports,
              List.length_cons, List.length_cons, ih]
          · have silent : ¬r.reportsAt place n = true := by simp [reportsAt, hnoted, here]
            rw [List.filter_cons_of_neg (by simpa using here), List.filter_cons_of_neg silent]
            exact ih

/-- What is reported elsewhere does not stand at the place of the node. -/
theorem Elsewhere.range_ne (distinct : r.tree.DistinctRanges) (here : r.tree.has p = true)
    {e : ResolveError} (h : r.Elsewhere p e) : e.range? ≠ some (r.tree.range p) := by
  intro hrange
  obtain ⟨q, hne, hhas, hplace⟩ := h _ hrange
  exact hne (distinct q (Tree.has_eq_true.1 hhas) p (Tree.has_eq_true.1 here) hplace)

/-- The check of a property is the check of its written type. -/
theorem FailsAsProperty.checkNode_own {own : ResolveError} (broken : r.FailsAsProperty p own)
    (here : r.tree.has p = true) : r.checkNode p = .error own := by
  obtain ⟨name, type, hk, hown⟩ := broken
  have required : r.tree.requireNode p = .ok () := if_pos here
  unfold checkNode checkNodeBy
  rw [required]
  show (match r.tree.kind p with | _ => _) = _
  rw [hk]
  exact hown

/-- A node other than the property reports at its place only if the property's error has spread
to it. -/
theorem spread_of_reportsAt {own : ResolveError} (distinct : r.tree.DistinctRanges)
    (broken : r.FailsAsProperty p own) (here : r.tree.has p = true)
    (notTarget : ¬r.tree.IsTarget p) (hne : n ≠ p)
    (h : r.reportsAt (r.tree.range p) n = true) :
    r.checkNode n = .error own ∧ r.UsedByName p := by
  obtain ⟨e, he, hrange⟩ := reportsAt_iff.1 h
  rcases spread_checkNode broken notTarget hne e he with elsewhere | ⟨rfl, used⟩
  · exact absurd hrange (elsewhere.range_ne distinct here)
  · exact ⟨he, used⟩

/-- In a file whose nodes all stand at places of their own, let a property's written type be
unknown, the missing name being reported at `place`: at the property, or at an import that leads
nowhere. A check that comes to its end reports exactly one mistake at the property if and only
if it is reported at the property and the check of no other node fails with the same error. Only
in a file with a value reference that names the property is there a node whose check does. -/
theorem reported_once_iff (r : Resolver) (root : NodeId) (distinct : r.tree.DistinctRanges)
    {name : String} {type : TypeRef} (hk : r.tree.kind p = .property name type)
    (unknown : r.scope.checkTypeRef p type = .error (.unresolved missing place))
    (reached : p ∈ r.tree.documentOrder root) (notTarget : ¬r.tree.IsTarget p) {k : Nat}
    (complete : (r.check root).result = .ok k) :
    (((r.check root).diagnostics.filter (·.range = r.tree.range p)).length = 1 ↔
        place = r.tree.range p ∧
          ∀ n ∈ r.tree.documentOrder root, n ≠ p →
            r.checkNode n ≠ .error (.unresolved missing place)) ∧
      (place = r.tree.range p →
        ∀ n ∈ r.tree.documentOrder root, n ≠ p →
          r.checkNode n = .error (.unresolved missing place) → r.UsedByName p) := by
  have broken : r.FailsAsProperty p (.unresolved missing place) := ⟨name, type, hk, unknown⟩
  have here : r.tree.has p = true := by
    refine Tree.has_of_kind_ne ?_
    rw [hk]
    nofun
  have own := broken.checkNode_own here
  rw [diagnostics_of_check complete, length_reports]
  constructor
  · by_cases atProperty : place = r.tree.range p
    · have reports : p ∈ (r.tree.documentOrder root).filter (r.reportsAt (r.tree.range p)) :=
        List.mem_filter.2 ⟨reached, reportsAt_iff.2 ⟨_, own, congrArg some atProperty⟩⟩
      rw [length_eq_one_iff_of_mem ((r.tree.nodup_documentOrder root).filter _) reports]
      constructor
      · intro alone
        refine ⟨atProperty, fun n hn hne again => hne ?_⟩
        have repeats : r.reportsAt (r.tree.range p) n = true :=
          reportsAt_iff.2 ⟨_, again, congrArg some atProperty⟩
        exact alone n (List.mem_filter.2 ⟨hn, repeats⟩)
      · rintro ⟨-, unspread⟩ n hn
        obtain ⟨hn, hreports⟩ := List.mem_filter.1 hn
        by_contra hne
        have spread := spread_of_reportsAt distinct broken here notTarget hne hreports
        exact unspread n hn hne spread.1
    · -- the report stands at an import, and there is none at the property
      have none : (r.tree.documentOrder root).filter (r.reportsAt (r.tree.range p)) = [] := by
        refine List.filter_eq_nil_iff.2 fun n hn hreports => atProperty ?_
        have fails : r.checkNode n = .error (.unresolved missing place) := by
          by_cases hne : n = p
          · rw [hne]
            exact own
          · exact (spread_of_reportsAt distinct broken here notTarget hne hreports).1
        obtain ⟨e, he, hrange⟩ := reportsAt_iff.1 hreports
        obtain rfl := Except.error.inj (fails.symm.trans he)
        exact Option.some.inj hrange
      rw [none]
      exact ⟨fun h => absurd h nofun, fun h => absurd h.1 atProperty⟩
  · intro atProperty n _ hne again
    have repeats : r.reportsAt (r.tree.range p) n = true :=
      reportsAt_iff.2 ⟨_, again, congrArg some atProperty⟩
    exact (spread_of_reportsAt distinct broken here notTarget hne repeats).2

/-- A type with a property whose type is unknown, and a program that creates an instance. -/
def petCreated : Resolver where
  tree := .ofLines "app"
    [(0, .typeDecl "Pet"), (1, .property "tag" (.named "NoSuchType")), (0, .program "main"),
      (3, .block), (4, .expressionStatement), (5, .creation "Pet"), (6, .intLiteral 1)]
  classpath := TypeTable.empty.source

theorem petCreated_reported_once :
    (petCreated.check Tree.root).result = .ok 2 ∧
      ((petCreated.check Tree.root).diagnostics.filter
        (·.range = petCreated.tree.range 2)).length = 1 := by
  have distinct : petCreated.tree.DistinctRanges := by decide +kernel
  have unknown : petCreated.scope.checkTypeRef 2 (.named "NoSuchType") =
      .error (.unresolved "NoSuchType" (petCreated.tree.range 2)) := by decide +kernel
  have reached : 2 ∈ petCreated.tree.documentOrder Tree.root := by decide +kernel
  have notTarget : ¬petCreated.tree.IsTarget 2 := by
    rintro ⟨assignment, hk, hhead⟩
    have parent : assignment = 1 :=
      Tree.parent_unique (List.mem_of_mem_head? hhead) (by decide +kernel)
    subst parent
    exact absurd hk nofun
  have complete : (petCreated.check Tree.root).result = .ok 2 := by decide +kernel
  have alone : ∀ n ∈ petCreated.tree.documentOrder Tree.root, n ≠ 2 →
      petCreated.checkNode n ≠
        .error (.unresolved "NoSuchType" (petCreated.tree.range 2)) := by decide +kernel
  have once :=
    reported_once_iff petCreated Tree.root distinct rfl unknown reached notTarget complete
  exact ⟨complete, once.1.2 ⟨rfl, alone⟩⟩

/-- The same type with a method that names the property. -/
def tagNamed : Resolver where
  tree := .ofLines "app"
    [(0, .typeDecl "Pet"), (1, .property "tag" (.named "NoSuchType")),
      (1, .method "show" (.named "void") false), (3, .block), (4, .expressionStatement),
      (5, .valueRef "tag")]
  classpath := TypeTable.empty.source

/-- A property's unknown type is reported again by a statement that names the property. -/
theorem reports_not_always_once :
    ¬∀ (r : Resolver) (p : NodeId) (name : String) (type : TypeRef) (missing : String)
        (place : TextRange) (k : Nat), r.tree.DistinctRanges →
      r.tree.kind p = .property name type →
      r.scope.checkTypeRef p type = .error (.unresolved missing place) →
      (r.check Tree.root).result = .ok k →
      ((r.check Tree.root).diagnostics.filter (·.range = r.tree.range p)).length = 1 := by
  intro once
  have distinct : tagNamed.tree.DistinctRanges := by decide +kernel
  have unknown : tagNamed.scope.checkTypeRef 2 (.named "NoSuchType") =
      .error (.unresolved "NoSuchType" (tagNamed.tree.range 2)) := by decide +kernel
  have complete : (tagNamed.check Tree.root).result = .ok 2 := by decide +kernel
  have twice : ((tagNamed.check Tree.root).diagnostics.filter
      (·.range = tagNamed.tree.range 2)).length = 2 := by decide +kernel
  have h :=
    once tagNamed 2 "tag" (.named "NoSuchType") "NoSuchType" _ 2 distinct rfl unknown complete
  exact absurd (twice.symm.trans h) (by decide)

end Resolver

end JvmScope
