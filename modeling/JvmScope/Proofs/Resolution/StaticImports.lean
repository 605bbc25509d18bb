import JvmScope.Proofs.Resolution.PropertyReports
import JvmScope.Proofs.Resolution.SymbolLookup

/-!
# Broken imports of static members

The import of a static member is checked by looking up the name that it introduces. If the import
is broken, because there is no such type or the type has no such member, the lookup comes upon
that only where it comes upon the import: whatever binds the name in front of the import answers
in its place.

`Resolver.brokenImport_reported_iff` says when there is a report at a broken import. Either no
node in front of it binds its name, or the check of another node reports there; it then fails
with the error of the import, unless the import is the target of an assignment.
-/

namespace JvmScope

open ResolveError

namespace Resolver

variable {r : Resolver} {i id : NodeId} {type member : String} {renamed : Option String}
  {own : ResolveError}

/-- The import of a static member stands at `i`, and its member is missing with the error `own`. -/
def FailsAsImport (r : Resolver) (i : NodeId) (own : ResolveError) : Prop :=
  ∃ type member renamed, r.tree.kind i = .importDecl (.staticMember type member renamed) ∧
    r.scope.staticOwner type member (r.tree.range i) = .error own

/-! ## Coming upon the import -/

theorem has_of_importDecl {what : Import} (hk : r.tree.kind i = .importDecl what) :
    r.tree.has i = true := by
  refine Tree.has_of_kind_ne ?_
  rw [hk]
  nofun

/-- Who asks the import for a symbol gets its error, or is told that it has another name. -/
theorem FailsAsImport.symbolAt_fails (broken : r.FailsAsImport i own) (name : String) :
    FailsOnly (· = own) (r.scope.symbolAt name i) := by
  obtain ⟨type, member, renamed, hk, howner⟩ := broken
  rw [TypeScope.symbolAt_of_staticImport (s := r.scope) hk]
  split
  · exact .bind (fun e h => Except.error.inj (h.symm.trans howner)) fun _ _ => .pure _
  · exact .pure _

/-- So does who asks it for a type. -/
theorem FailsAsImport.typeAt_fails (broken : r.FailsAsImport i own) (name : String) :
    FailsOnly (· = own) (r.scope.typeAt name i) := by
  obtain ⟨type, member, renamed, hk, howner⟩ := broken
  unfold TypeScope.typeAt TypeScope.imported
  have hk : r.scope.tree.kind i = .importDecl (.staticMember type member renamed) := hk
  rw [hk]
  dsimp only
  split
  · refine .bind (.bind (fun e h => Except.error.inj (h.symm.trans howner)) fun _ _ => .pure _) ?_
    intro found hfound
    cases hfound.symm.trans (bind_of_error howner)
  · exact .bind (.pure _) fun _ hfound => by
      obtain rfl := pure_ok_iff.1 hfound
      exact .pure _

/-- At other nodes, lookups fail elsewhere or with the error of the import. -/
theorem FailsAsImport.spreadsAs (broken : r.FailsAsImport i own) :
    r.SpreadsAs i fun e => r.Elsewhere i e ∨ e = own where
  passive := by
    obtain ⟨type, member, renamed, hk, -⟩ := broken
    rw [hk]
    rfl
  elsewhere _ h := .inl h
  lookupType_fails {context} hne name := by
    refine TypeScope.lookupType_fails (fun e h => ?_) fun id here => ?_
    · exact .inl (elsewhere_of_concerns (h.mono fun _ same => same ▸ hne))
    · by_cases atImport : id = i
      · subst atImport
        exact (broken.typeAt_fails name).mono fun _ => .inr
      · refine (TypeScope.typeAt_concerns (S := (· ≠ i)) (fun _ _ => atImport) name here).mono ?_
        exact fun _ h => .inl (elsewhere_of_concerns h)
  findSymbol_fails {context} hne name := by
    refine TypeScope.findSymbol_fails (fun e h => ?_) fun id here => ?_
    · exact .inl (elsewhere_of_concerns (h.mono fun _ same => same ▸ hne))
    · by_cases atImport : id = i
      · subst atImport
        exact (broken.symbolAt_fails name).mono fun _ => .inr
      · refine (TypeScope.symbolAt_concerns (S := (· ≠ i)) (fun _ _ => atImport) name here).mono ?_
        exact fun _ h => .inl (elsewhere_of_concerns h)
  used_fails _ _ _ _ _ _ hproperty := by
    obtain ⟨type, member, renamed, hk, -⟩ := broken
    rw [hk] at hproperty
    cases hproperty

/-- Another node that reports at the import fails with its error, unless the import is the target
of an assignment. -/
theorem FailsAsImport.checkNode_of_reportsAt (broken : r.FailsAsImport i own)
    (distinct : r.tree.DistinctRanges) {n : NodeId} (hne : n ≠ i)
    (h : r.reportsAt (r.tree.range i) n = true) :
    r.tree.IsTarget i ∨ r.checkNode n = .error own := by
  by_cases target : r.tree.IsTarget i
  · exact .inl target
  · obtain ⟨e, he, hrange⟩ := reportsAt_iff.1 h
    rcases broken.spreadsAs.checkNode_fails target hne e he with elsewhere | rfl
    · obtain ⟨type, member, renamed, hk, -⟩ := broken
      exact absurd hrange (elsewhere.range_ne distinct (has_of_importDecl hk))
    · exact .inr he

/-! ## The check of the import itself -/

/-- An import of a static member is checked by looking its own name up. -/
theorem checkNode_of_staticImport
    (hk : r.tree.kind i = .importDecl (.staticMember type member renamed)) :
    r.checkNode i = (do
      let _ ← r.scope.findSymbol (renamed.getD member) i
      pure ()) := by
  unfold checkNode checkNodeBy
  rw [bind_of_ok (TypeScope.requireNode_ok_iff.2 (has_of_importDecl hk)), hk]
  rfl

/-- What binds the name in front of an import answers for it, and fails at its own place. -/
theorem not_reportsAt_of_bound (distinct : r.tree.DistinctRanges)
    (hk : r.tree.kind i = .importDecl (.staticMember type member renamed))
    (bound : ¬∀ c ∈ r.tree.askedBefore i i, r.tree.binds (renamed.getD member) c = false) :
    ¬r.reportsAt (r.tree.range i) i = true := by
  intro reports
  have here := has_of_importDecl hk
  have check := checkNode_of_staticImport hk
  obtain ⟨e, he, hrange⟩ := reportsAt_iff.1 reports
  rcases TypeScope.findSymbol_of_bound_before (s := r.scope) here bound with
    ⟨symbol, found⟩ | ⟨c, hc, e', failed, result⟩
  · rw [check, bind_of_ok found] at he
    cases he
  · rw [check, bind_of_error result] at he
    obtain rfl := Except.error.inj he
    have hhas : r.tree.has c = true :=
      Tree.has_of_mem_bindersAlong ((r.tree.askedBefore_prefix i i).subset hc)
    have concerns := TypeScope.symbolAt_concerns (s := r.scope) (S := (· = c))
      (fun _ _ => rfl) _ hhas _ failed
    have elsewhere : r.Elsewhere i e' := elsewhere_of_concerns
      (concerns.mono fun _ same => same ▸ Tree.ne_of_mem_askedBefore hc)
    exact elsewhere.range_ne distinct here hrange

/-- With nothing in front that binds its name, a broken import is reported. It does not even have
to come upon itself: where imports bind nothing, its name denotes nothing. -/
theorem reportsAt_of_unbound
    (hk : r.tree.kind i = .importDecl (.staticMember type member renamed))
    (broken : r.scope.staticOwner type member (r.tree.range i) = .error own)
    (goesOn : r.GoesOn i)
    (unbound : ∀ c ∈ r.tree.askedBefore i i, r.tree.binds (renamed.getD member) c = false) :
    r.reportsAt (r.tree.range i) i = true := by
  have here := has_of_importDecl hk
  have check := checkNode_of_staticImport hk
  by_cases asked : i ∈ r.tree.visible i
  · obtain ⟨back, split⟩ := Tree.visible_of_mem asked
    have failed : r.scope.symbolAt (renamed.getD member) i = .error own := by
      rw [TypeScope.symbolAt_of_staticImport (s := r.scope) hk, if_pos rfl]
      exact bind_of_error broken
    obtain ⟨-, fails⟩ := TypeScope.findSymbol_of_first (s := r.scope) here split unbound
    have result : r.checkNode i = .error own := check.trans (bind_of_error (fails own failed))
    have place := TypeScope.staticOwner_concerns (s := r.scope) (S := (· = i)) rfl here type member
      own broken
    -- An error with no place would have ended the check.
    cases place with
    | mistake same _ hrange => exact reportsAt_iff.2 ⟨own, result, same ▸ hrange⟩
    | nowhere => cases goesOn _ result
    | invalid => cases goesOn _ result
    | provider => cases goesOn _ result
  · rw [Tree.askedBefore_of_notMem asked] at unbound
    have unresolved := TypeScope.findSymbol_of_unbound (s := r.scope) here unbound
    exact reportsAt_iff.2 ⟨_, check.trans (bind_of_error unresolved), rfl⟩

/-! ## All reports -/

/-- There is a report at a place if a node that is visited reports there. -/
theorem exists_diagnostic_iff {root : NodeId} {k : Nat} (complete : (r.check root).result = .ok k)
    (place : TextRange) :
    (∃ d ∈ (r.check root).diagnostics, d.range = place) ↔
      ∃ n ∈ r.tree.documentOrder root, r.reportsAt place n = true := by
  rw [diagnostics_of_check complete]
  unfold reportsAt
  simp only [List.mem_filterMap, Option.any_eq_true, decide_eq_true_eq]
  constructor
  · rintro ⟨d, ⟨n, hn, hd⟩, hplace⟩
    exact ⟨n, hn, d, hd, hplace⟩
  · rintro ⟨n, hn, d, hd, hplace⟩
    exact ⟨d, ⟨n, hn, hd⟩, hplace⟩

/-- In a file whose nodes all stand at places of their own, let the import of a static member be
broken. A check that comes to its end reports it at its place if and only if none of the nodes
asked before it binds its name, or another node reports there. The check of such another node
fails with the error of the import, unless the import is the target of an assignment. -/
theorem brokenImport_reported_iff (r : Resolver) (root : NodeId)
    (distinct : r.tree.DistinctRanges)
    (hk : r.tree.kind i = .importDecl (.staticMember type member renamed))
    (broken : r.scope.staticOwner type member (r.tree.range i) = .error own)
    (reached : i ∈ r.tree.documentOrder root) {k : Nat}
    (complete : (r.check root).result = .ok k) :
    ((∃ d ∈ (r.check root).diagnostics, d.range = r.tree.range i) ↔
        (∀ c ∈ r.tree.askedBefore i i, r.tree.binds (renamed.getD member) c = false) ∨
          ∃ n ∈ r.tree.documentOrder root, n ≠ i ∧ r.reportsAt (r.tree.range i) n = true) ∧
      ∀ n, n ≠ i → r.reportsAt (r.tree.range i) n = true →
        r.tree.IsTarget i ∨ r.checkNode n = .error own := by
  have asImport : r.FailsAsImport i own := ⟨type, member, renamed, hk, broken⟩
  have goesOn := goesOn_of_check complete i reached
  refine ⟨?_, fun n hne reports => asImport.checkNode_of_reportsAt distinct hne reports⟩
  rw [exists_diagnostic_iff complete]
  constructor
  · rintro ⟨n, hn, reports⟩
    by_cases itself : n = i
    · subst itself
      left
      by_contra bound
      exact not_reportsAt_of_bound distinct hk bound reports
    · exact .inr ⟨n, hn, itself, reports⟩
  · rintro (unbound | ⟨n, hn, -, reports⟩)
    · exact ⟨i, reached, reportsAt_of_unbound hk broken goesOn unbound⟩
    · exact ⟨n, hn, reports⟩

/-- A static member that is imported from a type that there is not, and a function of its name
behind the import. -/
def importInFront : Resolver where
  tree := .ofLines "app"
    [(0, .importDecl (.staticMember "lib.Missing" "out" none)), (0, .function "out" (.named "int"))]
  classpath := TypeTable.empty.source

theorem importInFront_reported :
    (importInFront.check Tree.root).result = .ok 1 ∧
      ∃ d ∈ (importInFront.check Tree.root).diagnostics, d.range = .ofLine 1 0 80 := by
  have distinct : importInFront.tree.DistinctRanges := by decide
  have broken : importInFront.scope.staticOwner "lib.Missing" "out" (.ofLine 1 0 80) =
      .error (.unresolved "lib.Missing" (.ofLine 1 0 80)) := by decide +kernel
  have reached : 1 ∈ importInFront.tree.documentOrder Tree.root := by decide +kernel
  have complete : (importInFront.check Tree.root).result = .ok 1 := by decide +kernel
  have unbound : ∀ c ∈ importInFront.tree.askedBefore 1 1,
      importInFront.tree.binds "out" c = false := by decide +kernel
  obtain ⟨reported, -⟩ :=
    brokenImport_reported_iff importInFront Tree.root distinct rfl broken reached complete
  exact ⟨complete, reported.2 (.inl unbound)⟩

/-- The same with the function in front. -/
def importBehind : Resolver where
  tree := .ofLines "app"
    [(0, .function "out" (.named "int")), (0, .importDecl (.staticMember "lib.Missing" "out" none))]
  classpath := TypeTable.empty.source

/-- A broken import behind a function of its name is not reported. -/
theorem brokenImports_not_always_reported :
    ¬∀ (r : Resolver) (i : NodeId) (type member : String) (renamed : Option String) (k : Nat),
      r.tree.DistinctRanges → r.tree.kind i = .importDecl (.staticMember type member renamed) →
      (∀ owner, r.scope.staticOwner type member (r.tree.range i) ≠ .ok owner) →
      i ∈ r.tree.documentOrder Tree.root → (r.check Tree.root).result = .ok k →
      ∃ d ∈ (r.check Tree.root).diagnostics, d.range = r.tree.range i := by
  intro always
  have distinct : importBehind.tree.DistinctRanges := by decide
  have broken : importBehind.scope.staticOwner "lib.Missing" "out" (.ofLine 2 0 80) =
      .error (.unresolved "lib.Missing" (.ofLine 2 0 80)) := by decide +kernel
  have nowhere : ∀ owner, importBehind.scope.staticOwner "lib.Missing" "out"
      (importBehind.tree.range 2) ≠ .ok owner := by
    intro owner found
    cases broken.symm.trans found
  have reached : 2 ∈ importBehind.tree.documentOrder Tree.root := by decide +kernel
  have complete : (importBehind.check Tree.root).result = .ok 0 := by decide +kernel
  have silent : (importBehind.check Tree.root).diagnostics = [] := by decide +kernel
  obtain ⟨d, hd, -⟩ := always importBehind 2 "lib.Missing" "out" none 0 distinct rfl nowhere
    reached complete
  rw [silent] at hd
  cases hd

end Resolver

end JvmScope
