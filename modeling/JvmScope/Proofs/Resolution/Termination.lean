import JvmScope.Proofs.Program.Construction
import JvmScope.Proofs.Program.Endings
import JvmScope.Proofs.Resolution.DocumentOrder
import JvmScope.Proofs.Resolution.Parts
import JvmScope.Proofs.Resolution.PlainImports
import JvmScope.Proofs.Resolution.SymbolLookup
import JvmScope.Proofs.Types.SubtypeSearch
import Mathlib.Data.List.Perm.Subperm
import Mathlib.Order.WellFounded
import Mathlib.Tactic.IntervalCases

/-!
# Questions come to an end

The type of an expression rests on the types of its parts, and that of a reference to a variable
on the variable's initialiser, which may stand anywhere. `typeOfWithin` keeps a trail for this
reason, and refuses to go in circles.

In programs that declare local variables in blocks only, there are no circles. A variable of a
block is visible only after the statement that declares it, so whatever the type of a node rests
on ends before the node does (`Asks.endsBefore`), and a way that leads to earlier and earlier ends
is no longer than the program. `typeOfUpTo` applies the rule for a node without any trail and
gives up after a number of steps, with whatever it is told to say then. Given one step more than
the program has nodes it never gets there (`typeOfUpTo_eq`). With plain imports, which keep the
lookups from going in circles, the same holds of all that is asked about a program
(`questions_end`).
-/

namespace JvmScope

/-! ## Where local variables are visible -/

/-- The kinds of nodes that declare local variables. -/
def NodeKind.isLocalVar : NodeKind → Bool
  | .localVar _ _ => true
  | _ => false

namespace Tree

variable {t : Tree} {e id l : NodeId}

/-- Local variables are declared by children of blocks. -/
def LocalsInBlocks (t : Tree) : Prop :=
  ∀ p < t.size, ∀ c ∈ t.children p, (t.kind c).isLocalVar = true → (t.kind p).isBlock = true

instance (t : Tree) : Decidable t.LocalsInBlocks :=
  inferInstanceAs (Decidable (∀ p < t.size, ∀ c ∈ t.children p,
    (t.kind c).isLocalVar = true → (t.kind p).isBlock = true))

/-- A block binds a name for what is below a child only by earlier children. -/
theorem lt_of_mem_binders {scope c : NodeId} (block : (t.kind scope).isBlock = true)
    (h : l ∈ t.binders scope (some c)) : l < c := by
  have notInvokable : ¬(t.kind scope).isInvokable = true := by
    cases hk : t.kind scope <;> rw [hk] at block <;> cases block
    exact Bool.noConfusion
  unfold binders at h
  rw [if_neg notInvokable, if_pos block] at h
  simpa using (List.mem_filter.1 h).2

/-- A local variable that is visible stands aside. -/
theorem aside_of_visible (blocks : t.LocalsInBlocks) (hl : (t.kind l).isLocalVar = true)
    (notBlock : ¬(t.kind e).isBlock = true) (h : l ∈ t.visible e) {i : NodeId}
    (below : t.Below l i) : t.Aside i e := by
  have inBlock : ∀ {scope : NodeId}, l ∈ t.children scope → (t.kind scope).isBlock = true := by
    intro scope hscope
    exact blocks scope (lt_size_of_mem_children hscope) l hscope hl
  obtain ⟨front, scope, back, path, asked⟩ := exists_split_of_mem_bindersAlong h
  have hlscope := mem_children_of_mem_binders asked
  rcases List.eq_nil_or_concat front with rfl | ⟨nearer, via, rfl⟩
  · obtain rfl := eq_of_ancestors_eq_cons path
    exact absurd (inBlock hlscope) notBlock
  · rw [List.concat_eq_append] at path asked
    rw [List.getLast?_concat] at asked
    obtain ⟨hvia, onPath, -⟩ := via_of_split path
    exact ⟨scope, l, hlscope, via, hvia, lt_of_mem_binders (inBlock hlscope) asked, below,
      below_iff.2 onPath⟩

theorem unmet_le (t : Tree) (trail : List NodeId) : t.unmet trail ≤ t.size :=
  (List.length_filter_le _ _).trans (Nat.le_of_eq List.length_range)

end Tree

namespace TypeScope

variable {s : TypeScope} {name : String} {context id l : NodeId}

/-- A node that binds a local variable declares it. -/
theorem isLocalVar_of_symbolAt (h : s.symbolAt name id = .ok (some (.localVar l))) :
    id = l ∧ (s.tree.kind l).isLocalVar = true := by
  unfold symbolAt at h
  split at h
  · split at h <;> cases h
  · rename_i n type hk
    split at h
    · obtain rfl := Symbol.localVar.inj (Option.some.inj (pure_ok_iff.1 h))
      rw [hk]
      exact ⟨rfl, rfl⟩
    · cases h
  · split at h <;> cases h
  · split at h <;> cases h
  · split at h
    · obtain ⟨_, -, h⟩ := bind_ok_iff.1 h
      cases h
    · cases h
  · cases h

/-- What is used as a local variable is visible, and declared as one. -/
theorem visible_of_findSymbol (h : s.findSymbol name context = .ok (.localVar l)) :
    l ∈ s.tree.visible context ∧ (s.tree.kind l).isLocalVar = true := by
  obtain ⟨_, -, h⟩ := bind_ok_iff.1 h
  obtain ⟨found, hfound, h⟩ := bind_ok_iff.1 h
  cases found with
  | none => exact (throw_ok_iff.1 h).elim
  | some symbol =>
      obtain rfl := pure_ok_iff.1 h
      rw [symbolAmong_eq] at hfound
      obtain ⟨front, id, back, split, -, hid⟩ := findSomeM?_some_iff.1 hfound
      obtain ⟨rfl, declared⟩ := isLocalVar_of_symbolAt hid
      refine ⟨?_, declared⟩
      show id ∈ s.tree.bindersAlong none (s.tree.ancestors context)
      rw [split]
      exact List.mem_append_right _ List.mem_cons_self

end TypeScope

namespace Resolver

variable {r : Resolver} {T U : Typing} {e a : NodeId}

/-! ## What a type rests on -/

/-- The type of `e` may rest on that of `a`: `a` is part of `e`, or the initialiser of a variable
without a written type that `e` refers to. -/
inductive Asks (r : Resolver) (e : NodeId) : NodeId → Prop
  | part {c a : NodeId} : c ∈ r.tree.children e → r.tree.Below c a → Asks r e a
  | initialiser {name declared : String} {l i : NodeId} : r.tree.kind e = .valueRef name →
      r.scope.findSymbol name e = .ok (.localVar l) →
      r.tree.kind l = .localVar declared none → i ∈ r.tree.children l → Asks r e i

/-- What the type of a node rests on ends before the node. -/
theorem Asks.endsBefore (blocks : r.tree.LocalsInBlocks) (h : r.Asks e a) :
    r.tree.EndsBefore a e := by
  cases h with
  | part hc hca => exact .inside hc hca
  | initialiser hk found hl hi =>
      obtain ⟨visible, declared⟩ := TypeScope.visible_of_findSymbol found
      have notBlock : ¬(r.tree.kind e).isBlock = true := by
        rw [hk]
        exact Bool.noConfusion
      exact .aside (Tree.aside_of_visible blocks declared notBlock visible (.child .refl hi))

theorem mem_children_of_subject {access : NodeId} (h : r.subject access = .ok a) :
    a ∈ r.tree.children access :=
  List.mem_of_mem_head? (subject_ok_iff.1 h)

theorem argumentTypes_congr {args : List NodeId} (same : ∀ a ∈ args, T a = U a) :
    r.argumentTypes T args = r.argumentTypes U args := by
  induction args with
  | nil => rfl
  | cons first rest ih =>
      unfold argumentTypes
      rw [same first List.mem_cons_self, ih fun a ha => same a (List.mem_cons_of_mem _ ha)]

theorem calleeTarget_congr {callee : NodeId} (same : ∀ a ∈ r.tree.children callee, T a = U a)
    (args : List JvmType) (range : TextRange) :
    r.calleeTarget T callee args range = r.calleeTarget U callee args range := by
  unfold calleeTarget
  cases r.tree.kind callee with
  | fieldAccess name =>
      refine bind_congr_of_ok fun receiver hreceiver => ?_
      rw [same receiver (mem_children_of_subject hreceiver)]
  | _ => rfl

theorem methodTargetBy_congr (same : ∀ a, r.Asks e a → T a = U a) :
    r.methodTargetBy T e = r.methodTargetBy U e := by
  unfold methodTargetBy
  cases hchildren : r.tree.children e with
  | nil => rfl
  | cons callee args =>
      have part : ∀ c ∈ callee :: args, ∀ a, r.tree.Below c a → T a = U a := by
        intro c hc a hca
        rw [← hchildren] at hc
        exact same a (.part hc hca)
      have hargs : r.argumentTypes T args = r.argumentTypes U args :=
        argumentTypes_congr fun a ha => part a (List.mem_cons_of_mem _ ha) a .refl
      show (do
        let types ← r.argumentTypes T args
        r.calleeTarget T callee types (r.tree.range e)) = _
      rw [hargs]
      refine bind_congr fun types => ?_
      exact calleeTarget_congr
        (fun a ha => part callee List.mem_cons_self a (.child .refl ha)) types _

theorem constructorTargetBy_congr (same : ∀ a, r.Asks e a → T a = U a) (type : String) :
    r.constructorTargetBy T type e = r.constructorTargetBy U type e := by
  unfold constructorTargetBy
  rw [argumentTypes_congr fun a ha => same a (.part ha .refl)]

theorem typeOfSymbolBy_congr {symbol : Symbol} {context : NodeId}
    (same : ∀ l declared i, symbol = .localVar l → r.tree.kind l = .localVar declared none →
      i ∈ r.tree.children l → T i = U i) :
    r.typeOfSymbolBy T symbol context = r.typeOfSymbolBy U symbol context := by
  cases symbol with
  | localVar l =>
      refine bind_congr fun _ => ?_
      split
      · rfl
      · rename_i declared initialiser rest hk hchildren
        refine same l declared initialiser rfl hk ?_
        rw [hchildren]
        exact List.mem_cons_self
      · rfl
      · rfl
  | _ => rfl

/-- The rule for a node only uses the types that the node's own type rests on. -/
theorem typeOfStep_congr (same : ∀ a, r.Asks e a → T a = U a) :
    r.typeOfStep T e = r.typeOfStep U e := by
  unfold typeOfStep
  cases hk : r.tree.kind e with
  | valueRef name =>
      dsimp only
      cases found : r.scope.findSymbol name e with
      | error cause => cases cause <;> rfl
      | ok symbol =>
          refine typeOfSymbolBy_congr fun l declared i hl hdeclared hi => ?_
          subst hl
          exact same i (.initialiser hk found hdeclared hi)
  | fieldAccess field =>
      refine bind_congr_of_ok fun receiver hreceiver => ?_
      rw [same receiver (.part (mem_children_of_subject hreceiver) .refl)]
  | call =>
      dsimp only
      rw [methodTargetBy_congr same]
  | creation type =>
      dsimp only
      rw [constructorTargetBy_congr same]
  | _ => rfl

/-! ## Without a trail -/

/-- The types that the rule for a node gives if it is applied again and again, without a trail. At
the bottom of `depth` applications, types are those that `beyond` says. -/
def typeOfUpTo (r : Resolver) (beyond : Typing) : (depth : Nat) → Typing
  | 0 => beyond
  | depth + 1 => fun e => do
    r.tree.requireNode e
    r.typeOfStep (r.typeOfUpTo beyond depth) e

variable {beyond : Typing} {depth : Nat}

/-- No node ends before itself, by whatever way it is reached. -/
theorem not_endsBefore_self (t : Tree) (e : NodeId) : ¬Relation.TransGen t.EndsBefore e e :=
  fun circle => t.wellFounded_endsBefore.transGen.asymmetric e e circle circle

/-- As long as everything in a trail ends after the node at hand, the trail cuts nothing off, and
the bottom is not reached if there are more steps to go than nodes not in the trail. -/
theorem typeOfUpTo_eq_within (blocks : r.tree.LocalsInBlocks) {trail : List NodeId}
    (deep : r.tree.unmet trail < depth)
    (after : ∀ n ∈ trail, Relation.TransGen r.tree.EndsBefore e n) :
    r.typeOfUpTo beyond depth e = r.typeOfWithin trail e := by
  induction depth generalizing trail e with
  | zero => exact absurd deep (Nat.not_lt_zero _)
  | succ depth ih =>
      have notMet : e ∉ trail := fun met => not_endsBefore_self r.tree e (after e met)
      rw [typeOfWithin]
      unfold typeOfUpTo
      by_cases here : r.tree.has e = true
      · rw [dif_pos here, dif_neg notMet, bind_of_ok (TypeScope.requireNode_ok_iff.2 here)]
        refine typeOfStep_congr fun a asks => ?_
        have earlier := asks.endsBefore blocks
        refine ih ?_ fun n hn => ?_
        · exact Nat.lt_of_lt_of_le (Tree.unmet_cons_lt here notMet) (Nat.le_of_lt_succ deep)
        · rcases List.mem_cons.1 hn with rfl | hn
          · exact .single earlier
          · exact .head earlier (after n hn)
      · rw [dif_neg here]
        unfold Tree.requireNode
        rw [if_neg here]
        rfl

/-- The type of an expression is found without a trail, in no more steps than there are nodes. -/
theorem typeOfUpTo_eq (blocks : r.tree.LocalsInBlocks) (deep : r.tree.size < depth) :
    r.typeOfUpTo beyond depth = r.typeOf := by
  funext e
  exact typeOfUpTo_eq_within blocks (Nat.lt_of_le_of_lt (r.tree.unmet_le []) deep)
    fun n hn => absurd hn List.not_mem_nil

/-- So is what a call or an instance creation invokes. -/
theorem resolveCallBy_upTo (blocks : r.tree.LocalsInBlocks) (deep : r.tree.size < depth) :
    r.resolveCallBy (r.typeOfUpTo beyond depth) = r.resolveCall := by
  funext call
  have same : ∀ a, r.Asks call a → r.typeOfUpTo beyond depth a = r.typeOfWithin [call] a := by
    intro a asks
    refine typeOfUpTo_eq_within blocks (Nat.lt_of_le_of_lt (r.tree.unmet_le _) deep) ?_
    intro n hn
    rw [List.mem_singleton.1 hn]
    exact .single (asks.endsBefore blocks)
  unfold resolveCall resolveCallBy
  cases r.tree.kind call with
  | call => rw [methodTargetBy_congr same]
  | creation type =>
      dsimp only
      rw [constructorTargetBy_congr same]
  | _ => rfl

/-! ## Checks -/

/-- What a run has checked is the beginning of the document order. -/
theorem checked_in_order (r : Resolver) (root : NodeId) (content : List Diagnostic) :
    (r.run root content).checked <+: r.tree.documentOrder root := by
  obtain ⟨-, -, -, ⟨-, noted, -, hrun⟩ | ⟨front, id, back, e, order, -, -, -, noted, -, hrun⟩⟩ :=
    run_follows_documentOrder r root content
  · exact ⟨[], by simp [hrun]⟩
  · exact ⟨back, by simp [hrun, order]⟩

/-- A run checks no node twice, hence no more nodes than there are. -/
theorem length_checked_le (r : Resolver) {root : NodeId} (here : r.tree.has root = true)
    (content : List Diagnostic) : (r.run root content).checked.length ≤ r.tree.size := by
  have nodup : (r.run root content).checked.Nodup :=
    (checked_in_order r root content).sublist.nodup (r.tree.nodup_documentOrder root)
  have inTree : (r.run root content).checked ⊆ List.range r.tree.size := by
    intro id hid
    have below := Tree.below_of_mem_documentOrder ((checked_in_order r root content).subset hid)
    refine List.mem_range.2 ?_
    cases below with
    | refl => exact Tree.has_eq_true.1 here
    | child _ hid => exact (Tree.lt_of_mem_children hid).2
  have bound := (List.subperm_of_subset nodup inTree).length_le
  rwa [List.length_range] at bound

/-- **Questions about a program end.** In a program that declares local variables in blocks only,
and whose imports are on demand or of types that are there, nothing that is asked needs a trail.
Lookups do not ask for definitions of the file at all, so it does not matter which source they
have for them, and these definitions are made without one another. The types of expressions are
found by applying the rule for a node over and over without a trail, no deeper than there are
nodes: what would be said beyond that depth does not matter, neither for types nor for what calls
invoke, for assignments and for checks of single nodes. A check visits no node twice. A walk through
a hierarchy and a search for a supertype, which may run in circles, ask for no name twice, hence
for no more names than are known and one that is not. -/
theorem questions_end (r : Resolver) (blocks : r.tree.LocalsInBlocks) (plain : r.PlainImports) :
    (∀ all : TypeSource (Except TypeError),
      (r.scopeOver all).lookupType = r.scope.lookupType ∧
      (r.scopeOver all).findSymbol = r.scope.findSymbol ∧
      (r.scopeOver all).definitionAt = r.sourceDefinition ∧
      ∀ name id, r.tree.typeNamed? name = some id →
        (do
          let found ← r.source.find name
          pure (found.map (·.1))) =
          some <$> ((r.scopeOver all).definitionAt id).mapError
            (ResolveError.toTypeError name)) ∧
    (∀ (beyond : Typing) (depth : Nat), r.tree.size < depth →
      r.typeOfUpTo beyond depth = r.typeOf ∧
      r.resolveCallBy (r.typeOfUpTo beyond depth) = r.resolveCall ∧
      r.checkAssignmentBy (r.typeOfUpTo beyond depth) = r.checkAssignment ∧
      r.checkNodeBy (r.typeOfUpTo beyond depth) = r.checkNode) ∧
    (∀ (root : NodeId) (content : List Diagnostic), r.tree.has root = true →
      (r.run root content).result = (r.check root).result ∧
      (r.run root content).checked.Nodup ∧
      (r.run root content).checked.length ≤ r.tree.size) ∧
    (∀ {σ : Type} (visit : σ → TypeDefinition → TypeDefinition.Visit σ) (d : TypeDefinition)
      (state : σ), r.source.Ends (d.walk · visit state) (d.walk r.source visit state)) ∧
    ∀ (d : TypeDefinition) (target : String),
      r.source.Ends (d.isSubtypeOf · target) (d.isSubtypeOf r.source target) := by
  refine ⟨fun all => ⟨?_, ?_, ?_, ?_⟩, fun beyond depth deep => ?_,
    fun root content here => ?_, fun visit d state => ?_, fun d target => ?_⟩
  · exact lookupType_indep plain
  · exact findSymbol_indep plain
  · funext id
    exact (sourceDefinition_eq plain all id).symm
  · intro name id declared
    exact find_declared plain all declared
  · have types : r.typeOfUpTo beyond depth = r.typeOf := typeOfUpTo_eq blocks deep
    refine ⟨types, resolveCallBy_upTo blocks deep, ?_, ?_⟩
    · rw [types]
      rfl
    · rw [types]
      rfl
  · obtain ⟨nodup, -, result, -⟩ := run_follows_documentOrder r root content
    exact ⟨result, (checked_in_order r root content).sublist.nodup nodup,
      length_checked_le r here content⟩
  · obtain ⟨asked, hasked, hrun⟩ := TypeDefinition.run_walk_noted r.source visit d state
    exact hasked.ends hrun
  · obtain ⟨asked, hasked, -, hrun⟩ := TypeDefinition.run_isSubtypeOf_noted r.source d target
    exact hasked.ends hrun

/-- A program with a class that it imports itself, whose second local variable takes its type from
the first. -/
def chainedLocals : Resolver where
  tree := .ofListing "demo"
    [(0, .importDecl (.onDemand "java.util")), (0, .importDecl (.singleType "demo.Pet" none)),
      (0, .typeDecl "Pet"), (0, .program "main"), (4, .block),
      (5, .localVar "x" none), (6, .intLiteral 1),
      (5, .localVar "y" none), (8, .valueRef "x"),
      (5, .expressionStatement), (10, .valueRef "y")]
  classpath := TypeTable.empty.source

theorem chainedLocals_end :
    chainedLocals.tree.LocalsInBlocks ∧ chainedLocals.PlainImports ∧
      chainedLocals.typeOfUpTo (fun _ => .error (.invalid .circular)) 13 11 =
        chainedLocals.typeOf 11 := by
  have blocks : chainedLocals.tree.LocalsInBlocks := by decide
  have plain : chainedLocals.PlainImports := by
    intro id what hk
    have hid : id < 12 := Tree.has_eq_true.1 (Tree.has_of_kind_ne (by rw [hk]; exact nofun))
    interval_cases id <;> cases hk
    · trivial
    · exact .inl ⟨3, by decide⟩
  obtain ⟨-, depth, -⟩ := questions_end chainedLocals blocks plain
  exact ⟨blocks, plain, congrFun (depth _ 13 (by decide)).1 11⟩

end Resolver

end JvmScope
