import JvmScope.Proofs.Program.Construction
import JvmScope.Proofs.Resolution.Declarations
import JvmScope.Proofs.Resolution.SymbolLookup

/-!
# Lexical scope

What a name denotes in the place of a value is said here without a search. A child of a scope
around a node is `VisibleIn` that scope if it binds the name there and, where the scope is a block
that the node stands in, comes before the child of the block that the node stands in. The first
visible child of the nearest scope that has one (`FirstVisible`) is what the name denotes
(`findSymbol_lexical`).

The search walks upwards and asks all nodes of one list. A node of this list that binds the name
is a visible child, and all visible children are in it (`mem_binders_and_binds_iff`): the walk
comes to a scope from its child on the way to the node, and there is only one such child.
-/

namespace JvmScope

namespace Tree

variable {t : Tree} {name : String} {context scope c : NodeId} {cameFrom : Option NodeId}
  {inner outer : List NodeId}

/-- A node binds the name as a child of the scope. Methods, functions and programs have parameters;
anywhere else there are local variables, properties, functions and imports of static members. -/
def BindsIn (t : Tree) (name : String) (scope c : NodeId) : Prop :=
  if (t.kind scope).isInvokable = true then ∃ type, t.kind c = .parameter name type
  else
    (∃ type, t.kind c = .localVar name type) ∨ (∃ type, t.kind c = .property name type) ∨
    (∃ result, t.kind c = .function name result) ∨
    ∃ type member renamed, t.kind c = .importDecl (.staticMember type member renamed) ∧
      renamed.getD member = name

/-- A child of the scope stands before the child that the node stands in. -/
def StandsBefore (t : Tree) (context scope c : NodeId) : Prop :=
  ∃ front via back, t.children scope = front ++ via :: back ∧ via ∈ t.ancestors context ∧
    c ∈ front

/-- A child of a scope around the node binds the name for the node. -/
structure VisibleIn (t : Tree) (name : String) (context scope c : NodeId) : Prop where
  child : c ∈ t.children scope
  binds : t.BindsIn name scope c
  /-- In a block around the node, later statements bind nothing. -/
  before : t.kind scope = .block → scope ≠ context → t.StandsBefore context scope c

/-- The nearest scope with a visible child, and its first one. -/
structure FirstVisible (t : Tree) (name : String) (context scope c : NodeId) : Prop where
  visible : t.VisibleIn name context scope c
  nearest : ∃ inner outer, t.ancestors context = inner ++ scope :: outer ∧
    ∀ i ∈ inner, ∀ b, ¬t.VisibleIn name context i b
  first : ∃ front back, t.children scope = front ++ c :: back ∧
    ∀ b ∈ front, ¬t.VisibleIn name context scope b

/-- Where any scope has a visible child, one of them is the first. -/
theorem exists_firstVisible
    (some : ∃ scope ∈ t.ancestors context, ∃ c, t.VisibleIn name context scope c) :
    ∃ scope c, t.FirstVisible name context scope c := by
  have notNone : ¬∀ scope ∈ t.ancestors context, ∀ c, ¬t.VisibleIn name context scope c := by
    obtain ⟨scope, hscope, c, visible⟩ := some
    intro none
    exact none scope hscope c visible
  obtain ⟨inner, scope, outer, path, nearer, here⟩ := exists_first_not notNone
  have notAll : ¬∀ c ∈ t.children scope, ¬t.VisibleIn name context scope c := by
    intro none
    apply here
    intro c visible
    exact none c visible.child visible
  obtain ⟨front, c, back, split, earlier, visible⟩ := exists_first_not notAll
  exact ⟨scope, c, Classical.not_not.1 visible, ⟨inner, outer, path, nearer⟩,
    front, back, split, earlier⟩

theorem FirstVisible.unique {scope' c' : NodeId} (h : t.FirstVisible name context scope c)
    (h' : t.FirstVisible name context scope' c') : scope' = scope ∧ c' = c := by
  obtain ⟨visible, ⟨inner, outer, path, nearer⟩, front, back, split, earlier⟩ := h
  obtain ⟨visible', ⟨inner', outer', path', nearer'⟩, front', back', split', earlier'⟩ := h'
  have some : ¬∀ c, ¬t.VisibleIn name context scope c := fun none => none c visible
  have some' : ¬∀ c, ¬t.VisibleIn name context scope' c := fun none => none c' visible'
  obtain rfl : scope = scope' := eq_of_first_not path nearer some path' nearer' some'
  have here : ¬¬t.VisibleIn name context scope c := not_not_intro visible
  have here' : ¬¬t.VisibleIn name context scope c' := not_not_intro visible'
  exact ⟨rfl, eq_of_first_not split' earlier' here' split earlier here⟩

/-! ## The way upwards -/

/-- In a block around the node, what stands before the child that the walk came from has a smaller
number. -/
theorem standsBefore_iff {via : NodeId} (hvia : via ∈ t.children scope)
    (onPath : via ∈ t.ancestors context) (hc : c ∈ t.children scope) :
    t.StandsBefore context scope c ↔ c < via := by
  constructor
  · rintro ⟨front, other, back, split, otherOnPath, hfront⟩
    have hother : other ∈ t.children scope := by
      rw [split]
      simp
    -- only one child of the scope has the node below it
    obtain rfl := Below.sibling_unique hother hvia (below_iff.2 otherOnPath) (below_iff.2 onPath)
    have order := t.children_pairwise scope
    rw [split] at order hc
    exact (mem_front_iff order hc).1 hfront
  · intro lower
    obtain ⟨front, back, split⟩ := List.append_of_mem hvia
    refine ⟨front, via, back, split, onPath, ?_⟩
    have order := t.children_pairwise scope
    rw [split] at order hc
    exact (mem_front_iff order hc).2 lower

/-! ## The nodes that are asked -/

/-- In an invokable, its parameters may bind a name. Anywhere else all other children may, of
those of a block only the ones in front of the child that the walk came from. -/
theorem mem_binders_iff :
    c ∈ t.binders scope cameFrom ↔
      c ∈ t.children scope ∧ (t.kind c).isParameter = (t.kind scope).isInvokable ∧
        ((t.kind scope).isBlock = true → cameFrom.all (c < ·) = true) := by
  unfold binders parameters
  cases t.kind scope <;> simp [NodeKind.isInvokable, NodeKind.isBlock, and_comm]

theorem bindsIn_iff :
    t.BindsIn name scope c ↔
      (t.kind c).isParameter = (t.kind scope).isInvokable ∧ t.binds name c = true := by
  unfold BindsIn binds
  by_cases invokable : (t.kind scope).isInvokable = true
  · rw [if_pos invokable, invokable]
    cases hk : t.kind c <;> simp [NodeKind.isParameter]
  · have other : (t.kind scope).isInvokable = false := by simpa using invokable
    rw [if_neg invokable, other]
    cases hk : t.kind c with
    | importDecl what => cases what <;> simp [NodeKind.isParameter]
    | _ => simp [NodeKind.isParameter]

/-- The walk upwards passes a scope from the child that the node stands in. -/
theorem all_lt_iff (path : t.ancestors context = inner ++ scope :: outer)
    (hc : c ∈ t.children scope) :
    inner.getLast?.all (c < ·) = true ↔
      (scope ≠ context → t.StandsBefore context scope c) := by
  rcases List.eq_nil_or_concat inner with rfl | ⟨nearer, via, rfl⟩
  · have here : scope = context := eq_of_ancestors_eq_cons path
    exact iff_of_true rfl fun other => absurd here other
  · rw [List.concat_eq_append] at path ⊢
    obtain ⟨hvia, onPath, other⟩ := via_of_split path
    rw [List.getLast?_concat, Option.all_some, decide_eq_true_iff,
      ← standsBefore_iff hvia onPath hc]
    exact ⟨fun before _ => before, fun before => before other⟩

/-- On the way upwards, a scope asks its visible children, and no others bind the name. -/
theorem mem_binders_and_binds_iff (path : t.ancestors context = inner ++ scope :: outer) :
    c ∈ t.binders scope inner.getLast? ∧ t.binds name c = true ↔
      t.VisibleIn name context scope c := by
  have isBlock_iff : (t.kind scope).isBlock = true ↔ t.kind scope = .block := by
    cases t.kind scope <;> simp [NodeKind.isBlock]
  rw [mem_binders_iff, isBlock_iff]
  constructor
  · rintro ⟨⟨hc, fitting, before⟩, bound⟩
    refine ⟨hc, bindsIn_iff.2 ⟨fitting, bound⟩, ?_⟩
    intro block
    exact (all_lt_iff path hc).1 (before block)
  · rintro ⟨hc, binds, before⟩
    obtain ⟨fitting, bound⟩ := bindsIn_iff.1 binds
    refine ⟨⟨hc, fitting, ?_⟩, bound⟩
    intro block
    exact (all_lt_iff path hc).2 (before block)

/-- Where a scope asks no node that binds the name, it has no visible child. -/
theorem not_visibleIn_of_path (path : t.ancestors context = inner ++ scope :: outer)
    (quiet : ∀ b ∈ t.binders scope inner.getLast?, t.binds name b = false) (c : NodeId) :
    ¬t.VisibleIn name context scope c := by
  intro visible
  obtain ⟨asked, bound⟩ := (mem_binders_and_binds_iff path).2 visible
  rw [quiet c asked] at bound
  cases bound

theorem exists_filter_binders (t : Tree) (scope : NodeId) (cameFrom : Option NodeId) :
    ∃ p : NodeId → Bool, t.binders scope cameFrom = (t.children scope).filter p := by
  unfold binders parameters
  split
  · exact ⟨_, rfl⟩
  · split
    · rw [List.filter_filter]
      exact ⟨_, rfl⟩
    · exact ⟨_, rfl⟩

/-- The first visible child is the first of all nodes asked that binds the name. -/
theorem FirstVisible.visible_split (h : t.FirstVisible name context scope c) :
    ∃ front back, t.visible context = front ++ c :: back ∧
      ∀ b ∈ front, t.binds name b = false := by
  obtain ⟨visible, ⟨inner, outer, path, nearer⟩, front, back, split, earlier⟩ := h
  obtain ⟨p, asked⟩ := t.exists_filter_binders scope inner.getLast?
  -- what a scope asks are some of its children in their order, and `c` is one of these
  have askedHere : p c = true := by
    have hc := ((mem_binders_and_binds_iff path).2 visible).1
    rw [asked] at hc
    exact (List.mem_filter.1 hc).2
  refine ⟨t.bindersAlong none inner ++ front.filter p,
    back.filter p ++ t.bindersAlong (some scope) outer, ?_, ?_⟩
  · unfold Tree.visible
    rw [path, bindersAlong_append, Option.or_none, asked, split, List.filter_append,
      List.filter_cons_of_pos askedHere]
    simp
  · intro b hb
    rw [← Bool.not_eq_true]
    intro bound
    rcases List.mem_append.1 hb with inside | here
    · obtain ⟨nearest, i, rest, rfl, hasked⟩ := exists_split_of_mem_bindersAlong inside
      rw [Option.or_none] at hasked
      have way : t.ancestors context = nearest ++ i :: (rest ++ scope :: outer) := by
        rw [path, List.append_assoc, List.cons_append]
      exact nearer i (by simp) b ((mem_binders_and_binds_iff way).1 ⟨hasked, bound⟩)
    · obtain ⟨hfront, hp⟩ := List.mem_filter.1 here
      have hasked : b ∈ t.binders scope inner.getLast? := by
        rw [asked, split]
        exact List.mem_filter.2 ⟨List.mem_append_left _ hfront, hp⟩
      exact earlier b hfront ((mem_binders_and_binds_iff path).1 ⟨hasked, bound⟩)

/-- Where no scope has a visible child, no node that is asked binds the name. -/
theorem binds_eq_false_of_not_visible
    (none : ∀ scope ∈ t.ancestors context, ∀ c, ¬t.VisibleIn name context scope c) :
    ∀ c ∈ t.visible context, t.binds name c = false := by
  intro c hc
  obtain ⟨inner, scope, outer, path, asked⟩ := exists_split_of_mem_bindersAlong hc
  rw [Option.or_none] at asked
  rw [← Bool.not_eq_true]
  intro bound
  apply none scope
  · rw [path]
    simp
  · exact (mem_binders_and_binds_iff path).1 ⟨asked, bound⟩

end Tree

/-- The node that declares what a symbol stands for; imported members have none in the file. -/
def Symbol.declaration? : Symbol → Option NodeId
  | .parameter id | .localVar id | .property id | .function id => some id
  | .staticMember _ _ => none

namespace TypeScope

variable {s : TypeScope} {name : String} {context scope c : NodeId}

/-- What a name denotes by the node that binds it: the declaration itself, or, where the import does
not fail, the member that is imported. -/
inductive DenotedBy (s : TypeScope) (c : NodeId) : Except ResolveError Symbol → Prop
  | parameter {name : String} {type : TypeRef} (kind : s.tree.kind c = .parameter name type) :
      DenotedBy s c (.ok (.parameter c))
  | localVar {name : String} {type : Option TypeRef} (kind : s.tree.kind c = .localVar name type) :
      DenotedBy s c (.ok (.localVar c))
  | property {name : String} {type : TypeRef} (kind : s.tree.kind c = .property name type) :
      DenotedBy s c (.ok (.property c))
  | function {name : String} {result : TypeRef} (kind : s.tree.kind c = .function name result) :
      DenotedBy s c (.ok (.function c))
  | staticMember {type member : String} {renamed : Option String}
      (kind : s.tree.kind c = .importDecl (.staticMember type member renamed)) :
      DenotedBy s c ((.staticMember · member) <$> s.staticOwner type member (s.tree.range c))

/-- A node that binds a name leaves no choice what the name denotes. -/
theorem DenotedBy.unique {result result' : Except ResolveError Symbol}
    (h : s.DenotedBy c result) (h' : s.DenotedBy c result') : result = result' := by
  cases h <;> cases h' <;> simp_all

/-- Only the node that binds the name is ever what a name denotes. -/
theorem DenotedBy.declaration_eq {symbol : Symbol} {id : NodeId}
    (h : s.DenotedBy c (.ok symbol)) (declared : symbol.declaration? = some id) : id = c := by
  generalize hresult : Except.ok symbol = result at h
  cases h with
  | staticMember kind =>
      obtain ⟨owner, -, rfl⟩ := map_ok_iff.1 hresult.symm
      cases declared
  | _ =>
      obtain rfl := Except.ok.inj hresult
      exact (Option.some.inj declared).symm

/-- A node that binds the name says what the name denotes. -/
theorem denotedBy_of_binds (bound : s.tree.binds name c = true) :
    ∃ result, s.DenotedBy c result ∧ s.symbolAt name c = some <$> result := by
  unfold Tree.binds at bound
  cases hk : s.tree.kind c with
  | parameter n type =>
      have same : n = name := by simpa [hk] using bound
      refine ⟨_, .parameter hk, ?_⟩
      simp [symbolAt, hk, same]
  | localVar n type =>
      have same : n = name := by simpa [hk] using bound
      refine ⟨_, .localVar hk, ?_⟩
      simp [symbolAt, hk, same]
  | property n type =>
      have same : n = name := by simpa [hk] using bound
      refine ⟨_, .property hk, ?_⟩
      simp [symbolAt, hk, same]
  | function n result =>
      have same : n = name := by simpa [hk] using bound
      refine ⟨_, .function hk, ?_⟩
      simp [symbolAt, hk, same]
  | importDecl what =>
      cases what with
      | staticMember type member renamed =>
          have same : renamed.getD member = name := by simpa [hk] using bound
          refine ⟨_, .staticMember hk, ?_⟩
          rw [symbolAt_of_staticImport hk, if_pos same]
          cases s.staticOwner type member (s.tree.range c) <;> rfl
      | _ => simp [hk] at bound
  | _ => simp [hk] at bound

theorem findSymbol_of_firstVisible (here : s.tree.has context = true)
    (h : s.tree.FirstVisible name context scope c) :
    s.DenotedBy c (s.findSymbol name context) := by
  obtain ⟨inner, outer, path, -⟩ := h.nearest
  obtain ⟨front, back, split, unbound⟩ := h.visible_split
  have bound := ((Tree.mem_binders_and_binds_iff path).2 h.visible).2
  obtain ⟨result, denoted, found⟩ := denotedBy_of_binds bound
  obtain ⟨answers, fails⟩ := findSymbol_of_first here split unbound
  cases result with
  | ok symbol =>
      rw [answers symbol found]
      exact denoted
  | error e =>
      rw [fails e found]
      exact denoted

/-- **What a name denotes is a matter of where it stands.** The first visible child of the nearest
scope that has one decides: the name denotes that declaration, by its kind, or the static member
that is imported there, or the import fails. There is exactly one first visible child if there is
any, and if there is none, the name is reported as unresolved in its place. So every declaration
that a name denotes stands directly below a node on the way from the place of the name to the
root. -/
theorem findSymbol_lexical (here : s.tree.has context = true) (name : String) :
    (∀ scope c, s.tree.FirstVisible name context scope c →
      s.DenotedBy c (s.findSymbol name context)) ∧
    ((∃ scope ∈ s.tree.ancestors context, ∃ c, s.tree.VisibleIn name context scope c) →
      ∃ scope c, s.tree.FirstVisible name context scope c ∧
        ∀ scope' c', s.tree.FirstVisible name context scope' c' → scope' = scope ∧ c' = c) ∧
    ((∀ scope ∈ s.tree.ancestors context, ∀ c, ¬s.tree.VisibleIn name context scope c) →
      s.findSymbol name context = .error (.unresolved name (s.tree.range context))) ∧
    ∀ symbol id, s.findSymbol name context = .ok symbol → symbol.declaration? = some id →
      ∃ scope ∈ s.tree.ancestors context, id ∈ s.tree.children scope := by
  have unresolved : (∀ scope ∈ s.tree.ancestors context, ∀ c,
        ¬s.tree.VisibleIn name context scope c) →
      s.findSymbol name context = .error (.unresolved name (s.tree.range context)) := by
    intro none
    exact findSymbol_of_unbound here (Tree.binds_eq_false_of_not_visible none)
  refine ⟨?_, ?_, unresolved, ?_⟩
  · intro scope c first
    exact findSymbol_of_firstVisible here first
  · intro some
    obtain ⟨scope, c, first⟩ := Tree.exists_firstVisible some
    exact ⟨scope, c, first, fun scope' c' first' => first.unique first'⟩
  · intro symbol id found declared
    by_cases some : ∃ scope ∈ s.tree.ancestors context, ∃ c, s.tree.VisibleIn name context scope c
    · obtain ⟨scope, c, first⟩ := Tree.exists_firstVisible some
      obtain ⟨inner, outer, path, -⟩ := first.nearest
      have denoted := findSymbol_of_firstVisible here first
      rw [found] at denoted
      have same := denoted.declaration_eq declared
      refine ⟨scope, ?_, ?_⟩
      · rw [path]
        simp
      · rw [same]
        exact first.visible.child
    · have none : ∀ scope ∈ s.tree.ancestors context, ∀ c,
          ¬s.tree.VisibleIn name context scope c := by
        intro scope hscope c visible
        exact some ⟨scope, hscope, c, visible⟩
      rw [unresolved none] at found
      cases found

/-! ## A declaration between two uses -/

/-- A method with a parameter, a property of the same name around it, and a variable of the same
name between two statements of its block. -/
def counter : TypeScope where
  tree := .ofListing "app"
    [(0, .typeDecl "Counter"), (1, .property "count" (.named "int")),
      (1, .method "describe" (.named "void") false), (3, .parameter "count" (.named "String")),
      (3, .block), (5, .expressionStatement), (5, .localVar "count" (some (.named "long"))),
      (5, .expressionStatement)]
  classpath := TypeTable.empty.source
  all := TypeTable.empty.source

/-- The variable is declared behind the first statement, which sees the parameter. -/
theorem counter_parameter_firstVisible : counter.tree.FirstVisible "count" 6 3 4 := by
  have path : counter.tree.ancestors 6 = [6, 5] ++ 3 :: [1, 0] := by decide +kernel
  have block : counter.tree.ancestors 6 = [6] ++ 5 :: [3, 1, 0] := path
  have here : counter.tree.ancestors 6 = [] ++ 6 :: [5, 3, 1, 0] := path
  refine ⟨(Tree.mem_binders_and_binds_iff path).1 (by decide +kernel), ⟨_, _, path, ?_⟩,
    [], [5], by decide +kernel, nofun⟩
  intro i hi
  rcases List.mem_pair.1 hi with rfl | rfl
  · exact Tree.not_visibleIn_of_path here (by decide +kernel)
  · exact Tree.not_visibleIn_of_path block (by decide +kernel)

theorem counter_localVar_firstVisible : counter.tree.FirstVisible "count" 8 5 7 := by
  have path : counter.tree.ancestors 8 = [8] ++ 5 :: [3, 1, 0] := by decide +kernel
  have here : counter.tree.ancestors 8 = [] ++ 8 :: [5, 3, 1, 0] := path
  refine ⟨(Tree.mem_binders_and_binds_iff path).1 (by decide +kernel), ⟨_, _, path, ?_⟩,
    [6], [8], by decide +kernel, ?_⟩
  · intro i hi
    rw [List.mem_singleton.1 hi]
    exact Tree.not_visibleIn_of_path here (by decide +kernel)
  · intro b hb visible
    rw [List.mem_singleton.1 hb] at visible
    have bound := ((Tree.mem_binders_and_binds_iff path).2 visible).2
    exact absurd bound (by decide +kernel)

theorem counter_count_denotes :
    counter.tree.has 6 = true ∧ counter.findSymbol "count" 6 = .ok (.parameter 4) ∧
      counter.tree.has 8 = true ∧ counter.findSymbol "count" 8 = .ok (.localVar 7) := by
  have first : counter.tree.has 6 = true := by decide +kernel
  have second : counter.tree.has 8 = true := by decide +kernel
  have beforeIt := (findSymbol_lexical first "count").1 3 4 counter_parameter_firstVisible
  have behindIt := (findSymbol_lexical second "count").1 5 7 counter_localVar_firstVisible
  exact ⟨first, beforeIt.unique (.parameter rfl), second, behindIt.unique (.localVar rfl)⟩

end TypeScope

end JvmScope
