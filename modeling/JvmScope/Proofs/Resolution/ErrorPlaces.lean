import JvmScope.Proofs.Outcome
import JvmScope.Proofs.Resolution.TypeLookup
import JvmScope.Resolution.Symbol
import JvmScope.Resolution.WrittenType

/-!
# Places of errors

Looking a name up at a node fails at that node or at an import. `ResolveError.Concerns` says
what errors about a set of nodes are like: mistakes stand at one of the nodes, a node that does
not exist is one of them, and what is no mistake stays none wherever it is passed on to.

What a lookup fails with comes from the node that it is made at or from a node that it asks on
its way (`TypeScope.lookupType_fails`, `TypeScope.findSymbol_fails`). So the errors of both
lookups are about any set that has the imports and the node at hand in it
(`TypeScope.lookupType_concerns`, `TypeScope.findSymbol_concerns`).
-/

namespace JvmScope

namespace ResolveError

/-- A failure at the level of types that is no mistake of the program at any place. -/
def Lasting (cause : TypeError) : Prop :=
  ∀ range, (ofType range cause).isRecoverable = false

/-- The error is about one of the nodes in `S`, or about none. -/
inductive Concerns (t : Tree) (S : NodeId → Prop) : ResolveError → Prop
  /-- A mistake at a node. -/
  | mistake {e : ResolveError} {id : NodeId} : S id → t.has id = true →
      e.range? = some (t.range id) → Concerns t S e
  | nowhere {id : NodeId} : S id → t.has id = false → Concerns t S (.noSuchNode id)
  | invalid {cause : TypeError} : Lasting cause → Concerns t S (.invalid cause)
  | provider {cause : TypeError} : Lasting cause → Concerns t S (.provider cause)

variable {t : Tree} {S : NodeId → Prop} {id : NodeId}

/-- A failure at the level of types is about the node at hand. -/
theorem Concerns.ofType (hS : S id) (here : t.has id = true) (cause : TypeError) :
    Concerns t S (.ofType (t.range id) cause) := by
  cases cause with
  | unresolved | ambiguousCall | noApplicableMethod => exact .mistake hS here rfl
  | missingType | provider => exact .provider fun _ => rfl
  | _ => exact .invalid fun _ => rfl

/-- An error about some nodes is about any more. -/
theorem Concerns.mono {S' : NodeId → Prop} {e : ResolveError} (h : Concerns t S e)
    (more : ∀ id, S id → S' id) : Concerns t S' e := by
  cases h with
  | mistake hS here place => exact .mistake (more _ hS) here place
  | nowhere hS missing => exact .nowhere (more _ hS) missing
  | invalid lasting => exact .invalid lasting
  | provider lasting => exact .provider lasting

theorem Concerns.unsupported (operation : Operation) (subject : String) :
    Concerns t S (.unsupported operation subject) := .invalid fun _ => rfl

end ResolveError

open ResolveError

theorem concerns_atRange {α : Type} {t : Tree} {S : NodeId → Prop} {id : NodeId} (hS : S id)
    (here : t.has id = true) {x : Except TypeError α} :
    FailsOnly (Concerns t S) (atRange (t.range id) x) :=
  .atRange fun cause => .ofType hS here cause

namespace Tree

variable {t : Tree} {S : NodeId → Prop} {id : NodeId}

theorem has_of_mem_children {p : NodeId} (h : id ∈ t.children p) : t.has id = true :=
  has_eq_true.2 (lt_of_mem_children h).2

theorem mem_children_of_mem_binders {scope : NodeId} {cameFrom : Option NodeId}
    (h : id ∈ t.binders scope cameFrom) : id ∈ t.children scope := by
  unfold binders at h
  by_cases invokable : (t.kind scope).isInvokable = true
  · rw [if_pos invokable] at h
    exact (List.mem_filter.1 h).1
  · rw [if_neg invokable] at h
    by_cases block : (t.kind scope).isBlock = true
    · rw [if_pos block] at h
      exact (List.mem_filter.1 (List.mem_filter.1 h).1).1
    · rw [if_neg block] at h
      exact (List.mem_filter.1 h).1

/-- Where anything but a block stands, there is a node. -/
theorem has_of_kind_ne (h : t.kind id ≠ .block) : t.has id = true := by
  by_cases here : id < t.size
  · exact has_eq_true.2 here
  · have hnone : t.nodes[id]? = none := Array.getElem?_eq_none (Nat.le_of_not_lt here)
    exact absurd (by simp [kind, hnone]) h

/-- The set has all imports of the file in it. -/
def HoldsImports (t : Tree) (S : NodeId → Prop) : Prop :=
  ∀ id what, t.kind id = .importDecl what → S id

theorem requireNode_concerns (hS : S id) : FailsOnly (Concerns t S) (t.requireNode id) := by
  intro e h
  unfold requireNode at h
  by_cases here : t.has id = true
  · simp [here] at h
  · simp only [here, Bool.false_eq_true, if_false] at h
    cases h
    exact .nowhere hS (Bool.eq_false_iff.2 here)

end Tree

namespace TypeScope

variable {s : TypeScope} {S : NodeId → Prop} {id : NodeId}

/-! ## Imports -/

theorem staticOwner_concerns (hS : S id) (here : s.tree.has id = true) (type member : String) :
    FailsOnly (Concerns s.tree S) (s.staticOwner type member (s.tree.range id)) := by
  refine .bind (concerns_atRange hS here) fun found _ => ?_
  cases found with
  | none => exact .throw (.mistake hS here rfl)
  | some owner =>
      refine .bind (concerns_atRange hS here) fun isStatic _ => ?_
      cases isStatic with
      | true => exact .pure _
      | false => exact .throw (.mistake hS here rfl)

theorem qualifiedTarget_concerns (hS : S id) (here : s.tree.has id = true) (name : String) :
    FailsOnly (Concerns s.tree S) (s.qualifiedTarget name (s.tree.range id)) := by
  unfold qualifiedTarget
  cases s.tree.typeNamed? name with
  | some declaration => exact .pure _
  | none => exact .bind (concerns_atRange hS here) fun _ _ => .pure _

theorem importedName_concerns (hS : S id) (here : s.tree.has id = true) (name : String) :
    FailsOnly (Concerns s.tree S) (s.importedName name (s.tree.range id)) := by
  refine .bind (qualifiedTarget_concerns hS here name) fun target _ => ?_
  cases target with
  | some target => exact .pure _
  | none =>
      refine .bind (concerns_atRange hS here) fun isMember _ => ?_
      cases isMember with
      | true => exact .pure _
      | false => exact .throw (.mistake hS here rfl)

theorem imported_concerns (hS : S id) (here : s.tree.has id = true) (name : String)
    (what : Import) :
    FailsOnly (Concerns s.tree S) (s.imported name (s.tree.range id) what) := by
  cases what with
  | singleType full renamed =>
      unfold imported
      dsimp only
      split
      · exact .map (importedName_concerns hS here full)
      · exact .pure _
  | onDemand package =>
      unfold imported
      dsimp only
      split
      · exact .pure _
      · exact .bind (qualifiedTarget_concerns hS here _) fun _ _ => .pure _
  | staticMember type member renamed =>
      unfold imported
      dsimp only
      split
      · exact .bind (staticOwner_concerns hS here type member) fun _ _ => .pure _
      · exact .pure _

/-! ## Single nodes -/

/-- Of all nodes, only an import can fail to say which type a name denotes. -/
theorem typeAt_concerns (atImport : ∀ what, s.tree.kind id = .importDecl what → S id)
    (name : String) (here : s.tree.has id = true) :
    FailsOnly (Concerns s.tree S) (s.typeAt name id) := by
  unfold typeAt
  cases hk : s.tree.kind id with
  | typeDecl declared =>
      dsimp only
      split
      · exact .pure _
      · exact .pure _
  | importDecl what =>
      have hS : S id := atImport what hk
      refine .bind (imported_concerns hS here name what) fun found _ => ?_
      split
      · exact .pure _
      · exact .throw (.mistake hS here rfl)
      · exact .pure _
  | _ => exact .pure _

/-- The same of the symbol that a node binds to a name. -/
theorem symbolAt_concerns (atImport : ∀ what, s.tree.kind id = .importDecl what → S id)
    (name : String) (here : s.tree.has id = true) :
    FailsOnly (Concerns s.tree S) (s.symbolAt name id) := by
  unfold symbolAt
  split
  · exact .pure _
  · exact .pure _
  · exact .pure _
  · exact .pure _
  · rename_i type member renamed hk
    split
    · refine .bind (staticOwner_concerns (atImport _ hk) here type member) fun _ _ => .pure _
    · exact .pure _
  · exact .pure _

/-! ## Lookups -/

section Lookups

variable {P : ResolveError → Prop} {context : NodeId} {name : String}

theorem typeAround_fails (atContext : ∀ e, Concerns s.tree (· = context) e → P e)
    (nodes : ∀ id, s.tree.has id = true → FailsOnly P (s.typeAt name id)) :
    FailsOnly P (s.typeAround name context) := by
  refine .bind ((Tree.requireNode_concerns (S := (· = context)) rfl).mono atContext)
    fun _ required => ?_
  have here : s.tree.has context = true := requireNode_ok_iff.1 required
  have ask (full : String) :
      FailsOnly P (atRange (s.tree.range context) (s.classpath.resolve full)) :=
    (concerns_atRange (S := (· = context)) rfl here).mono atContext
  refine .bind ?_ fun found _ => ?_
  · refine .findSomeM? fun scope _ => ?_
    refine .findSomeM? fun child hchild => ?_
    exact nodes child (Tree.has_of_mem_children hchild)
  · cases found with
    | some target => exact .pure _
    | none =>
        refine .bind (ask _) fun implicit _ => ?_
        cases implicit with
        | some d => exact .pure _
        | none =>
            refine .bind (ask _) fun literal _ => ?_
            cases literal with
            | some d => exact .pure _
            | none => exact .throw (atContext _ (.mistake rfl here rfl))

/-- A type name that denotes nothing does so at the node at hand or at a node that is asked. -/
theorem lookupType_fails (atContext : ∀ e, Concerns s.tree (· = context) e → P e)
    (nodes : ∀ id, s.tree.has id = true → FailsOnly P (s.typeAt name id)) :
    FailsOnly P (s.lookupType name context) := by
  unfold lookupType
  split
  · exact .pure _
  · exact .pure _
  · split
    · exact typeAround_fails atContext nodes
    · exact .throw (atContext _ (.invalid fun _ => rfl))

theorem symbolAmong_fails (nodes : ∀ id, s.tree.has id = true → FailsOnly P (s.symbolAt name id))
    (cameFrom : Option NodeId) (scopes : List NodeId) :
    FailsOnly P (s.symbolAmong name cameFrom scopes) := by
  induction scopes generalizing cameFrom with
  | nil => exact .pure _
  | cons scope outer ih =>
      refine .bind (.findSomeM? fun child hchild => ?_) fun found _ => ?_
      · exact nodes child (Tree.has_of_mem_children (Tree.mem_children_of_mem_binders hchild))
      · cases found with
        | some symbol => exact .pure _
        | none => exact ih (some scope)

/-- A name that denotes no value does so at the node at hand or at a node that is asked. -/
theorem findSymbol_fails (atContext : ∀ e, Concerns s.tree (· = context) e → P e)
    (nodes : ∀ id, s.tree.has id = true → FailsOnly P (s.symbolAt name id)) :
    FailsOnly P (s.findSymbol name context) := by
  refine .bind ((Tree.requireNode_concerns (S := (· = context)) rfl).mono atContext)
    fun _ required => ?_
  refine .bind (symbolAmong_fails nodes none _) fun found _ => ?_
  cases found with
  | some symbol => exact .pure _
  | none => exact .throw (atContext _ (.mistake rfl (requireNode_ok_iff.1 required) rfl))

/-! ## Written types -/

/-- A written type has no JVM type because there is none, or because of a name in it. -/
theorem jvmTypeOf_fails (unsupported : ∀ operation subject, P (.unsupported operation subject))
    (names : ∀ name, FailsOnly P (s.lookupType name context)) (type : TypeRef) :
    FailsOnly P (s.jvmTypeOf context type) := by
  cases type with
  | named name => exact .map (names name)
  | array element =>
      refine .bind (jvmTypeOf_fails unsupported names element) fun component _ => ?_
      split
      · exact .throw (unsupported _ _)
      · exact .pure _
  | function params result => exact .throw (unsupported _ _)

mutual

/-- A written type is mistaken because of a name in it. -/
theorem checkTypeRef_fails (names : ∀ name, FailsOnly P (s.lookupType name context))
    (type : TypeRef) : FailsOnly P (s.checkTypeRef context type) := by
  cases type with
  | named name => exact .bind (names name) fun _ _ => .pure _
  | array element => exact checkTypeRef_fails names element
  | function params result =>
      refine .bind (checkTypeRefs_fails names params) fun _ _ => ?_
      exact checkTypeRef_fails names result

theorem checkTypeRefs_fails (names : ∀ name, FailsOnly P (s.lookupType name context))
    (types : List TypeRef) : FailsOnly P (s.checkTypeRefs context types) := by
  cases types with
  | nil => exact .pure _
  | cons type rest =>
      refine .bind (checkTypeRef_fails names type) fun _ _ => ?_
      exact checkTypeRefs_fails names rest

end

end Lookups

/-! ## Sets that hold the imports -/

variable {context : NodeId}

theorem lookupType_concerns (imports : s.tree.HoldsImports S) (hcontext : S context)
    (name : String) : FailsOnly (Concerns s.tree S) (s.lookupType name context) :=
  lookupType_fails (fun _ h => h.mono fun _ same => same ▸ hcontext)
    fun id here => typeAt_concerns (imports id) name here

theorem findSymbol_concerns (imports : s.tree.HoldsImports S) (hcontext : S context)
    (name : String) : FailsOnly (Concerns s.tree S) (s.findSymbol name context) :=
  findSymbol_fails (fun _ h => h.mono fun _ same => same ▸ hcontext)
    fun id here => symbolAt_concerns (imports id) name here

theorem jvmTypeOf_concerns (imports : s.tree.HoldsImports S) (hcontext : S context)
    (type : TypeRef) : FailsOnly (Concerns s.tree S) (s.jvmTypeOf context type) :=
  jvmTypeOf_fails .unsupported (lookupType_concerns imports hcontext) type

end TypeScope

end JvmScope
