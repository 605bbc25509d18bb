import JvmScope.Proofs.Resolution.MemberMistakes
import JvmScope.Proofs.Resolution.Provenance
import JvmScope.Proofs.Resolution.WrittenTypes
import JvmScope.Resolution.Check

/-!
# How far errors spread

What is wrong with a declaration is met again by whatever rests on it. For a node that does
nothing but bind a name, a property or an import, `Resolver.SpreadsAs` says what has to be known
of it: the lookups at other nodes fail only as `P` says, and so does the type of the property
where the property is used by name. This is enough for all that a check does at other nodes.
`SpreadsAs.typeOfStep_fails` is the step, over the types of other nodes;
`SpreadsAs.typeOfWithin_fails` follows the trail, and `SpreadsAs.checkNode_fails` says it of what
a check reports for any node but this one.
-/

namespace JvmScope

open ResolveError

/-- The kinds of nodes that bind a name for others and are neither typed nor typed by it. -/
def NodeKind.isPassive : NodeKind → Bool
  | .property _ _ | .importDecl _ => true
  | _ => false

/-! ## Symbols -/

namespace TypeScope

variable {s : TypeScope} {name : String} {context : NodeId}

/-- What is used as a parameter is declared as one. -/
theorem isParameter_of_findSymbol {id : NodeId}
    (h : s.findSymbol name context = .ok (.parameter id)) :
    (s.tree.kind id).isParameter = true := by
  obtain ⟨other, hother⟩ := exists_symbolAt_of_findSymbol h
  unfold symbolAt at hother
  split at hother
  · rename_i n type hk
    split at hother
    · obtain rfl := Symbol.parameter.inj (Option.some.inj (pure_ok_iff.1 hother))
      rw [hk]
      rfl
    · cases hother
  · split at hother <;> cases hother
  · split at hother <;> cases hother
  · split at hother <;> cases hother
  · split at hother
    · obtain ⟨_, -, hother⟩ := bind_ok_iff.1 hother
      cases hother
    · cases hother
  · cases hother

end TypeScope

namespace Resolver

variable {r : Resolver} {p id context : NodeId} {e : ResolveError} {P : ResolveError → Prop}
  {α : Type}

/-! ## Errors that are reported elsewhere -/

/-- If the error has a place, it is that of another node than `p`. -/
def Elsewhere (r : Resolver) (p : NodeId) (e : ResolveError) : Prop :=
  ∀ range, e.range? = some range → ∃ id, id ≠ p ∧ r.tree.has id = true ∧ r.tree.range id = range

theorem elsewhere_of_lasting (h : e.isRecoverable = false) : r.Elsewhere p e := by
  intro range hrange
  cases e with
  | unresolved | semantic => cases h
  | _ => cases hrange

theorem elsewhere_of_concerns (h : Concerns r.tree (· ≠ p) e) : r.Elsewhere p e := by
  cases h with
  | mistake hne here hplace =>
      intro range hrange
      exact ⟨_, hne, here, Option.some.inj (hplace.symm.trans hrange)⟩
  | nowhere => exact elsewhere_of_lasting rfl
  | invalid => exact elsewhere_of_lasting rfl
  | provider => exact elsewhere_of_lasting rfl

/-! ## Errors that last -/

/-- A node that does not exist is none that anything is reported at. -/
theorem lasting_requireNode (id : NodeId) :
    FailsOnly (fun e => e.isRecoverable = false) (r.tree.requireNode id) := by
  intro e h
  unfold Tree.requireNode at h
  split at h
  · cases h
  · cases h
    rfl

theorem lasting_sourceDefinition (id : NodeId) :
    FailsOnly (fun e => e.isRecoverable = false) (r.sourceDefinition id) :=
  fun _ h => TypeScope.lasting_of_definitionAt h

theorem lasting_definitionOf (target : TypeTarget) :
    FailsOnly (fun e => e.isRecoverable = false) (r.definitionOf target) := by
  cases target with
  | source declaration => exact .map (lasting_sourceDefinition declaration)
  | _ => exact .pure _

theorem lasting_usageOf (target : TypeTarget) :
    FailsOnly (fun e => e.isRecoverable = false) (r.usageOf target) := by
  cases target with
  | source declaration => exact .map (lasting_sourceDefinition declaration)
  | _ => exact .pure _

/-! ## Written types -/

mutual

/-- A written type that is resolved fails with the mistake that its check finds, if with any. -/
theorem resolveTypeRef_fails_as_checked (type : TypeRef) :
    FailsOnly (fun e => e.isRecoverable = false ∨ r.scope.checkTypeRef context type = .error e)
      (r.resolveTypeRef context type) := by
  cases type with
  | named name =>
      rw [resolveTypeRef]
      refine .bind (fun e h => .inr (bind_of_error h)) fun target _ => ?_
      exact (lasting_usageOf target).mono fun e lasting => .inl lasting
  | array element =>
      rw [resolveTypeRef]
      exact .bind (resolveTypeRef_fails_as_checked element) fun _ _ => .pure _
  | function params result =>
      rw [resolveTypeRef]
      refine .bind ((resolveTypeRefs_fails_as_checked params).mono ?_) fun ps hparams => ?_
      · rintro e (lasting | checked)
        · exact .inl lasting
        · exact .inr (bind_of_error checked)
      · have rest : r.scope.checkTypeRef context (.function params result) =
            r.scope.checkTypeRef context result :=
          bind_of_ok (checkTypeRefs_of_resolveTypeRefs hparams)
        rw [rest]
        exact .bind (resolveTypeRef_fails_as_checked result) fun _ _ => .pure _

theorem resolveTypeRefs_fails_as_checked (types : List TypeRef) :
    FailsOnly (fun e => e.isRecoverable = false ∨ r.scope.checkTypeRefs context types = .error e)
      (r.resolveTypeRefs context types) := by
  cases types with
  | nil =>
      rw [resolveTypeRefs]
      exact .pure _
  | cons type rest =>
      rw [resolveTypeRefs]
      refine .bind ((resolveTypeRef_fails_as_checked type).mono ?_) fun u htype => ?_
      · rintro e (lasting | checked)
        · exact .inl lasting
        · exact .inr (bind_of_error checked)
      · have others : r.scope.checkTypeRefs context (type :: rest) =
            r.scope.checkTypeRefs context rest :=
          bind_of_ok (checkTypeRef_of_resolveTypeRef htype)
        rw [others]
        exact .bind (resolveTypeRefs_fails_as_checked rest) fun _ _ => .pure _

end

/-! ## Other nodes -/

/-- At other nodes than `p`, names are looked up and the property at `p` is used only with errors
as `P` says. Errors that are reported elsewhere are among them. -/
structure SpreadsAs (r : Resolver) (p : NodeId) (P : ResolveError → Prop) : Prop where
  passive : (r.tree.kind p).isPassive = true
  elsewhere : ∀ e, r.Elsewhere p e → P e
  lookupType_fails : ∀ {context}, context ≠ p → ∀ name,
    FailsOnly P (r.scope.lookupType name context)
  findSymbol_fails : ∀ {context}, context ≠ p → ∀ name,
    FailsOnly P (r.scope.findSymbol name context)
  used_fails : ∀ e name declared type, r.tree.kind e = .valueRef name →
    r.scope.findSymbol name e = .ok (.property p) → r.tree.kind p = .property declared type →
    FailsOnly P (r.resolveTypeRef p type)

/-- The types of other nodes: they fail as `P` says, and `p` has none. -/
structure TypingFails (r : Resolver) (p : NodeId) (P : ResolveError → Prop) (T : Typing) :
    Prop where
  fails : ∀ e, FailsOnly P (T e)
  typed : ∀ e t, T e = .ok t → e ≠ p

namespace SpreadsAs

variable (spreads : r.SpreadsAs p P)

include spreads

/-- Nodes of other kinds are other nodes. -/
theorem ne {kind : NodeKind} (hk : r.tree.kind id = kind) (other : kind.isPassive = false) :
    id ≠ p := by
  rintro rfl
  have passive := spreads.passive
  rw [hk, other] at passive
  cases passive

theorem lasting (h : e.isRecoverable = false) : P e :=
  spreads.elsewhere e (elsewhere_of_lasting h)

theorem fails_of_lasting {x : Except ResolveError α}
    (h : FailsOnly (fun e => e.isRecoverable = false) x) : FailsOnly P x :=
  h.mono fun _ he => spreads.lasting he

theorem fails_of_concerns {x : Except ResolveError α} (h : FailsOnly (Concerns r.tree (· ≠ p)) x) :
    FailsOnly P x :=
  h.mono fun e he => spreads.elsewhere e (elsewhere_of_concerns he)

theorem unsupported (operation : Operation) (subject : String) :
    P (.unsupported operation subject) := spreads.lasting rfl

/-- A mistake at another node is reported there. -/
theorem semantic (hne : id ≠ p) (here : r.tree.has id = true) (cause : SemanticError) :
    P (.semantic (r.tree.range id) cause) :=
  spreads.elsewhere _ (elsewhere_of_concerns (.mistake hne here rfl))

theorem atRange_fails (hne : id ≠ p) (here : r.tree.has id = true) {x : Except TypeError α} :
    FailsOnly P (atRange (r.tree.range id) x) :=
  spreads.fails_of_concerns (concerns_atRange (S := (· ≠ p)) hne here)

theorem checkTypeRef_fails (hne : context ≠ p) (type : TypeRef) :
    FailsOnly P (r.scope.checkTypeRef context type) :=
  TypeScope.checkTypeRef_fails (spreads.lookupType_fails hne) type

theorem jvmTypeOf_fails (hne : context ≠ p) (type : TypeRef) :
    FailsOnly P (r.scope.jvmTypeOf context type) :=
  TypeScope.jvmTypeOf_fails spreads.unsupported (spreads.lookupType_fails hne) type

theorem namedUsage_fails (hne : context ≠ p) (name : String) :
    FailsOnly P (r.namedUsage name context) :=
  .bind (spreads.lookupType_fails hne name) fun target _ =>
    spreads.fails_of_lasting (lasting_usageOf target)

theorem typeNamedBy_fails (hne : context ≠ p) (name : String) :
    FailsOnly P (r.typeNamedBy name context) := by
  unfold typeNamedBy
  split
  · exact .pure _
  · exact .pure _
  · exact .pure _
  · exact .pure _
  · rename_i e _ h
    exact .throw (spreads.lookupType_fails hne name e h)

/-- A written type that is resolved fails with what its check finds, or with no mistake. -/
theorem resolveTypeRef_fails (hne : context ≠ p) (type : TypeRef) :
    FailsOnly P (r.resolveTypeRef context type) := by
  refine (resolveTypeRef_fails_as_checked type).mono ?_
  rintro e (lasting | checked)
  · exact spreads.lasting lasting
  · exact spreads.checkTypeRef_fails hne type e checked

/-! ## Expressions -/

section Step

variable {T : Typing}

theorem staticField_fails (hne : context ≠ p) (here : r.tree.has context = true)
    (type field : String) : FailsOnly P (r.staticField type field context) := by
  refine .bind (spreads.lookupType_fails hne type) fun target _ => ?_
  refine .bind (spreads.fails_of_lasting (lasting_definitionOf target)) fun owner _ => ?_
  cases owner with
  | none => exact .throw (spreads.semantic hne here _)
  | some owner =>
      refine .bind (spreads.atRange_fails hne here) fun found _ => ?_
      cases found with
      | none => exact .throw (spreads.semantic hne here _)
      | some found => exact .pure _

theorem importedField_fails (hne : id ≠ p) (here : r.tree.has id = true) (owner : TypeDefinition)
    (field : String) : FailsOnly P (r.importedField owner field (r.tree.range id)) := by
  refine .bind (spreads.atRange_fails hne here) fun found _ => ?_
  cases found with
  | none => exact .throw (spreads.semantic hne here _)
  | some found => exact .pure _

/-- Parameters are other nodes. -/
theorem ne_parameter {function : NodeId} {parameter : NodeId × TypeRef}
    (h : parameter ∈ r.tree.parameterTypes function) : parameter.1 ≠ p := by
  obtain ⟨c, hc, hsome⟩ := List.mem_filterMap.1 h
  split at hsome
  · rename_i name type hk
    obtain rfl := Option.some.inj hsome
    exact spreads.ne hk rfl
  · cases hsome

theorem parameterUsages_fails {parameters : List (NodeId × TypeRef)}
    (h : ∀ parameter ∈ parameters, parameter.1 ≠ p) :
    FailsOnly P (r.parameterUsages parameters) := by
  induction parameters with
  | nil => exact .pure _
  | cons parameter rest ih =>
      obtain ⟨id, type⟩ := parameter
      refine .bind (spreads.resolveTypeRef_fails (h _ List.mem_cons_self) type) fun _ _ => ?_
      exact .bind (ih fun q hq => h q (List.mem_cons_of_mem _ hq)) fun _ _ => .pure _

theorem parameterJvmTypes_fails {parameters : List (NodeId × TypeRef)}
    (h : ∀ parameter ∈ parameters, parameter.1 ≠ p) :
    FailsOnly P (r.parameterJvmTypes parameters) := by
  induction parameters with
  | nil => exact .pure _
  | cons parameter rest ih =>
      obtain ⟨id, type⟩ := parameter
      refine .bind (spreads.jvmTypeOf_fails (h _ List.mem_cons_self) type) fun _ _ => ?_
      exact .bind (ih fun q hq => h q (List.mem_cons_of_mem _ hq)) fun _ _ => .pure _

theorem functionType_fails (function : NodeId) : FailsOnly P (r.functionType function) := by
  unfold functionType
  cases hk : r.tree.kind function with
  | function name result =>
      refine .bind (spreads.parameterUsages_fails fun _ h => spreads.ne_parameter h) fun _ _ => ?_
      have hne : function ≠ p := spreads.ne hk rfl
      exact .bind (spreads.resolveTypeRef_fails hne result) fun _ _ => .pure _
  | _ => exact .throw (spreads.unsupported _ _)

theorem requireNode_fails (hne : id ≠ p) : FailsOnly P (r.tree.requireNode id) :=
  spreads.fails_of_concerns (Tree.requireNode_concerns (S := (· ≠ p)) hne)

/-- What is wrong with a property gets out where the property is used by name. -/
theorem typeOfSymbolBy_fails (hT : r.TypingFails p P T) {e : NodeId} {name : String}
    {symbol : Symbol} (hk : r.tree.kind e = .valueRef name)
    (hsymbol : r.scope.findSymbol name e = .ok symbol) :
    FailsOnly P (r.typeOfSymbolBy T symbol e) := by
  cases symbol with
  | property id =>
      refine .bind (spreads.fails_of_lasting (lasting_requireNode id)) fun _ _ => ?_
      split
      · rename_i hparameter
        exact spreads.resolveTypeRef_fails (spreads.ne hparameter rfl) _
      · rename_i type hproperty
        by_cases own : id = p
        · subst own
          exact spreads.used_fails e name _ _ hk hsymbol hproperty
        · exact spreads.resolveTypeRef_fails own _
      · exact .throw (spreads.unsupported _ _)
  | parameter id =>
      have isParameter := TypeScope.isParameter_of_findSymbol hsymbol
      refine .bind (spreads.fails_of_lasting (lasting_requireNode id)) fun _ _ => ?_
      split
      · rename_i hparameter
        exact spreads.resolveTypeRef_fails (spreads.ne hparameter rfl) _
      · rename_i hproperty
        have kind : (NodeKind.isParameter _) = true := hproperty ▸ isParameter
        cases kind
      · exact .throw (spreads.unsupported _ _)
  | localVar id =>
      refine .bind (spreads.fails_of_lasting (lasting_requireNode id)) fun _ _ => ?_
      split
      · rename_i hlocal
        exact spreads.resolveTypeRef_fails (spreads.ne hlocal rfl) _
      · exact hT.fails _
      · exact .throw (spreads.unsupported _ _)
      · exact .throw (spreads.unsupported _ _)
  | function id =>
      refine .bind (spreads.fails_of_lasting (lasting_requireNode id)) fun _ _ => ?_
      exact spreads.functionType_fails id
  | staticMember owner member =>
      have hne : e ≠ p := spreads.ne hk rfl
      refine .bind (spreads.requireNode_fails hne) fun _ required => ?_
      have here := TypeScope.requireNode_ok_iff.1 required
      refine .bind (spreads.importedField_fails hne here owner member) fun _ _ => ?_
      exact spreads.atRange_fails hne here

theorem denotesType_fails (e : NodeId) : FailsOnly P (r.denotesType e) := by
  refine .bind (spreads.fails_of_lasting (lasting_requireNode e)) fun _ _ => ?_
  split
  · exact .pure _
  · rename_i name hk
    have hne : e ≠ p := spreads.ne hk rfl
    split
    · exact .pure _
    · exact .bind (spreads.typeNamedBy_fails hne name) fun _ _ => .pure _
    · rename_i cause _ h
      exact .throw (spreads.findSymbol_fails hne name cause h)
  · exact .pure _

theorem subject_fails (access : NodeId) : FailsOnly P (r.subject access) := by
  unfold subject
  split
  · exact .throw (spreads.unsupported _ _)
  · exact .pure _

theorem argumentTypes_fails (hT : r.TypingFails p P T) {args : List NodeId}
    (here : ∀ a ∈ args, r.tree.has a = true) : FailsOnly P (r.argumentTypes T args) := by
  induction args with
  | nil => exact .pure _
  | cons a rest ih =>
      refine .bind (hT.fails a) fun t ht => ?_
      have hne := hT.typed a t ht
      refine .bind (spreads.atRange_fails hne (here a List.mem_cons_self)) fun _ _ => ?_
      exact .bind (ih fun b hb => here b (List.mem_cons_of_mem _ hb)) fun _ _ => .pure _

theorem functionTarget_fails (hne : id ≠ p) (here : r.tree.has id = true) (function : NodeId)
    (args : List JvmType) : FailsOnly P (r.functionTarget function args (r.tree.range id)) := by
  unfold functionTarget
  cases hk : r.tree.kind function with
  | function name result =>
      refine .bind (spreads.parameterJvmTypes_fails fun _ h => spreads.ne_parameter h) fun _ _ => ?_
      refine .bind (spreads.atRange_fails hne here) fun fits _ => ?_
      split
      · have hfunction : function ≠ p := spreads.ne hk rfl
        exact .bind (spreads.jvmTypeOf_fails hfunction result) fun _ _ => .pure _
      · exact .throw (spreads.semantic hne here _)
  | _ => exact .throw (spreads.unsupported _ _)

theorem calleeTarget_fails (hT : r.TypingFails p P T) {call : NodeId} (hne : call ≠ p)
    (here : r.tree.has call = true) (callee : NodeId) (args : List JvmType) :
    FailsOnly P (r.calleeTarget T callee args (r.tree.range call)) := by
  unfold calleeTarget
  cases hk : r.tree.kind callee with
  | valueRef name =>
      have hcallee : callee ≠ p := spreads.ne hk rfl
      refine .bind (spreads.findSymbol_fails hcallee name) fun symbol _ => ?_
      split
      · exact spreads.functionTarget_fails hne here _ _
      · exact spreads.atRange_fails hne here
      · exact .throw (spreads.semantic hne here _)
  | fieldAccess name =>
      refine .bind (spreads.subject_fails callee) fun receiver _ => ?_
      refine .bind (spreads.denotesType_fails receiver) fun _ _ => ?_
      refine .bind (hT.fails receiver) fun t _ => ?_
      split
      · exact spreads.atRange_fails hne here
      · exact .throw (spreads.semantic hne here _)
  | staticFieldAccess type name =>
      have hcallee : callee ≠ p := spreads.ne hk rfl
      refine .bind (spreads.lookupType_fails hcallee type) fun target _ => ?_
      refine .bind (spreads.fails_of_lasting (lasting_definitionOf target)) fun owner _ => ?_
      cases owner with
      | some owner => exact spreads.atRange_fails hne here
      | none => exact .throw (spreads.semantic hne here _)
  | _ => exact .throw (spreads.semantic hne here _)

theorem methodTargetBy_fails (hT : r.TypingFails p P T) {call : NodeId} (hne : call ≠ p)
    (here : r.tree.has call = true) : FailsOnly P (r.methodTargetBy T call) := by
  unfold methodTargetBy
  split
  · exact .throw (spreads.unsupported _ _)
  · rename_i callee args hchildren
    refine .bind (spreads.argumentTypes_fails hT fun a ha => ?_) fun _ _ => ?_
    · refine Tree.has_of_mem_children (p := call) ?_
      rw [hchildren]
      exact List.mem_cons_of_mem _ ha
    · exact spreads.calleeTarget_fails hT hne here callee _

theorem constructorTargetBy_fails (hT : r.TypingFails p P T) (type : String) {creation : NodeId}
    (hne : creation ≠ p) (here : r.tree.has creation = true) :
    FailsOnly P (r.constructorTargetBy T type creation) := by
  have args {a : NodeId} (ha : a ∈ r.tree.children creation) : r.tree.has a = true :=
    Tree.has_of_mem_children ha
  refine .bind (spreads.argumentTypes_fails hT fun _ => args) fun _ _ => ?_
  refine .bind (spreads.lookupType_fails hne type) fun target _ => ?_
  refine .bind (spreads.fails_of_lasting (lasting_definitionOf target)) fun d _ => ?_
  cases d with
  | none => exact .throw (spreads.semantic hne here _)
  | some d =>
      dsimp only
      split
      · exact .throw (spreads.semantic hne here _)
      · exact spreads.atRange_fails hne here

/-- The rule for a node fails as `P` says if the types of other nodes do. -/
theorem typeOfStep_fails (hT : r.TypingFails p P T) {e : NodeId} (here : r.tree.has e = true) :
    FailsOnly P (r.typeOfStep T e) := by
  unfold typeOfStep
  have ne {kind : NodeKind} (hk : r.tree.kind e = kind)
      (other : kind.isPassive = false) : e ≠ p := spreads.ne hk other
  cases hk : r.tree.kind e with
  | intLiteral | boolLiteral => exact .pure _
  | stringLiteral => exact .bind (spreads.atRange_fails (ne hk rfl) here) fun _ _ => .pure _
  | valueRef name =>
      have hne := ne hk rfl
      dsimp only
      split
      · rename_i symbol hsymbol
        exact spreads.typeOfSymbolBy_fails hT hk hsymbol
      · rename_i missing place h
        refine .bind (spreads.typeNamedBy_fails hne name) fun target _ => ?_
        -- A name that is no type's either fails with the error of the lookup as a symbol.
        cases target with
        | some target => exact spreads.fails_of_lasting (lasting_usageOf target)
        | none => exact .throw (spreads.findSymbol_fails hne name _ h)
      · rename_i cause _ h
        exact .throw (spreads.findSymbol_fails hne name cause h)
  | typeIdentifier name => exact spreads.namedUsage_fails (ne hk rfl) name
  | fieldAccess field =>
      have hne := ne hk rfl
      refine .bind (spreads.subject_fails e) fun receiver _ => ?_
      refine .bind (hT.fails receiver) fun t _ => ?_
      refine .bind (spreads.atRange_fails hne here) fun found _ => ?_
      cases found with
      | some u => exact .pure _
      | none => exact .throw (spreads.semantic hne here _)
  | staticFieldAccess type field =>
      have hne := ne hk rfl
      refine .bind (spreads.staticField_fails hne here type field) fun _ _ => ?_
      exact spreads.atRange_fails hne here
  | call =>
      have hne := ne hk rfl
      refine .bind (spreads.methodTargetBy_fails hT hne here) fun _ _ => ?_
      refine .bind (spreads.atRange_fails hne here) fun _ _ => ?_
      exact spreads.atRange_fails hne here
  | creation type =>
      have hne := ne hk rfl
      refine .bind (spreads.constructorTargetBy_fails hT type hne here) fun _ _ => ?_
      exact spreads.namedUsage_fails hne type
  | thisRef =>
      have hne := ne hk rfl
      dsimp only
      split
      · exact .throw (spreads.semantic hne here _)
      · exact .map (spreads.fails_of_lasting (lasting_sourceDefinition _))
  | _ => exact .throw (spreads.unsupported _ _)

end Step

/-- Declarations have no type. -/
theorem ne_of_typed {T : Typing} {e : NodeId} {t : TypeUsage} (h : r.typeOfStep T e = .ok t) :
    e ≠ p := by
  rintro rfl
  have passive := spreads.passive
  unfold typeOfStep at h
  cases hk : r.tree.kind e with
  | property name type =>
      simp only [hk] at h
      exact (throw_ok_iff.1 h).elim
  | importDecl what =>
      simp only [hk] at h
      exact (throw_ok_iff.1 h).elim
  | _ =>
      rw [hk] at passive
      cases passive

/-- Typing any expression fails as `P` says. The induction is on the nodes not met yet, as
for `typeOfWithin` itself. -/
theorem typeOfWithin_fails (trail : List NodeId) : r.TypingFails p P (r.typeOfWithin trail) := by
  have fails (trail : List NodeId) (e : NodeId) :
      FailsOnly P (r.typeOfWithin trail e) ∧
        ∀ t, r.typeOfWithin trail e = .ok t → e ≠ p := by
    induction trail, e using Resolver.typeOfWithin.induct (r := r) with
    | case1 trail e here met =>
        rw [typeOfWithin, dif_pos here, dif_pos met]
        exact ⟨.throw (spreads.lasting rfl), fun t h => (throw_ok_iff.1 h).elim⟩
    | case2 trail e here met ih =>
        rw [typeOfWithin, dif_pos here, dif_neg met]
        have others : r.TypingFails p P (r.typeOfWithin (e :: trail)) :=
          ⟨fun other => (ih other).1, fun other => (ih other).2⟩
        exact ⟨spreads.typeOfStep_fails others here, fun t h => spreads.ne_of_typed h⟩
    | case3 trail e nowhere =>
        rw [typeOfWithin, dif_neg nowhere]
        exact ⟨.throw (spreads.lasting rfl), fun t h => (throw_ok_iff.1 h).elim⟩
  exact ⟨fun e => (fails trail e).1, fun e => (fails trail e).2⟩

theorem typeOf_fails (e : NodeId) :
    FailsOnly P (r.typeOf e) := (spreads.typeOfWithin_fails []).fails e

/-! ## Statements -/

theorem expectAssignable_fails (hne : id ≠ p) (here : r.tree.has id = true)
    (actual expected : TypeUsage) :
    FailsOnly P (r.expectAssignable actual expected (r.tree.range id)) := by
  refine .bind (spreads.atRange_fails hne here) fun fits _ => ?_
  cases fits with
  | true => exact .pure _
  | false => exact .throw (spreads.semantic hne here _)

theorem writableField_fails (hne : id ≠ p) (here : r.tree.has id = true) (field : Field) :
    FailsOnly P (r.writableField field (r.tree.range id)) := by
  unfold writableField
  split
  · exact .throw (spreads.semantic hne here _)
  · exact spreads.atRange_fails hne here

theorem writableFound_fails {target : NodeId} (hne : target ≠ p)
    (here : r.tree.has target = true) (found : Option Field) (t : TypeUsage) (name : String) :
    FailsOnly P
      (match found with
        | some field => r.writableField field (r.tree.range target)
        | none => throw (.semantic (r.tree.range target) (.noAssignableField t.display name))) := by
  cases found with
  | some field => exact spreads.writableField_fails hne here field
  | none => exact .throw (spreads.semantic hne here _)

theorem writableType_fails {target : NodeId} (hne : target ≠ p) (here : r.tree.has target = true) :
    FailsOnly P (r.writableType target) := by
  unfold writableType writableTypeBy
  cases hk : r.tree.kind target with
  | valueRef name =>
      refine .bind (spreads.findSymbol_fails hne name) fun symbol hsymbol => ?_
      split
      · exact .throw (spreads.semantic hne here _)
      · refine .bind (spreads.importedField_fails hne here _ _) fun field _ => ?_
        exact spreads.writableField_fails hne here field
      · exact spreads.typeOfSymbolBy_fails (spreads.typeOfWithin_fails []) hk hsymbol
  | fieldAccess name =>
      refine .bind (spreads.subject_fails target) fun receiver _ => ?_
      refine .bind (spreads.typeOf_fails receiver) fun t _ => ?_
      -- only references are asked for a field; what is done with the answer is the same for all
      dsimp only
      split
      · refine .bind (spreads.atRange_fails hne here) fun found _ => ?_
        exact spreads.writableFound_fails hne here found _ name
      · exact .bind (.pure _) fun found _ => spreads.writableFound_fails hne here found _ name
  | staticFieldAccess type name =>
      refine .bind (spreads.staticField_fails hne here type name) fun field _ => ?_
      exact spreads.writableField_fails hne here field
  | _ => exact .throw (spreads.semantic hne here _)

theorem checkAssignment_fails (notTarget : ¬r.tree.IsTarget p) {assignment : NodeId}
    (hk : r.tree.kind assignment = .assignment) : FailsOnly P (r.checkAssignment assignment) := by
  refine .bind (spreads.fails_of_lasting (lasting_requireNode assignment)) fun _ required => ?_
  have here := TypeScope.requireNode_ok_iff.1 required
  have hne : assignment ≠ p := spreads.ne hk rfl
  split
  · rename_i target value hchildren
    have htarget : target ≠ p := by
      rintro rfl
      exact notTarget ⟨assignment, hk, by rw [hchildren]; rfl⟩
    have target_has : r.tree.has target = true :=
      Tree.has_of_mem_children (p := assignment) (by rw [hchildren]; exact List.mem_cons_self)
    refine .bind (spreads.writableType_fails htarget target_has) fun expected _ => ?_
    refine .bind (spreads.typeOf_fails value) fun actual _ => ?_
    exact spreads.expectAssignable_fails hne here actual expected
  · exact .throw (spreads.unsupported _ _)

theorem checkExpressions_fails (es : List NodeId) : FailsOnly P (checkExpressionsBy r.typeOf es) := by
  induction es with
  | nil => exact .pure _
  | cons e rest ih => exact .bind (spreads.typeOf_fails e) fun _ _ => ih

theorem checkLocal_fails (hne : id ≠ p) (here : r.tree.has id = true) (type : Option TypeRef) :
    FailsOnly P (r.checkLocalBy r.typeOf type id) := by
  unfold checkLocalBy
  split
  · refine .bind (spreads.resolveTypeRef_fails hne _) fun declared _ => ?_
    refine .bind (spreads.typeOf_fails _) fun actual _ => ?_
    exact spreads.expectAssignable_fails hne here actual declared
  · exact spreads.checkTypeRef_fails hne _
  · exact .bind (spreads.typeOf_fails _) fun _ _ => .pure _
  · exact .throw (spreads.unsupported _ _)

theorem resultType_fails (invokable : NodeId) : FailsOnly P (r.resultType invokable) := by
  unfold resultType
  split
  · rename_i hk
    exact spreads.resolveTypeRef_fails (spreads.ne hk rfl) _
  · rename_i hk
    exact spreads.resolveTypeRef_fails (spreads.ne hk rfl) _
  · exact .pure _

theorem checkReturn_fails (hne : id ≠ p) (here : r.tree.has id = true) :
    FailsOnly P (r.checkReturnBy r.typeOf id) := by
  unfold checkReturnBy
  dsimp only
  split
  · exact .throw (spreads.unsupported _ _)
  · rename_i invokable _
    refine .bind (spreads.resultType_fails invokable) fun expected _ => ?_
    split
    · split
      · exact .pure _
      · exact .throw (spreads.semantic hne here _)
    · split
      · exact .throw (spreads.semantic hne here _)
      · refine .bind (spreads.typeOf_fails _) fun actual _ => ?_
        exact spreads.expectAssignable_fails hne here actual expected

/-- Checking any node but `p` fails as `P` says. -/
theorem checkNode_fails (notTarget : ¬r.tree.IsTarget p) (hne : id ≠ p) :
    FailsOnly P (r.checkNode id) := by
  refine .bind (spreads.requireNode_fails hne) fun _ required => ?_
  have here := TypeScope.requireNode_ok_iff.1 required
  cases hk : r.tree.kind id with
  | importDecl what =>
      cases what with
      | singleType name renamed =>
          exact .bind (spreads.lookupType_fails hne name) fun _ _ => .pure _
      | onDemand package =>
          show FailsOnly _ (r.checkImport _ id)
          unfold checkImport
          dsimp only
          split
          · exact .pure _
          · exact .throw (spreads.lasting rfl)
      | staticMember type member renamed =>
          exact .bind (spreads.findSymbol_fails hne _) fun _ _ => .pure _
  | property name type | parameter name type => exact spreads.checkTypeRef_fails hne type
  | method name result isStatic => exact spreads.checkTypeRef_fails hne result
  | function name result => exact spreads.checkTypeRef_fails hne result
  | expressionStatement => exact spreads.checkExpressions_fails _
  | localVar name type => exact spreads.checkLocal_fails hne here type
  | assignment => exact spreads.checkAssignment_fails notTarget hk
  | returnStatement => exact spreads.checkReturn_fails hne here
  | _ => exact .pure _

end SpreadsAs

end Resolver

end JvmScope
