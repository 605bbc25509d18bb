import JvmScope.Resolution.Assignment

/-!
# Checking a program

A check goes through a part of the tree in document order. Imports, declarations and statements
are checked one by one, expressions as part of the statement they stand in. A mistake of the
program is noted and the check goes on; an error of any other kind ends it.

`checkPending` keeps the nodes that are still to be checked in a list, and puts the children of
a node in front. It ends because children have larger numbers than their parents.
-/

namespace JvmScope

/-- A mistake of the program, with its place. -/
structure Diagnostic where
  range : TextRange
  message : String
  deriving DecidableEq, Repr

/-- What a check found. -/
structure Report where
  /-- The mistakes, in the order in which they were met. -/
  diagnostics : List Diagnostic
  /-- The error that ended the check early. -/
  stopped : Option ResolveError
  deriving DecidableEq, Repr

namespace Report

/-- The number of mistakes, if the check came to its end. -/
def result (report : Report) : Except ResolveError Nat :=
  match report.stopped with
  | none => .ok report.diagnostics.length
  | some e => .error e

/-- A report of nothing. -/
def clean : Report := ⟨[], none⟩

/-- Notes a mistake before those of the report. -/
def noting (d : Diagnostic) (report : Report) : Report :=
  { report with diagnostics := d :: report.diagnostics }

end Report

namespace Tree

/-- The children of a node that are checked by themselves. -/
def nonExpressions (t : Tree) (id : NodeId) : List NodeId :=
  (t.children id).filter fun c => !(t.kind c).isExpression

/-- A bound on the number of nodes at and below the nodes in a list. -/
def workload (t : Tree) : (pending : List NodeId) → Nat
  | [] => 0
  | id :: rest => Nat.pow 2 (t.size - id) + t.workload rest

theorem workload_append (t : Tree) (front back : List NodeId) :
    t.workload (front ++ back) = t.workload front + t.workload back := by
  induction front with
  | nil => simp [workload]
  | cons id rest ih =>
    simp only [List.cons_append, workload, ih]
    omega

theorem workload_lt {t : Tree} {id : Nat} {pending : List Nat}
    (order : pending.Pairwise (· < ·)) (above : ∀ c ∈ pending, id < c ∧ c < t.size) :
    t.workload pending < Nat.pow 2 (t.size - id) := by
  induction pending generalizing id with
  | nil => exact Nat.pow_pos (by decide)
  | cons c rest ih =>
    obtain ⟨hc, hrest⟩ := List.pairwise_cons.1 order
    have below := above c List.mem_cons_self
    have step := ih hrest fun d hd =>
      ⟨hc d hd, (above d (List.mem_cons_of_mem _ hd)).2⟩
    have mono : Nat.pow 2 (t.size - c + 1) ≤ Nat.pow 2 (t.size - id) :=
      Nat.pow_le_pow_right (by decide) (by omega)
    have double : Nat.pow 2 (t.size - c + 1) = Nat.pow 2 (t.size - c) * 2 := rfl
    simp only [workload]
    omega

/-- What is below a node is less work than the node itself. -/
theorem workload_nonExpressions_lt (t : Tree) (id : NodeId) (pending : List NodeId) :
    t.workload (t.nonExpressions id ++ pending) < t.workload (id :: pending) := by
  have below : t.workload (t.nonExpressions id) < Nat.pow 2 (t.size - id) :=
    workload_lt ((children_pairwise t id).filter _) fun c hc =>
      lt_of_mem_children (List.mem_filter.1 hc).1
  simp only [workload, workload_append]
  omega

end Tree

namespace Resolver

/-! ## Single nodes -/

/-- Checks an import. A type that is imported has to exist, and a package only needs to have a
name. Of a static member, the name that the import introduces is looked up where the import
stands; another declaration may answer to it, and then the member need not exist. -/
def checkImport (r : Resolver) (what : Import) (id : NodeId) : Except ResolveError Unit :=
  match what with
  | .singleType name _ => do
    let _ ← r.scope.lookupType name id
    pure ()
  | .onDemand package =>
    if QualifiedName.isValid package then pure ()
    else throw (.invalid (.invalidQualifiedName package))
  | .staticMember _ member renamed => do
    let _ ← r.scope.findSymbol (renamed.getD member) id
    pure ()

/-- Fails for the first of several expressions that has no type. -/
def checkExpressionsBy (typeOf : Typing) : List NodeId → Except ResolveError Unit
  | [] => pure ()
  | e :: rest => do
    let _ ← typeOf e
    checkExpressionsBy typeOf rest

/-- Checks a local variable. An initialiser has to have the written type, and without one it has
to have any. -/
def checkLocalBy (r : Resolver) (typeOf : Typing) (type : Option TypeRef) (id : NodeId) :
    Except ResolveError Unit :=
  match type, (r.tree.children id).head? with
  | some type, some initialiser => do
    let declared ← r.resolveTypeRef id type
    let actual ← typeOf initialiser
    r.expectAssignable actual declared (r.tree.range id)
  | some type, none => r.scope.checkTypeRef id type
  | none, some initialiser => do
    let _ ← typeOf initialiser
    pure ()
  | none, none =>
    throw (.unsupported .localVariable "declaration without type or initializer")

/-- The type that a method, function or program returns. -/
def resultType (r : Resolver) (invokable : NodeId) : Except ResolveError TypeUsage :=
  match r.tree.kind invokable with
  | .method _ result _ | .function _ result => r.resolveTypeRef invokable result
  | _ => pure .void

/-- Checks that a return statement agrees with what it returns from. -/
def checkReturnBy (r : Resolver) (typeOf : Typing) (id : NodeId) : Except ResolveError Unit :=
  let range := r.tree.range id
  match r.tree.enclosing? id NodeKind.isInvokable with
  | none => throw (.unsupported .returnStatement "return outside of an invokable")
  | some invokable => do
    let expected ← r.resultType invokable
    match (r.tree.children id).head? with
    | none =>
      if expected.isVoid then pure ()
      else throw (.semantic range (.missingReturnValue expected.display))
    | some value =>
      if expected.isVoid then throw (.semantic range .unexpectedReturnValue)
      else do
        let actual ← typeOf value
        r.expectAssignable actual expected range

/-- Checks a node without what is below it, the expressions of a statement included, over the
types of expressions. -/
def checkNodeBy (r : Resolver) (typeOf : Typing) (id : NodeId) : Except ResolveError Unit := do
  r.tree.requireNode id
  match r.tree.kind id with
  | .importDecl what => r.checkImport what id
  | .property _ type | .parameter _ type => r.scope.checkTypeRef id type
  | .method _ result _ | .function _ result => r.scope.checkTypeRef id result
  | .expressionStatement => checkExpressionsBy typeOf (r.tree.children id)
  | .localVar _ type => r.checkLocalBy typeOf type id
  | .assignment => r.checkAssignmentBy typeOf id
  | .returnStatement => r.checkReturnBy typeOf id
  | _ => pure ()

/-- Checks a node without what is below it, the expressions of a statement included. -/
def checkNode (r : Resolver) (id : NodeId) : Except ResolveError Unit :=
  r.checkNodeBy r.typeOf id

/-! ## The check -/

/-- Checks nodes and what is below them. -/
def checkPending (r : Resolver) (pending : List NodeId) : Report :=
  match pending with
  | [] => .clean
  | id :: pending =>
    match r.checkNode id with
    | .ok () => r.checkPending (r.tree.nonExpressions id ++ pending)
    | .error e =>
      if e.isRecoverable then
        (r.checkPending (r.tree.nonExpressions id ++ pending)).noting
          ⟨e.range?.getD (r.tree.range id), e.message⟩
      else ⟨[], some e⟩
termination_by r.tree.workload pending
decreasing_by all_goals exact r.tree.workload_nonExpressions_lt id pending

/-- Checks a node and what is below it. -/
def check (r : Resolver) (root : NodeId) : Report := r.checkPending [root]

end Resolver

end JvmScope
