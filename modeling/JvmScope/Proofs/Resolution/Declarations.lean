import JvmScope.Proofs.Program.Below
import JvmScope.Proofs.Resolution.TypeLookup
import JvmScope.Resolution.SourceType
import Mathlib.Tactic.Common

/-!
# Declarations against imports

Inside one scope a name is looked for child by child, declarations and imports alike. So the
declaration of a type wins over the imports that stand behind it, and not over those in front of
it. `lookupType_eq_source_iff` says exactly when the nearest scope that declares a name answers
with its declaration: the first import in front of it that has to do with the name must lead to
that declaration itself. `declarations_not_always_first` is a file where it leads elsewhere.
-/

namespace JvmScope

/-- The first type declaration among the children of a scope that answers to the name. -/
def Tree.declaration? (t : Tree) (name : String) (scope : NodeId) : Option NodeId :=
  (t.children scope).find? (t.declares name)

/-- In a list in ascending order, what stands in front of an element is what is less. -/
theorem mem_front_iff {front back : List Nat} {c d : Nat}
    (order : (front ++ d :: back).Pairwise (· < ·)) (hc : c ∈ front ++ d :: back) :
    c ∈ front ↔ c < d := by
  obtain ⟨-, hback, hcross⟩ := List.pairwise_append.1 order
  constructor
  · intro hfront
    exact hcross c hfront d List.mem_cons_self
  · intro hlt
    rcases List.mem_append.1 hc with hfront | hc
    · exact hfront
    · rcases List.mem_cons.1 hc with rfl | hc
      · exact absurd hlt (Nat.lt_irrefl c)
      · exact absurd hlt (Nat.lt_asymm ((List.pairwise_cons.1 hback).1 c hc))

namespace TypeScope

variable {s : TypeScope} {name : String} {context scope d : NodeId} {inner outer : List NodeId}

/-- An import at node `c` has nothing to do with the name. -/
def Silent (s : TypeScope) (name : String) (c : NodeId) : Prop :=
  ∀ what, s.tree.kind c = .importDecl what → s.imported name (s.tree.range c) what = .ok none

/-- The first import in front of the declaration `d` that has to do with the name, if there is
one, leads to `d`. -/
def FrontImportsAgree (s : TypeScope) (name : String) (scope d : NodeId) : Prop :=
  ∀ c ∈ s.tree.children scope, c < d →
    (∀ b ∈ s.tree.children scope, b < c → s.Silent name b) →
    s.Silent name c ∨ ∃ what, s.tree.kind c = .importDecl what ∧
      s.imported name (s.tree.range c) what = .ok (some (.type (.source d)))

/-! ## One scope -/

/-- A child says nothing about a name unless it declares it or is an import that does. -/
theorem typeAt_none_iff {c : NodeId} :
    s.typeAt name c = .ok none ↔ s.tree.declares name c = false ∧ s.Silent name c := by
  unfold typeAt Tree.declares Silent
  cases s.tree.kind c with
  | typeDecl declared =>
      by_cases h : declared = name ∨ s.tree.qualify declared = name
      · simp only [if_pos h]
        rcases h with h | h <;> simp [h]
      · simp only [if_neg h]
        simpa using h
  | importDecl what =>
      simp only [true_and, NodeKind.importDecl.injEq, forall_eq']
      constructor
      · intro h
        obtain ⟨found, hfound, h⟩ := bind_ok_iff.1 h
        cases found with
        | none => exact hfound
        | some imported => cases imported <;> simp at h
      · intro h
        rw [h]
        rfl
  | _ => simp

theorem typeAt_of_declares (h : s.tree.declares name d = true) :
    s.typeAt name d = .ok (some (.source d)) := by
  obtain ⟨declared, hk, hname⟩ := declares_iff.1 h
  unfold typeAt
  rw [hk]
  exact if_pos hname

theorem typeAt_of_import {c : NodeId} {what : Import} {target : TypeTarget}
    (hk : s.tree.kind c = .importDecl what)
    (h : s.imported name (s.tree.range c) what = .ok (some (.type target))) :
    s.typeAt name c = .ok (some target) := by
  simp only [typeAt, hk]
  rw [h]
  rfl

/-- A scope without a declaration of the name, whose imports have nothing to do with it, says
nothing. -/
theorem typeIn_none {a : NodeId} (undeclared : s.tree.declaration? name a = none)
    (silent : ∀ c ∈ s.tree.children a, s.Silent name c) : s.typeIn name a = .ok none := by
  refine findSomeM?_none_iff.2 fun c hc => typeAt_none_iff.2 ⟨?_, silent c hc⟩
  simpa using List.find?_eq_none.1 undeclared c hc

/-- A scope that declares the name answers with its first declaration of it exactly when the
imports in front of that declaration leave the name to it. -/
theorem typeIn_eq_source_iff (declared : s.tree.declaration? name scope = some d) :
    s.typeIn name scope = .ok (some (.source d)) ↔ s.FrontImportsAgree name scope d := by
  obtain ⟨hd, front, back, hsplit, hfront⟩ := List.find?_eq_some_iff_append.1 declared
  have order := s.tree.children_pairwise scope
  have undeclared : ∀ c ∈ front, s.tree.declares name c = false := fun c hc => by
    simpa using hfront c hc
  unfold typeIn
  constructor
  · intro h c hc hlt before
    obtain ⟨passed, a, rest, hsplit', hpassed, ha⟩ := findSomeM?_some_iff.1 h
    rw [hsplit'] at hc order
    rcases Nat.lt_trichotomy c a with hca | rfl | hac
    · exact .inl (typeAt_none_iff.1 (hpassed c ((mem_front_iff order hc).2 hca))).2
    · -- the child that answers stands in front of `d`, so it is an import
      rcases typeAt_some ha with ⟨-, hself⟩ | ⟨what, hk, himport⟩
      · exact absurd hlt (by rw [TypeTarget.source.inj hself]; exact Nat.lt_irrefl c)
      · exact .inr ⟨what, hk, himport⟩
    · -- the answer was given before `c`, where all imports are silent
      have hmem : a ∈ s.tree.children scope := by
        rw [hsplit']
        exact List.mem_append_right _ List.mem_cons_self
      rcases typeAt_some ha with ⟨-, hself⟩ | ⟨what, hk, himport⟩
      · rw [TypeTarget.source.inj hself] at hlt
        exact absurd hlt (Nat.lt_asymm hac)
      · rw [before a hmem hac what hk] at himport
        cases himport
  · intro agree
    rw [hsplit] at order ⊢
    by_cases quiet : ∀ c ∈ front, s.typeAt name c = .ok none
    · rw [findSomeM?_append_of_none quiet]
      exact findSomeM?_cons_of_some (typeAt_of_declares hd)
    · -- the first child in front of `d` that is not silent has to lead to `d`
      obtain ⟨passed, c, rest, rfl, hpassed, hc⟩ := exists_first_not quiet
      have hcfront : c ∈ passed ++ c :: rest := List.mem_append_right _ List.mem_cons_self
      have hcmem : c ∈ (passed ++ c :: rest) ++ d :: back := List.mem_append_left _ hcfront
      have hlt : c < d := (mem_front_iff order hcmem).1 hcfront
      have before : ∀ b ∈ s.tree.children scope, b < c → s.Silent name b := by
        intro b hb hbc
        rw [hsplit, List.append_assoc, List.cons_append] at hb
        rw [List.append_assoc, List.cons_append] at order
        exact (typeAt_none_iff.1 (hpassed b ((mem_front_iff order hb).2 hbc))).2
      rw [List.append_assoc, findSomeM?_append_of_none hpassed]
      refine findSomeM?_cons_of_some ?_
      rcases agree c (hsplit ▸ hcmem) hlt before with hsilent | ⟨what, hk, himport⟩
      · exact absurd (typeAt_none_iff.2 ⟨undeclared c hcfront, hsilent⟩) hc
      · exact typeAt_of_import hk himport

/-! ## All scopes -/

/-- Let `scope` be the nearest scope that declares the name, and let no import nearer than it
have to do with the name. Then the name denotes the first declaration there exactly when the
imports in front of it leave the name to it; those behind it are of no account. -/
theorem lookupType_eq_source_iff (s : TypeScope) (name : String) (context scope d : NodeId)
    (inner outer : List NodeId) (notPrimitive : Primitive.ofName? name = none)
    (notUnsigned : Unsigned.ofName? name = none) (valid : QualifiedName.isValid name = true)
    (path : s.tree.ancestors context = inner ++ scope :: outer)
    (declared : s.tree.declaration? name scope = some d)
    (nearest : ∀ a ∈ inner, s.tree.declaration? name a = none ∧
      ∀ c ∈ s.tree.children a, s.Silent name c) :
    s.lookupType name context = .ok (.source d) ↔ s.FrontImportsAgree name scope d := by
  have quiet : ∀ a ∈ inner, s.typeIn name a = .ok none := fun a ha =>
    typeIn_none (nearest a ha).1 (nearest a ha).2
  have hscope : scope ∈ s.tree.ancestors context := by
    rw [path]
    exact List.mem_append_right _ List.mem_cons_self
  have hd : d ∈ s.tree.children scope := List.mem_of_find?_eq_some declared
  have here := Tree.has_of_mem_ancestors hscope hd
  rw [lookupType_eq_typeAround notPrimitive notUnsigned valid, ← typeIn_eq_source_iff declared]
  unfold typeAround
  rw [requireNode_ok_iff.2 here, path, findSomeM?_append_of_none quiet, List.findSomeM?_cons]
  cases hfound : s.typeIn name scope with
  | error e => exact iff_of_false nofun nofun
  | ok found =>
      cases found with
      | some target => simp [bind, Except.bind, pure, Except.pure]
      | none =>
          -- impossible: the declaration itself says something
          have hquiet := (typeAt_none_iff.1 (findSomeM?_none_iff.1 hfound d hd)).1
          rw [List.find?_some declared] at hquiet
          cases hquiet

/-- The library of a list type. -/
def listLibrary : TypeSource (Except TypeError) :=
  (TypeTable.ofList [.empty "java.util.List" .interfaceType]).source

/-- A file that declares `List` in front of an import of another one, with a method inside. -/
def importBehind : Resolver where
  tree := .ofListing "app"
    [(0, .typeDecl "List"), (0, .importDecl (.singleType "java.util.List" none)),
      (1, .method "rest" (.named "List") false)]
  classpath := listLibrary

theorem importBehind_declared :
    importBehind.tree.ancestors 3 = [3, 1] ++ Tree.root :: [] ∧
      importBehind.scope.lookupType "List" 3 = .ok (.source 1) := by
  have path : importBehind.tree.ancestors 3 = [3, 1] ++ Tree.root :: [] := by decide +kernel
  have nearest : ∀ a ∈ [3, 1], importBehind.tree.declaration? "List" a = none ∧
      ∀ c ∈ importBehind.tree.children a, importBehind.scope.Silent "List" c := by
    have undeclared : ∀ a ∈ [3, 1], importBehind.tree.declaration? "List" a = none := by
      decide +kernel
    have quiet : ∀ a ∈ [3, 1], ∀ c ∈ importBehind.tree.children a,
        importBehind.scope.typeAt "List" c = .ok none := by
      decide +kernel
    exact fun a ha => ⟨undeclared a ha, fun c hc => (typeAt_none_iff.1 (quiet a ha c hc)).2⟩
  have agree : importBehind.scope.FrontImportsAgree "List" Tree.root 1 := by
    intro c hc hlt
    exact absurd (Tree.lt_of_mem_children hc).1 (Nat.not_lt.2 (Nat.le_of_lt_succ hlt))
  exact ⟨path, (lookupType_eq_source_iff importBehind.scope "List" 3 Tree.root 1 [3, 1] []
    (by decide +kernel) (by decide +kernel) (by decide +kernel) path (by decide +kernel)
    nearest).2 agree⟩

/-- The same file with the import in front of the declaration. -/
def importInFront : Resolver where
  tree := .ofListing "app"
    [(0, .importDecl (.singleType "java.util.List" none)), (0, .typeDecl "List")]
  classpath := listLibrary

/-- The nearest scope that declares a name does not always answer with its declaration, even if
no nearer import has to do with the name: an import in front of the declaration takes it. -/
theorem declarations_not_always_first :
    ¬∀ (r : Resolver) (name : String) (context scope d : NodeId) (inner outer : List NodeId),
      Primitive.ofName? name = none → Unsigned.ofName? name = none →
      QualifiedName.isValid name = true → r.tree.ancestors context = inner ++ scope :: outer →
      r.tree.declaration? name scope = some d →
      (∀ a ∈ inner, r.tree.declaration? name a = none ∧
        ∀ c ∈ r.tree.children a, r.scope.Silent name c) →
      r.scope.lookupType name context = .ok (.source d) := by
  intro always
  have declared : importInFront.scope.lookupType "List" Tree.root = .ok (.source 2) :=
    always importInFront "List" Tree.root Tree.root 2 [] [] (by decide +kernel)
      (by decide +kernel) (by decide +kernel) (by decide +kernel) (by decide +kernel) nofun
  have found : importInFront.scope.lookupType "List" Tree.root =
      .ok (.external (.empty "java.util.List" .interfaceType)) := by
    decide +kernel
  rw [declared] at found
  cases found

end TypeScope

end JvmScope
