import JvmScope.Proofs.Resolution.ErrorSpread

/-!
# Uses of a property whose type is unknown

A property whose written type has an error `own` is left out of its type, so neither accesses
nor creations come upon the error. Only a value reference that names the property types the
property itself and fails with `own`, and so does what rests on its type.

`Resolver.Spread` says this of an error: it is reported at another node, if at all, or it is
`own` and the property is used by name. `spread_checkNode` says it of what a check reports for
any node but the property.
-/

namespace JvmScope

open ResolveError

namespace Resolver

variable {r : Resolver} {p id : NodeId} {own : ResolveError}

/-- A value reference of the file names the property. -/
def UsedByName (r : Resolver) (p : NodeId) : Prop :=
  ∃ e name, r.tree.kind e = .valueRef name ∧ r.scope.findSymbol name e = .ok (.property p)

/-- The error is reported elsewhere, or it is the one of the property's type and the property is
used by name. -/
def Spread (r : Resolver) (p : NodeId) (own e : ResolveError) : Prop :=
  r.Elsewhere p e ∨ e = own ∧ r.UsedByName p

/-- A property stands at `p`, and its written type fails with `own`. -/
def FailsAsProperty (r : Resolver) (p : NodeId) (own : ResolveError) : Prop :=
  ∃ name type, r.tree.kind p = .property name type ∧ r.scope.checkTypeRef p type = .error own

theorem FailsAsProperty.holdsImports (broken : r.FailsAsProperty p own) :
    r.tree.HoldsImports (· ≠ p) := by
  obtain ⟨name, type, hk, -⟩ := broken
  rintro id what himport rfl
  rw [hk] at himport
  cases himport

/-- Typing the property itself fails with the property's own error, if with a mistake. -/
theorem FailsAsProperty.spread_own (broken : r.FailsAsProperty p own) (used : r.UsedByName p)
    {name : String} {type : TypeRef} (hk : r.tree.kind p = .property name type) :
    FailsOnly (r.Spread p own) (r.resolveTypeRef p type) := by
  obtain ⟨name', type', hk', hown⟩ := broken
  obtain ⟨rfl, rfl⟩ := NodeKind.property.inj (hk.symm.trans hk')
  refine (resolveTypeRef_fails_as_checked type).mono ?_
  rintro e (lasting | checked)
  · exact .inl (elsewhere_of_lasting lasting)
  · exact .inr ⟨Except.error.inj (checked.symm.trans hown), used⟩

/-- Names do not lead to what is written at a property, so lookups fail elsewhere. -/
theorem FailsAsProperty.spreadsAs (broken : r.FailsAsProperty p own) :
    r.SpreadsAs p (r.Spread p own) where
  passive := by
    obtain ⟨name, type, hk, -⟩ := broken
    rw [hk]
    rfl
  elsewhere _ h := .inl h
  lookupType_fails hne name :=
    (TypeScope.lookupType_concerns (s := r.scope) broken.holdsImports hne name).mono
      fun _ h => .inl (elsewhere_of_concerns h)
  findSymbol_fails hne name :=
    (TypeScope.findSymbol_concerns (s := r.scope) broken.holdsImports hne name).mono
      fun _ h => .inl (elsewhere_of_concerns h)
  used_fails e name _ _ hk hsymbol hproperty :=
    broken.spread_own ⟨e, name, hk, hsymbol⟩ hproperty

/-- Checking any node but the property spreads errors as said. -/
theorem spread_checkNode (broken : r.FailsAsProperty p own) (notTarget : ¬r.tree.IsTarget p)
    (hne : id ≠ p) : FailsOnly (r.Spread p own) (r.checkNode id) :=
  broken.spreadsAs.checkNode_fails notTarget hne

end Resolver

end JvmScope
