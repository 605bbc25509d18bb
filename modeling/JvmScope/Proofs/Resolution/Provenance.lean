import JvmScope.Proofs.Resolution.FileSource
import JvmScope.Proofs.Resolution.TypingTrail

/-!
# Where definitions come from

Whatever definition a resolver deals with, it was declared in the program or answered by the
classpath (`Resolver.Provides`). This holds of the answers of its source, of what type names and
imported static members stand for, and of the types of expressions: `backed_of_typeOfStep` is
the step, over the types of other nodes, and `backed_of_typeOfWithin` follows the trail.
-/

namespace JvmScope

/-! ## Symbols -/

namespace TypeScope

variable {s : TypeScope} {name : String} {context : NodeId} {symbol : Symbol}

theorem exists_symbolAt_of_symbolAmong {cameFrom : Option NodeId} {scopes : List NodeId}
    (h : s.symbolAmong name cameFrom scopes = .ok (some symbol)) :
    ∃ id, s.symbolAt name id = .ok (some symbol) := by
  induction scopes generalizing cameFrom with
  | nil => cases h
  | cons scope outer ih =>
      obtain ⟨found, hfound, h⟩ := bind_ok_iff.1 h
      cases found with
      | none => exact ih h
      | some other =>
          obtain rfl := Option.some.inj (pure_ok_iff.1 h)
          obtain ⟨_, id, _, -, -, hid⟩ := findSomeM?_some_iff.1 hfound
          exact ⟨id, hid⟩

/-- What a name denotes is bound at some node. -/
theorem exists_symbolAt_of_findSymbol (h : s.findSymbol name context = .ok symbol) :
    ∃ id, s.symbolAt name id = .ok (some symbol) := by
  obtain ⟨_, -, h⟩ := bind_ok_iff.1 h
  obtain ⟨found, hfound, h⟩ := bind_ok_iff.1 h
  cases found with
  | none => exact (throw_ok_iff.1 h).elim
  | some other =>
      obtain rfl := pure_ok_iff.1 h
      exact exists_symbolAt_of_symbolAmong hfound

end TypeScope

namespace Resolver

variable {r : Resolver} {d : TypeDefinition} {name : String} {context : NodeId}

/-- The definition is one of the classpath's, or of a declaration in the program. -/
def Provides (r : Resolver) (d : TypeDefinition) : Prop :=
  (∃ name, r.classpath.resolve name = .ok (some d)) ∨ ∃ id, r.sourceDefinition id = .ok d

theorem provides_of_resolve (h : r.source.resolve name = .ok (some d)) : r.Provides d := by
  obtain ⟨-, ⟨id, -, hd⟩ | ⟨-, hd⟩⟩ := resolve_ok_iff.1 h
  · exact .inr ⟨id, hd⟩
  · exact .inl ⟨name, hd⟩

/-! ## Names -/

/-- Among the types that names denote, those of the program and of the classpath have members. -/
theorem definitionOf_ok_iff {target : TypeTarget} : r.definitionOf target = .ok (some d) ↔
    (∃ id, target = .source id ∧ r.sourceDefinition id = .ok d) ∨ target = .external d := by
  constructor
  · intro h
    cases target with
    | primitive | basic => cases h
    | source id =>
        obtain ⟨e, he, heq⟩ := map_ok_iff.1 h
        obtain rfl := Option.some.inj heq
        exact .inl ⟨id, rfl, he⟩
    | external e =>
        obtain rfl := Option.some.inj (pure_ok_iff.1 h)
        exact .inr rfl
  · rintro (⟨id, rfl, hd⟩ | rfl)
    · exact map_ok_iff.2 ⟨d, hd, rfl⟩
    · rfl

/-- What has members among the types that names denote is provided. -/
theorem provides_of_definitionOf {target : TypeTarget}
    (hname : r.scope.lookupType name context = .ok target)
    (h : r.definitionOf target = .ok (some d)) : r.Provides d := by
  rcases definitionOf_ok_iff.1 h with ⟨id, rfl, hd⟩ | rfl
  · exact .inr ⟨id, hd⟩
  · exact .inl (TypeScope.resolve_of_external hname)

/-- A class or interface named in the place of a value is what the name denotes. -/
theorem lookupType_of_typeNamedBy {target : TypeTarget}
    (h : r.typeNamedBy name context = .ok (some target)) :
    r.scope.lookupType name context = .ok target := by
  unfold typeNamedBy at h
  split at h
  · rename_i declaration hname
    obtain rfl := Option.some.inj (Except.ok.inj h)
    exact hname
  · rename_i d hname
    obtain rfl := Option.some.inj (Except.ok.inj h)
    exact hname
  · cases h
  · cases h
  · cases h

theorem provides_of_staticOwner {type member : String} {range : TextRange}
    (h : r.scope.staticOwner type member range = .ok d) : r.Provides d := by
  obtain ⟨found, hfound, h⟩ := bind_ok_iff.1 h
  cases found with
  | none => exact (throw_ok_iff.1 h).elim
  | some owner =>
      obtain ⟨hasMember, -, h⟩ := bind_ok_iff.1 h
      cases hasMember with
      | false => exact (throw_ok_iff.1 h).elim
      | true =>
          obtain rfl := pure_ok_iff.1 h
          exact provides_of_resolve (atRange_ok_iff.1 hfound)

theorem provides_of_symbolAt {member : String} {id : NodeId}
    (h : r.scope.symbolAt name id = .ok (some (.staticMember d member))) : r.Provides d := by
  unfold TypeScope.symbolAt at h
  split at h
  · split at h <;> cases h
  · split at h <;> cases h
  · split at h <;> cases h
  · split at h <;> cases h
  · split at h
    · obtain ⟨owner, howner, h⟩ := bind_ok_iff.1 h
      obtain ⟨rfl, -⟩ := Symbol.staticMember.inj (Option.some.inj (pure_ok_iff.1 h))
      exact provides_of_staticOwner howner
    · cases h
  · cases h

/-- A static member is imported from a type that is provided. -/
theorem provides_of_findSymbol {member : String}
    (h : r.scope.findSymbol name context = .ok (.staticMember d member)) : r.Provides d := by
  obtain ⟨id, hid⟩ := TypeScope.exists_symbolAt_of_findSymbol h
  exact provides_of_symbolAt hid

/-! ## Types -/

/-- If the type is a class or interface, its definition is provided. -/
def Backed (r : Resolver) (t : TypeUsage) : Prop :=
  ∀ d args, t = .reference d args → r.Provides d

theorem backed_of_provides (h : r.Provides d) : r.Backed (.ofDefinition d) := by
  intro e args he
  obtain ⟨rfl, -⟩ := TypeUsage.reference.inj he
  exact h

theorem backed_of_not_reference {t : TypeUsage} (h : t.isReference = false) : r.Backed t := by
  rintro d args rfl
  cases h

theorem backed_of_ofJvmType {j : JvmType} {t : TypeUsage}
    (h : TypeUsage.ofJvmType r.source j = .ok t) : r.Backed t := by
  cases j with
  | primitive =>
      obtain rfl := pure_ok_iff.1 h
      exact backed_of_not_reference rfl
  | object internal =>
      obtain ⟨d, hd, h⟩ := bind_ok_iff.1 h
      obtain rfl := pure_ok_iff.1 h
      exact backed_of_provides (provides_of_resolve (TypeSource.require_ok_iff.1 hd))
  | array =>
      obtain ⟨e, -, h⟩ := bind_ok_iff.1 h
      obtain rfl := pure_ok_iff.1 h
      exact backed_of_not_reference rfl

theorem backed_of_usageOf {target : TypeTarget} {t : TypeUsage}
    (hname : r.scope.lookupType name context = .ok target) (h : r.usageOf target = .ok t) :
    r.Backed t := by
  cases target with
  | primitive | basic =>
      obtain rfl := pure_ok_iff.1 h
      exact backed_of_not_reference rfl
  | source id =>
      obtain ⟨d, hd, rfl⟩ := map_ok_iff.1 h
      exact backed_of_provides (.inr ⟨id, hd⟩)
  | external d =>
      obtain rfl := pure_ok_iff.1 h
      exact backed_of_provides (.inl (TypeScope.resolve_of_external hname))

theorem backed_of_namedUsage {t : TypeUsage} (h : r.namedUsage name context = .ok t) :
    r.Backed t := by
  obtain ⟨target, htarget, h⟩ := bind_ok_iff.1 h
  exact backed_of_usageOf htarget h

theorem backed_of_resolveTypeRef {type : TypeRef} {t : TypeUsage}
    (h : r.resolveTypeRef context type = .ok t) : r.Backed t := by
  cases type with
  | named name =>
      rw [resolveTypeRef] at h
      exact backed_of_namedUsage h
  | array element =>
      rw [resolveTypeRef] at h
      obtain ⟨e, -, h⟩ := bind_ok_iff.1 h
      obtain rfl := pure_ok_iff.1 h
      exact backed_of_not_reference rfl
  | function params result =>
      rw [resolveTypeRef] at h
      obtain ⟨ps, -, h⟩ := bind_ok_iff.1 h
      obtain ⟨t, -, h⟩ := bind_ok_iff.1 h
      obtain rfl := pure_ok_iff.1 h
      exact backed_of_not_reference rfl

/-- A field of a definition has the usage of its declared type for a type. -/
theorem fieldType_ok_iff {t : TypeUsage} {field : String} :
    d.fieldType r.source field = .ok (some t) ↔
      ∃ f, d.findField r.source field = .ok (some f) ∧
        TypeUsage.ofJvmType r.source f.type = .ok t := by
  constructor
  · intro h
    obtain ⟨found, hfound, h⟩ := bind_ok_iff.1 h
    cases found with
    | none => cases h
    | some f =>
        obtain ⟨u, hu, h⟩ := bind_ok_iff.1 h
        obtain rfl := Option.some.inj (pure_ok_iff.1 h)
        exact ⟨f, hfound, hu⟩
  · rintro ⟨f, hfound, ht⟩
    exact bind_ok_iff.2 ⟨some f, hfound, bind_ok_iff.2 ⟨t, ht, rfl⟩⟩

theorem backed_of_fieldType {t u : TypeUsage} {field : String}
    (h : t.fieldType r.source field = .ok (some u)) : r.Backed u := by
  cases t with
  | reference d args =>
      obtain ⟨f, -, hu⟩ := fieldType_ok_iff.1 h
      exact backed_of_ofJvmType hu
  | array e =>
      have h := pure_ok_iff.1 h
      split at h
      · obtain rfl := Option.some.inj h
        exact backed_of_not_reference rfl
      · cases h
  | primitive | basic | function | typeVar => cases h

/-! ## Expressions -/

variable {T : Typing} {t : TypeUsage}

theorem backed_of_typeOfSymbolBy (others : ∀ e t, T e = .ok t → r.Backed t) {symbol : Symbol}
    (h : r.typeOfSymbolBy T symbol context = .ok t) : r.Backed t := by
  cases symbol with
  | parameter id | property id =>
      obtain ⟨_, -, h⟩ := bind_ok_iff.1 h
      split at h
      · exact backed_of_resolveTypeRef h
      · exact backed_of_resolveTypeRef h
      · exact (throw_ok_iff.1 h).elim
  | localVar id =>
      -- only a variable without a written type asks for the type of another node
      obtain ⟨_, -, h⟩ := bind_ok_iff.1 h
      split at h
      · exact backed_of_resolveTypeRef h
      · exact others _ _ h
      · exact (throw_ok_iff.1 h).elim
      · exact (throw_ok_iff.1 h).elim
  | function id =>
      obtain ⟨_, -, h⟩ := bind_ok_iff.1 h
      unfold functionType at h
      split at h
      · obtain ⟨ps, -, h⟩ := bind_ok_iff.1 h
        obtain ⟨u, -, h⟩ := bind_ok_iff.1 h
        obtain rfl := pure_ok_iff.1 h
        exact backed_of_not_reference rfl
      · exact (throw_ok_iff.1 h).elim
  | staticMember owner member =>
      obtain ⟨_, -, h⟩ := bind_ok_iff.1 h
      obtain ⟨field, -, h⟩ := bind_ok_iff.1 h
      exact backed_of_ofJvmType (atRange_ok_iff.1 h)

/-- The rule for a node makes types of provided definitions out of such types. -/
theorem backed_of_typeOfStep (others : ∀ e t, T e = .ok t → r.Backed t) {e : NodeId}
    (h : r.typeOfStep T e = .ok t) : r.Backed t := by
  unfold typeOfStep at h
  cases hk : r.tree.kind e with
  | intLiteral | boolLiteral =>
      simp only [hk, pure_ok_iff] at h
      subst h
      exact backed_of_not_reference rfl
  | stringLiteral =>
      simp only [hk] at h
      obtain ⟨d, hd, h⟩ := bind_ok_iff.1 h
      obtain rfl := pure_ok_iff.1 h
      exact backed_of_provides (.inl ⟨_, TypeSource.require_ok_iff.1 (atRange_ok_iff.1 hd)⟩)
  | valueRef name =>
      simp only [hk] at h
      split at h
      · exact backed_of_typeOfSymbolBy others h
      · obtain ⟨found, hfound, h⟩ := bind_ok_iff.1 h
        cases found with
        | none => exact (throw_ok_iff.1 h).elim
        | some target =>
            -- the name is no symbol, so it stands for the type of that name
            exact backed_of_usageOf (lookupType_of_typeNamedBy hfound) h
      · exact (throw_ok_iff.1 h).elim
  | typeIdentifier name =>
      simp only [hk] at h
      exact backed_of_namedUsage h
  | fieldAccess field =>
      simp only [hk] at h
      obtain ⟨receiver, -, h⟩ := bind_ok_iff.1 h
      obtain ⟨u, -, h⟩ := bind_ok_iff.1 h
      obtain ⟨found, hfound, h⟩ := bind_ok_iff.1 h
      cases found with
      | none => exact (throw_ok_iff.1 h).elim
      | some v =>
          obtain rfl := pure_ok_iff.1 h
          exact backed_of_fieldType (atRange_ok_iff.1 hfound)
  | staticFieldAccess type field =>
      simp only [hk] at h
      obtain ⟨found, -, h⟩ := bind_ok_iff.1 h
      exact backed_of_ofJvmType (atRange_ok_iff.1 h)
  | call =>
      simp only [hk] at h
      obtain ⟨target, -, h⟩ := bind_ok_iff.1 h
      obtain ⟨result, -, h⟩ := bind_ok_iff.1 h
      exact backed_of_ofJvmType (atRange_ok_iff.1 h)
  | creation type =>
      simp only [hk] at h
      obtain ⟨target, -, h⟩ := bind_ok_iff.1 h
      exact backed_of_namedUsage h
  | thisRef =>
      simp only [hk] at h
      split at h
      · exact (throw_ok_iff.1 h).elim
      · obtain ⟨d, hd, rfl⟩ := map_ok_iff.1 h
        exact backed_of_provides (.inr ⟨_, hd⟩)
  | _ =>
      simp only [hk] at h
      exact (throw_ok_iff.1 h).elim

/-- The induction is on the nodes not met yet. -/
theorem backed_of_typeOfWithin {trail : List NodeId} {e : NodeId}
    (h : r.typeOfWithin trail e = .ok t) : r.Backed t := by
  induction trail, e using Resolver.typeOfWithin.induct (r := r) generalizing t with
  | case1 trail e here met =>
      rw [typeOfWithin, dif_pos here, dif_pos met] at h
      exact (throw_ok_iff.1 h).elim
  | case2 trail e here met ih =>
      rw [typeOfWithin, dif_pos here, dif_neg met] at h
      exact backed_of_typeOfStep (fun other u hu => ih other hu) h
  | case3 trail e nowhere =>
      rw [typeOfWithin, dif_neg nowhere] at h
      exact (throw_ok_iff.1 h).elim

end Resolver

end JvmScope
