import JvmScope.Proofs.Resolution.TypeLookup
import JvmScope.Proofs.Types.Selection
import JvmScope.Resolution.SourceType

/-!
# The file as a source, and what its definitions are made of

A resolver answers a qualified name with the definition of the file's declaration of that name,
or else with what the classpath says (`resolve_ok_iff`). The definition that a declaration makes
has the declaration's qualified name, and the types of its members are types written in the
program (`over_of_sourceDefinition`).
-/

namespace JvmScope

/-! ## Members -/

namespace TypeScope

variable {s : TypeScope} {A : JvmType → Prop}

theorem memberType_over (written : ∀ context type t, s.jvmTypeOf context type = .ok t → A t)
    {member : NodeId} {type : TypeRef} {t : JvmType}
    (h : s.memberType member type = .ok (some t)) : A t := by
  unfold memberType at h
  cases hj : s.jvmTypeOf member type with
  | ok u =>
      rw [hj] at h
      obtain rfl := Option.some.inj (Except.ok.inj h)
      exact written member type u hj
  | error e =>
      rw [hj] at h
      dsimp only at h
      split at h <;> cases h

theorem parameterTypes_over (written : ∀ context type t, s.jvmTypeOf context type = .ok t → A t)
    {parameters : List (NodeId × TypeRef)} {ts : List JvmType}
    (h : s.parameterTypes parameters = .ok (some ts)) : ∀ t ∈ ts, A t := by
  induction parameters generalizing ts with
  | nil =>
      simp only [parameterTypes, pure_ok_iff, Option.some.injEq] at h
      subst h
      intro t ht
      exact absurd ht List.not_mem_nil
  | cons parameter rest ih =>
      obtain ⟨id, type⟩ := parameter
      rw [parameterTypes] at h
      obtain ⟨first, hfirst, h⟩ := bind_ok_iff.1 h
      cases first with
      | none => simp at h
      | some u =>
          obtain ⟨more, hmore, h⟩ := bind_ok_iff.1 h
          rw [pure_ok_iff, Option.map_eq_some_iff] at h
          obtain ⟨us, rfl, rfl⟩ := h
          intro t ht
          rcases List.mem_cons.1 ht with rfl | ht
          · exact memberType_over written hfirst
          · exact ih hmore t ht

/-- The types in a member are types written in the program. -/
theorem sourceMember_over (written : ∀ context type t, s.jvmTypeOf context type = .ok t → A t)
    {id : NodeId} {member : SourceMember} (h : s.sourceMember id = .ok member) :
    (∀ f, member.field? = some f → A f.type) ∧
      ∀ m, member.method? = some m → (∀ p ∈ m.params, A p) ∧ A m.result := by
  unfold sourceMember at h
  cases hk : s.tree.kind id with
  | property name type =>
      simp only [hk] at h
      obtain ⟨found, hfound, h⟩ := bind_ok_iff.1 h
      cases found with
      | none =>
          obtain rfl := pure_ok_iff.1 h
          exact ⟨nofun, nofun⟩
      | some t =>
          obtain rfl := pure_ok_iff.1 h
          refine ⟨fun f hf => ?_, nofun⟩
          obtain rfl := Option.some.inj hf
          exact memberType_over written hfound
  | method name result isStatic =>
      simp only [hk] at h
      obtain ⟨params, hparams, h⟩ := bind_ok_iff.1 h
      obtain ⟨result, hresult, h⟩ := bind_ok_iff.1 h
      split at h
      · obtain rfl := pure_ok_iff.1 h
        refine ⟨nofun, fun m hm => ?_⟩
        obtain rfl := Option.some.inj hm
        exact ⟨parameterTypes_over written hparams, memberType_over written hresult⟩
      · obtain rfl := pure_ok_iff.1 h
        exact ⟨nofun, nofun⟩
  | _ =>
      simp only [hk, pure_ok_iff] at h
      subst h
      exact ⟨nofun, nofun⟩

/-- A definition put together from members is made of their types. -/
theorem assemble_over {name : String} {members : List SourceMember}
    (h : ∀ member ∈ members, (∀ f, member.field? = some f → A f.type) ∧
      ∀ m, member.method? = some m → (∀ p ∈ m.params, A p) ∧ A m.result) :
    (assemble name members).Over A A := by
  have hfields : ∀ f ∈ members.filterMap SourceMember.field?, A f.type := by
    intro f hf
    obtain ⟨member, hmember, hsome⟩ := List.mem_filterMap.1 hf
    exact (h member hmember).1 f hsome
  have hmethods : ∀ m ∈ members.filterMap SourceMember.method?,
      (∀ p ∈ m.params, A p) ∧ A m.result := by
    intro m hm
    obtain ⟨member, hmember, hsome⟩ := List.mem_filterMap.1 hm
    exact (h member hmember).2 m hsome
  refine ⟨hfields, fun m hm => (hmethods m hm).1, fun m hm => (hmethods m hm).2, ?_⟩
  -- the one constructor takes a value for every field
  intro c hc p hp
  unfold assemble at hc
  dsimp only at hc
  split at hc
  · exact absurd hc List.not_mem_nil
  · rw [List.mem_singleton.1 hc] at hp
    obtain ⟨f, hf, rfl⟩ := List.mem_map.1 hp
    exact hfields f hf

/-- A definition has the qualified name of its declaration, and is made of types written in the
program. -/
theorem definitionAt_ok {id : NodeId} {d : TypeDefinition} (h : s.definitionAt id = .ok d) :
    s.tree.qualifiedTypeName? id = some d.qualifiedName ∧
      ∀ A : JvmType → Prop, (∀ context type t, s.jvmTypeOf context type = .ok t → A t) →
        d.Over A A := by
  obtain ⟨_, -, h⟩ := bind_ok_iff.1 h
  cases hname : s.tree.qualifiedTypeName? id with
  | none =>
      rw [hname] at h
      exact (throw_ok_iff.1 h).elim
  | some name =>
      rw [hname] at h
      obtain ⟨members, hmembers, h⟩ := bind_ok_iff.1 h
      obtain rfl := pure_ok_iff.1 h
      refine ⟨rfl, ?_⟩
      intro A written
      refine assemble_over ?_
      intro member hmember
      obtain ⟨c, -, hc⟩ := mem_of_mapM_ok hmembers member hmember
      exact sourceMember_over written hc

end TypeScope

/-! ## The source -/

namespace Resolver

variable {r : Resolver} {name : String} {d : TypeDefinition}

/-- A question about a name is one about the file's declaration of it, or else about the
classpath. -/
theorem resolve_ok_iff :
    r.source.resolve name = .ok (some d) ↔ QualifiedName.isValid name = true ∧
      ((∃ id, r.tree.typeNamed? name = some id ∧ r.sourceDefinition id = .ok d) ∨
        r.tree.typeNamed? name = none ∧ r.classpath.resolve name = .ok (some d)) := by
  have file : r.source.find name = findInFile r.tree r.classpath [] name := rfl
  rw [TypeSource.resolve_some_iff, file, findInFile]
  refine and_congr_right fun valid => ?_
  split
  · rename_i hnone
    simp only [hnone, reduceCtorEq, false_and, exists_false, true_and, false_or,
      TypeSource.resolve_some_iff, valid]
    constructor
    · rintro ⟨_, h⟩
      obtain ⟨found, hfound, h⟩ := bind_ok_iff.1 h
      obtain ⟨⟨_, known⟩, rfl, he⟩ := Option.map_eq_some_iff.1 (pure_ok_iff.1 h)
      obtain rfl := congrArg Subtype.val he
      exact ⟨known, hfound⟩
    · rintro ⟨known, hfound⟩
      exact ⟨.inr known, bind_ok_iff.2 ⟨_, hfound, rfl⟩⟩
  · rename_i id hsome
    -- with an empty trail the definition is established in the scope of its own declaration
    have scope : ∀ e, r.sourceDefinition id = .ok e ↔
        ((r.scopeWithin [id]).definitionAt id).mapError (ResolveError.toTypeError name) =
          .ok e := fun e => mapError_ok_iff.symm
    rw [dif_neg List.not_mem_nil]
    simp only [hsome, reduceCtorEq, false_and, or_false, Option.some.injEq, exists_eq_left',
      scope]
    constructor
    · rintro ⟨_, h⟩
      obtain ⟨e, he, h⟩ := bind_ok_iff.1 h
      obtain rfl := congrArg Subtype.val (Option.some.inj (pure_ok_iff.1 h))
      exact he
    · intro h
      exact ⟨.inl (Tree.mem_typeNames_of_typeNamed? hsome), bind_ok_iff.2 ⟨d, h, rfl⟩⟩

end Resolver

end JvmScope
