import JvmScope.Proofs.Program.Below
import JvmScope.Proofs.Resolution.ErrorPlaces
import JvmScope.Proofs.Resolution.FileSource
import JvmScope.Proofs.Resolution.FileTrail

/-!
# Mistakes in written member types

A mistake in the written type of a member is left to the check of that member, and the type it
is a member of is defined without it. `sourceDefinition_fails_lasting` says so of all types of
the file: a definition never fails with a mistake, however many imports, static members and
other types of the file it rests on; the source answers the type's name with the very error of
the definition, and with a definition if the types of the members are projected or mistaken.

The errors that a definition fails with are those of its members, and the trail of declarations
makes no difference for them (`Resolver.exists_memberType_of_sourceDefinition`).
-/

namespace JvmScope

open ResolveError

/-- The types written in the members of a type declaration, with the nodes they are written
at. -/
def Tree.memberTypes (t : Tree) (id : NodeId) : List (NodeId × TypeRef) :=
  (t.children id).flatMap fun c =>
    match t.kind c with
    | .property _ type => [(c, type)]
    | .method _ result _ => t.parameterTypes c ++ [(c, result)]
    | _ => []

theorem Tree.has_of_mem_memberTypes {t : Tree} {id : NodeId} {m : NodeId × TypeRef}
    (h : m ∈ t.memberTypes id) : t.has m.1 = true := by
  obtain ⟨c, hc, hm⟩ := List.mem_flatMap.1 h
  have here : t.has c = true := Tree.has_of_mem_children hc
  split at hm
  · obtain rfl := List.mem_singleton.1 hm
    exact here
  · rcases List.mem_append.1 hm with hparam | hresult
    · obtain ⟨p, hp, hsome⟩ := List.mem_filterMap.1 hparam
      split at hsome
      · obtain rfl := Option.some.inj hsome
        exact Tree.has_of_mem_children hp
      · cases hsome
    · obtain rfl := List.mem_singleton.1 hresult
      exact here
  · exact absurd hm List.not_mem_nil

/-! ## Definitions -/

namespace TypeScope

variable {s : TypeScope} {id : NodeId} {e : ResolveError}

/-- A member fails with an error of its written type that is no mistake. -/
theorem memberType_error_iff {type : TypeRef} :
    s.memberType id type = .error e ↔
      s.jvmTypeOf id type = .error e ∧ e.isRecoverable = false := by
  unfold memberType
  cases s.jvmTypeOf id type with
  | ok t => exact ⟨nofun, fun h => nomatch h.1⟩
  | error cause =>
      dsimp only
      cases hcause : cause.isRecoverable with
      | true =>
          refine ⟨nofun, fun h => ?_⟩
          obtain rfl := Except.error.inj h.1
          exact absurd (hcause.symm.trans h.2) nofun
      | false =>
          constructor
          · intro h
            obtain rfl := Except.error.inj h
            exact ⟨rfl, hcause⟩
          · intro h
            obtain rfl := Except.error.inj h.1
            rfl

/-- The error is that of a type written in a member, and no mistake. -/
def OfMember (s : TypeScope) (types : List (NodeId × TypeRef)) (e : ResolveError) : Prop :=
  ∃ m ∈ types, s.jvmTypeOf m.1 m.2 = .error e ∧ e.isRecoverable = false

theorem parameterTypes_fails (parameters : List (NodeId × TypeRef)) :
    FailsOnly (s.OfMember parameters) (s.parameterTypes parameters) := by
  induction parameters with
  | nil => exact .pure _
  | cons parameter rest ih =>
      obtain ⟨id, type⟩ := parameter
      refine .bind (fun e h => ⟨_, List.mem_cons_self, memberType_error_iff.1 h⟩) fun found _ => ?_
      cases found with
      | none => exact .pure _
      | some t =>
          refine .bind (ih.mono ?_) fun _ _ => .pure _
          rintro e ⟨m, hm, h⟩
          exact ⟨m, List.mem_cons_of_mem _ hm, h⟩

/-- What a child of a type declaration fails with is an error of a type written in it. -/
theorem sourceMember_fails {c : NodeId} (hc : c ∈ s.tree.children id) :
    FailsOnly (s.OfMember (s.tree.memberTypes id)) (s.sourceMember c) := by
  have mem {m : NodeId × TypeRef} (h : m ∈ (match s.tree.kind c with
      | .property _ type => [(c, type)]
      | .method _ result _ => s.tree.parameterTypes c ++ [(c, result)]
      | _ => [])) : m ∈ s.tree.memberTypes id := List.mem_flatMap.2 ⟨c, hc, h⟩
  unfold sourceMember
  cases hk : s.tree.kind c with
  | property name type =>
      rw [hk] at mem
      refine .bind (fun e h => ?_) fun found _ => ?_
      · exact ⟨_, mem List.mem_cons_self, memberType_error_iff.1 h⟩
      · cases found with
        | none => exact .pure _
        | some t => exact .pure _
  | method name result isStatic =>
      rw [hk] at mem
      refine .bind ((parameterTypes_fails _).mono ?_) fun params _ => ?_
      · rintro e ⟨m, hm, h⟩
        exact ⟨m, mem (List.mem_append_left _ hm), h⟩
      · refine .bind (fun e h => ?_) fun found _ => ?_
        · exact ⟨_, mem (List.mem_append_right _ List.mem_cons_self), memberType_error_iff.1 h⟩
        · split
          · exact .pure _
          · exact .pure _
  | _ => exact .pure _

/-- A definition fails because there is no type declaration, or for one of the members. -/
theorem definitionAt_fails (s : TypeScope) (id : NodeId) :
    FailsOnly (fun e => e = .noSuchNode id ∧ s.tree.has id = false ∨
        s.tree.qualifiedTypeName? id = none ∧
          e = .unsupported .typeDefinition (s.tree.kind id).describe ∨
        s.OfMember (s.tree.memberTypes id) e)
      (s.definitionAt id) := by
  refine .bind (fun e h => ?_) fun _ _ => ?_
  · unfold Tree.requireNode at h
    split at h
    · cases h
    · rename_i nowhere
      exact .inl ⟨(Except.error.inj h).symm, Bool.eq_false_iff.2 nowhere⟩
  · cases hname : s.tree.qualifiedTypeName? id with
    | none => exact .throw (.inr (.inl ⟨rfl, rfl⟩))
    | some name =>
        refine .bind (.mapM fun c hc => ?_) fun _ _ => .pure _
        exact (sourceMember_fails hc).mono fun e h => .inr (.inr h)

/-- No definition fails with a mistake, whatever the scope it is established in. -/
theorem lasting_of_definitionAt (h : s.definitionAt id = .error e) :
    e.isRecoverable = false := by
  rcases definitionAt_fails s id e h with ⟨rfl, -⟩ | ⟨-, rfl⟩ | ⟨m, -, -, lasting⟩
  · rfl
  · rfl
  · exact lasting

end TypeScope

namespace Resolver

variable {r : Resolver} {id : NodeId} {name : String} {e : ResolveError}

/-! ## The file -/

/-- The source answers the name of a type of the file with its definition, or with the cause of
the error that the definition fails with. -/
theorem resolve_of_typeNamed? (valid : QualifiedName.isValid name = true)
    (found : r.tree.typeNamed? name = some id) :
    r.source.resolve name =
      some <$> (r.sourceDefinition id).mapError (ResolveError.toTypeError name) := by
  have validated : (TypeSource.validate name : Except TypeError Unit) = .ok () := if_pos valid
  have file : r.source.find name = findInFile r.tree r.classpath [] name := rfl
  unfold TypeSource.resolve TypeSource.resolveKnown
  rw [validated, file, findInFile_of_fresh found List.not_mem_nil]
  unfold sourceDefinition
  -- the scope of the search, with an empty trail, is that of the definition
  have scope : (Resolver.mk r.tree r.classpath).scopeWithin [id] = r.scopeWithin [id] := rfl
  rw [scope]
  cases ((r.scopeWithin [id]).definitionAt id).mapError (toTypeError name) with
  | error cause => rfl
  | ok d => rfl

/-- The definition of a type of the file fails with the error of a type written in one of its
members, and that type has the same error outside of the definition. -/
theorem exists_memberType_of_sourceDefinition (found : r.tree.typeNamed? name = some id)
    (failed : r.sourceDefinition id = .error e) :
    ∃ m ∈ r.tree.memberTypes id, r.scope.jvmTypeOf m.1 m.2 = .error e := by
  rcases TypeScope.definitionAt_fails _ id e failed with ⟨-, nowhere⟩ | ⟨unnamed, -⟩ | h
  · have here : r.tree.has id = true := Tree.has_of_typeNamed? found
    exact absurd (here.symm.trans nowhere) nofun
  · have named : r.tree.qualifiedTypeName? id = some name :=
      Tree.qualifiedTypeName?_of_typeNamed? found
    exact absurd (named.symm.trans unnamed) nofun
  · obtain ⟨m, hm, hfails, -⟩ := h
    exact ⟨m, hm, jvmTypeOf_of_within failed hfails⟩

/-- An error of a written type has to do with nodes of the file only. -/
theorem concerns_of_jvmTypeOf {m : NodeId × TypeRef} (here : r.tree.has m.1 = true)
    (h : r.scope.jvmTypeOf m.1 m.2 = .error e) :
    Concerns r.tree (fun q => r.tree.has q = true) e := by
  have imports : r.tree.HoldsImports fun q => r.tree.has q = true := by
    intro q what hk
    refine Tree.has_of_kind_ne ?_
    rw [hk]
    nofun
  exact TypeScope.jvmTypeOf_concerns (s := r.scope) imports here m.2 e h

/-- The error of a definition reaches whoever asks for the type by its name, and is no mistake
there. -/
theorem sourceDefinition_of_resolve {cause : TypeError}
    (valid : QualifiedName.isValid name = true) (found : r.tree.typeNamed? name = some id)
    (h : r.source.resolve name = .error cause) :
    (r.sourceDefinition id = .error (.invalid cause) ∨
        r.sourceDefinition id = .error (.provider cause)) ∧ Lasting cause := by
  rw [resolve_of_typeNamed? valid found] at h
  cases failed : r.sourceDefinition id with
  | ok d =>
      rw [failed] at h
      cases h
  | error e =>
      rw [failed] at h
      obtain rfl : toTypeError name e = cause := Except.error.inj h
      have lasting := TypeScope.lasting_of_definitionAt failed
      obtain ⟨m, hm, hfails⟩ := exists_memberType_of_sourceDefinition found failed
      have concerns := concerns_of_jvmTypeOf (Tree.has_of_mem_memberTypes hm) hfails
      cases concerns with
      | mistake _ _ hrange =>
          cases e with
          | unresolved | semantic => cases lasting
          | _ => cases hrange
      | nowhere here nowhere => exact absurd (here.symm.trans nowhere) nofun
      | invalid hcause => exact ⟨.inl rfl, hcause⟩
      | provider hcause => exact ⟨.inr rfl, hcause⟩

/-- Definitions of types of the file never fail with a mistake of the program, whether they are
asked for or needed on the way to something else. So the source answers the name of such a type
with an error only if the definition has the very same, and if all types written in the members
are projected or mistaken, it answers with a definition. -/
theorem sourceDefinition_fails_lasting (r : Resolver) :
    (∀ id e, r.sourceDefinition id = .error e → e.isRecoverable = false) ∧
      (∀ trail id e, (r.scopeWithin trail).definitionAt id = .error e →
        e.isRecoverable = false) ∧
      ∀ name id, QualifiedName.isValid name = true → r.tree.typeNamed? name = some id →
        (∀ cause, r.source.resolve name = .error cause →
          (r.sourceDefinition id = .error (.invalid cause) ∨
              r.sourceDefinition id = .error (.provider cause)) ∧ Lasting cause) ∧
        ((∀ m ∈ r.tree.memberTypes id, ∀ e, r.scope.jvmTypeOf m.1 m.2 = .error e →
            e.isRecoverable = true) →
          ∃ d, r.source.resolve name = .ok (some d)) := by
  refine ⟨?_, ?_, ?_⟩
  · intro id e h
    exact TypeScope.lasting_of_definitionAt h
  · intro trail id e h
    exact TypeScope.lasting_of_definitionAt h
  · intro name id valid found
    refine ⟨fun cause h => sourceDefinition_of_resolve valid found h, fun members => ?_⟩
    cases failed : r.sourceDefinition id with
    | ok d => exact ⟨d, resolve_ok_iff.2 ⟨valid, .inl ⟨id, found, failed⟩⟩⟩
    | error e =>
        have lasting := TypeScope.lasting_of_definitionAt failed
        obtain ⟨m, hm, hfails⟩ := exists_memberType_of_sourceDefinition found failed
        exact absurd (lasting.symm.trans (members m hm e hfails)) nofun

/-- A type with a property whose type is unknown, and one with an array of `void`, which no
virtual machine has. -/
def petShop : Resolver where
  tree := .ofListing "app"
    [(0, .typeDecl "Pet"), (1, .property "tag" (.named "NoSuchType")),
      (1, .property "age" (.named "int")), (0, .typeDecl "Cage"),
      (4, .property "doors" (.array (.named "void")))]
  classpath := TypeTable.empty.source

theorem petShop_fails_lasting :
    (∃ d, petShop.source.resolve "app.Pet" = .ok (some d)) ∧
      (∃ e, petShop.sourceDefinition 4 = .error e ∧ e.isRecoverable = false) ∧
      ∃ cause, petShop.source.resolve "app.Cage" = .error cause ∧ Lasting cause := by
  obtain ⟨lasting, within, named⟩ := sourceDefinition_fails_lasting petShop
  refine ⟨?_, ?_, ?_⟩
  · refine (named "app.Pet" 1 (by decide +kernel) (by decide +kernel)).2 ?_
    have mistaken : ∀ m ∈ petShop.tree.memberTypes 1,
        petShop.scope.jvmTypeOf m.1 m.2 = .ok (.primitive .int) ∨
          petShop.scope.jvmTypeOf m.1 m.2 = .error (.unresolved "NoSuchType" default) := by
      decide +kernel
    intro m hm e h
    rcases mistaken m hm with known | unknown
    · cases known.symm.trans h
    · obtain rfl := Except.error.inj (unknown.symm.trans h)
      rfl
  · have failed : petShop.sourceDefinition 4 =
        .error (.unsupported .jvmDescriptor "void[]") := by decide +kernel
    exact ⟨_, failed, lasting 4 _ failed⟩
  · have failed : petShop.source.resolve "app.Cage" =
        .error (.unsupported .jvmDescriptor "void[]") := by decide +kernel
    exact ⟨_, failed, ((named "app.Cage" 4 (by decide +kernel) (by decide +kernel)).1 _ failed).2⟩

end Resolver

end JvmScope
