import JvmScope.Proofs.Outcome
import JvmScope.Proofs.Resolution.TypeLookup
import JvmScope.Resolution.SourceType
import JvmScope.Types.Members

/-!
# Trails of declarations

The definition of a type of the file is established with a trail of the declarations that are
being established already, and meeting one of them again is an error. The trail changes nothing
else: a question asked with a trail has the answer that it has with a part of the trail, or is
given up as circular (`findInFile_eqUnless`, `jvmTypeOf_eqUnless`).

So a definition that fails for another reason fails for a member that fails on its own. One that
is circular fails even without a trail, and then the trail has made no difference at all
(`scopeWithin_eq_of_circular`).
-/

namespace JvmScope

/-! ## Walks -/

section Walks

variable {source : TypeSource (Except TypeError)}
  {find : (name : String) → Except TypeError (Option { _d : TypeDefinition // source.Known name })}

/-- The source that finds other definitions of the same names. -/
def TypeSource.finding {m : Type → Type} (source : TypeSource m)
    (find : (name : String) → m (Option { _d : TypeDefinition // source.Known name })) :
    TypeSource m :=
  { source with find := find }

theorem TypeSource.resolveKnown_eqUnless
    (h : ∀ name, EqUnless .circular (source.find name) (find name)) (name : String) :
    EqUnless .circular (source.resolveKnown name) ((source.finding find).resolveKnown name) :=
  .bind (.refl _) fun _ => h name

theorem TypeSource.resolve_eqUnless
    (h : ∀ name, EqUnless .circular (source.find name) (find name)) (name : String) :
    EqUnless .circular (source.resolve name) ((source.finding find).resolve name) :=
  .bind (TypeSource.resolveKnown_eqUnless h name) fun _ => .refl _

theorem TypeSource.requireKnown_eqUnless
    (h : ∀ name, EqUnless .circular (source.find name) (find name)) (name : String) :
    EqUnless .circular (source.requireKnown name) ((source.finding find).requireKnown name) := by
  refine .bind (TypeSource.resolveKnown_eqUnless h name) fun found => ?_
  cases found with
  | none => exact .refl _
  | some found => exact .refl _

namespace TypeDefinition

variable {σ : Type} {visit : σ → TypeDefinition → Visit σ}

theorem walkFrom_eqUnless (h : ∀ name, EqUnless .circular (source.find name) (find name))
    (visited queue : List String) (state : σ) :
    EqUnless .circular (walkFrom source visit visited queue state)
      (walkFrom (source.finding find) visit visited queue state) := by
  induction visited, queue, state using walkFrom.induct source with
  | case1 visited state =>
      rw [walkFrom, walkFrom]
      exact .refl _
  | case2 visited state name queue seen ih =>
      rw [walkFrom, dif_pos seen, walkFrom, dif_pos seen]
      exact ih
  | case3 visited state name queue seen ih =>
      rw [walkFrom, dif_neg seen, walkFrom, dif_neg seen]
      refine .bind (TypeSource.requireKnown_eqUnless h name) ?_
      rintro ⟨d, known⟩
      cases hvisit : visit state d with
      | stop last =>
          simp only [hvisit]
          exact .refl _
      | next more =>
          simp only [hvisit]
          exact ih d known more

theorem walk_eqUnless (h : ∀ name, EqUnless .circular (source.find name) (find name))
    (d : TypeDefinition) (state : σ) :
    EqUnless .circular (d.walk source visit state)
      (d.walk (source.finding find) visit state) := by
  unfold walk
  cases visit state d with
  | stop last => exact .refl _
  | next more => exact walkFrom_eqUnless h _ _ _

end TypeDefinition

end Walks

/-! ## Scopes -/

namespace TypeScope

variable {s : TypeScope}
  {find : (name : String) → Except TypeError (Option { _d : TypeDefinition // s.all.Known name })}

/-- The scope whose source finds other definitions of the same names. -/
def finding (s : TypeScope)
    (find : (name : String) →
      Except TypeError (Option { _d : TypeDefinition // s.all.Known name })) : TypeScope :=
  { s with all := s.all.finding find }

theorem hasStaticMember_eqUnless
    (h : ∀ name, EqUnless .circular (s.all.find name) (find name)) (owner : TypeDefinition)
    (member : String) :
    EqUnless .circular (s.hasStaticMember owner member)
      ((s.finding find).hasStaticMember owner member) := by
  refine .bind (TypeDefinition.walk_eqUnless h _ _) fun field => ?_
  split
  · exact .refl _
  · exact .bind (TypeDefinition.walk_eqUnless h _ _) fun _ => .refl _

/-- What is circular for a source is circular for the node at hand. -/
theorem atRange_eqUnless {α : Type} {x y : Except TypeError α} {range : TextRange}
    (h : EqUnless .circular x y) :
    EqUnless (.invalid .circular) (atRange range x) (atRange range y) := h.mapError rfl

theorem staticOwner_eqUnless (h : ∀ name, EqUnless .circular (s.all.find name) (find name))
    (type member : String) (range : TextRange) :
    EqUnless (.invalid .circular) (s.staticOwner type member range)
      ((s.finding find).staticOwner type member range) := by
  refine .bind (atRange_eqUnless (TypeSource.resolve_eqUnless h type)) fun owner => ?_
  cases owner with
  | none => exact .refl _
  | some owner =>
      exact .bind (atRange_eqUnless (hasStaticMember_eqUnless h owner member)) fun _ => .refl _

theorem namesStaticMember_eqUnless
    (h : ∀ name, EqUnless .circular (s.all.find name) (find name)) (name : String) :
    EqUnless .circular (s.namesStaticMember name) ((s.finding find).namesStaticMember name) := by
  unfold namesStaticMember
  split
  · refine .bind (TypeSource.resolve_eqUnless h _) fun owner => ?_
    cases owner with
    | none => exact .refl _
    | some owner => exact hasStaticMember_eqUnless h owner _
  · exact .refl _

theorem importedName_eqUnless (h : ∀ name, EqUnless .circular (s.all.find name) (find name))
    (name : String) (range : TextRange) :
    EqUnless (.invalid .circular) (s.importedName name range)
      ((s.finding find).importedName name range) := by
  refine .bind (.refl (s.qualifiedTarget name range)) fun target => ?_
  cases target with
  | some target => exact .refl _
  | none => exact .bind (atRange_eqUnless (namesStaticMember_eqUnless h name)) fun _ => .refl _

theorem imported_eqUnless (h : ∀ name, EqUnless .circular (s.all.find name) (find name))
    (name : String) (range : TextRange) (what : Import) :
    EqUnless (.invalid .circular) (s.imported name range what)
      ((s.finding find).imported name range what) := by
  cases what with
  | singleType full renamed =>
      unfold imported
      dsimp only
      split
      · exact .map (importedName_eqUnless h full range)
      · exact .refl _
  | onDemand package => exact .refl _
  | staticMember type member renamed =>
      unfold imported
      dsimp only
      split
      · exact .bind (staticOwner_eqUnless h type member range) fun _ => .refl _
      · exact .refl _

theorem typeAt_eqUnless (h : ∀ name, EqUnless .circular (s.all.find name) (find name))
    (name : String) (id : NodeId) :
    EqUnless (.invalid .circular) (s.typeAt name id) ((s.finding find).typeAt name id) := by
  have same : (s.finding find).tree = s.tree := rfl
  unfold typeAt
  rw [same]
  cases s.tree.kind id with
  | importDecl what => exact .bind (imported_eqUnless h name _ what) fun _ => .refl _
  | _ => exact .refl _

theorem lookupType_eqUnless (h : ∀ name, EqUnless .circular (s.all.find name) (find name))
    (name : String) (context : NodeId) :
    EqUnless (.invalid .circular) (s.lookupType name context)
      ((s.finding find).lookupType name context) := by
  unfold lookupType
  split
  · exact .refl _
  · exact .refl _
  · split
    · refine .bind (.refl (s.tree.requireNode context)) fun _ => ?_
      refine .bind (.findSomeM? (fun scope => ?_) _) fun _ => .refl _
      exact .findSomeM? (fun id => typeAt_eqUnless h name id) _
    · exact .refl _

/-- A written type is projected the same with and without the trail, unless it is given up. -/
theorem jvmTypeOf_eqUnless (h : ∀ name, EqUnless .circular (s.all.find name) (find name))
    (context : NodeId) (type : TypeRef) :
    EqUnless (.invalid .circular) (s.jvmTypeOf context type)
      ((s.finding find).jvmTypeOf context type) := by
  cases type with
  | named name => exact .map (lookupType_eqUnless h name context)
  | array element => exact .bind (jvmTypeOf_eqUnless h context element) fun _ => .refl _
  | function params result => exact .refl _

/-! ## Definitions -/

theorem memberType_eqUnless (h : ∀ name, EqUnless .circular (s.all.find name) (find name))
    (member : NodeId) (type : TypeRef) :
    EqUnless (.invalid .circular) (s.memberType member type)
      ((s.finding find).memberType member type) := by
  unfold memberType
  rcases jvmTypeOf_eqUnless h member type with circular | same
  · rw [circular]
    exact .inl rfl
  · rw [same]
    exact .refl _

theorem parameterTypes_eqUnless (h : ∀ name, EqUnless .circular (s.all.find name) (find name))
    (parameters : List (NodeId × TypeRef)) :
    EqUnless (.invalid .circular) (s.parameterTypes parameters)
      ((s.finding find).parameterTypes parameters) := by
  induction parameters with
  | nil => exact .refl _
  | cons parameter rest ih =>
      obtain ⟨id, type⟩ := parameter
      refine .bind (memberType_eqUnless h id type) fun found => ?_
      cases found with
      | none => exact .refl _
      | some t => exact .bind ih fun _ => .refl _

theorem sourceMember_eqUnless (h : ∀ name, EqUnless .circular (s.all.find name) (find name))
    (id : NodeId) :
    EqUnless (.invalid .circular) (s.sourceMember id) ((s.finding find).sourceMember id) := by
  have same : (s.finding find).tree = s.tree := rfl
  unfold sourceMember
  rw [same]
  cases s.tree.kind id with
  | property name type => exact .bind (memberType_eqUnless h id type) fun _ => .refl _
  | method name result isStatic =>
      refine .bind (parameterTypes_eqUnless h _) fun _ => ?_
      exact .bind (memberType_eqUnless h id result) fun _ => .refl _
  | _ => exact .refl _

theorem definitionAt_eqUnless (h : ∀ name, EqUnless .circular (s.all.find name) (find name))
    (id : NodeId) :
    EqUnless (.invalid .circular) (s.definitionAt id) ((s.finding find).definitionAt id) := by
  have same : (s.finding find).tree = s.tree := rfl
  unfold definitionAt
  rw [same]
  refine .bind (.refl (s.tree.requireNode id)) fun _ => ?_
  cases s.tree.qualifiedTypeName? id with
  | none => exact .refl _
  | some name =>
      exact .bind (.mapM (fun member => sourceMember_eqUnless h member) _) fun _ => .refl _

end TypeScope

/-! ## The file -/

section File

variable {tree : Tree} {classpath : TypeSource (Except TypeError)} {trail : List NodeId}
  {name : String} {id : NodeId}

theorem findInFile_of_absent (absent : tree.typeNamed? name = none) :
    findInFile tree classpath trail name =
      (classpath.find name >>= fun d => pure (d.map fun d => ⟨d.1, Or.inr d.2⟩)) := by
  rw [findInFile]
  split
  · rfl
  · rename_i found
    rw [absent] at found
    cases found

theorem findInFile_of_declared (found : tree.typeNamed? name = some id) :
    findInFile tree classpath trail name =
      if id ∈ trail then throw .circular
      else
        (((Resolver.mk tree classpath).scopeWithin (id :: trail)).definitionAt id).mapError
            (ResolveError.toTypeError name) >>= fun d =>
          pure (some ⟨d, Or.inl (Tree.mem_typeNames_of_typeNamed? found)⟩) := by
  rw [findInFile]
  split
  · rename_i absent
    rw [absent] at found
    cases found
  · rename_i other hother
    obtain rfl := Option.some.inj (found.symm.trans hother)
    rfl

theorem findInFile_of_met (found : tree.typeNamed? name = some id) (met : id ∈ trail) :
    findInFile tree classpath trail name = throw .circular := by
  rw [findInFile_of_declared found, if_pos met]

theorem findInFile_of_fresh (found : tree.typeNamed? name = some id) (fresh : id ∉ trail) :
    findInFile tree classpath trail name =
      (((Resolver.mk tree classpath).scopeWithin (id :: trail)).definitionAt id).mapError
          (ResolveError.toTypeError name) >>= fun d =>
        pure (some ⟨d, Or.inl (Tree.mem_typeNames_of_typeNamed? found)⟩) := by
  rw [findInFile_of_declared found, if_neg fresh]

/-- A definition that is established although the declarations in a trail must not be met is the
one that is established if some of them may be. The induction is on the declarations not met
yet, as for `findInFile` itself. -/
theorem findInFile_eqUnless {trail part : List NodeId} (h : part ⊆ trail) (name : String) :
    EqUnless .circular (findInFile tree classpath trail name)
      (findInFile tree classpath part name) := by
  induction trail, name using findInFile.induct tree classpath generalizing part with
  | case1 trail name absent =>
      rw [findInFile_of_absent absent, findInFile_of_absent absent]
      exact .refl _
  | case2 trail name id found met =>
      rw [findInFile_of_met found met]
      exact .inl rfl
  | case3 trail name id found met ih =>
      have fresh : id ∉ part := fun hmem => met (h hmem)
      rw [findInFile_of_fresh found met, findInFile_of_fresh found fresh]
      have established := TypeScope.definitionAt_eqUnless
        (s := (Resolver.mk tree classpath).scopeWithin (id :: trail))
        (fun other => ih other (List.cons_subset_cons id h)) id
      exact .bind (established.mapError rfl) fun _ => .refl _

/-- A declaration that is circular anyhow may as well be met again: with or without it in the
trail all names have the same answers. -/
theorem findInFile_eq_of_circular
    (h : ∀ name, tree.typeNamed? name = some id →
      findInFile tree classpath [] name = .error .circular)
    {trail more : List NodeId} (hmore : ∀ n, n ∈ more ↔ n = id ∨ n ∈ trail) (name : String) :
    findInFile tree classpath trail name = findInFile tree classpath more name := by
  induction trail, name using findInFile.induct tree classpath generalizing more with
  | case1 trail name absent => rw [findInFile_of_absent absent, findInFile_of_absent absent]
  | case2 trail name other found met =>
      rw [findInFile_of_met found met, findInFile_of_met found ((hmore other).2 (.inr met))]
  | case3 trail name other found fresh ih =>
      by_cases own : other = id
      · subst own
        rw [findInFile_of_met found ((hmore other).2 (.inl rfl))]
        -- without the trail it is circular, so it is with any
        rcases findInFile_eqUnless (List.nil_subset trail) name with circular | same
        · exact circular
        · rw [same]
          exact h name found
      · have freshMore : other ∉ more := fun hmem => ((hmore other).1 hmem).elim own fresh
        have sameScope : (Resolver.mk tree classpath).scopeWithin (other :: trail) =
            (Resolver.mk tree classpath).scopeWithin (other :: more) := by
          have same : findInFile tree classpath (other :: trail) =
              findInFile tree classpath (other :: more) := by
            funext question
            refine ih question fun n => ?_
            rw [List.mem_cons, List.mem_cons, hmore n]
            exact or_left_comm
          unfold Resolver.scopeWithin fileSource
          rw [same]
        rw [findInFile_of_fresh found fresh, findInFile_of_fresh found freshMore, sameScope]

end File

namespace Resolver

variable {r : Resolver} {id : NodeId}

/-- A definition that is circular is established as if there were no trail. -/
theorem scopeWithin_eq_of_circular (h : r.sourceDefinition id = .error (.invalid .circular)) :
    r.scopeWithin [id] = r.scope := by
  have circular : ∀ name, r.tree.typeNamed? name = some id →
      findInFile r.tree r.classpath [] name = .error .circular := by
    intro name found
    rw [findInFile_of_fresh found List.not_mem_nil]
    show (r.sourceDefinition id).mapError (ResolveError.toTypeError name) >>= _ = _
    rw [h]
    rfl
  have same : findInFile r.tree r.classpath [id] = findInFile r.tree r.classpath [] := by
    funext name
    exact (findInFile_eq_of_circular circular (fun n => List.mem_cons) name).symm
  unfold scope scopeWithin fileSource
  rw [same]

/-- What makes a definition fail makes the projection of a written type fail, also where no
definition is being established. -/
theorem jvmTypeOf_of_within {context : NodeId} {type : TypeRef} {e : ResolveError}
    (failed : r.sourceDefinition id = .error e)
    (h : (r.scopeWithin [id]).jvmTypeOf context type = .error e) :
    r.scope.jvmTypeOf context type = .error e := by
  have compared : EqUnless (.invalid .circular) ((r.scopeWithin [id]).jvmTypeOf context type)
      (r.scope.jvmTypeOf context type) :=
    TypeScope.jvmTypeOf_eqUnless (s := r.scopeWithin [id])
      (fun name => findInFile_eqUnless (List.nil_subset [id]) name) context type
  rcases compared with circular | same
  · obtain rfl := Except.error.inj (h.symm.trans circular)
    rw [← scopeWithin_eq_of_circular failed]
    exact h
  · rw [← same]
    exact h

end Resolver

end JvmScope
