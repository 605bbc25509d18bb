import JvmScope.Proofs.Outcome
import JvmScope.Resolution.TypeScope

/-!
# Where the types that names denote come from

`TypeScope.lookupType` searches scopes, imports, the default package and the classpath. `Found`
lists the four ways in which a search ends, with what each of them says about the type found,
and `found_of_lookupType` says that there is no fifth. What is proved of all types that names
denote goes through this list and does not look into the search again.
-/

namespace JvmScope

namespace Tree

/-- Whether a type declaration stands at a node that answers to the name, simple or qualified. -/
def declares (t : Tree) (name : String) (id : NodeId) : Bool :=
  match t.kind id with
  | .typeDecl declared => declared == name || t.qualify declared == name
  | _ => false

variable {t : Tree} {id : NodeId} {full : String}

theorem qualifiedTypeName?_some_iff :
    t.qualifiedTypeName? id = some full ↔
      ∃ declared, t.kind id = .typeDecl declared ∧ t.qualify declared = full := by
  unfold qualifiedTypeName?
  cases t.kind id <;> simp

theorem qualifiedTypeName?_of_typeNamed? (h : t.typeNamed? full = some id) :
    t.qualifiedTypeName? id = some full := by
  unfold typeNamed? at h
  have hname := List.find?_some h
  exact beq_iff_eq.1 hname

end Tree

namespace TypeScope

variable {s : TypeScope} {name : String} {context : NodeId} {target : TypeTarget}

theorem declares_iff {t : Tree} {id : NodeId} :
    t.declares name id = true ↔
      ∃ declared, t.kind id = .typeDecl declared ∧
        (declared = name ∨ t.qualify declared = name) := by
  unfold Tree.declares
  cases t.kind id <;> simp

@[simp] theorem requireNode_ok_iff {t : Tree} {id : NodeId} :
    t.requireNode id = .ok () ↔ t.has id = true := by
  unfold Tree.requireNode
  by_cases h : t.has id = true
  · simp [h]
  · simp [h]

/-- How a name that is not reserved comes to denote a type at a node. -/
inductive Found (s : TypeScope) (name : String) (context : NodeId) : TypeTarget → Prop
  /-- A declaration in a scope around the node answers to the name. -/
  | declared {scope id : NodeId} : scope ∈ s.tree.ancestors context →
      id ∈ s.tree.children scope → s.tree.declares name id = true → Found s name context (.source id)
  /-- An import around the node leads to a type of the file. -/
  | fileType {full : String} {id : NodeId} : s.tree.typeNamed? full = some id →
      Found s name context (.source id)
  /-- An import around the node leads to a type of the classpath. -/
  | imported {full : String} {d : TypeDefinition} : s.tree.typeNamed? full = none →
      s.classpath.resolve full = .ok (some d) → Found s name context (.external d)
  /-- No scope knows the name, and the classpath has it in the default package or as written. -/
  | outside {full : String} {d : TypeDefinition} :
      (∀ scope ∈ s.tree.ancestors context, s.typeIn name scope = .ok none) →
      full = defaultPackage ++ "." ++ name ∨ full = name →
      s.classpath.resolve full = .ok (some d) → Found s name context (.external d)

/-- A type of the file is found where it is declared. -/
theorem Found.kind {id : NodeId} (h : s.Found name context (.source id)) :
    ∃ declared, s.tree.kind id = .typeDecl declared := by
  cases h with
  | declared _ _ hdeclares =>
      obtain ⟨declared, hk, -⟩ := declares_iff.1 hdeclares
      exact ⟨declared, hk⟩
  | fileType hfile =>
      obtain ⟨declared, hk, -⟩ :=
        Tree.qualifiedTypeName?_some_iff.1 (Tree.qualifiedTypeName?_of_typeNamed? hfile)
      exact ⟨declared, hk⟩

/-! ## Imports -/

theorem qualifiedTarget_some {full : String} {range : TextRange}
    (h : s.qualifiedTarget full range = .ok (some target)) :
    (∃ id, s.tree.typeNamed? full = some id ∧ target = .source id) ∨
      s.tree.typeNamed? full = none ∧
        ∃ d, s.classpath.resolve full = .ok (some d) ∧ target = .external d := by
  unfold qualifiedTarget at h
  cases hfile : s.tree.typeNamed? full with
  | some id =>
      simp only [hfile, pure_ok_iff, Option.some.injEq] at h
      exact .inl ⟨id, rfl, h.symm⟩
  | none =>
      simp only [hfile, bind_ok_iff, atRange_ok_iff, pure_ok_iff, Option.map_eq_some_iff] at h
      obtain ⟨found, hfound, d, rfl, rfl⟩ := h
      exact .inr ⟨rfl, d, hfound, rfl⟩

/-- An import that introduces a type leads to it by a qualified name. -/
theorem imported_type {range : TextRange} {what : Import}
    (h : s.imported name range what = .ok (some (.type target))) :
    ∃ full, s.qualifiedTarget full range = .ok (some target) := by
  cases what with
  | singleType full renamed =>
      simp only [imported] at h
      split at h
      · obtain ⟨found, hfound, he⟩ := map_ok_iff.1 h
        obtain rfl := Option.some.inj he
        unfold importedName at hfound
        obtain ⟨direct, hdirect, hfound⟩ := bind_ok_iff.1 hfound
        cases direct with
        | some t =>
            simp only [pure_ok_iff, Imported.type.injEq] at hfound
            subst hfound
            exact ⟨full, hdirect⟩
        | none =>
            obtain ⟨isMember, -, hfound⟩ := bind_ok_iff.1 hfound
            cases isMember <;> simp at hfound
      · simp at h
  | onDemand package =>
      simp only [imported] at h
      split at h
      · simp at h
      · obtain ⟨found, hfound, he⟩ := bind_ok_iff.1 h
        simp only [pure_ok_iff, Option.map_eq_some_iff] at he
        obtain ⟨t, rfl, ht⟩ := he
        cases ht
        exact ⟨_, hfound⟩
  | staticMember type member renamed =>
      simp only [imported] at h
      split at h
      · obtain ⟨_, -, h⟩ := bind_ok_iff.1 h
        simp at h
      · simp at h

/-! ## Scopes -/

/-- A node that says which type a name denotes is a declaration or an import of that type. -/
theorem typeAt_some {id : NodeId} (h : s.typeAt name id = .ok (some target)) :
    s.tree.declares name id = true ∧ target = .source id ∨
      ∃ what, s.tree.kind id = .importDecl what ∧
        s.imported name (s.tree.range id) what = .ok (some (.type target)) := by
  unfold typeAt at h
  cases hk : s.tree.kind id with
  | typeDecl declared =>
      simp only [hk] at h
      split at h
      · rename_i hname
        simp only [pure_ok_iff, Option.some.injEq] at h
        exact .inl ⟨declares_iff.2 ⟨declared, hk, hname⟩, h.symm⟩
      · simp at h
  | importDecl what =>
      simp only [hk] at h
      obtain ⟨found, hfound, h⟩ := bind_ok_iff.1 h
      cases found with
      | none => simp at h
      | some imported =>
          cases imported with
          | member => simp at h
          | type t =>
              simp only [pure_ok_iff, Option.some.injEq] at h
              subst h
              exact .inr ⟨what, rfl, hfound⟩
  | _ =>
      simp only [hk] at h
      simp at h

/-- Names that are not reserved are looked for around the node. -/
theorem lookupType_eq_typeAround (notPrimitive : Primitive.ofName? name = none)
    (notUnsigned : Unsigned.ofName? name = none) (valid : QualifiedName.isValid name = true) :
    s.lookupType name context = s.typeAround name context := by
  unfold lookupType
  simp only [notPrimitive, notUnsigned]
  exact if_pos valid

/-- A search around a node ends in one of the four ways. -/
theorem found_of_typeAround (h : s.typeAround name context = .ok target) :
    s.Found name context target := by
  obtain ⟨_, -, h⟩ := bind_ok_iff.1 h
  obtain ⟨inScope, hscopes, h⟩ := bind_ok_iff.1 h
  cases inScope with
  | some t =>
      simp only [pure_ok_iff] at h
      subst h
      obtain ⟨_, scope, _, hpath, -, hscope⟩ := findSomeM?_some_iff.1 hscopes
      obtain ⟨_, id, _, hchildren, -, hid⟩ := findSomeM?_some_iff.1 hscope
      rcases typeAt_some hid with ⟨hdeclares, rfl⟩ | ⟨what, -, himport⟩
      · have hscope : scope ∈ s.tree.ancestors context := by
          rw [hpath]
          exact List.mem_append_right _ List.mem_cons_self
        have hid : id ∈ s.tree.children scope := by
          rw [hchildren]
          exact List.mem_append_right _ List.mem_cons_self
        exact .declared hscope hid hdeclares
      · obtain ⟨full, hfull⟩ := imported_type himport
        -- an import leads to a type of the file first
        rcases qualifiedTarget_some hfull with ⟨d, hd, rfl⟩ | ⟨hnone, d, hd, rfl⟩
        · exact .fileType hd
        · exact .imported hnone hd
  | none =>
      have silent := findSomeM?_none_iff.1 hscopes
      simp only [typeOutside, bind_ok_iff, atRange_ok_iff] at h
      obtain ⟨implicit, himplicit, h⟩ := h
      cases implicit with
      | some d =>
          simp only [pure_ok_iff] at h
          subst h
          exact .outside silent (.inl rfl) himplicit
      | none =>
          simp only [bind_ok_iff, atRange_ok_iff] at h
          obtain ⟨literal, hliteral, h⟩ := h
          cases literal with
          | some d =>
              simp only [pure_ok_iff] at h
              subst h
              exact .outside silent (.inr rfl) hliteral
          | none => simp at h

/-- A name denotes a primitive, an unsigned type, or a type found around the node. -/
theorem found_of_lookupType (h : s.lookupType name context = .ok target) :
    (∃ kind, Primitive.ofName? name = some kind ∧ target = .primitive kind) ∨
      (∃ type, Unsigned.ofName? name = some type ∧ target = .basic type) ∨
      QualifiedName.isValid name = true ∧ s.Found name context target := by
  cases hp : Primitive.ofName? name with
  | some kind =>
      simp only [lookupType, hp, pure_ok_iff] at h
      exact .inl ⟨kind, rfl, h.symm⟩
  | none =>
    cases hu : Unsigned.ofName? name with
    | some type =>
      simp only [lookupType, hp, hu, pure_ok_iff] at h
      exact .inr (.inl ⟨type, rfl, h.symm⟩)
    | none =>
      cases valid : QualifiedName.isValid name with
      | false => simp [lookupType, hp, hu, valid] at h
      | true =>
        rw [lookupType_eq_typeAround hp hu valid] at h
        exact .inr (.inr ⟨rfl, found_of_typeAround h⟩)

theorem kind_of_source {id : NodeId} (h : s.lookupType name context = .ok (.source id)) :
    ∃ declared, s.tree.kind id = .typeDecl declared := by
  rcases found_of_lookupType h with ⟨_, -, he⟩ | ⟨_, -, he⟩ | ⟨-, found⟩
  · cases he
  · cases he
  · exact found.kind

/-- Types that are not of the file are answers of the classpath. -/
theorem resolve_of_external {d : TypeDefinition}
    (h : s.lookupType name context = .ok (.external d)) :
    ∃ full, s.classpath.resolve full = .ok (some d) := by
  rcases found_of_lookupType h with ⟨_, -, he⟩ | ⟨_, -, he⟩ | ⟨-, found⟩
  · cases he
  · cases he
  · cases found with
    | imported _ hd => exact ⟨_, hd⟩
    | outside _ _ hd => exact ⟨_, hd⟩

end TypeScope

end JvmScope
