import JvmScope.Proofs.Program.Below
import JvmScope.Proofs.Resolution.ErrorPlaces
import JvmScope.Proofs.Resolution.Parts
import JvmScope.Resolution.Assignment

/-!
# Targets of assignments

Whether a target can be written to is found out by rules of their own, beside those for types of
expressions. Where both have an answer, it is the same: an assignment that passes its check writes
a value of the type that its target has where it is read (`accepted_assignment`). What the target
stands for is a `WritesTo`: a parameter, a local variable or a property, or the field that the
nearest definition of its owner has, which is not final.

To write to a variable, types are established one by one, and to read it, with a trail in which
the target itself stands. The trail takes nothing away: where it could, the target would have to
be typed on the way to its own type (`typeOf_of_step`).
-/

namespace JvmScope.Resolver

variable {r : Resolver} {e target : NodeId} {t u : TypeUsage} {field : Field}

/-! ## Rules without a trail -/

/-- Where a node has no type at all, types are found although it must not be met. The induction is
on the nodes not met yet. -/
theorem typeOfWithin_avoiding (never : ∀ w, r.typeOf e ≠ .ok w) (trail : List NodeId)
    (a : NodeId) : Refines (r.typeOfWithin trail a) (r.typeOfWithin (e :: trail) a) := by
  induction trail, a using Resolver.typeOfWithin.induct (r := r) with
  | case1 trail a here met =>
      rw [typeOfWithin, dif_pos here, dif_pos met]
      exact .throw _ _
  | case2 trail a here notMet ih =>
      intro t h
      -- `a` has a type with this trail, so it has one without any, and `e` has none
      have other : a ≠ e := by
        rintro rfl
        exact never t (typeOf_of_within h)
      have fresh : a ∉ e :: trail := by
        intro met
        rcases List.mem_cons.1 met with same | met
        · exact other same
        · exact notMet met
      rw [typeOfWithin, dif_pos here, dif_neg notMet] at h
      rw [typeOfWithin, dif_pos here, dif_neg fresh]
      refine typeOfStep_refines ?_ a t h
      intro b w hw
      apply typeOfWithin_refines _ b w (ih b w hw)
      intro n hn
      simp only [List.mem_cons] at hn ⊢
      tauto
  | case3 trail a nowhere =>
      rw [typeOfWithin, dif_neg nowhere]
      exact .throw _ _

/-- What the rule for a node makes of the types of other nodes, each found on its own, is the type
of the node. -/
theorem typeOf_of_step (here : r.tree.has e = true) (h : r.typeOfStep r.typeOf e = .ok t) :
    r.typeOf e = .ok t := by
  by_cases typed : ∃ w, r.typeOf e = .ok w
  · obtain ⟨w, hw⟩ := typed
    have step := typeOfStep_refines (extends_typeOf r [e]) e w (typeOf_ok_iff.1 hw).2
    rw [h] at step
    rw [hw, step]
  -- if `e` had no type, nothing the step asks for could rest on `e`, and `e` on the trail would
  -- not matter: the step would give `e` a type after all
  · have never : ∀ w, r.typeOf e ≠ .ok w := fun w hw => typed ⟨w, hw⟩
    refine typeOf_ok_iff.2 ⟨here, ?_⟩
    exact typeOfStep_refines (typeOfWithin_avoiding never []) e t h

/-! ## Fields -/

theorem staticFieldOf_ok_iff {owner : TypeDefinition} {name : String} :
    r.staticFieldOf owner name = .ok (some field) ↔
      owner.findField r.source name = .ok (some field) ∧ field.isStatic = true := by
  unfold staticFieldOf
  rw [bind_ok_iff]
  constructor
  · rintro ⟨found, hfound, h⟩
    obtain ⟨rfl, static⟩ := Option.filter_eq_some_iff.1 (pure_ok_iff.1 h)
    exact ⟨hfound, static⟩
  · rintro ⟨hfound, static⟩
    exact ⟨_, hfound, pure_ok_iff.2 (Option.filter_eq_some_iff.2 ⟨rfl, static⟩)⟩

theorem importedField_ok_iff {owner : TypeDefinition} {name : String} {range : TextRange} :
    r.importedField owner name range = .ok field ↔
      owner.findField r.source name = .ok (some field) ∧ field.isStatic = true := by
  rw [← staticFieldOf_ok_iff]
  unfold importedField
  rw [bind_ok_iff]
  constructor
  · rintro ⟨found, hfound, h⟩
    cases found with
    | none => exact (throw_ok_iff.1 h).elim
    | some f =>
        obtain rfl := pure_ok_iff.1 h
        exact atRange_ok_iff.1 hfound
  · intro h
    exact ⟨_, atRange_ok_iff.2 h, rfl⟩

theorem staticField_ok_iff {type name : String} :
    r.staticField type name e = .ok field ↔
      ∃ named owner, r.scope.lookupType type e = .ok named ∧
        r.definitionOf named = .ok (some owner) ∧
        owner.findField r.source name = .ok (some field) ∧ field.isStatic = true := by
  unfold staticField
  constructor
  · intro h
    obtain ⟨named, hnamed, h⟩ := bind_ok_iff.1 h
    obtain ⟨definition, hdefinition, h⟩ := bind_ok_iff.1 h
    cases definition with
    | none => exact (throw_ok_iff.1 h).elim
    | some owner =>
        obtain ⟨found, hfound, h⟩ := bind_ok_iff.1 h
        cases found with
        | none => exact (throw_ok_iff.1 h).elim
        | some f =>
            obtain rfl := pure_ok_iff.1 h
            exact ⟨named, owner, hnamed, hdefinition,
              staticFieldOf_ok_iff.1 (atRange_ok_iff.1 hfound)⟩
  · rintro ⟨named, owner, hnamed, hdefinition, selected⟩
    apply bind_ok_iff.2
    refine ⟨named, hnamed, ?_⟩
    apply bind_ok_iff.2
    refine ⟨some owner, hdefinition, ?_⟩
    apply bind_ok_iff.2
    exact ⟨some field, atRange_ok_iff.2 (staticFieldOf_ok_iff.2 selected), rfl⟩

theorem writableField_ok_iff {range : TextRange} :
    r.writableField field range = .ok u ↔
      field.isFinal = false ∧ TypeUsage.ofJvmType r.source field.type = .ok u := by
  unfold writableField
  cases field.isFinal with
  | true => exact iff_of_false (fun h => (throw_ok_iff.1 h).elim) nofun
  | false => simp

/-! ## Targets -/

/-- What an assignment writes to by its target: a variable, or a field that is not final. Fields
are found as they are for reading, the nearest one of the name, and have to be static where they
are imported or accessed through the name of a type. -/
inductive WritesTo (r : Resolver) (target : NodeId) (u : TypeUsage) : Prop
  | declaration {name : String} {id : NodeId} {symbol : Symbol}
      (kind : r.tree.kind target = .valueRef name)
      (denotes : r.scope.findSymbol name target = .ok symbol)
      (declared : symbol = .parameter id ∨ symbol = .localVar id ∨ symbol = .property id)
      (type : r.typeOfSymbol symbol target = .ok u)
  | importedField {name member : String} {owner : TypeDefinition} {field : Field}
      (kind : r.tree.kind target = .valueRef name)
      (denotes : r.scope.findSymbol name target = .ok (.staticMember owner member))
      (selected : owner.findField r.source member = .ok (some field))
      (isStatic : field.isStatic = true) (notFinal : field.isFinal = false)
      (type : TypeUsage.ofJvmType r.source field.type = .ok u)
  | field {name : String} {subject : NodeId} {owner : TypeDefinition} {args : List TypeUsage}
      {field : Field} (kind : r.tree.kind target = .fieldAccess name)
      (first : (r.tree.children target).head? = some subject)
      (typed : r.typeOf subject = .ok (.reference owner args))
      (selected : owner.findField r.source name = .ok (some field))
      (notFinal : field.isFinal = false)
      (type : TypeUsage.ofJvmType r.source field.type = .ok u)
  | staticField {type name : String} {named : TypeTarget} {owner : TypeDefinition} {field : Field}
      (kind : r.tree.kind target = .staticFieldAccess type name)
      (found : r.scope.lookupType type target = .ok named)
      (defined : r.definitionOf named = .ok (some owner))
      (selected : owner.findField r.source name = .ok (some field))
      (isStatic : field.isStatic = true) (notFinal : field.isFinal = false)
      (type : TypeUsage.ofJvmType r.source field.type = .ok u)

/-- What can be written to is a variable or a field that is not final. -/
theorem writesTo_of_writableType (h : r.writableType target = .ok u) : r.WritesTo target u := by
  unfold writableType writableTypeBy at h
  cases hk : r.tree.kind target with
  | valueRef name =>
      simp only [hk] at h
      obtain ⟨symbol, hsymbol, h⟩ := bind_ok_iff.1 h
      cases symbol with
      | parameter id => exact .declaration hk hsymbol (.inl rfl) h
      | localVar id => exact .declaration hk hsymbol (.inr (.inl rfl)) h
      | property id => exact .declaration hk hsymbol (.inr (.inr rfl)) h
      | function id => exact (throw_ok_iff.1 h).elim
      | staticMember owner member =>
          obtain ⟨field, hfield, h⟩ := bind_ok_iff.1 h
          obtain ⟨selected, static⟩ := importedField_ok_iff.1 hfield
          obtain ⟨notFinal, type⟩ := writableField_ok_iff.1 h
          exact .importedField hk hsymbol selected static notFinal type
  | fieldAccess name =>
      simp only [hk] at h
      obtain ⟨subject, hsubject, h⟩ := bind_ok_iff.1 h
      obtain ⟨t, ht, h⟩ := bind_ok_iff.1 h
      cases t with
      | reference owner args =>
          obtain ⟨found, hfound, h⟩ := bind_ok_iff.1 h
          cases found with
          | none => exact (throw_ok_iff.1 h).elim
          | some field =>
              obtain ⟨notFinal, type⟩ := writableField_ok_iff.1 h
              exact .field hk (subject_ok_iff.1 hsubject) ht (atRange_ok_iff.1 hfound) notFinal type
      | _ => exact (throw_ok_iff.1 h).elim
  | staticFieldAccess type name =>
      simp only [hk] at h
      obtain ⟨field, hfield, h⟩ := bind_ok_iff.1 h
      obtain ⟨named, owner, found, defined, selected, static⟩ := staticField_ok_iff.1 hfield
      obtain ⟨notFinal, type⟩ := writableField_ok_iff.1 h
      exact .staticField hk found defined selected static notFinal type
  | _ =>
      simp only [hk] at h
      exact (throw_ok_iff.1 h).elim

/-- The rule for reading gives the type that can be written: a variable is typed by its symbol and a
field by what is declared of it, whichever rule looks for it. -/
theorem WritesTo.typeOfStep_eq (here : r.tree.has target = true) (h : r.WritesTo target u) :
    r.typeOfStep r.typeOf target = .ok u := by
  unfold typeOfStep
  cases h with
  | declaration kind denotes declared type =>
      simp only [kind, denotes]
      exact type
  | importedField kind denotes selected isStatic notFinal type =>
      simp only [kind, denotes]
      apply bind_ok_iff.2
      refine ⟨(), TypeScope.requireNode_ok_iff.2 here, ?_⟩
      apply bind_ok_iff.2
      exact ⟨_, importedField_ok_iff.2 ⟨selected, isStatic⟩, atRange_ok_iff.2 type⟩
  | field kind first typed selected notFinal type =>
      simp only [kind]
      apply bind_ok_iff.2
      refine ⟨_, subject_ok_iff.2 first, ?_⟩
      apply bind_ok_iff.2
      refine ⟨_, typed, ?_⟩
      apply bind_ok_iff.2
      refine ⟨some u, atRange_ok_iff.2 ?_, rfl⟩
      apply bind_ok_iff.2
      refine ⟨_, selected, ?_⟩
      apply bind_ok_iff.2
      exact ⟨u, type, rfl⟩
  | staticField kind found defined selected isStatic notFinal type =>
      simp only [kind]
      apply bind_ok_iff.2
      refine ⟨_, staticField_ok_iff.2 ⟨_, _, found, defined, selected, isStatic⟩, ?_⟩
      exact atRange_ok_iff.2 type

/-- **Assignments read what they write.** An assignment that passes its check has a target and a
value. The target is a variable or a field that is not final, and where it is read it has the very
type that the value is checked against; the value has a type, and it can be stored there. -/
theorem accepted_assignment {assignment : NodeId}
    (accepted : r.checkAssignment assignment = .ok ()) :
    ∃ target value u v, r.tree.children assignment = [target, value] ∧
      r.writableType target = .ok u ∧ r.WritesTo target u ∧ r.typeOf target = .ok u ∧
      r.typeOf value = .ok v ∧ v.assignableTo r.source u = .ok true := by
  unfold checkAssignment checkAssignmentBy at accepted
  obtain ⟨_, -, accepted⟩ := bind_ok_iff.1 accepted
  split at accepted
  · rename_i target value children
    obtain ⟨u, writable, accepted⟩ := bind_ok_iff.1 accepted
    obtain ⟨v, typed, accepted⟩ := bind_ok_iff.1 accepted
    obtain ⟨fits, assignable, accepted⟩ := bind_ok_iff.1 accepted
    have here : r.tree.has target = true := by
      apply Tree.has_of_mem_children
      rw [children]
      exact List.mem_cons_self
    have writes : r.WritesTo target u := writesTo_of_writableType writable
    refine ⟨target, value, u, v, children, writable, writes,
      typeOf_of_step here (writes.typeOfStep_eq here), typed, ?_⟩
    cases fits with
    | true => exact atRange_ok_iff.1 assignable
    | false => exact (throw_ok_iff.1 accepted).elim
  · exact (throw_ok_iff.1 accepted).elim

/-- A program that sets an imported static field. -/
def importedSetting : Resolver where
  tree := .ofListing "demo"
    [(0, .importDecl (.staticMember "lib.Settings" "level" none)), (0, .program "main"),
      (2, .block), (3, .assignment), (4, .valueRef "level"), (4, .intLiteral 7)]
  classpath := TypeTable.source ⟨[{ TypeDefinition.empty "lib.Settings" .classType with
    fields := [⟨"level", .primitive .int, true, false⟩] }]⟩

theorem importedSetting_written :
    importedSetting.checkAssignment 4 = .ok () ∧
      ∃ u, importedSetting.WritesTo 5 u ∧ importedSetting.typeOf 5 = .ok u := by
  have accepted : importedSetting.checkAssignment 4 = .ok () := by decide +kernel
  have parts : importedSetting.tree.children 4 = [5, 6] := by decide +kernel
  obtain ⟨target, value, u, v, children, -, writes, typed, -⟩ := accepted_assignment accepted
  obtain ⟨rfl, -⟩ := List.cons.inj (parts.symm.trans children)
  exact ⟨accepted, u, writes, typed⟩

end JvmScope.Resolver
