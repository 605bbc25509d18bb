import JvmScope.Proofs.Classpath.Generated
import JvmScope.Proofs.Descriptor.ReadingBack
import JvmScope.Proofs.Types.Erasure

/-!
# Members of loaded definitions

The definition of a class file has the visible fields, methods and constructors of the class file
in their order, and no others. A descriptor is taken apart into types and put together again when
it is asked for, and comes out to the letter (`Represents`), also where each of the types is
written out and read by itself in between (`typesByParts_eq`).

Of the members that are left out nothing is looked at. Whether a class file loads can be said of
the others alone (`Loadable`), and class files that differ in left out members only load to the
same definition or fail alike (`definition_kept`). All this together is `definition_exact`.
-/

namespace JvmScope

namespace Loader

variable {c : ClassFile} {d : TypeDefinition} {origin : Origin} {member : ClassMember}
  {owner descriptor : String}

/-! ## Descriptors in parts -/

/-- The types in a method descriptor, each written out and read by itself. -/
def typesByParts (owner descriptor : String) : Except ClasspathError (List JvmType × JvmType) := do
  let d ← ofFormat owner (Descriptor.parseMethod descriptor)
  let params ← (d.params.mapM fun p => JvmType.ofDescriptor p.text).mapError .type
  let result ← (JvmType.ofDescriptor d.result.text).mapError .type
  pure (params, result)

/-- Types are read of their texts as they were read of the whole descriptor. -/
theorem typesByParts_eq (owner descriptor : String) :
    typesByParts owner descriptor =
      (fun d => (d.params, d.result)) <$> ofFormat owner (Descriptor.parseMethod descriptor) := by
  unfold typesByParts
  cases hread : Descriptor.parseMethod descriptor with
  | error cause => rfl
  | ok d =>
      obtain ⟨-, hparams, hresult⟩ := Descriptor.parseMethod_ok_iff.1 hread
      have params : (d.params.mapM fun p => JvmType.ofDescriptor p.text) = .ok d.params := by
        refine mapM_ok_iff_forall₂.2 (List.forall₂_same.2 fun p hp => ?_)
        exact JvmType.ofDescriptor_ok_iff.2 ⟨rfl, .inr (hparams p hp)⟩
      have result : JvmType.ofDescriptor d.result.text = .ok d.result :=
        JvmType.ofDescriptor_ok_iff.2 ⟨rfl, hresult⟩
      show ((d.params.mapM fun p => JvmType.ofDescriptor p.text).mapError ClasspathError.type >>=
        fun params => (JvmType.ofDescriptor d.result.text).mapError ClasspathError.type >>=
          fun result => pure (params, result)) = _
      rw [params, result]
      rfl

/-- The part of a method descriptor that is about parameters. -/
def parameterText (params : List JvmType) : String :=
  "(" ++ String.join (params.map JvmType.text) ++ ")"

/-! ## Members that are kept -/

/-- Members that are read: the visible ones, static initialisers apart. -/
def isKept (member : ClassMember) : Bool := isVisible member && member.name != staticInitializer

/-- Members that become methods. -/
def isMethod (member : ClassMember) : Bool :=
  member.name != ConstructorTarget.name && isKept member

/-- Members that become constructors. -/
def isConstructor (member : ClassMember) : Bool :=
  member.name == ConstructorTarget.name && isVisible member

theorem isConstructor_eq (member : ClassMember) :
    isConstructor member = (member.name == ConstructorTarget.name && isKept member) := by
  unfold isConstructor isKept
  by_cases named : member.name = ConstructorTarget.name
  · have notInitializer : (member.name != staticInitializer) = true := by
      rw [named]
      decide
    rw [notInitializer, Bool.and_true]
  · rw [beq_eq_false_iff_ne.2 named, Bool.false_and, Bool.false_and]

theorem isKept_iff : isKept member = true ↔ isMethod member = true ∨ isConstructor member = true := by
  rw [isConstructor_eq]
  unfold isMethod
  by_cases named : member.name = ConstructorTarget.name <;> simp [named]

/-- The field of a definition is that of the class file. -/
structure SameField (member : ClassMember) (f : Field) : Prop where
  name : f.name = member.name
  descriptor : f.type.text = member.descriptor
  isStatic : f.isStatic = member.isStatic
  isFinal : f.isFinal = member.isFinal

/-- The method of a definition is that of the class file. -/
structure SameMethod (member : ClassMember) (m : Method) : Prop where
  name : m.name = member.name
  descriptor : m.descriptor = member.descriptor
  isStatic : m.isStatic = member.isStatic

/-- The constructor takes what the descriptor in the class file states, and its own descriptor
starts with the same text. -/
def SameParameters (member : ClassMember) (k : Constructor) : Prop :=
  ∃ result, Descriptor.parseMethod member.descriptor = .ok ⟨k.params, result⟩ ∧
    member.descriptor = parameterText k.params ++ result.text ∧
    k.descriptor = parameterText k.params ++ "V"

/-- The definition names what the class file names, and has its members as far as they are
visible. -/
structure Represents (c : ClassFile) (d : TypeDefinition) : Prop where
  qualifiedName : d.qualifiedName = QualifiedName.ofInternal c.thisClass
  superClass : d.superClass = c.superClass.map QualifiedName.ofInternal
  interfaces : d.interfaces = c.interfaces.map QualifiedName.ofInternal
  fields : List.Forall₂ SameField (c.fields.filter isVisible) d.fields
  methods : List.Forall₂ SameMethod (c.methods.filter isMethod) d.methods
  constructors : List.Forall₂ SameParameters (c.methods.filter isConstructor) d.constructors

theorem sameField_of_field {f : Field} (h : field member = .ok f) : SameField member f := by
  unfold field at h
  obtain ⟨type, htype, h⟩ := bind_ok_iff.1 h
  obtain rfl := pure_ok_iff.1 h
  obtain ⟨htext, -⟩ := JvmType.ofDescriptor_ok_iff.1 (mapError_ok_iff.1 htype)
  exact ⟨rfl, htext.symm, rfl, rfl⟩

theorem sameMethod_of_callable {result : Constructor ⊕ Method}
    (h : callable owner member = .ok result) (named : member.name ≠ ConstructorTarget.name) :
    ∃ m, result = .inr m ∧ SameMethod member m := by
  obtain ⟨read, hread, ⟨isNamed, -⟩ | ⟨-, parameters, -, rfl⟩⟩ := callable_ok_iff.1 h
  · exact absurd isNamed named
  · obtain ⟨htext, -⟩ := Descriptor.parseMethod_ok_iff.1 hread
    exact ⟨_, rfl, rfl, htext.symm, rfl⟩

theorem sameParameters_of_callable {result : Constructor ⊕ Method}
    (h : callable owner member = .ok result) (named : member.name = ConstructorTarget.name) :
    ∃ k, result = .inl k ∧ SameParameters member k := by
  obtain ⟨read, hread, ⟨-, rfl⟩ | ⟨isNot, -⟩⟩ := callable_ok_iff.1 h
  · obtain ⟨htext, -⟩ := Descriptor.parseMethod_ok_iff.1 hread
    refine ⟨_, rfl, read.result, hread, ?_, JvmType.methodText_eq read.params _⟩
    rw [htext]
    exact JvmType.methodText_eq read.params read.result
  · exact absurd named isNot

/-- Where the elements of two lists correspond, those that are picked out correspond. -/
theorem forall₂_filter {α β γ : Type} {R : α → β → Prop} {S : α → γ → Prop} {p : α → Bool}
    {g : β → Option γ} {l : List α} {results : List β} (h : List.Forall₂ R l results)
    (picked : ∀ a b, R a b → p a = true → ∃ x, g b = some x ∧ S a x)
    (dropped : ∀ a b, R a b → p a = false → g b = none) :
    List.Forall₂ S (l.filter p) (results.filterMap g) := by
  induction h with
  | nil => exact .nil
  | @cons a b _ _ related _ ih =>
      cases hp : p a with
      | true =>
          obtain ⟨x, hx, same⟩ := picked a b related hp
          rw [List.filter_cons_of_pos hp, List.filterMap_cons_some hx]
          exact .cons same ih
      | false =>
          rw [List.filter_cons_of_neg (Bool.eq_false_iff.1 hp),
            List.filterMap_cons_none (dropped a b related hp)]
          exact ih

theorem represents_of_definition (h : definition c origin = .ok d) : Represents c d := by
  unfold definition at h
  obtain ⟨parameters, -, h⟩ := bind_ok_iff.1 h
  obtain ⟨fields, hfields, h⟩ := bind_ok_iff.1 h
  obtain ⟨callables, hcallables, h⟩ := bind_ok_iff.1 h
  obtain rfl := pure_ok_iff.1 h
  have read : List.Forall₂ (fun m r => callable (QualifiedName.ofInternal c.thisClass) m = .ok r)
      (c.methods.filter isKept) callables := mapM_ok_iff_forall₂.1 hcallables
  have methods : c.methods.filter isMethod =
      (c.methods.filter isKept).filter (·.name != ConstructorTarget.name) :=
    (List.filter_filter ..).symm
  have constructors : c.methods.filter isConstructor =
      (c.methods.filter isKept).filter (·.name == ConstructorTarget.name) := by
    rw [List.filter_filter]
    exact List.filter_congr fun member _ => isConstructor_eq member
  refine ⟨rfl, rfl, rfl, ?_, ?_, ?_⟩
  · exact (mapM_ok_iff_forall₂.1 hfields).imp fun _ _ => sameField_of_field
  · rw [methods]
    refine forall₂_filter read (fun member r hr named => ?_) fun member r hr named => ?_
    · obtain ⟨m, rfl, same⟩ := sameMethod_of_callable hr (bne_iff_ne.1 named)
      exact ⟨m, rfl, same⟩
    · obtain ⟨k, rfl, -⟩ := sameParameters_of_callable hr (by simpa using named)
      rfl
  · rw [constructors]
    refine forall₂_filter read (fun member r hr named => ?_) fun member r hr named => ?_
    · obtain ⟨k, rfl, same⟩ := sameParameters_of_callable hr (beq_iff_eq.1 named)
      exact ⟨k, rfl, same⟩
    · obtain ⟨m, rfl, -⟩ := sameMethod_of_callable hr (beq_eq_false_iff_ne.1 named)
      rfl

/-! ## Members that are left out -/

/-- There is no signature, or it can be read. -/
def SignatureReads (signature : Option String) : Prop :=
  ∀ text ∈ signature, ∃ parameters, Signature.typeParameters text = .ok parameters

/-- What is looked at of a class file can be read. -/
structure Loadable (c : ClassFile) : Prop where
  signature : SignatureReads c.signature
  fields : ∀ member ∈ c.fields, isVisible member = true →
    ∃ t, JvmType.ofDescriptor member.descriptor = .ok t
  methods : ∀ member ∈ c.methods, isMethod member = true ∨ isConstructor member = true →
    ∃ t, Descriptor.parseMethod member.descriptor = .ok t
  signatures : ∀ member ∈ c.methods, isMethod member = true → SignatureReads member.signature

theorem typeParameters_ok_iff (owner : String) {signature : Option String} :
    (∃ parameters, typeParameters owner signature = .ok parameters) ↔
      SignatureReads signature := by
  cases signature with
  | none => exact iff_of_true ⟨[], rfl⟩ fun _ h => nomatch h
  | some text =>
      unfold SignatureReads typeParameters ofFormat
      simp only [mapError_ok_iff, Option.mem_some_iff, forall_eq']

theorem exists_field_iff :
    (∃ f, field member = .ok f) ↔ ∃ t, JvmType.ofDescriptor member.descriptor = .ok t := by
  unfold field
  constructor
  · rintro ⟨f, h⟩
    obtain ⟨t, ht, -⟩ := bind_ok_iff.1 h
    exact ⟨t, mapError_ok_iff.1 ht⟩
  · rintro ⟨t, ht⟩
    exact ⟨_, bind_of_ok (mapError_ok_iff.2 ht)⟩

theorem exists_callable_iff :
    (∃ result, callable owner member = .ok result) ↔
      (∃ t, Descriptor.parseMethod member.descriptor = .ok t) ∧
        (member.name ≠ ConstructorTarget.name → SignatureReads member.signature) := by
  rw [← typeParameters_ok_iff owner]
  constructor
  · rintro ⟨result, h⟩
    obtain ⟨t, ht, kind⟩ := callable_ok_iff.1 h
    refine ⟨⟨t, ht⟩, fun named => ?_⟩
    rcases kind with ⟨isNamed, -⟩ | ⟨-, parameters, hparameters, -⟩
    · exact absurd isNamed named
    · exact ⟨parameters, hparameters⟩
  · rintro ⟨⟨t, ht⟩, signature⟩
    by_cases named : member.name = ConstructorTarget.name
    · exact ⟨_, callable_ok_iff.2 ⟨t, ht, .inl ⟨named, rfl⟩⟩⟩
    · obtain ⟨parameters, hparameters⟩ := signature named
      exact ⟨_, callable_ok_iff.2 ⟨t, ht, .inr ⟨named, parameters, hparameters, rfl⟩⟩⟩

/-- A class file loads if what is looked at can be read. -/
theorem exists_definition_iff : (∃ d, definition c origin = .ok d) ↔ Loadable c := by
  constructor
  · rintro ⟨d, h⟩
    unfold definition at h
    obtain ⟨parameters, hparameters, h⟩ := bind_ok_iff.1 h
    obtain ⟨fields, hfields, h⟩ := bind_ok_iff.1 h
    obtain ⟨callables, hcallables, -⟩ := bind_ok_iff.1 h
    have read : ∀ member ∈ c.methods, isKept member = true →
        (∃ t, Descriptor.parseMethod member.descriptor = .ok t) ∧
          (member.name ≠ ConstructorTarget.name → SignatureReads member.signature) := by
      intro member hmember kept
      obtain ⟨result, -, hresult⟩ :=
        exists_of_mapM_ok hcallables member (List.mem_filter.2 ⟨hmember, kept⟩)
      exact exists_callable_iff.1 ⟨result, hresult⟩
    refine ⟨(typeParameters_ok_iff _).1 ⟨parameters, hparameters⟩, ?_, ?_, ?_⟩
    · intro member hmember visible
      obtain ⟨f, -, hf⟩ := exists_of_mapM_ok hfields member (List.mem_filter.2 ⟨hmember, visible⟩)
      exact exists_field_iff.1 ⟨f, hf⟩
    · intro member hmember callable
      exact (read member hmember (isKept_iff.2 callable)).1
    · intro member hmember method
      have named := bne_iff_ne.1 (Bool.and_eq_true_iff.1 method).1
      exact (read member hmember (isKept_iff.2 (.inl method))).2 named
  · rintro ⟨signature, fieldsRead, methodsRead, signatures⟩
    obtain ⟨parameters, hparameters⟩ :=
      (typeParameters_ok_iff (QualifiedName.ofInternal c.thisClass)).2 signature
    have fields : ∃ fields, (c.fields.filter isVisible).mapM field = .ok fields := by
      refine exists_mapM_ok fun member hmember => ?_
      obtain ⟨hmember, visible⟩ := List.mem_filter.1 hmember
      exact exists_field_iff.2 (fieldsRead member hmember visible)
    have callables : ∃ callables, (c.methods.filter isKept).mapM
        (callable (QualifiedName.ofInternal c.thisClass)) = .ok callables := by
      refine exists_mapM_ok fun member hmember => ?_
      obtain ⟨hmember, kept⟩ := List.mem_filter.1 hmember
      refine exists_callable_iff.2 ⟨methodsRead member hmember (isKept_iff.1 kept), fun named => ?_⟩
      exact signatures member hmember (Bool.and_eq_true_iff.2 ⟨bne_iff_ne.2 named, kept⟩)
    obtain ⟨fields, hfields⟩ := fields
    obtain ⟨callables, hcallables⟩ := callables
    unfold definition
    rw [bind_of_ok hparameters, bind_of_ok hfields]
    exact ⟨_, bind_of_ok hcallables⟩

/-- The class file without the members that a definition leaves out. -/
def kept (c : ClassFile) : ClassFile :=
  { c with fields := c.fields.filter isVisible, methods := c.methods.filter isKept }

/-- Loading does not see what is left out. -/
theorem definition_kept (c : ClassFile) (origin : Origin) :
    definition (kept c) origin = definition c origin := by
  have fields : (kept c).fields.filter isVisible = c.fields.filter isVisible := by
    show (c.fields.filter isVisible).filter isVisible = _
    rw [List.filter_filter]
    simp only [Bool.and_self]
  have methods : (kept c).methods.filter isKept = c.methods.filter isKept := by
    show (c.methods.filter isKept).filter isKept = _
    rw [List.filter_filter]
    simp only [Bool.and_self]
  show (typeParameters (QualifiedName.ofInternal c.thisClass) c.signature >>= fun parameters =>
    ((kept c).fields.filter isVisible).mapM field >>= fun fields =>
      ((kept c).methods.filter isKept).mapM
        (callable (QualifiedName.ofInternal c.thisClass)) >>= fun callables => _) = _
  rw [fields, methods]
  rfl

/-- **A definition has the visible members of its class file, in order and to the letter.** It has
the names of the class file in dotted form. Its fields and methods are the visible ones there, with
the descriptors they have there, and its constructors the visible constructors there, with their
parameters. A class file loads exactly if what is looked at can be read, and what is left out, be
it well formed or not, has no part in it. Reading each of the types in a descriptor by itself comes
to the same as reading the descriptor. -/
theorem definition_exact (c : ClassFile) (origin : Origin) :
    (∀ d, definition c origin = .ok d → Represents c d) ∧
    ((∃ d, definition c origin = .ok d) ↔ Loadable c) ∧
    (∀ c', kept c' = kept c → definition c' origin = definition c origin) ∧
    ∀ owner descriptor, typesByParts owner descriptor =
      (fun d => (d.params, d.result)) <$> ofFormat owner (Descriptor.parseMethod descriptor) := by
  refine ⟨fun d => represents_of_definition, exists_definition_iff, ?_, typesByParts_eq⟩
  intro c' same
  rw [← definition_kept c', same, definition_kept]

/-- A class file with members of all kinds, in which only malformed ones are left out. -/
def gadgetFile : ClassFile :=
  { classFile "lib/Gadget" (some "java/lang/Object")
      [⟨Access.isStatic, "<clinit>", "()", none⟩,
        ⟨Access.isPublic, "<init>", "(Llib/Shape;[I)V", none⟩,
        ⟨Access.isPrivate, "scale", "(V)V", none⟩,
        ⟨Access.isPublic ||| Access.isStatic, "of", "([[JLlib/Shape;)Llib/Gadget;", none⟩,
        ⟨Access.isPublic ||| Access.isBridge, "of", "of", none⟩] with
    interfaces := ["java/lang/Runnable"]
    fields := [⟨Access.isPrivate, "size", "Q", none⟩,
      ⟨Access.isPublic ||| Access.isFinal, "shape", "Llib/Shape;", none⟩,
      ⟨Access.isSynthetic, "outer", "", none⟩] }

def gadget : TypeDefinition :=
  { TypeDefinition.empty "lib.Gadget" .classType with
    superClass := some "java.lang.Object"
    interfaces := ["java.lang.Runnable"]
    fields := [⟨"shape", .object "lib/Shape", false, true⟩]
    methods := [⟨"of", [.array (.array (.primitive .long)), .object "lib/Shape"],
      .object "lib/Gadget", true, []⟩]
    constructors := [⟨[.object "lib/Shape", .array (.primitive .int)]⟩] }

/-- It loads, and it loads as the same definition without the first malformed member. -/
theorem gadget_exact :
    definition gadgetFile .memory = .ok gadget ∧ Represents gadgetFile gadget ∧
      Loadable gadgetFile ∧
      definition { gadgetFile with fields := gadgetFile.fields.drop 1 } .memory = .ok gadget := by
  obtain ⟨represents, loads, kept, -⟩ := definition_exact gadgetFile .memory
  have loaded : definition gadgetFile .memory = .ok gadget := by cbv
  refine ⟨loaded, represents gadget loaded, loads.1 ⟨gadget, loaded⟩, ?_⟩
  exact (kept _ rfl).trans loaded

end Loader

end JvmScope
