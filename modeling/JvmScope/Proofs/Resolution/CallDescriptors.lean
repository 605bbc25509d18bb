import JvmScope.Proofs.Descriptor.MethodType
import JvmScope.Proofs.Program.Below
import JvmScope.Proofs.QualifiedName
import JvmScope.Proofs.Resolution.CallResolution
import JvmScope.Proofs.Resolution.Provenance
import JvmScope.Proofs.Types.Erasure

/-!
# Descriptors of invocation targets

The descriptor of what a call or creation invokes is put together from types that the program
writes and types of the classpath. `resolveCall_over` finds these types again: whatever property
all written types and all members of the classpath have, the parameters and the result have, and
the parameters take the arguments one by one.

Two things can make such a descriptor illegal although the classpath is in order: a parameter
that is written `void`, and takes an argument of type `void`; and a class whose name does not fit
into a descriptor. `resolveCall_descriptor_iff` says that there is no third, and that the second
is out of the question where the names of types are qualified names.
`descriptors_not_always_legal` is a program where the first happens.
-/

namespace JvmScope

/-- The descriptor of what a call or creation invokes. -/
def InvocationTarget.descriptor : InvocationTarget → String
  | method target => target.descriptor
  | constructor target => target.descriptor

/-- The members have types of the descriptor grammar, `void` only as a result. -/
def TypeDefinition.Grammatical (d : TypeDefinition) : Prop :=
  d.Over Descriptor.IsField Descriptor.IsReturn

/-- What relates two lists one by one carries over what it carries over between elements. -/
theorem forall_mem_iff_of_forall₂ {α β : Type} {R : α → β → Prop} {P : α → Prop} {Q : β → Prop}
    {l : List α} {m : List β} (h : List.Forall₂ R l m) (each : ∀ a b, R a b → (P a ↔ Q b)) :
    (∀ a ∈ l, P a) ↔ ∀ b ∈ m, Q b := by
  induction h with
  | nil => simp
  | cons hab _ ih => simp [each _ _ hab, ih]

namespace Resolver

variable {r : Resolver} {A : JvmType → Prop} {T : Typing}

/-! ## Targets -/

/-- The parameters have the property and take the arguments, and the result has it too. -/
def OverFor (r : Resolver) (A : JvmType → Prop) (args : List JvmType) (descriptor : String) :
    Prop :=
  ∃ params result, descriptor = JvmType.methodText params result ∧ (∀ p ∈ params, A p) ∧
    A result ∧ isApplicable r.source params args = .ok true

/-- The type whose methods a callee chooses among is provided. -/
theorem Receiver.provides {callee : NodeId} {d : TypeDefinition} {name : String}
    (h : r.Receiver callee d name) : r.Provides d := by
  cases h with
  | imported _ found => exact provides_of_findSymbol found
  | subject _ _ typed => exact backed_of_typeOfWithin typed d _ rfl
  | written _ denoted defined => exact provides_of_definitionOf denoted defined

/-- A method that is chosen is declared with written types, or by a definition that is
provided. -/
theorem Chooses.over (written : ∀ context type t, r.scope.jvmTypeOf context type = .ok t → A t)
    (provided : ∀ d, r.Provides d → d.Over A A) {callee : NodeId} {args params : List JvmType}
    {result : JvmType} {target : MethodTarget}
    (h : r.Chooses callee args target params result) : (∀ p ∈ params, A p) ∧ A result := by
  cases h with
  | function _ _ _ formal returned =>
      refine ⟨?_, written _ _ _ returned⟩
      have each := formal.flip.imp fun t p ht => And.intro (written _ _ _ ht) ht
      exact ((List.forall₂_and_left params _).1 each).1
  | method receiver named only =>
      -- a candidate may be inherited: it is declared by some definition of the hierarchy
      obtain ⟨e, he, hmethod⟩ := TypeDefinition.declared_of_methodsNamed
        (fun _ e he => provided e (provides_of_resolve he)) (provided _ receiver.provides) named _
        (List.mem_filter.1 only.mem).1
      exact ⟨he.params _ hmethod, he.results _ hmethod⟩

theorem Creates.over (void : A (.primitive .void)) (provided : ∀ d, r.Provides d → d.Over A A)
    {type : String} {creation : NodeId} {args : List JvmType} {target : ConstructorTarget}
    (h : r.Creates type creation args target) : r.OverFor A args target.descriptor := by
  obtain ⟨named, d, c, hnamed, hd, -, only, rfl⟩ := h
  have own := provided d (provides_of_definitionOf hnamed hd)
  exact ⟨c.params, .primitive .void, rfl, own.created c only.mem, void, only.applies⟩

/-- What all written types and all provided definitions have, the types in the descriptor of
what is invoked have, whose parameters take the arguments. -/
theorem resolveCall_over (void : A (.primitive .void))
    (written : ∀ context type t, r.scope.jvmTypeOf context type = .ok t → A t)
    (provided : ∀ d, r.Provides d → d.Over A A) {call : NodeId} {target : InvocationTarget}
    (h : r.resolveCall call = .ok target) :
    ∃ args, r.argumentTypes r.typeOf (r.tree.arguments call) = .ok args ∧
      r.OverFor A args target.descriptor := by
  unfold Tree.arguments
  cases target with
  | method target =>
      obtain ⟨callee, es, args, hk, hc, hargs, -, params, result, chooses⟩ :=
        chooses_of_resolveCall h
      obtain ⟨hparams, hresult⟩ := chooses.over written provided
      rw [hk, hc]
      exact ⟨args, hargs, params, result, chooses.descriptor, hparams, hresult, chooses.applies⟩
  | constructor target =>
      obtain ⟨type, args, hk, hargs, creates⟩ := creates_of_resolveCall h
      rw [hk]
      exact ⟨args, hargs, creates.over void provided⟩

/-! ## Written types -/

/-- The namespace of the file and the names of all types at hand are qualified names. -/
structure ValidNames (r : Resolver) : Prop where
  space : r.tree.space = "" ∨ QualifiedName.isValid r.tree.space = true
  declared : ∀ id name, r.tree.kind id = .typeDecl name → QualifiedName.isValid name = true
  library : ∀ name d, r.classpath.resolve name = .ok (some d) →
    QualifiedName.isValid d.qualifiedName = true

/-- What written types and members of a classpath that is in order have in common. A type with
this property can only fail to be legal by being `void`, or by an invalid name. -/
def Presentable (r : Resolver) (t : JvmType) : Prop :=
  t.NoVoidArray ∧ (r.ValidNames → t.Spellable)

theorem presentable_void (r : Resolver) : r.Presentable (.primitive .void) :=
  ⟨trivial, fun _ => trivial⟩

theorem spellable_of_isValid {name : String} (h : QualifiedName.isValid name = true) :
    (JvmType.ofDotted name).Spellable := QualifiedName.fits_of_isValid h

theorem jvmTypeOfTarget_presentable {trail : List NodeId} {name : String} {context : NodeId}
    {target : TypeTarget} (h : (r.scopeWithin trail).lookupType name context = .ok target) :
    r.Presentable ((r.scopeWithin trail).jvmTypeOfTarget target) := by
  cases target with
  | primitive | basic => exact ⟨trivial, fun _ => trivial⟩
  | source id =>
      obtain ⟨declared, hk⟩ := TypeScope.kind_of_source h
      have hname : r.tree.qualifiedTypeName? id = some (r.tree.qualify declared) :=
        Tree.qualifiedTypeName?_some_iff.2 ⟨declared, hk, rfl⟩
      refine ⟨trivial, ?_⟩
      intro valid
      show (JvmType.ofDotted ((r.tree.qualifiedTypeName? id).getD "")).Spellable
      rw [hname]
      exact spellable_of_isValid
        (QualifiedName.isValid_qualify valid.space (valid.declared id declared hk))
  | external d =>
      obtain ⟨full, hd⟩ := TypeScope.resolve_of_external h
      refine ⟨trivial, ?_⟩
      intro valid
      exact spellable_of_isValid (valid.library full d hd)

/-- Written types with arrays of `void` in them have no JVM type. -/
theorem jvmTypeOf_presentable {trail : List NodeId} {context : NodeId} {type : TypeRef} {j : JvmType}
    (h : (r.scopeWithin trail).jvmTypeOf context type = .ok j) :
    r.Presentable j := by
  fun_induction TypeScope.jvmTypeOf (r.scopeWithin trail) context type generalizing j with
  | case1 name =>
      obtain ⟨target, htarget, rfl⟩ := map_ok_iff.1 h
      exact jvmTypeOfTarget_presentable htarget
  | case2 element ih =>
      obtain ⟨component, hcomponent, h⟩ := bind_ok_iff.1 h
      obtain ⟨harray, hname⟩ := ih hcomponent
      split at h
      · exact (throw_ok_iff.1 h).elim
      · rename_i notVoid
        obtain rfl := pure_ok_iff.1 h
        refine ⟨⟨?_, harray⟩, hname⟩
        rintro rfl
        exact notVoid rfl
  | case3 params result => exact (throw_ok_iff.1 h).elim

/-- The members of a definition that is provided have presentable types, the `void` parameters
of the file's own methods included. -/
theorem provided_presentable
    (library : ∀ name d, r.classpath.resolve name = .ok (some d) → d.Grammatical)
    {d : TypeDefinition} (h : r.Provides d) : d.Over r.Presentable r.Presentable := by
  rcases h with ⟨name, hd⟩ | ⟨id, hd⟩
  · refine (library name d hd).mono ?_ ?_
    · intro t ht
      obtain ⟨-, harray, hname⟩ := Descriptor.isField_iff.1 ht
      exact ⟨harray, fun _ => hname⟩
    · intro t ht
      obtain ⟨harray, hname⟩ := Descriptor.isReturn_iff.1 ht
      exact ⟨harray, fun _ => hname⟩
  · exact (TypeScope.definitionAt_ok hd).2 r.Presentable fun _ _ _ => jvmTypeOf_presentable

/-! ## Legal descriptors -/

/-- No argument has the type `void` exactly if no parameter has. -/
theorem void_argument_iff {es : List NodeId} {args params : List JvmType}
    (hargs : r.argumentTypes T es = .ok args)
    (hfits : isApplicable r.source params args = .ok true) :
    (∀ e ∈ es, T e ≠ .ok .void) ↔ ∀ p ∈ params, p ≠ .primitive .void := by
  -- the projections of the arguments stand between the arguments and the parameters
  have hprojected : (∀ e ∈ es, T e ≠ .ok .void) ↔ ∀ a ∈ args, a ≠ .primitive .void := by
    refine forall_mem_iff_of_forall₂ (argumentTypes_ok_iff.1 hargs) ?_
    rintro e a ⟨t, ht, ha⟩
    refine not_congr ?_
    rw [ht, Except.ok.injEq]
    exact TypeUsage.jvmType_void ha
  have haccepted : (∀ p ∈ params, p ≠ .primitive .void) ↔ ∀ a ∈ args, a ≠ .primitive .void := by
    refine forall_mem_iff_of_forall₂ (accepts_of_isApplicable hfits) ?_
    intro p a h
    exact not_congr (JvmType.accepts_void h)
  rw [hprojected, haccepted]

/-- Let the members of the classpath have types of the descriptor grammar. Then the descriptor
of what a call or creation invokes is made of as many parameters as there are arguments, and it
is legal, with that number of parameters, exactly when no argument has the type `void` and the
names of the classes in it fit into a descriptor. They do if the names of all types are
qualified names. -/
theorem resolveCall_descriptor_iff (r : Resolver)
    (library : ∀ name d, r.classpath.resolve name = .ok (some d) → d.Grammatical) (call : NodeId)
    (target : InvocationTarget) (resolved : r.resolveCall call = .ok target) :
    ∃ params result, target.descriptor = JvmType.methodText params result ∧
      params.length = (r.tree.arguments call).length ∧
      ((∃ d, Descriptor.parseMethod target.descriptor = .ok d ∧
          d.params.length = (r.tree.arguments call).length) ↔
        (∀ e ∈ r.tree.arguments call, r.typeOf e ≠ .ok .void) ∧
          ∀ t ∈ result :: params, t.Spellable) ∧
      (r.ValidNames → ∀ t ∈ result :: params, t.Spellable) := by
  obtain ⟨args, hargs, params, result, htext, hparams, hresult, hfits⟩ :=
    resolveCall_over (presentable_void r) (fun _ _ _ => jvmTypeOf_presentable)
      (fun _ => provided_presentable library) resolved
  have hlength : params.length = (r.tree.arguments call).length := by
    have typed := (argumentTypes_ok_iff.1 hargs).length_eq
    have accepted := (accepts_of_isApplicable hfits).length_eq
    exact accepted.trans typed.symm
  have hvoid := void_argument_iff hargs hfits
  refine ⟨params, result, htext, hlength, ?_, fun valid t ht => ?_⟩
  · rw [htext, ← hlength, Descriptor.parseMethod_methodText_iff, hvoid]
    simp only [Descriptor.isField_iff, Descriptor.isReturn_iff, List.forall_mem_cons]
    constructor
    · rintro ⟨hfields, hreturn⟩
      exact ⟨fun p hp => (hfields p hp).1, hreturn.2, fun p hp => (hfields p hp).2.2⟩
    · rintro ⟨hnone, hname, hnames⟩
      exact ⟨fun p hp => ⟨hnone p hp, (hparams p hp).1, hnames p hp⟩, hresult.1, hname⟩
  · rcases List.mem_cons.1 ht with rfl | ht
    · exact hresult.2 valid
    · exact (hparams t ht).2 valid

/-- A class with a constructor of an `int`. -/
def boxLibrary : TypeTable :=
  .ofList [{ TypeDefinition.empty "lib.Box" .classType with
    constructors := [⟨[.primitive .int]⟩] }]

/-- A file that declares a type, and a program that creates an instance of the library's class. -/
def libraryCreation : Resolver where
  tree := .ofListing "app"
    [(0, .typeDecl "Unused"), (0, .program "main"), (2, .block), (3, .expressionStatement),
      (4, .creation "lib.Box"), (5, .intLiteral 1)]
  classpath := boxLibrary.source

theorem libraryCreation_descriptor :
    ∃ target, libraryCreation.resolveCall 5 = .ok target ∧
      ∃ d, Descriptor.parseMethod target.descriptor = .ok d ∧ d.params.length = 1 := by
  have resolved : libraryCreation.resolveCall 5 =
      .ok (.constructor ⟨"lib/Box", "(I)V"⟩) := by
    decide +kernel
  have entry : ∀ name d, libraryCreation.classpath.resolve name = .ok (some d) →
      d ∈ boxLibrary.types := fun _ _ h => (TypeTable.mem_of_resolve h).1
  have library : ∀ name d, libraryCreation.classpath.resolve name = .ok (some d) →
      d.Grammatical := by
    intro name d h
    rw [List.mem_singleton.1 (entry name d h)]
    have int : Descriptor.IsField (.primitive .int) := nofun
    refine ⟨nofun, nofun, nofun, ?_⟩
    simp [int]
  have valid : libraryCreation.ValidNames := by
    refine ⟨.inr (by decide +kernel), fun id name hk => ?_, fun name d h => ?_⟩
    · have only : ∀ c < libraryCreation.tree.size,
          (libraryCreation.tree.kind c).isTypeDecl = true → c = 1 := by
        decide +kernel
      rw [(Tree.eq_of_only_typeDecl only rfl hk).2]
      decide +kernel
    · rw [List.mem_singleton.1 (entry name d h)]
      decide +kernel
  have arguments : libraryCreation.tree.arguments 5 = [6] := by decide +kernel
  obtain ⟨params, result, -, -, legal, spellable⟩ :=
    resolveCall_descriptor_iff libraryCreation library 5 _ resolved
  rw [arguments] at legal
  refine ⟨_, resolved, legal.2 ⟨?_, spellable valid⟩⟩
  intro e he hvoid
  rw [List.mem_singleton.1 he] at hvoid
  have int : (libraryCreation.typeOf 6).map TypeUsage.isVoid = .ok false := by decide +kernel
  rw [hvoid] at int
  exact absurd int (by decide)

/-- A function `f` with a parameter of type `void`, a function `g` that returns nothing, and a
program that calls `f(g())`. -/
def voidParameter : Resolver where
  tree := .ofListing "app"
    [(0, .function "f" (.named "int")), (1, .parameter "x" (.named "void")),
      (0, .function "g" (.named "void")), (0, .program "main"), (4, .block),
      (5, .expressionStatement), (6, .call), (7, .valueRef "f"), (7, .call), (9, .valueRef "g")]
  classpath := TypeTable.empty.source

/-- That the namespace is a name and the classpath is in order does not make every descriptor
legal. -/
theorem descriptors_not_always_legal :
    ¬∀ (r : Resolver) (call : NodeId) (target : InvocationTarget),
      r.tree.space = "" ∨ QualifiedName.isValid r.tree.space = true →
      (∀ name d, r.classpath.resolve name = .ok (some d) → d.Grammatical) →
      r.resolveCall call = .ok target →
      ∃ d, Descriptor.parseMethod target.descriptor = .ok d ∧
        d.params.length = (r.tree.arguments call).length := by
  intro always
  have resolved : voidParameter.resolveCall 7 =
      .ok (.method ⟨"app/Function_f", "invoke", "(V)I", true⟩) := by
    decide +kernel
  have library : ∀ name d, voidParameter.classpath.resolve name = .ok (some d) →
      d.Grammatical := fun _ _ h => absurd (TypeTable.mem_of_resolve h).1 List.not_mem_nil
  obtain ⟨d, hd, -⟩ := always voidParameter 7 _ (.inr (by decide +kernel)) library resolved
  have refused : Descriptor.parseMethod "(V)I" = .error (.invalidDescriptor "(V)I") := by
    decide +kernel
  cases refused.symm.trans hd

end Resolver

end JvmScope
