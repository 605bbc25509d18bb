import JvmScope.Proofs.Descriptor.ReadingBack
import JvmScope.Proofs.Program.Below
import JvmScope.Proofs.Resolution.Parts
import JvmScope.Proofs.Types.Hiding
import JvmScope.Proofs.Types.Selection

/-!
# What calls and creations resolve to

A callee comes to a method in one of several ways. A name may stand for a function of the file or
for a static member that was imported; an access may be made on a value, on a name that denotes a
type, or on a type as it is written. `Resolver.Receiver` says which type's methods a callee
chooses among, if it does not name a function, and `Resolver.Chooses` which method it comes to,
with the types that the method is declared with. `Resolver.Creates` does the same for creations.

`resolveCall_sound` collects what follows for every call that is resolved: the parameters take
the arguments one by one, the descriptor is written with the declared types, and whether the
method is static is a matter of what the callee looks like (`CalledOnType`). Unless it is a
function of the file, no other method of the name could have been meant, and no other
constructor.
-/

namespace JvmScope

namespace Resolver

variable {r : Resolver} {T : Typing} {callee call : NodeId} {args : List JvmType}
  {target : MethodTarget}

/-! ## Callees -/

/-- The type among whose methods a callee chooses, and the name of the methods. -/
inductive Receiver (r : Resolver) (callee : NodeId) : TypeDefinition → String → Prop
  /-- The name is one under which a static member was imported. -/
  | imported {name member : String} {owner : TypeDefinition}
      (named : r.tree.kind callee = .valueRef name)
      (found : r.scope.findSymbol name callee = .ok (.staticMember owner member)) :
      Receiver r callee owner member
  /-- The subject has a class or interface as its type, or denotes one. -/
  | subject {name : String} {e : NodeId} {d : TypeDefinition} {typeArgs : List TypeUsage}
      (access : r.tree.kind callee = .fieldAccess name) (first : r.subject callee = .ok e)
      (typed : r.typeOf e = .ok (.reference d typeArgs)) : Receiver r callee d name
  /-- The type is written in front of the method's name. -/
  | written {type name : String} {named : TypeTarget} {d : TypeDefinition}
      (access : r.tree.kind callee = .staticFieldAccess type name)
      (denoted : r.scope.lookupType type callee = .ok named)
      (defined : r.definitionOf named = .ok (some d)) : Receiver r callee d name

/-- The method that a callee comes to for the given arguments, with the types of its parameters
and its result. -/
inductive Chooses (r : Resolver) (callee : NodeId) (args : List JvmType) :
    MethodTarget → List JvmType → JvmType → Prop
  /-- A function of the file has the types that are written in its declaration. -/
  | function {name declared : String} {id : NodeId} {type : TypeRef} {params : List JvmType}
      {result : JvmType} (named : r.tree.kind callee = .valueRef name)
      (found : r.scope.findSymbol name callee = .ok (.function id))
      (declaration : r.tree.kind id = .function declared type)
      (formal : List.Forall₂ (fun p t => r.scope.jvmTypeOf p.1 p.2 = .ok t)
        (r.tree.parameterTypes id) params)
      (returned : r.scope.jvmTypeOf id type = .ok result)
      (applies : isApplicable r.source params args = .ok true) :
      Chooses r callee args (.ofSignature (r.functionClass declared) "invoke" params result true)
        params result
  /-- Of the methods of a type, static ones or others, only one takes the arguments. -/
  | method {d : TypeDefinition} {name : String} {methods : List TypeDefinition.OwnedMethod}
      {c : TypeDefinition.OwnedMethod} {isStatic : Bool} (receiver : r.Receiver callee d name)
      (named : d.methodsNamed r.source name = .ok methods)
      (only : OnlyApplicable r.source (·.method.params) args
        (methods.filter (·.method.isStatic == isStatic)) c) :
      Chooses r callee args
        (.ofSignature c.owner c.method.name c.method.params c.method.result isStatic)
        c.method.params c.method.result

namespace Chooses

variable {params : List JvmType} {result : JvmType}

theorem applies (h : r.Chooses callee args target params result) :
    isApplicable r.source params args = .ok true := by
  cases h with
  | function _ _ _ _ _ happlies => exact happlies
  | method _ _ only => exact only.applies

theorem descriptor (h : r.Chooses callee args target params result) :
    target.descriptor = JvmType.methodText params result := by
  cases h with
  | function => rfl
  | method => rfl

end Chooses

/-- Callees for which there is no instance: names, types that are written, and what denotes a
type. -/
def CalledOnType (r : Resolver) (callee : NodeId) : Prop :=
  match r.tree.kind callee with
  | .valueRef _ | .staticFieldAccess _ _ => True
  | .fieldAccess _ => ∃ e, r.subject callee = .ok e ∧ r.denotesType e = .ok true
  | _ => False

/-- The JVM types of parameters are those that are written, one by one. -/
theorem parameterJvmTypes_ok_iff {parameters : List (NodeId × TypeRef)} {ts : List JvmType} :
    r.parameterJvmTypes parameters = .ok ts ↔
      List.Forall₂ (fun p t => r.scope.jvmTypeOf p.1 p.2 = .ok t) parameters ts := by
  induction parameters generalizing ts with
  | nil =>
      simp only [parameterJvmTypes, pure_ok_iff, List.forall₂_nil_left_iff]
      exact eq_comm
  | cons parameter rest ih =>
      simp only [parameterJvmTypes, bind_ok_iff, pure_ok_iff, ih, List.forall₂_cons_left_iff]
      constructor
      · rintro ⟨t, ht, more, hmore, rfl⟩
        exact ⟨t, more, ht, hmore, rfl⟩
      · rintro ⟨t, more, ht, hmore, rfl⟩
        exact ⟨t, ht, more, hmore, rfl⟩

theorem chooses_of_functionTarget {name : String} {id : NodeId} {range : TextRange}
    (named : r.tree.kind callee = .valueRef name)
    (found : r.scope.findSymbol name callee = .ok (.function id))
    (h : r.functionTarget id args range = .ok target) :
    target.isStatic = true ∧ ∃ params result, r.Chooses callee args target params result := by
  unfold functionTarget at h
  split at h
  · rename_i declared type declaration
    obtain ⟨params, hparams, h⟩ := bind_ok_iff.1 h
    obtain ⟨fits, hfits, h⟩ := bind_ok_iff.1 h
    cases fits with
    | false => exact (throw_ok_iff.1 h).elim
    | true =>
        obtain ⟨result, hresult, h⟩ := bind_ok_iff.1 h
        obtain rfl := pure_ok_iff.1 h
        exact ⟨rfl, params, result, .function named found declaration
          (parameterJvmTypes_ok_iff.1 hparams) hresult (atRange_ok_iff.1 hfits)⟩
  · exact (throw_ok_iff.1 h).elim

theorem chooses_of_findMethod {d : TypeDefinition} {name : String} {isStatic : Bool}
    (receiver : r.Receiver callee d name)
    (h : d.findMethod r.source name args isStatic = .ok target) :
    target.isStatic = isStatic ∧ ∃ params result, r.Chooses callee args target params result := by
  obtain ⟨methods, c, hmethods, only, rfl⟩ := TypeDefinition.findMethod_ok_iff.1 h
  exact ⟨rfl, _, _, .method receiver hmethods only⟩

/-- A callee that is resolved has come to a method, which is static exactly if there is no
instance to call it on. The types of other nodes are asked for the type of the subject only. -/
theorem chooses_of_calleeTarget (known : Typing.Extends T r.typeOf) {range : TextRange}
    (h : r.calleeTarget T callee args range = .ok target) :
    (target.isStatic = true ↔ r.CalledOnType callee) ∧
      ∃ params result, r.Chooses callee args target params result := by
  unfold calleeTarget at h
  unfold CalledOnType
  cases hk : r.tree.kind callee with
  | valueRef name =>
      simp only [hk] at h
      obtain ⟨symbol, hsymbol, h⟩ := bind_ok_iff.1 h
      cases symbol with
      | function id =>
          obtain ⟨hstatic, hchooses⟩ := chooses_of_functionTarget hk hsymbol h
          exact ⟨iff_of_true hstatic trivial, hchooses⟩
      | staticMember owner member =>
          obtain ⟨hstatic, hchooses⟩ :=
            chooses_of_findMethod (.imported hk hsymbol) (atRange_ok_iff.1 h)
          exact ⟨iff_of_true hstatic trivial, hchooses⟩
      | parameter | localVar | property => exact (throw_ok_iff.1 h).elim
  | fieldAccess name =>
      simp only [hk] at h
      obtain ⟨e, he, h⟩ := bind_ok_iff.1 h
      obtain ⟨onType, honType, h⟩ := bind_ok_iff.1 h
      obtain ⟨t, ht, h⟩ := bind_ok_iff.1 h
      cases t with
      | reference d typeArgs =>
          obtain ⟨hstatic, hchooses⟩ :=
            chooses_of_findMethod (.subject hk he (known e _ ht)) (atRange_ok_iff.1 h)
          refine ⟨?_, hchooses⟩
          rw [hstatic]
          constructor
          · rintro rfl
            exact ⟨e, he, honType⟩
          · rintro ⟨e', he', honType'⟩
            obtain rfl := Except.ok.inj (he.symm.trans he')
            exact Except.ok.inj (honType.symm.trans honType')
      | _ => exact (throw_ok_iff.1 h).elim
  | staticFieldAccess type name =>
      simp only [hk] at h
      obtain ⟨named, hnamed, h⟩ := bind_ok_iff.1 h
      obtain ⟨definition, hdefinition, h⟩ := bind_ok_iff.1 h
      cases definition with
      | none => exact (throw_ok_iff.1 h).elim
      | some owner =>
          obtain ⟨hstatic, hchooses⟩ :=
            chooses_of_findMethod (.written hk hnamed hdefinition) (atRange_ok_iff.1 h)
          exact ⟨iff_of_true hstatic trivial, hchooses⟩
  | _ =>
      simp only [hk] at h
      exact (throw_ok_iff.1 h).elim

/-! ## Creations -/

/-- The constructor that a creation comes to for the given arguments: the only one that takes
them, of a class. -/
def Creates (r : Resolver) (type : String) (creation : NodeId) (args : List JvmType)
    (target : ConstructorTarget) : Prop :=
  ∃ named d c, r.scope.lookupType type creation = .ok named ∧
    r.definitionOf named = .ok (some d) ∧ d.isInterface = false ∧
    OnlyApplicable r.source Constructor.params args d.constructors c ∧
    target = .ofParams d.qualifiedName c.params

theorem creates_of_constructorTargetBy {type : String} {target : ConstructorTarget}
    (h : r.constructorTargetBy T type call = .ok target) :
    ∃ args, r.argumentTypes T (r.tree.children call) = .ok args ∧
      r.Creates type call args target := by
  obtain ⟨args, hargs, h⟩ := bind_ok_iff.1 h
  obtain ⟨named, hnamed, h⟩ := bind_ok_iff.1 h
  obtain ⟨definition, hdefinition, h⟩ := bind_ok_iff.1 h
  refine ⟨args, hargs, ?_⟩
  cases definition with
  | none => exact (throw_ok_iff.1 h).elim
  | some d =>
      dsimp only at h
      split at h
      · exact (throw_ok_iff.1 h).elim
      · rename_i hclass
        obtain ⟨c, only, rfl⟩ :=
          TypeDefinition.findConstructor_ok_iff.1 (atRange_ok_iff.1 h)
        exact ⟨named, d, c, hnamed, hdefinition, Bool.eq_false_iff.2 hclass, only, rfl⟩

/-! ## Resolved nodes -/

theorem chooses_of_resolveCall (h : r.resolveCall call = .ok (.method target)) :
    ∃ callee es args, r.tree.kind call = .call ∧ r.tree.children call = callee :: es ∧
      r.argumentTypes r.typeOf es = .ok args ∧ (target.isStatic = true ↔ r.CalledOnType callee) ∧
      ∃ params result, r.Chooses callee args target params result := by
  -- arguments are typed with the call in the trail, hence also without any trail
  have known := extends_typeOf r [call]
  obtain ⟨hk, hmethod⟩ := methodTargetBy_of_resolveCall h
  obtain ⟨callee, es, args, hc, hargs, hcallee⟩ := methodTargetBy_ok_iff.1 hmethod
  exact ⟨callee, es, args, hk, hc, argumentTypes_refines known es args hargs,
    chooses_of_calleeTarget known hcallee⟩

theorem creates_of_resolveCall {target : ConstructorTarget}
    (h : r.resolveCall call = .ok (.constructor target)) :
    ∃ type args, r.tree.kind call = .creation type ∧
      r.argumentTypes r.typeOf (r.tree.children call) = .ok args ∧
      r.Creates type call args target := by
  have known := extends_typeOf r [call]
  obtain ⟨type, hk, hconstructor⟩ := constructorTargetBy_of_resolveCall h
  obtain ⟨args, hargs, hcreates⟩ := creates_of_constructorTargetBy hconstructor
  exact ⟨type, args, hk, argumentTypes_refines known _ args hargs, hcreates⟩

/-- A call that is resolved invokes the method that its callee chooses for the types of its
arguments. The parameters accept the arguments one by one, the descriptor is written with the
types of the parameters and the result, and the method is static exactly if the callee has no
instance to call it on. A creation that is resolved invokes the only constructor that takes its
arguments, and creates an instance of a class. -/
theorem resolveCall_sound (r : Resolver) (call : NodeId) :
    (∀ target, r.resolveCall call = .ok (.method target) →
      ∃ callee es args params result, r.tree.kind call = .call ∧
        r.tree.children call = callee :: es ∧
        List.Forall₂ (fun e a => ∃ t, r.typeOf e = .ok t ∧ t.jvmType = .ok a) es args ∧
        r.Chooses callee args target params result ∧
        List.Forall₂ (fun p a => p.accepts r.source a = .ok true) params args ∧
        target.descriptor =
          "(" ++ String.join (params.map JvmType.text) ++ ")" ++ result.text ∧
        (target.isStatic = true ↔ r.CalledOnType callee)) ∧
    ∀ target, r.resolveCall call = .ok (.constructor target) →
      ∃ type args named d c, r.tree.kind call = .creation type ∧
        List.Forall₂ (fun e a => ∃ t, r.typeOf e = .ok t ∧ t.jvmType = .ok a)
          (r.tree.children call) args ∧
        r.scope.lookupType type call = .ok named ∧ r.definitionOf named = .ok (some d) ∧
        d.isInterface = false ∧
        OnlyApplicable r.source Constructor.params args d.constructors c ∧
        target = .ofParams d.qualifiedName c.params := by
  constructor
  · intro target resolved
    obtain ⟨callee, es, args, hk, hc, hargs, hstatic, params, result, hchooses⟩ :=
      chooses_of_resolveCall resolved
    refine ⟨callee, es, args, params, result, hk, hc, argumentTypes_ok_iff.1 hargs, hchooses,
      accepts_of_isApplicable hchooses.applies, ?_, hstatic⟩
    rw [hchooses.descriptor, JvmType.methodText_eq]
  · intro target resolved
    obtain ⟨type, args, hk, hargs, named, d, c, hnamed, hd, hclass, only, rfl⟩ :=
      creates_of_resolveCall resolved
    exact ⟨type, args, named, d, c, hk, argumentTypes_ok_iff.1 hargs, hnamed, hd, hclass, only,
      rfl⟩

/-- A class with two static methods of one name, and a constructor. -/
def maker : TypeDefinition :=
  { TypeDefinition.empty "lib.Maker" .classType with
    methods := [⟨"make", [.primitive .int], .array (.object "lib/Box"), true, []⟩,
      ⟨"make", [.primitive .boolean], .object "lib/Box", true, []⟩]
    constructors := [⟨[]⟩] }

/-- A program that calls one of the methods on the class and creates an instance of it. -/
def makerCall : Resolver where
  tree := .ofListing ""
    [(0, .program "main"), (1, .block), (2, .expressionStatement), (3, .call),
      (4, .fieldAccess "make"), (5, .typeIdentifier "lib.Maker"), (4, .intLiteral 3),
      (2, .expressionStatement), (8, .creation "lib.Maker")]
  classpath := TypeTable.source ⟨[maker]⟩

/-- The first of the two methods, as a call invokes it. -/
def makerTarget : MethodTarget := ⟨"lib/Maker", "make", "(I)[Llib/Box;", true⟩

theorem makerCall_method :
    maker.findMethod makerCall.source "make" [.primitive .int] true = .ok makerTarget := by
  have supers : maker.allSupertypes makerCall.source = .ok [] := by
    show TypeDefinition.walkFrom _ _ _ [] _ = _
    rw [TypeDefinition.walkFrom]
    rfl
  unfold TypeDefinition.findMethod
  rw [TypeDefinition.methodsNamed_of_allSupertypes supers]
  decide +kernel

theorem makerCall_subject : makerCall.typeOfWithin [4] 6 = .ok (.ofDefinition maker) := by
  have named : makerCall.scope.lookupType "lib.Maker" 6 = .ok (.external maker) := by
    decide +kernel
  rw [typeOfWithin, dif_pos (by decide), dif_neg (by decide)]
  exact bind_ok_iff.2 ⟨_, named, rfl⟩

theorem makerCall_resolved : makerCall.resolveCall 4 = .ok (.method makerTarget) := by
  have arguments : makerCall.argumentTypes (makerCall.typeOfWithin [4]) [7] =
      .ok [.primitive .int] := by
    decide +kernel
  have callee : makerCall.calleeTarget (makerCall.typeOfWithin [4]) 5 [.primitive .int]
      (makerCall.tree.range 4) = .ok makerTarget :=
    bind_ok_iff.2 ⟨6, rfl, bind_ok_iff.2 ⟨true, rfl,
      bind_ok_iff.2 ⟨_, makerCall_subject, atRange_ok_iff.2 makerCall_method⟩⟩⟩
  exact bind_ok_iff.2 ⟨(), rfl,
    map_ok_iff.2 ⟨_, bind_ok_iff.2 ⟨_, arguments, callee⟩, rfl⟩⟩

theorem makerCall_sound :
    (∃ callee args params result, makerCall.Chooses callee args makerTarget params result ∧
      List.Forall₂ (fun p a => p.accepts makerCall.source a = .ok true) params args ∧
      makerCall.CalledOnType callee) ∧
    ∃ (d : TypeDefinition) (c : Constructor), d.isInterface = false ∧
      OnlyApplicable makerCall.source Constructor.params [] d.constructors c := by
  obtain ⟨calls, creations⟩ := resolveCall_sound makerCall 4
  obtain ⟨callee, es, args, params, result, -, -, -, chooses, accepted, -, static⟩ :=
    calls makerTarget makerCall_resolved
  refine ⟨⟨callee, args, params, result, chooses, accepted, static.1 rfl⟩, ?_⟩
  have created : makerCall.resolveCall 9 = .ok (.constructor ⟨"lib/Maker", "()V"⟩) := by
    decide +kernel
  obtain ⟨type, args, named, d, c, -, projected, -, -, isClass, only, -⟩ :=
    (resolveCall_sound makerCall 9).2 _ created
  obtain rfl := List.forall₂_nil_left_iff.1 projected
  exact ⟨d, c, isClass, only⟩

end Resolver

end JvmScope
