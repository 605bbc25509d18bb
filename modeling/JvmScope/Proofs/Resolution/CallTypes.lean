import JvmScope.Proofs.Resolution.CallDescriptors

/-!
# Types of calls and what their targets leave

The type of a call is read back from the descriptor of the method that it invokes, with the
resolver's own source, and the type of a creation is looked up a second time beside the
constructor. Code that is generated for either takes what is left on the stack from the target,
and what is done with it from the type.

The two agree (`typeOf_agrees_with_target`) as long as the classpath answers names with
definitions of these names, and writes the names of classes in descriptors with slashes: every
type that a program writes does so anyway (`jvmTypeOf_dotless`), hence every definition does that
a resolver deals with, and `jvmType_of_ofJvmType` applies to what a descriptor says is returned.
-/

namespace JvmScope

/-- The type of what an invocation leaves on the stack: what the method's descriptor states, or
an instance of the constructor's owner. -/
def InvocationTarget.resultType : InvocationTarget → Except TypeError JvmType
  | method target => target.returnType
  | constructor target => .ok (.object target.owner)

/-- The result that a target states is legal, and what it is written with is part of the
descriptor. -/
theorem MethodTarget.legal_of_returnType {target : MethodTarget} {j : JvmType}
    (h : target.returnType = .ok j) :
    Descriptor.IsReturn j ∧ j.chars ⊆ target.descriptor.toList := by
  unfold returnType at h
  split at h
  · rename_i d hread
    cases h
    obtain ⟨htext, -, hresult⟩ := Descriptor.parseMethod_ok_iff.1 hread
    refine ⟨hresult, ?_⟩
    rw [htext]
    intro c hc
    simp [MethodDescriptor.text, JvmType.methodText, hc]
  · cases h

/-- A method descriptor has no dot in it if its types have none. -/
theorem JvmType.dot_notMem_methodText {params : List JvmType} {result : JvmType}
    (hparams : ∀ p ∈ params, p.Dotless) (hresult : result.Dotless) :
    '.' ∉ (methodText params result).toList := by
  simp only [dotless_iff] at hparams hresult
  intro h
  simp only [methodText, String.toList_ofList, List.mem_cons, List.mem_append,
    List.mem_flatMap] at h
  rcases h with h | ⟨p, hp, h⟩ | h | h
  · exact absurd h (by decide)
  · exact hparams p hp h
  · exact absurd h (by decide)
  · exact hresult h

namespace Resolver

variable {r : Resolver}

/-! ## Names with slashes -/

theorem jvmTypeOfTarget_dotless (s : TypeScope) (target : TypeTarget) :
    (s.jvmTypeOfTarget target).Dotless := by
  cases target with
  | primitive | basic => trivial
  | source | external => exact JvmType.dotless_ofDotted _

/-- Whatever names a program uses, the types it writes have them in internal form. -/
theorem jvmTypeOf_dotless {s : TypeScope} {context : NodeId} {type : TypeRef} {j : JvmType}
    (h : s.jvmTypeOf context type = .ok j) : j.Dotless := by
  fun_induction TypeScope.jvmTypeOf s context type generalizing j with
  | case1 name =>
      obtain ⟨target, -, rfl⟩ := map_ok_iff.1 h
      exact jvmTypeOfTarget_dotless s target
  | case2 element ih =>
      obtain ⟨component, hcomponent, h⟩ := bind_ok_iff.1 h
      split at h
      · exact (throw_ok_iff.1 h).elim
      · obtain rfl := pure_ok_iff.1 h
        show component.Dotless
        exact ih hcomponent
  | case3 params result => exact (throw_ok_iff.1 h).elim

/-- If the members of the classpath's definitions name classes with slashes, so do those of all
definitions that are provided. -/
theorem provided_dotless
    (library : ∀ name d, r.classpath.resolve name = .ok (some d) →
      d.Over JvmType.Dotless JvmType.Dotless)
    {d : TypeDefinition} (h : r.Provides d) : d.Over JvmType.Dotless JvmType.Dotless := by
  rcases h with ⟨name, hd⟩ | ⟨id, hd⟩
  · exact library name d hd
  · exact (TypeScope.definitionAt_ok hd).2 JvmType.Dotless fun _ _ _ => jvmTypeOf_dotless

/-- What a call leaves is named with slashes. -/
theorem dotless_of_returnType
    (library : ∀ name d, r.classpath.resolve name = .ok (some d) →
      d.Over JvmType.Dotless JvmType.Dotless)
    {call : NodeId} {target : MethodTarget} (resolved : r.resolveCall call = .ok (.method target))
    {j : JvmType} (h : target.returnType = .ok j) : j.Dotless := by
  obtain ⟨args, -, params, result, htext, hparams, hresult, -⟩ :=
    resolveCall_over (A := JvmType.Dotless) trivial (fun _ _ _ => jvmTypeOf_dotless)
      (fun _ => provided_dotless library) resolved
  have hchars : '.' ∉ target.descriptor.toList := by
    change target.descriptor = _ at htext
    rw [htext]
    exact JvmType.dot_notMem_methodText hparams hresult
  exact JvmType.dotless_iff.2 fun hdot =>
    hchars ((MethodTarget.legal_of_returnType h).2 hdot)

/-! ## Exact answers -/

/-- The types of the file have the names under which they are found, and so the file's source is
exact as far as the classpath is. -/
theorem source_exact (exact : r.classpath.Exact) : r.source.Exact := by
  intro name d h
  obtain ⟨-, ⟨id, hnamed, hd⟩ | ⟨-, hd⟩⟩ := resolve_ok_iff.1 h
  · have declared := (TypeScope.definitionAt_ok hd).1
    exact Option.some.inj (declared.symm.trans (Tree.qualifiedTypeName?_of_typeNamed? hnamed))
  · exact exact name d hd

/-- What has members among the types that names denote is used as the type of its instances. -/
theorem usageOf_of_definitionOf {target : TypeTarget} {d : TypeDefinition}
    (h : r.definitionOf target = .ok (some d)) : r.usageOf target = .ok (.ofDefinition d) := by
  rcases definitionOf_ok_iff.1 h with ⟨id, rfl, hd⟩ | rfl
  · exact map_ok_iff.2 ⟨d, hd, rfl⟩
  · rfl

/-- A creation invokes a constructor of the type that is named. -/
theorem Creates.namedUsage {type : String} {creation : NodeId} {args : List JvmType}
    {target : ConstructorTarget} (h : r.Creates type creation args target) :
    ∃ d, r.namedUsage type creation = .ok (.ofDefinition d) ∧ target.owner = d.internalName := by
  obtain ⟨named, d, c, hnamed, hd, -, -, rfl⟩ := h
  exact ⟨d, bind_ok_iff.2 ⟨named, hnamed, usageOf_of_definitionOf hd⟩, rfl⟩

/-! ## Agreement -/

/-- A call is resolved and typed by way of the same target. -/
theorem methodTarget_of_resolveCall {call : NodeId} {target again : MethodTarget}
    (resolved : r.resolveCall call = .ok (.method target))
    (h : r.methodTargetBy (r.typeOfWithin [call]) call = .ok again) : again = target :=
  Except.ok.inj (h.symm.trans (methodTargetBy_of_resolveCall resolved).2)

/-- Let the classpath be exact and its members name classes with slashes. Then a call or creation
that is resolved and typed has, as a type for the virtual machine, just what its target leaves:
the result that the method's descriptor states, or an instance of the constructor's owner. -/
theorem typeOf_agrees_with_target (r : Resolver) (exact : r.classpath.Exact)
    (library : ∀ name d, r.classpath.resolve name = .ok (some d) →
      d.Over JvmType.Dotless JvmType.Dotless)
    (call : NodeId) (target : InvocationTarget) (t : TypeUsage)
    (resolved : r.resolveCall call = .ok target) (typed : r.typeOf call = .ok t) :
    ∃ j, target.resultType = .ok j ∧ t.jvmType = .ok j := by
  have hstep := (typeOf_ok_iff.1 typed).2
  cases target with
  | method target =>
      obtain ⟨callee, es, args, hk, -⟩ := chooses_of_resolveCall resolved
      simp only [typeOfStep, hk] at hstep
      -- typing resolves the call in the same way, and goes on with the result
      obtain ⟨again, hagain, hstep⟩ := bind_ok_iff.1 hstep
      obtain rfl : again = target := methodTarget_of_resolveCall resolved hagain
      obtain ⟨j, hj, hread⟩ := bind_ok_iff.1 hstep
      have stated : again.returnType = .ok j := atRange_ok_iff.1 hj
      refine ⟨j, stated, ?_⟩
      exact TypeUsage.jvmType_of_ofJvmType (source_exact exact)
        (MethodTarget.legal_of_returnType stated).1 (dotless_of_returnType library resolved stated)
        (atRange_ok_iff.1 hread)
  | constructor target =>
      obtain ⟨type, args, hk, -, creates⟩ := creates_of_resolveCall resolved
      simp only [typeOfStep, hk] at hstep
      obtain ⟨d, hnamed, howner⟩ := creates.namedUsage
      obtain ⟨_, -, hstep⟩ := bind_ok_iff.1 hstep
      obtain rfl := Except.ok.inj (hnamed.symm.trans hstep)
      refine ⟨.object target.owner, rfl, ?_⟩
      rw [howner]
      rfl

/-- A function that makes boxes, and a program that calls it. -/
def boxMaking : Resolver where
  tree := .ofListing "app"
    [(0, .function "make" (.array (.named "lib.Box"))), (1, .parameter "count" (.named "int")),
      (0, .program "main"), (3, .block), (4, .expressionStatement), (5, .call),
      (6, .valueRef "make"), (6, .intLiteral 3)]
  classpath := boxLibrary.source

theorem boxMaking_type :
    ∃ t, boxMaking.typeOf 6 = .ok t ∧ t.jvmType = .ok (.array (.object "lib/Box")) := by
  have resolved : boxMaking.resolveCall 6 =
      .ok (.method ⟨"app/Function_make", "invoke", "(I)[Llib/Box;", true⟩) := by
    decide +kernel
  have shown : TypeUsage.display <$> boxMaking.typeOf 6 = .ok "lib.Box[]" := by decide +kernel
  obtain ⟨t, typed, -⟩ := map_ok_iff.1 shown
  have library : ∀ name d, boxMaking.classpath.resolve name = .ok (some d) →
      d.Over JvmType.Dotless JvmType.Dotless := by
    intro name d h
    have only : d ∈ boxLibrary.types := (TypeTable.mem_of_resolve h).1
    rw [List.mem_singleton.1 only]
    have int : (JvmType.primitive .int).Dotless := trivial
    refine ⟨nofun, nofun, nofun, ?_⟩
    simp [int]
  obtain ⟨j, hj, hproject⟩ := typeOf_agrees_with_target boxMaking (TypeTable.exact _) library
    6 _ t resolved typed
  have stated : MethodTarget.returnType
      ⟨"app/Function_make", "invoke", "(I)[Llib/Box;", true⟩ =
        .ok (.array (.object "lib/Box")) := by
    decide +kernel
  obtain rfl := Except.ok.inj (stated.symm.trans hj)
  exact ⟨t, typed, hproject⟩

end Resolver

end JvmScope
