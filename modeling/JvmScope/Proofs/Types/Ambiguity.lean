import JvmScope.Proofs.Types.CallDecisions

/-!
# Ambiguous calls

A call that is refused as ambiguous reports all methods it could invoke: the visible ones that
take its arguments, on a value or on the type as the call asks (`candidates_of_ambiguousCall`).

Methods are told apart by their descriptors, return type included. So the descriptors reported
are different ones, but a method that is redeclared with another return type does not hide the
inherited one, and a call of it is ambiguous. `ambiguousCall_params_nodup_iff` says that this is
the only way in which two candidates can have the same parameters.
-/

namespace JvmScope

variable {source : TypeSource (Except TypeError)} {args : List JvmType}

/-! ## Where the failure comes from -/

/-- The source never answers a name with the failure of a call. -/
def TypeSource.NeverAmbiguous (source : TypeSource (Except TypeError)) : Prop :=
  ∀ name owner called candidates,
    source.resolve name ≠ .error (.ambiguousCall owner called candidates)

/-- Tables answer with definitions or not at all. -/
theorem TypeTable.neverAmbiguous (t : TypeTable) :
    (t.source : TypeSource (Except TypeError)).NeverAmbiguous := by
  intro name owner called candidates h
  cases TypeTable.resolve_error h

/-! ## What is reported -/

namespace TypeDefinition

/-- A method that a call could invoke: it is visible, it is called on a value or on the type as
the call asks, and it takes the arguments. -/
structure Callable (source : TypeSource (Except TypeError)) (all : List OwnedMethod)
    (args : List JvmType) (isStatic : Bool) (c : OwnedMethod) : Prop where
  visible : Visible all c
  context : c.method.isStatic = isStatic
  fits : isApplicable source c.method.params args = .ok true

/-- One of the definitions redeclares a method of a farther one with another return type, and a
call could invoke both. -/
def ReturnRedeclared (source : TypeSource (Except TypeError)) (defs : List TypeDefinition)
    (name : String) (args : List JvmType) (isStatic : Bool) : Prop :=
  ∃ near far, [near, far].Sublist defs ∧ ∃ m ∈ near.methods, ∃ n ∈ far.methods,
    m.params = n.params ∧ m.result ≠ n.result ∧
      Callable source (declaredIn name defs) args isStatic ⟨near.qualifiedName, m⟩ ∧
      Callable source (declaredIn name defs) args isStatic ⟨far.qualifiedName, n⟩

/-- No definition declares two methods of one name with the same parameters. -/
def ParamsDistinct (d : TypeDefinition) : Prop :=
  d.methods.Pairwise fun m n => m.name = n.name → m.params ≠ n.params

variable {d : TypeDefinition} {name owner called : String} {isStatic : Bool}
  {descriptors : List String} {supers : List TypeDefinition}

/-- An ambiguous call has seen the whole hierarchy. -/
theorem exists_supertypes_of_ambiguousCall (never : source.NeverAmbiguous)
    (h : d.findMethod source name args isStatic =
      .error (.ambiguousCall owner called descriptors)) :
    ∃ supers, d.allSupertypes source = .ok supers := by
  rcases fitting_of_ambiguousCall h with ⟨methods, hmethods, -⟩ | ⟨other, answered⟩
  · obtain ⟨all, hall, -⟩ := map_ok_iff.1 hmethods
    obtain ⟨supers, hsupers, -⟩ := allSupertypes_of_methodsNamed hall
    exact ⟨supers, hsupers⟩
  · exact absurd answered (never other owner called descriptors)

/-- An ambiguous call reports the methods that it could invoke. -/
theorem candidates_of_ambiguousCall (never : source.NeverAmbiguous)
    (hsupers : d.allSupertypes source = .ok supers)
    (h : d.findMethod source name args isStatic =
      .error (.ambiguousCall owner called descriptors)) :
    ∃ candidates : List OwnedMethod, descriptors = candidates.map (·.method.descriptor) ∧
      descriptors.Nodup ∧ candidates.Sublist (declaredIn name (d :: supers)) ∧
      ∀ c, c ∈ candidates ↔ Callable source (declaredIn name (d :: supers)) args isStatic c := by
  have collects : Collects (declaredIn name (d :: supers)) _ := collects_visibleIn _
  rcases fitting_of_ambiguousCall h with ⟨methods, hmethods, -, reported⟩ | ⟨other, answered⟩
  · obtain ⟨all, hall, rfl⟩ := map_ok_iff.1 hmethods
    rw [methodsNamed_of_allSupertypes hsupers] at hall
    obtain rfl := Except.ok.inj hall
    have listed : (fitting source (·.method.params) args
        ((visibleIn name (d :: supers)).filter (·.method.isStatic == isStatic))).Sublist
          (visibleIn name (d :: supers)) := List.filter_sublist.trans List.filter_sublist
    refine ⟨_, reported, ?_, listed.trans collects.sublist, ?_⟩
    · rw [reported]
      exact (listed.map _).nodup collects.nodup
    · intro c
      rw [mem_fitting_iff, List.mem_filter, collects.mem_iff, beq_iff_eq]
      constructor
      · rintro ⟨⟨visible, context⟩, fits⟩
        exact ⟨visible, context, fits⟩
      · rintro ⟨visible, context, fits⟩
        exact ⟨⟨visible, context⟩, fits⟩
  · exact absurd answered (never other owner called descriptors)

/-! ## Candidates with the same parameters -/

theorem pair_of_sublist_map {α β : Type} {f : α → β} {l : List α} {x y : β}
    (h : [x, y].Sublist (l.map f)) : ∃ a b, [a, b].Sublist l ∧ x = f a ∧ y = f b := by
  obtain ⟨pair, hpair, hmap⟩ := List.sublist_map_iff.1 h
  obtain ⟨a, rest, rfl, hx, hrest⟩ := List.map_eq_cons_iff.1 hmap.symm
  obtain ⟨b, rest, rfl, hy, hnil⟩ := List.map_eq_cons_iff.1 hrest
  obtain rfl := List.map_eq_nil_iff.1 hnil
  exact ⟨a, b, hpair, hx.symm, hy.symm⟩

/-- Two elements that stand one after the other in a list of lists stand so in one of them, or in
two that stand one after the other. -/
theorem pair_of_sublist_flatMap {α β : Type} {f : α → List β} {l : List α} {a b : β}
    (h : [a, b].Sublist (l.flatMap f)) :
    (∃ e ∈ l, [a, b].Sublist (f e)) ∨ ∃ e e', [e, e'].Sublist l ∧ a ∈ f e ∧ b ∈ f e' := by
  induction l with
  | nil => cases h
  | cons e l ih =>
      rw [List.flatMap_cons, List.sublist_append_iff] at h
      obtain ⟨first, last, split, hfirst, hlast⟩ := h
      match first, last, split with
      | [], _, rfl =>
          rcases ih hlast with ⟨e', he', hpair⟩ | ⟨e₁, e₂, hpair, ha, hb⟩
          · exact .inl ⟨e', List.mem_cons_of_mem _ he', hpair⟩
          · exact .inr ⟨e₁, e₂, hpair.cons e, ha, hb⟩
      | [_], _, rfl =>
          obtain ⟨e', he', hb⟩ := List.mem_flatMap.1 (List.singleton_sublist.1 hlast)
          refine .inr ⟨e, e', ?_, List.singleton_sublist.1 hfirst, hb⟩
          exact (List.singleton_sublist.2 he').cons_cons e
      | [_, _], _, rfl => exact .inl ⟨e, List.mem_cons_self, hfirst⟩

/-- Two methods of one name and with the same parameters come from two definitions. -/
theorem owners_of_pair {defs : List TypeDefinition} (single : ∀ e ∈ defs, e.ParamsDistinct)
    {c c' : OwnedMethod} (h : [c, c'].Sublist (declaredIn name defs))
    (same : c.method.params = c'.method.params) :
    ∃ near far, [near, far].Sublist defs ∧ c.method ∈ near.methods ∧ c'.method ∈ far.methods ∧
      c.owner = near.qualifiedName ∧ c'.owner = far.qualifiedName := by
  rcases pair_of_sublist_flatMap h with ⟨e, he, hpair⟩ | ⟨near, far, hpair, hc, hc'⟩
  · -- within one definition their parameters differ
    obtain ⟨m, n, hmethods, rfl, rfl⟩ := pair_of_sublist_map hpair
    have distinct := (single e he).sublist (hmethods.trans List.filter_sublist)
    have hm := (List.mem_filter.1 (hmethods.subset List.mem_cons_self)).2
    have hn := (List.mem_filter.1 (hmethods.subset (.tail _ (.head _)))).2
    have names : m.name = n.name := (beq_iff_eq.1 hm).trans (beq_iff_eq.1 hn).symm
    exact absurd same (List.rel_of_pairwise_cons distinct List.mem_cons_self names)
  · obtain ⟨m, hm, rfl⟩ := List.mem_map.1 hc
    obtain ⟨n, hn, rfl⟩ := List.mem_map.1 hc'
    exact ⟨near, far, hpair, (List.mem_filter.1 hm).1, (List.mem_filter.1 hn).1, rfl, rfl⟩

/-- Let no definition of the hierarchy declare two methods of one name with the same parameters.
The candidates that an ambiguous call reports have different descriptors, and no two of them
have the same parameters, unless a method that the call could invoke is redeclared with another
return type and the call could invoke that one as well. -/
theorem ambiguousCall_params_nodup_iff (never : source.NeverAmbiguous)
    (single : ∀ supers, d.allSupertypes source = .ok supers →
      ∀ e ∈ d :: supers, e.ParamsDistinct)
    (h : d.findMethod source name args isStatic =
      .error (.ambiguousCall owner called descriptors)) :
    ∃ supers, d.allSupertypes source = .ok supers ∧
      ∃ candidates : List OwnedMethod, descriptors = candidates.map (·.method.descriptor) ∧
        descriptors.Nodup ∧
        (∀ c, c ∈ candidates ↔
          Callable source (declaredIn name (d :: supers)) args isStatic c) ∧
        ((candidates.map (·.method.params)).Nodup ↔
          ¬ReturnRedeclared source (d :: supers) name args isStatic) := by
  obtain ⟨supers, hsupers⟩ := exists_supertypes_of_ambiguousCall never h
  obtain ⟨candidates, reported, nodup, sublist, mem_iff⟩ :=
    candidates_of_ambiguousCall never hsupers h
  refine ⟨supers, hsupers, candidates, reported, nodup, mem_iff, ?_, fun none => ?_⟩
  · rintro distinct ⟨near, far, -, m, -, n, -, params, result, hm, hn⟩
    have same := List.inj_on_of_nodup_map distinct ((mem_iff _).2 hm) ((mem_iff _).2 hn) params
    exact result (congrArg (·.method.result) same)
  · refine List.nodup_iff_sublist.2 fun params hparams => none ?_
    obtain ⟨⟨owner, m⟩, ⟨owner', n⟩, hpair, hm, hn⟩ := pair_of_sublist_map hparams
    have same : m.params = n.params := hm.symm.trans hn
    obtain ⟨near, far, hdefs, hnear, hfar, rfl, rfl⟩ :=
      owners_of_pair (single supers hsupers) (hpair.trans sublist) same
    refine ⟨near, far, hdefs, m, hnear, n, hfar, same, fun result => ?_, ?_, ?_⟩
    · -- with one return type they would have one descriptor
      have apart : (candidates.map (·.method.descriptor)).Nodup := reported ▸ nodup
      have pair := apart.sublist (hpair.map (·.method.descriptor))
      refine (List.pairwise_cons.1 pair).1 _ List.mem_cons_self ?_
      show JvmType.methodText m.params m.result = JvmType.methodText n.params n.result
      rw [same, result]
    · exact (mem_iff _).1 (hpair.subset List.mem_cons_self)
    · exact (mem_iff _).1 (hpair.subset (.tail _ (.head _)))

theorem circle_paramsDistinct (supers : List TypeDefinition)
    (h : circle.allSupertypes (copyable.source : TypeSource (Except TypeError)) = .ok supers) :
    ∀ e ∈ circle :: supers, e.ParamsDistinct := by
  obtain rfl := Except.ok.inj (circle_supertypes.symm.trans h)
  unfold ParamsDistinct
  decide

theorem circle_copy_ambiguous :
    circle.findMethod (copyable.source : TypeSource (Except TypeError)) "copy" [] false =
      .error (.ambiguousCall "lib.Circle" "copy" ["()Llib/Circle;", "()Llib/Shape;"]) := by
  unfold findMethod
  rw [circle_copy_methods]
  rfl

theorem circle_copy_candidates :
    ∃ supers, circle.allSupertypes copyable.source = .ok supers ∧
      ∃ candidates : List OwnedMethod,
        ["()Llib/Circle;", "()Llib/Shape;"] = candidates.map (·.method.descriptor) ∧
        ["()Llib/Circle;", "()Llib/Shape;"].Nodup ∧
        (∀ c, c ∈ candidates ↔
          Callable copyable.source (declaredIn "copy" (circle :: supers)) [] false c) ∧
        ((candidates.map (·.method.params)).Nodup ↔
          ¬ReturnRedeclared copyable.source (circle :: supers) "copy" [] false) :=
  ambiguousCall_params_nodup_iff copyable.neverAmbiguous circle_paramsDistinct
    circle_copy_ambiguous

/-- That every definition by itself tells its methods apart by their parameters does not keep two
candidates with the same parameters from being reported. -/
theorem overriding_not_always_hides :
    ¬∀ (t : TypeTable) (d : TypeDefinition) (name : String) (args : List JvmType)
      (isStatic : Bool) (owner called : String) (descriptors : List String),
      (∀ supers, d.allSupertypes (t.source : TypeSource (Except TypeError)) = .ok supers →
        ∀ e ∈ d :: supers, e.ParamsDistinct) →
      d.findMethod (t.source : TypeSource (Except TypeError)) name args isStatic =
        .error (.ambiguousCall owner called descriptors) →
      descriptors.Pairwise fun s t => ∀ params result result',
        s = JvmType.methodText params result → t ≠ JvmType.methodText params result' := by
  intro always
  have apart := always copyable circle "copy" [] false _ _ _ circle_paramsDistinct
    circle_copy_ambiguous
  have first : "()Llib/Circle;" = JvmType.methodText [] (.object "lib/Circle") := by decide +kernel
  have second : "()Llib/Shape;" = JvmType.methodText [] (.object "lib/Shape") := by decide +kernel
  exact List.rel_of_pairwise_cons apart List.mem_cons_self [] _ _ first second

end TypeDefinition

end JvmScope
