import JvmScope.Descriptor.Parser

/-!
# Method descriptors

The reader of method descriptors accepts exactly the texts of legal ones
(`parseMethod_ok_iff`): every parameter is a field type, and the result is one or `void`.

A text put together from types that are not legal is not always refused, since a class name may
hold a `;` and the text after it may read as further types. But then the number of parameters is
wrong: `parameters_of_text_eq` says that a legal reading has at least as many parameters as
there were types, and as many only if it consists of these very types.
-/

namespace JvmScope

namespace JvmType

/-- Not an array of `void`, nor an array of such arrays. -/
def NoVoidArray : JvmType → Prop
  | array component => component ≠ .primitive .void ∧ component.NoVoidArray
  | _ => True

/-- The class that the type names, if it names one, has a name that a `;` can end. -/
def Spellable : JvmType → Prop
  | primitive _ => True
  | object name => name ≠ "" ∧ ';' ∉ name.toList
  | array component => component.Spellable

end JvmType

namespace Descriptor

/-- Three things can be wrong with the type of a parameter. -/
theorem isField_iff {t : JvmType} :
    IsField t ↔ t ≠ .primitive .void ∧ t.NoVoidArray ∧ t.Spellable := by
  induction t with
  | primitive k => simp [IsField, JvmType.NoVoidArray, JvmType.Spellable]
  | object name => simp [IsField, JvmType.NoVoidArray, JvmType.Spellable]
  | array component ih =>
      simp only [IsField, JvmType.NoVoidArray, JvmType.Spellable, ih]
      constructor
      · rintro ⟨hvoid, harray, hname⟩
        exact ⟨nofun, ⟨hvoid, harray⟩, hname⟩
      · rintro ⟨-, ⟨hvoid, harray⟩, hname⟩
        exact ⟨hvoid, harray, hname⟩

/-- Types that a method may return. -/
def IsReturn (t : JvmType) : Prop := t = .primitive .void ∨ IsField t

theorem isReturn_iff {t : JvmType} : IsReturn t ↔ t.NoVoidArray ∧ t.Spellable := by
  unfold IsReturn
  rw [isField_iff]
  by_cases hvoid : t = .primitive .void
  · subst hvoid
    simp [JvmType.NoVoidArray, JvmType.Spellable]
  · simp [hvoid]

/-! ## Single types -/

/-- What is read is a field type. -/
theorem isField_of_fieldType? {cs after : List Char} {t : JvmType}
    (h : fieldType? cs = some (t, after)) : IsField t := by
  fun_induction fieldType? cs generalizing t with
  | case1 => cases h
  | case2 rest ih =>
      obtain ⟨⟨u, after'⟩, hu, he⟩ := Option.map_eq_some_iff.1 h
      obtain ⟨rfl, rfl⟩ := Prod.mk.inj he
      show IsField u
      exact ih hu
  | case3 rest c name d after' hdrop htake =>
      obtain ⟨rfl, rfl⟩ := Prod.mk.inj (Option.some.inj h)
      have hall : ∀ x ∈ c :: name, (x != ';') = true := by
        rw [← htake]
        exact List.all_eq_true.1 List.all_takeWhile
      refine ⟨fun hempty => ?_, fun hmem => ?_⟩
      · have := congrArg String.toList hempty
        simp at this
      · rw [String.toList_ofList] at hmem
        simpa using hall _ hmem
  | case4 => cases h
  | case5 c rest hbracket hclass =>
      obtain ⟨k, hk, he⟩ := Option.map_eq_some_iff.1 h
      obtain ⟨rfl, rfl⟩ := Prod.mk.inj he
      exact (Primitive.ofFieldCode?_eq_some.1 hk).2

/-- The text of a type does not start like the end of a parameter list. -/
theorem chars_ne_close (t : JvmType) (cs after : List Char) : t.chars ++ cs ≠ ')' :: after := by
  cases t with
  | primitive k => cases k <;> simp [JvmType.chars, Primitive.code]
  | object => simp [JvmType.chars]
  | array => simp [JvmType.chars]

/-- A `;` can only end the text of a field type. -/
theorem eq_nil_of_chars_eq {t : JvmType} (ht : IsField t) {front back : List Char}
    (h : t.chars = front ++ ';' :: back) : back = [] := by
  induction t generalizing front with
  | primitive k =>
      cases k <;> cases front <;> simp [JvmType.chars, Primitive.code] at h
  | object name =>
      cases front with
      | nil => simp [JvmType.chars] at h
      | cons c front =>
          simp only [JvmType.chars, List.cons_append, List.cons.injEq] at h
          rcases List.append_eq_append_iff.1 h.2 with ⟨rest, hrest, hlast⟩ | ⟨rest, hrest, hlast⟩
          · -- the `;` is the last character or comes after it
            cases rest with
            | nil => simpa using hlast
            | cons d rest => simp at hlast
          · cases rest with
            | nil => simpa using hlast.symm
            | cons d rest =>
                simp only [List.cons_append, List.cons.injEq] at hlast
                refine absurd ?_ ht.2
                rw [hrest, ← hlast.1]
                simp
  | array component ih =>
      cases front with
      | nil => simp [JvmType.chars] at h
      | cons c front =>
          simp only [JvmType.chars, List.cons_append, List.cons.injEq] at h
          exact ih ht h.2

/-! ## Lists of parameters -/

theorem parameters?_close (rest : List Char) : parameters? (')' :: rest) = some ([], rest) := by
  rw [parameters?]

theorem parameters?_cons {t : JvmType} (ht : IsField t) (after : List Char) :
    parameters? (t.chars ++ after) =
      (parameters? after).map fun (ts, rest) => (t :: ts, rest) := by
  rw [parameters?.eq_2 _ fun rest h => chars_ne_close t after rest h]
  split
  · rename_i h
    rw [fieldType?_chars ht] at h
    cases h
  · rename_i u after' h
    rw [fieldType?_chars ht] at h
    obtain ⟨rfl, rfl⟩ := Prod.mk.inj (Option.some.inj h)
    rfl

/-- Field types written one after the other and closed are read back. -/
theorem parameters?_text {ts : List JvmType} (h : ∀ t ∈ ts, IsField t) (rest : List Char) :
    parameters? (ts.flatMap JvmType.chars ++ ')' :: rest) = some (ts, rest) := by
  induction ts with
  | nil => exact parameters?_close rest
  | cons t ts ih =>
      rw [List.flatMap_cons, List.append_assoc, parameters?_cons (h t List.mem_cons_self),
        ih fun u hu => h u (List.mem_cons_of_mem _ hu)]
      rfl

/-- What is read as parameters are field types written one after the other and closed. -/
theorem text_of_parameters? {cs rest : List Char} {ts : List JvmType}
    (h : parameters? cs = some (ts, rest)) :
    cs = ts.flatMap JvmType.chars ++ ')' :: rest ∧ ∀ t ∈ ts, IsField t := by
  fun_induction parameters? cs generalizing ts with
  | case1 after =>
      obtain ⟨rfl, rfl⟩ := Prod.mk.inj (Option.some.inj h)
      exact ⟨rfl, fun _ ht => absurd ht List.not_mem_nil⟩
  | case2 => cases h
  | case3 cs _ t after hread _ ih =>
      obtain ⟨⟨us, rest'⟩, hmore, he⟩ := Option.map_eq_some_iff.1 h
      obtain ⟨rfl, rfl⟩ := Prod.mk.inj he
      obtain ⟨hafter, hus⟩ := ih hmore
      refine ⟨?_, fun u hu => ?_⟩
      · rw [eq_of_fieldType? hread, hafter, List.flatMap_cons, List.append_assoc]
      · rcases List.mem_cons.1 hu with rfl | hu
        · exact isField_of_fieldType? hread
        · exact hus u hu

/-! ## Results -/

theorem returnType?_text {t : JvmType} (ht : IsReturn t) (after : List Char) :
    returnType? (t.chars ++ after) = some (t, after) := by
  rcases ht with rfl | ht
  · rfl
  · have notVoid : ∀ rest, t.chars ++ after ≠ 'V' :: rest := by
      cases t with
      | primitive k => cases k <;> simp_all [JvmType.chars, Primitive.code, IsField]
      | object => simp [JvmType.chars]
      | array => simp [JvmType.chars]
    rw [returnType?.eq_2 _ fun rest h => notVoid rest h]
    exact fieldType?_chars ht after

theorem text_of_returnType? {cs after : List Char} {t : JvmType}
    (h : returnType? cs = some (t, after)) : cs = t.chars ++ after ∧ IsReturn t := by
  unfold returnType? at h
  split at h
  · obtain ⟨rfl, rfl⟩ := Prod.mk.inj (Option.some.inj h)
    exact ⟨rfl, .inl rfl⟩
  · exact ⟨eq_of_fieldType? h, .inr (isField_of_fieldType? h)⟩

/-! ## Whole descriptors -/

/-- Exactly the texts of field types are read, as what they are the text of. -/
theorem parseField_ok_iff {text : String} {t : JvmType} :
    parseField text = .ok t ↔ text = t.text ∧ IsField t := by
  unfold parseField whole
  constructor
  · intro h
    split at h
    · rename_i read hread
      obtain rfl := Except.ok.inj h
      refine ⟨String.toList_injective ?_, isField_of_fieldType? hread⟩
      rw [eq_of_fieldType? hread, List.append_nil, JvmType.toList_text]
    · cases h
  · rintro ⟨rfl, ht⟩
    have hread := fieldType?_chars ht []
    rw [List.append_nil] at hread
    rw [JvmType.toList_text, hread]

/-- The parameters are field types and the result is one or `void`. -/
def IsMethod (d : MethodDescriptor) : Prop := (∀ t ∈ d.params, IsField t) ∧ IsReturn d.result

/-- Exactly the texts of legal descriptors are read, as what they are the text of. -/
theorem parseMethod_ok_iff {text : String} {d : MethodDescriptor} :
    parseMethod text = .ok d ↔ text = d.text ∧ IsMethod d := by
  unfold parseMethod whole
  constructor
  · intro h
    split at h
    · rename_i read hread
      obtain rfl := Except.ok.inj h
      unfold methodType? at hread
      split at hread
      · rename_i rest htext
        simp only [Option.bind_eq_bind, Option.bind_eq_some_iff, Option.pure_def,
          Option.some.injEq, Prod.mk.injEq, Prod.exists] at hread
        obtain ⟨ts, afterParams, hparams, t, after, hresult, rfl, rfl⟩ := hread
        obtain ⟨hrest, hts⟩ := text_of_parameters? hparams
        obtain ⟨hafter, ht⟩ := text_of_returnType? hresult
        refine ⟨String.toList_injective ?_, hts, ht⟩
        rw [htext, hrest, hafter]
        simp [MethodDescriptor.text, JvmType.methodText]
      · cases hread
    · cases h
  · rintro ⟨rfl, hparams, hresult⟩
    have hread : methodType? d.text.toList = some (d, []) := by
      have hback := returnType?_text hresult []
      rw [List.append_nil] at hback
      simp only [MethodDescriptor.text, JvmType.methodText, String.toList_ofList, methodType?]
      rw [parameters?_text hparams]
      simp [hback]
    rw [hread]

/-! ## Texts of arbitrary types -/

/-- Where a field type is read off the text of a type that is none, reading stops at a `;`
inside of it, and its own last `;` is still to come. -/
theorem exists_of_not_isField {t p : JvmType} (ht : IsField t) (hp : ¬IsField p)
    {A B : List Char} (h : t.chars ++ A = p.chars ++ B) : ∃ x, A = x ++ ';' :: B := by
  induction p generalizing t with
  | primitive k =>
      have hk : k = .void := Decidable.not_not.1 hp
      subst hk
      cases t with
      | primitive j => cases j <;> simp_all [JvmType.chars, Primitive.code, IsField]
      | object => simp [JvmType.chars, Primitive.code] at h
      | array => simp [JvmType.chars, Primitive.code] at h
  | object name =>
      cases t with
      | primitive j => cases j <;> simp [JvmType.chars, Primitive.code] at h
      | array => simp [JvmType.chars] at h
      | object m =>
          simp only [JvmType.chars, List.cons_append, List.append_assoc, List.cons.injEq,
            true_and, List.nil_append] at h
          rcases List.append_eq_append_iff.1 h with ⟨y, hname, hA⟩ | ⟨y, hm, hB⟩
          · cases y with
            | nil =>
                refine absurd ?_ hp
                rw [List.append_nil] at hname
                rw [String.toList_injective hname]
                exact ht
            | cons c y =>
                simp only [List.cons_append, List.cons.injEq] at hA
                exact ⟨y, hA.2⟩
          · cases y with
            | nil =>
                refine absurd ?_ hp
                rw [List.append_nil] at hm
                rw [← String.toList_injective hm]
                exact ht
            | cons c y =>
                simp only [List.cons_append, List.cons.injEq] at hB
                refine absurd ?_ ht.2
                rw [hm, ← hB.1]
                simp
  | array c ih =>
      cases t with
      | primitive j => cases j <;> simp [JvmType.chars, Primitive.code] at h
      | object => simp [JvmType.chars] at h
      | array u =>
          simp only [JvmType.chars, List.cons_append, List.cons.injEq, true_and] at h
          exact ih (t := u) ht hp h

/-- Where the text of legal parameters and result goes on with `B` after some `;`, a part of
these parameters, at least one fewer if there is anything before the `;`, makes up `B`. -/
theorem exists_params_of_text_eq {ts : List JvmType} {r : JvmType} (hts : ∀ t ∈ ts, IsField t)
    (hr : IsReturn r) {x B : List Char} (hB : B ≠ [])
    (h : ts.flatMap JvmType.chars ++ ')' :: r.chars = x ++ ';' :: B) :
    ∃ us : List JvmType, us.length < ts.length ∧ (∀ u ∈ us, IsField u) ∧
      us.flatMap JvmType.chars ++ ')' :: r.chars = B := by
  induction ts generalizing x with
  | nil =>
      exfalso
      cases x with
      | nil => simp at h
      | cons c x =>
          simp only [List.flatMap_nil, List.nil_append, List.cons_append, List.cons.injEq] at h
          rcases hr with rfl | hr
          · cases x <;> simp [JvmType.chars, Primitive.code] at h
          · exact hB (eq_nil_of_chars_eq hr h.2)
  | cons t ts ih =>
      have hrest : ∀ u ∈ ts, IsField u := fun u hu => hts u (List.mem_cons_of_mem _ hu)
      rw [List.flatMap_cons, List.append_assoc] at h
      have skip : ∀ x', ts.flatMap JvmType.chars ++ ')' :: r.chars = x' ++ ';' :: B →
          ∃ us : List JvmType, us.length < (t :: ts).length ∧ (∀ u ∈ us, IsField u) ∧
            us.flatMap JvmType.chars ++ ')' :: r.chars = B := by
        intro x' hx'
        obtain ⟨us, hlen, hus, htext⟩ := ih hrest hx'
        exact ⟨us, Nat.lt_succ_of_lt hlen, hus, htext⟩
      rcases List.append_eq_append_iff.1 h with ⟨y, -, hy⟩ | ⟨y, ht, hy⟩
      · exact skip y hy
      · cases y with
        | nil => exact skip [] hy.symm
        | cons c y =>
            simp only [List.cons_append, List.cons.injEq] at hy
            rw [← hy.1] at ht
            have hnil := eq_nil_of_chars_eq (hts t List.mem_cons_self) ht
            rw [hnil, List.nil_append] at hy
            exact ⟨ts, Nat.lt_succ_self _, hrest, hy.2.symm⟩

/-- A legal reading of a text made of arbitrary types has at least as many parameters as it was
made of, and if it has as many, it consists of the types that the text was made of. -/
theorem parameters_of_text_eq {ts ps : List JvmType} {t r : JvmType}
    (hts : ∀ u ∈ ts, IsField u) (ht : IsReturn t)
    (h : ts.flatMap JvmType.chars ++ ')' :: t.chars =
      ps.flatMap JvmType.chars ++ ')' :: r.chars) :
    ps.length ≤ ts.length ∧ (ps.length = ts.length → ps = ts ∧ r = t) := by
  induction ps generalizing ts with
  | nil =>
      refine ⟨Nat.zero_le _, fun hlen => ?_⟩
      obtain rfl := List.length_eq_zero_iff.1 hlen.symm
      simp only [List.flatMap_nil, List.nil_append, List.cons.injEq, true_and] at h
      exact ⟨rfl, (JvmType.chars_inj h).symm⟩
  | cons p ps ih =>
      cases ts with
      | nil =>
          simp only [List.flatMap_nil, List.nil_append, List.flatMap_cons,
            List.append_assoc] at h
          exact absurd h.symm (chars_ne_close p _ _)
      | cons u ts =>
          have hu : IsField u := hts u List.mem_cons_self
          have hrest : ∀ v ∈ ts, IsField v := fun v hv => hts v (List.mem_cons_of_mem _ hv)
          rw [List.flatMap_cons, List.append_assoc, List.flatMap_cons, List.append_assoc] at h
          by_cases hp : IsField p
          · have hread := fieldType?_chars hu (ts.flatMap JvmType.chars ++ ')' :: t.chars)
            rw [h, fieldType?_chars hp] at hread
            obtain ⟨rfl, hafter⟩ := Prod.mk.inj (Option.some.inj hread)
            obtain ⟨hle, heq⟩ := ih hrest hafter.symm
            refine ⟨Nat.succ_le_succ hle, fun hlen => ?_⟩
            obtain ⟨rfl, rfl⟩ := heq (Nat.succ.inj hlen)
            exact ⟨rfl, rfl⟩
          · -- the reading falls behind: what is left of `p` takes a parameter of its own
            obtain ⟨x, hx⟩ := exists_of_not_isField hu hp h
            obtain ⟨us, hlen, hus, htext⟩ :=
              exists_params_of_text_eq hrest ht (by simp) hx
            have hle := (ih hus htext).1
            simp only [List.length_cons]
            omega

/-- The text made of some types is a legal method descriptor, with as many parameters as there
are types for them, exactly when the types are legal. -/
theorem parseMethod_methodText_iff {params : List JvmType} {result : JvmType} :
    (∃ d, parseMethod (JvmType.methodText params result) = .ok d ∧
      d.params.length = params.length) ↔ (∀ p ∈ params, IsField p) ∧ IsReturn result := by
  constructor
  · rintro ⟨d, hd, hlen⟩
    obtain ⟨htext, hparams, hresult⟩ := parseMethod_ok_iff.1 hd
    have hchars : d.params.flatMap JvmType.chars ++ ')' :: d.result.chars =
        params.flatMap JvmType.chars ++ ')' :: result.chars := by
      have h := congrArg String.toList htext
      simp only [MethodDescriptor.text, JvmType.methodText, String.toList_ofList,
        List.cons.injEq, true_and] at h
      exact h.symm
    obtain ⟨rfl, rfl⟩ := (parameters_of_text_eq hparams hresult hchars).2 hlen.symm
    exact ⟨hparams, hresult⟩
  · rintro ⟨hparams, hresult⟩
    exact ⟨⟨params, result⟩, parseMethod_ok_iff.2 ⟨rfl, hparams, hresult⟩, rfl⟩

end Descriptor

end JvmScope
