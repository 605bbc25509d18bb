import JvmScope.Classpath.Archive
import JvmScope.Proofs.Descriptor.MethodType
import JvmScope.Proofs.Types.Chains
import JvmScope.Proofs.Types.Hiding

/-!
# Generated methods

Definitions are made of class files, and the loader leaves private and generated methods out
(`declares_iff_keeps`). What is left out hides nothing. Where a class overrides a method with a
more specific return type, the compiler adds a bridge that has the descriptor of the overridden
method; the loader drops the bridge, and so the overridden method is listed beside the override.

`inherits_iff_generated` says exactly when this happens, for every source that answers with
definitions of class files (`Serves`), such as an archive (`Archive.serves`).
-/

namespace JvmScope

/-- The class file has a method of the name and descriptor that may be called by its name. -/
def ClassFile.Keeps (c : ClassFile) (name descriptor : String) : Prop :=
  name ≠ ConstructorTarget.name ∧ name ≠ Loader.staticInitializer ∧
    ∃ member ∈ c.methods, member.name = name ∧ member.descriptor = descriptor ∧
      member.isPrivate = false ∧ member.isGenerated = false

namespace Loader

variable {c : ClassFile} {d : TypeDefinition} {origin : Origin} {files : List ClassFile}
  {source : TypeSource (Except TypeError)} {supers : List TypeDefinition}
  {name descriptor : String}

/-! ## Methods of a definition -/

theorem isVisible_iff {member : ClassMember} :
    isVisible member = true ↔ member.isPrivate = false ∧ member.isGenerated = false := by
  unfold isVisible
  rw [Bool.and_eq_true, Bool.not_eq_true', Bool.not_eq_true']

/-- The descriptor of a member is read first. The signature is only read of what is no
constructor. -/
theorem callable_ok_iff {owner : String} {member : ClassMember} {result : Constructor ⊕ Method} :
    callable owner member = .ok result ↔
      ∃ read, Descriptor.parseMethod member.descriptor = .ok read ∧
        ((member.name = ConstructorTarget.name ∧ result = .inl ⟨read.params⟩) ∨
          member.name ≠ ConstructorTarget.name ∧ ∃ parameters,
            typeParameters owner member.signature = .ok parameters ∧
              result = .inr ⟨member.name, read.params, read.result, member.isStatic, parameters⟩) := by
  unfold callable ofFormat
  rw [bind_ok_iff]
  simp only [mapError_ok_iff]
  refine exists_congr fun read => and_congr_right fun _ => ?_
  by_cases named : member.name = ConstructorTarget.name
  · rw [if_pos named, pure_ok_iff]
    constructor
    · exact fun h => .inl ⟨named, h.symm⟩
    · rintro (⟨-, rfl⟩ | ⟨isNot, -⟩)
      · rfl
      · exact absurd named isNot
  · rw [if_neg named, bind_ok_iff]
    constructor
    · rintro ⟨parameters, hparameters, h⟩
      exact .inr ⟨named, parameters, hparameters, (pure_ok_iff.1 h).symm⟩
    · rintro (⟨isNamed, -⟩ | ⟨-, parameters, hparameters, rfl⟩)
      · exact absurd isNamed named
      · exact ⟨parameters, hparameters, rfl⟩

/-- A method keeps the name and the descriptor that it has in the class file. -/
theorem of_callable_method {owner : String} {member : ClassMember} {method : Method}
    (h : callable owner member = .ok (.inr method)) :
    member.name ≠ ConstructorTarget.name ∧ method.name = member.name ∧
      method.descriptor = member.descriptor := by
  obtain ⟨read, hread, ⟨-, hresult⟩ | ⟨hname, parameters, -, hresult⟩⟩ := callable_ok_iff.1 h
  · cases hresult
  · obtain rfl := Sum.inr.inj hresult
    obtain ⟨htext, -⟩ := Descriptor.parseMethod_ok_iff.1 hread
    exact ⟨hname, rfl, htext.symm⟩

/-- What is no constructor becomes a method. -/
theorem exists_method_of_callable {owner : String} {member : ClassMember}
    {result : Constructor ⊕ Method} (h : callable owner member = .ok result)
    (hname : member.name ≠ ConstructorTarget.name) : ∃ method, result = .inr method := by
  obtain ⟨read, -, ⟨named, -⟩ | ⟨-, parameters, -, hresult⟩⟩ := callable_ok_iff.1 h
  · exact absurd named hname
  · exact ⟨_, hresult⟩

/-- Every method that may be referred to has been read, and those that are no constructors are
the methods of the definition. -/
theorem exists_callables (h : definition c origin = .ok d) :
    ∃ callables : List (Constructor ⊕ Method),
      (∀ result ∈ callables, ∃ member ∈ c.methods, isVisible member = true ∧
        member.name ≠ staticInitializer ∧ callable d.qualifiedName member = .ok result) ∧
      (∀ member ∈ c.methods, isVisible member = true → member.name ≠ staticInitializer →
        ∃ result ∈ callables, callable d.qualifiedName member = .ok result) ∧
      ∀ method, method ∈ d.methods ↔ .inr method ∈ callables := by
  unfold definition at h
  obtain ⟨typeParameters, -, h⟩ := bind_ok_iff.1 h
  obtain ⟨fields, -, h⟩ := bind_ok_iff.1 h
  obtain ⟨callables, hcallables, h⟩ := bind_ok_iff.1 h
  obtain rfl := pure_ok_iff.1 h
  refine ⟨callables, fun result hresult => ?_, fun member hmember visible hname => ?_,
    fun method => ?_⟩
  · obtain ⟨member, hmember, hcallable⟩ := mem_of_mapM_ok hcallables result hresult
    rw [List.mem_filter, Bool.and_eq_true, bne_iff_ne] at hmember
    obtain ⟨hmember, visible, hname⟩ := hmember
    exact ⟨member, hmember, visible, hname, hcallable⟩
  · apply exists_of_mapM_ok hcallables
    rw [List.mem_filter, Bool.and_eq_true, bne_iff_ne]
    exact ⟨hmember, visible, hname⟩
  · show method ∈ callables.filterMap _ ↔ _
    rw [List.mem_filterMap]
    constructor
    · rintro ⟨found, hfound, hmethod⟩
      cases found with
      | inl constructor => cases hmethod
      | inr found => exact Option.some.inj hmethod ▸ hfound
    · exact fun found => ⟨_, found, rfl⟩

/-- A definition declares what its class file keeps. -/
theorem declares_iff_keeps (h : definition c origin = .ok d) :
    d.Declares name descriptor ↔ c.Keeps name descriptor := by
  obtain ⟨callables, came, read, methods⟩ := exists_callables h
  constructor
  · rintro ⟨method, hmethod, rfl, rfl⟩
    obtain ⟨member, hmember, visible, notInitializer, hcallable⟩ :=
      came _ ((methods method).1 hmethod)
    obtain ⟨notConstructor, hname, hdescriptor⟩ := of_callable_method hcallable
    rw [hname, hdescriptor]
    exact ⟨notConstructor, notInitializer, member, hmember, rfl, rfl, isVisible_iff.1 visible⟩
  · rintro ⟨notConstructor, notInitializer, member, hmember, rfl, rfl, visible⟩
    obtain ⟨result, hresult, hcallable⟩ :=
      read member hmember (isVisible_iff.2 visible) notInitializer
    obtain ⟨method, rfl⟩ := exists_method_of_callable hcallable notConstructor
    obtain ⟨-, hname, hdescriptor⟩ := of_callable_method hcallable
    exact ⟨method, (methods method).2 hresult, hname, hdescriptor⟩

/-! ## Sources of class files -/

/-- The source answers with definitions of the class files only. -/
def Serves (source : TypeSource (Except TypeError)) (origin : Origin) (files : List ClassFile) :
    Prop :=
  ∀ name d, source.resolve name = .ok (some d) → ∃ f ∈ files, definition f origin = .ok d

/-- What the bytes that are kept under a spelling are loaded as. -/
def ofBytes (spelling : String) (origin : Origin) (bytes : List UInt8) :
    Except ClasspathError (Option TypeDefinition) := do
  let c ← ofFormat spelling (ClassFile.parse bytes)
  let d ← definition c origin
  pure (some d)

section
variable {read : String → Except ClasspathError (Option (List UInt8))}

/-- A spelling that is ignored, or that nothing is kept under, is passed over. -/
theorem loadFirst_append_of_absent {front rest : List String}
    (absent : ∀ s ∈ front, isIgnored (QualifiedName.toInternal s) = true ∨
      read (QualifiedName.toInternal s) = .ok none) :
    loadFirst read origin (front ++ rest) = loadFirst read origin rest := by
  induction front with
  | nil => rfl
  | cons spelling front ih =>
      have others := ih fun s hs => absent s (List.mem_cons_of_mem _ hs)
      rw [List.cons_append, loadFirst]
      rcases absent spelling List.mem_cons_self with ignored | missing
      · rw [if_pos ignored]
        exact others
      · split
        · exact others
        · rw [missing]
          exact others

/-- Nothing is loaded if all spellings are passed over. -/
theorem loadFirst_of_absent {spellings : List String}
    (absent : ∀ s ∈ spellings, isIgnored (QualifiedName.toInternal s) = true ∨
      read (QualifiedName.toInternal s) = .ok none) :
    loadFirst read origin spellings = .ok none := by
  rw [← List.append_nil spellings, loadFirst_append_of_absent absent]
  rfl

/-- Loading goes no further than to the first spelling that something is kept under. -/
theorem loadFirst_cons_of_some {spelling : String} {rest : List String} {bytes : List UInt8}
    (notIgnored : isIgnored (QualifiedName.toInternal spelling) = false)
    (kept : read (QualifiedName.toInternal spelling) = .ok (some bytes)) :
    loadFirst read origin (spelling :: rest) = ofBytes spelling origin bytes := by
  rw [loadFirst, if_neg (Bool.eq_false_iff.1 notIgnored), kept]
  rfl

end

/-- A definition that is loaded is that of a class file that was read under one of the
spellings. -/
theorem exists_bytes_of_loadFirst {read : String → Except ClasspathError (Option (List UInt8))}
    {spellings : List String} (h : loadFirst read origin spellings = .ok (some d)) :
    ∃ spelling ∈ spellings, ∃ bytes f,
      read (QualifiedName.toInternal spelling) = .ok (some bytes) ∧
        ClassFile.parse bytes = .ok f ∧ definition f origin = .ok d := by
  induction spellings with
  | nil => cases h
  | cons spelling rest ih =>
      -- what comes of the other spellings comes of all of them
      have later (h : loadFirst read origin rest = .ok (some d)) :
          ∃ s ∈ spelling :: rest, ∃ bytes f,
            read (QualifiedName.toInternal s) = .ok (some bytes) ∧
              ClassFile.parse bytes = .ok f ∧ definition f origin = .ok d := by
        obtain ⟨s, hs, found⟩ := ih h
        exact ⟨s, List.mem_cons_of_mem _ hs, found⟩
      rw [loadFirst] at h
      split at h
      · exact later h
      · obtain ⟨answer, hanswer, h⟩ := bind_ok_iff.1 h
        cases answer with
        | none => exact later h
        | some bytes =>
            obtain ⟨f, hf, h⟩ := bind_ok_iff.1 h
            obtain ⟨e, he, h⟩ := bind_ok_iff.1 h
            obtain rfl := Option.some.inj (pure_ok_iff.1 h)
            exact ⟨spelling, List.mem_cons_self, bytes, f, hanswer, mapError_ok_iff.1 hf, he⟩

end Loader

namespace ClassIndex

variable {index : ClassIndex} {name : String}

section

variable {m : Type → Type} [Monad m] [LawfulMonad m] [MonadExceptOf TypeError m]
  {load : String → m (Option TypeDefinition)}

/-- The source of an index answers a name that it knows with what is loaded. -/
theorem resolve_of_knows (valid : QualifiedName.isValid name = true)
    (known : index.knows name = true) : (index.source load).resolve name = load name := by
  have asked : (index.source load).find name = load name >>= fun found =>
      pure (found.map fun d => ⟨d, known⟩) := dif_pos known
  rw [TypeSource.resolve_of_valid _ valid, asked, bind_assoc]
  refine (bind_congr fun found => ?_).trans (bind_pure (load name))
  rw [pure_bind, Option.map_map]
  cases found <;> rfl

theorem resolve_of_unknown (valid : QualifiedName.isValid name = true)
    (unknown : ¬index.knows name = true) : (index.source load).resolve name = pure none := by
  have asked : (index.source load).find name = pure none := dif_neg unknown
  rw [TypeSource.resolve_of_valid _ valid, asked, pure_bind]
  rfl

end

/-- The source of an index answers with what is loaded. -/
theorem load_of_resolve {load : String → Except TypeError (Option TypeDefinition)}
    {d : TypeDefinition} (h : (index.source load).resolve name = .ok (some d)) :
    load name = .ok (some d) := by
  obtain ⟨valid, known, -⟩ := TypeSource.resolve_some_iff.1 h
  exact (resolve_of_knows valid known).symm.trans h

end ClassIndex

/-- The class files among the entries of an archive. -/
def Archive.classFiles (a : Archive) : List ClassFile :=
  a.entries.filterMap fun entry => (ClassFile.parse entry.2).toOption

/-- An archive answers with definitions of its class files. -/
theorem Archive.serves (a : Archive) :
    Loader.Serves a.jarSource (.archive a.path) a.classFiles := by
  intro name d h
  have loaded := mapError_ok_iff.1 (ClassIndex.load_of_resolve h)
  obtain ⟨spelling, -, bytes, f, hread, hparse, hdefinition⟩ :=
    Loader.exists_bytes_of_loadFirst loaded
  let internal := QualifiedName.toInternal spelling
  refine ⟨f, List.mem_filterMap.2 ⟨(entryOf a.folder internal, bytes), ?_, ?_⟩, hdefinition⟩
  · have hentry : a.readClass internal = some bytes := Except.ok.inj hread
    unfold Archive.readClass at hentry
    split at hentry
    · obtain ⟨before, after, hentries, -⟩ := List.lookup_eq_some_iff.1 hentry
      rw [hentries]
      exact List.mem_append_right _ List.mem_cons_self
    · cases hentry
  · show (ClassFile.parse bytes).toOption = some f
    rw [hparse]
    rfl

namespace Loader

/-! ## Overridden methods that come back -/

/-- A method of a supertype is listed with a descriptor exactly when the class file has methods
of the name and descriptor among the private and generated ones only, and the class file of a
supertype has one that is neither. -/
theorem inherits_iff_generated (serves : Serves source origin files)
    (hd : definition c origin = .ok d) (hsupers : d.allSupertypes source = .ok supers)
    (name descriptor : String) :
    ∃ methods, d.methodsNamed source name = .ok methods ∧
      ((∃ listed ∈ methods, listed.method.descriptor = descriptor ∧ d.Inherits supers listed) ↔
        (∀ member ∈ c.methods, member.name = name → member.descriptor = descriptor →
          member.isPrivate = false → member.isGenerated = true) ∧
        ∃ e ∈ supers, ∃ f ∈ files, definition f origin = .ok e ∧ f.Keeps name descriptor) := by
  have served := TypeDefinition.of_mem_allSupertypes serves hsupers
  refine ⟨_, TypeDefinition.methodsNamed_of_allSupertypes hsupers,
    TypeDefinition.exists_inherits_iff.trans ?_⟩
  rw [declares_iff_keeps hd]
  constructor
  · rintro ⟨dropped, e, he, declared⟩
    obtain ⟨f, hf, hfe⟩ := served e he
    have kept := (declares_iff_keeps hfe).1 declared
    refine ⟨fun member hmember hname hdescriptor notPrivate => ?_, e, he, f, hf, hfe, kept⟩
    by_contra notGenerated
    rw [Bool.not_eq_true] at notGenerated
    exact dropped ⟨kept.1, kept.2.1, member, hmember, hname, hdescriptor, notPrivate, notGenerated⟩
  · rintro ⟨generated, e, he, f, -, hfe, kept⟩
    refine ⟨?_, e, he, (declares_iff_keeps hfe).2 kept⟩
    rintro ⟨-, -, member, hmember, hname, hdescriptor, notPrivate, notGenerated⟩
    rw [generated member hmember hname hdescriptor notPrivate] at notGenerated
    cases notGenerated

/-- The definitions of class files, as a table. -/
def tableOf (files : List ClassFile) (origin : Origin) : Except ClasspathError TypeTable :=
  TypeTable.mk <$> files.mapM (definition · origin)

theorem serves_of_tableOf {t : TypeTable} (h : tableOf files origin = .ok t) :
    Serves t.source origin files := by
  intro name d hd
  obtain ⟨types, htypes, rfl⟩ := map_ok_iff.1 h
  obtain ⟨hmember, -⟩ := TypeTable.mem_of_resolve hd
  exact mem_of_mapM_ok htypes d hmember

/-- The class file of a class with the given methods. -/
def classFile (name : String) (superClass : Option String) (methods : List ClassMember) :
    ClassFile where
  minorVersion := 0
  majorVersion := 52
  flags := Access.isPublic ||| Access.isSuper
  thisClass := name
  superClass := superClass
  interfaces := []
  fields := []
  methods := methods
  signature := none

def shapeFile : ClassFile :=
  classFile "lib/Shape" (some "java/lang/Object")
    [⟨Access.isPublic, "copy", "()Llib/Shape;", none⟩]

/-- The override, and the bridge that compilers generate for it. -/
def circleFile : ClassFile :=
  classFile "lib/Circle" (some "lib/Shape")
    [⟨Access.isPublic, "copy", "()Llib/Circle;", none⟩,
      ⟨Access.isPublic ||| Access.isBridge ||| Access.isSynthetic, "copy", "()Llib/Shape;", none⟩]

def copyableFiles : List ClassFile :=
  [classFile "java/lang/Object" none [], shapeFile, circleFile]

open TypeDefinition (circle shape copyable)

theorem copyable_serves : Serves copyable.source .memory copyableFiles :=
  serves_of_tableOf (by cbv)

theorem circle_definition : definition circleFile .memory = .ok circle := by cbv

/-- The bridge is dropped, and the method that it overrides is listed. -/
theorem circle_inherits_copy :
    ∃ methods, circle.methodsNamed (copyable.source : TypeSource (Except TypeError)) "copy" =
        .ok methods ∧
      ∃ listed ∈ methods, listed.method.descriptor = "()Llib/Shape;" ∧
        circle.Inherits [shape, .root] listed := by
  obtain ⟨methods, hmethods, inherits⟩ := inherits_iff_generated copyable_serves circle_definition
    TypeDefinition.circle_supertypes "copy" "()Llib/Shape;"
  refine ⟨methods, hmethods, inherits.2 ⟨by decide +kernel, shape, List.mem_cons_self, ?_⟩⟩
  refine ⟨shapeFile, .tail _ (.head _), by decide +kernel, by decide, by decide, ?_⟩
  exact ⟨_, List.mem_cons_self, rfl, rfl, by decide, by decide⟩

/-- A method that a class file contains does not always keep those of the supertypes from being
listed. -/
theorem dropped_methods_not_always_hide :
    ¬∀ (files : List ClassFile) (origin : Origin) (source : TypeSource (Except TypeError))
      (c : ClassFile) (d : TypeDefinition) (name descriptor : String)
      (methods : List TypeDefinition.OwnedMethod),
      Serves source origin files → c ∈ files → definition c origin = .ok d →
      (∃ member ∈ c.methods, member.isPrivate = false ∧ member.name = name ∧
        member.descriptor = descriptor) →
      d.methodsNamed source name = .ok methods →
      ∀ listed ∈ methods, listed.method.descriptor = descriptor →
        listed.owner = d.qualifiedName := by
  intro always
  have contained : ∃ member ∈ circleFile.methods, member.isPrivate = false ∧
      member.name = "copy" ∧ member.descriptor = "()Llib/Shape;" :=
    ⟨_, .tail _ (.head _), by decide, rfl, rfl⟩
  have owners := always copyableFiles .memory copyable.source circleFile circle "copy"
    "()Llib/Shape;" _ copyable_serves (.tail _ (.tail _ (.head _))) circle_definition contained
    TypeDefinition.circle_copy_methods
  have owned := owners _ (.tail _ (.head _)) (by decide +kernel)
  exact absurd owned (by decide)

end Loader

end JvmScope
