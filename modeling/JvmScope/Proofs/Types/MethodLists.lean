import JvmScope.Proofs.Types.BreadthFirst

/-!
# Lists of methods

The methods of a name on a type, the inherited ones included, are listed along the hierarchy in
breadth-first order. The first declaration of a descriptor is listed and hides all later ones
(`map_descriptor_visibleIn`, `Visible.firstDeclared`). So the list misses no descriptor, has none
twice, and names for each the nearest type that declares it (`methodsNamed_nearest_first`).
-/

namespace JvmScope.TypeDefinition

variable {source : TypeSource (Except TypeError)} {d : TypeDefinition} {name : String}
  {defs supers : List TypeDefinition}

/-! ## First declarations -/

theorem map_descriptor_addVisible {all found : List OwnedMethod} (owner : String)
    (methods : List Method)
    (h : found.map (·.method.descriptor) = (all.map (·.method.descriptor)).eraseDups) :
    (addVisible owner found methods).map (·.method.descriptor) =
      ((all ++ methods.map (OwnedMethod.mk owner)).map (·.method.descriptor)).eraseDups := by
  induction methods generalizing all found with
  | nil => simpa [addVisible] using h
  | cons method rest ih =>
      have shift : all ++ (method :: rest).map (OwnedMethod.mk owner) =
          (all ++ [⟨owner, method⟩]) ++ rest.map (OwnedMethod.mk owner) := by simp
      -- what is found knows the same descriptors as all that was declared
      have known_iff : found.any (·.method.descriptor == method.descriptor) = true ↔
          method.descriptor ∈ all.map (·.method.descriptor) := by
        rw [← List.mem_eraseDups, ← h]
        simp [List.any_eq_true]
      rw [shift, addVisible]
      by_cases known : found.any (·.method.descriptor == method.descriptor) = true
      · rw [if_pos known]
        apply ih
        rw [List.map_append, h]
        exact (eraseDups_concat_of_mem (known_iff.1 known)).symm
      · rw [if_neg known]
        apply ih
        rw [List.map_append, List.map_append, h]
        exact (eraseDups_concat_of_notMem fun mem => known (known_iff.2 mem)).symm

/-- The descriptors of the visible methods are those of all declared methods, each where it stands
first. -/
theorem map_descriptor_visibleIn (name : String) (defs : List TypeDefinition) :
    (visibleIn name defs).map (·.method.descriptor) =
      ((declaredIn name defs).map (·.method.descriptor)).eraseDups := by
  -- the fold is followed from any point, `all` being what was declared up to there
  have run : ∀ all found : List OwnedMethod,
      found.map (·.method.descriptor) = (all.map (·.method.descriptor)).eraseDups →
      (defs.foldl (fun found e => addVisible e.qualifiedName found
        (e.methods.filter (·.name == name))) found).map (·.method.descriptor) =
        ((all ++ declaredIn name defs).map (·.method.descriptor)).eraseDups := by
    induction defs with
    | nil =>
        intro all found h
        simpa [declaredIn] using h
    | cons e defs ih =>
        intro all found h
        have next := ih _ _
          (map_descriptor_addVisible e.qualifiedName (e.methods.filter (·.name == name)) h)
        rw [List.append_assoc] at next
        exact next
  exact run [] [] rfl

/-- The method is one of the first definition that declares its name and descriptor. -/
def FirstDeclared (name : String) (defs : List TypeDefinition) (c : OwnedMethod) : Prop :=
  ∃ front e back, defs = front ++ e :: back ∧ c.owner = e.qualifiedName ∧ c.method ∈ e.methods ∧
    c.method.name = name ∧ ∀ f ∈ front, ¬f.Declares name c.method.descriptor

theorem Visible.firstDeclared {c : OwnedMethod} (h : Visible (declaredIn name defs) c) :
    FirstDeclared name defs c := by
  obtain ⟨e, he, howner, hmethod, hname⟩ := mem_declaredIn_iff.1 h.mem
  have declared : ¬∀ f ∈ defs, ¬f.Declares name c.method.descriptor :=
    fun none => none e he ⟨c.method, hmethod, hname, rfl⟩
  obtain ⟨front, first, back, hdefs, none, some⟩ := exists_first_not declared
  obtain ⟨method, hfirst, firstName, same⟩ := Classical.not_not.1 some
  refine ⟨front, first, back, hdefs, ?_⟩
  -- what the first such definition declares would hide `c`, if `c` stood behind it
  have split : declaredIn name defs =
      declaredIn name (front ++ [first]) ++ declaredIn name back := by
    rw [← declaredIn_append, hdefs, List.append_assoc, List.singleton_append]
  have inFront : (⟨first.qualifiedName, method⟩ : OwnedMethod) ∈
      declaredIn name (front ++ [first]) :=
    mem_declaredIn_iff.2 ⟨first, by simp, rfl, hfirst, firstName⟩
  have here : c ∈ declaredIn name (front ++ [first]) := by
    by_contra behind
    rw [split] at h
    exact h.descriptor_ne behind _ inFront same
  obtain ⟨b, hb, bOwner, bMethod, -⟩ := mem_declaredIn_iff.1 here
  rcases List.mem_append.1 hb with hb | hb
  · exact absurd ⟨c.method, bMethod, hname, rfl⟩ (none b hb)
  · obtain rfl := List.mem_singleton.1 hb
    exact ⟨bOwner, bMethod, hname, none⟩

/-- If the first definition itself declares a descriptor, its method is the first. -/
theorem FirstDeclared.owner_eq {c : OwnedMethod} (h : FirstDeclared name (d :: supers) c)
    (declares : d.Declares name c.method.descriptor) : c.owner = d.qualifiedName := by
  obtain ⟨front, e, back, split, owner, -, -, none⟩ := h
  cases front with
  | nil =>
      obtain ⟨rfl, -⟩ := List.cons.inj split
      exact owner
  | cons f front =>
      obtain ⟨rfl, -⟩ := List.cons.inj split
      exact absurd declares (none _ List.mem_cons_self)

/-! ## The methods of a name -/

/-- Listing the methods of a name only fails where the walk through the hierarchy does. -/
theorem allSupertypes_of_methodsNamed {methods : List OwnedMethod}
    (h : d.methodsNamed source name = .ok methods) :
    ∃ supers, d.allSupertypes source = .ok supers ∧ methods = visibleIn name (d :: supers) := by
  unfold methodsNamed at h
  rw [walk_eq_foldl] at h
  obtain ⟨supers, hsupers, rfl⟩ := map_ok_iff.1 h
  exact ⟨supers, hsupers, rfl⟩

theorem methodsNamed_error_iff {e : TypeError} :
    d.methodsNamed source name = .error e ↔ d.allSupertypes source = .error e := by
  unfold methodsNamed
  rw [walk_eq_foldl]
  cases d.allSupertypes source with
  | ok supers => exact iff_of_false nofun nofun
  | error cause =>
      show Except.error cause = _ ↔ _
      simp

/-- Both sorts of vehicles that an amphibian is can stop, and vehicles are amphibians again. -/
def vehicle : TypeDefinition :=
  { TypeDefinition.empty "lib.Vehicle" .interfaceType with
    interfaces := ["lib.Amphibian"]
    methods := [⟨"stop", [], .primitive .void, false, []⟩] }

def car : TypeDefinition :=
  { TypeDefinition.empty "lib.Car" .classType with
    interfaces := ["lib.Vehicle"]
    methods := [⟨"stop", [], .primitive .void, false, []⟩] }

def boat : TypeDefinition :=
  { TypeDefinition.empty "lib.Boat" .interfaceType with
    interfaces := ["lib.Vehicle"]
    methods := [⟨"stop", [.primitive .int], .primitive .void, false, []⟩] }

def amphibian : TypeDefinition :=
  { TypeDefinition.empty "lib.Amphibian" .classType with
    superClass := some "lib.Car"
    interfaces := ["lib.Boat"] }

def vehicles : TypeTable := ⟨[vehicle, car, boat, amphibian]⟩

/-- The levels above an amphibian repeat themselves, and three of them name all. -/
example : (vehicles.source : TypeSource (Except TypeError)).nearestFirst "lib.Amphibian" 9 =
    ["lib.Amphibian", "lib.Car", "lib.Boat", "lib.Vehicle"] := by decide +kernel

theorem amphibian_supertypes :
    amphibian.allSupertypes (vehicles.source : TypeSource (Except TypeError)) =
      .ok [car, boat, vehicle] := by
  have carFound : (vehicles.source : TypeSource (Except TypeError)).resolve "lib.Car" =
      .ok (some car) := rfl
  have boatFound : (vehicles.source : TypeSource (Except TypeError)).resolve "lib.Boat" =
      .ok (some boat) := rfl
  have vehicleFound : (vehicles.source : TypeSource (Except TypeError)).resolve "lib.Vehicle" =
      .ok (some vehicle) := rfl
  show walkFrom _ (fun seen e => .next (seen ++ [e])) ["lib.Amphibian"]
    ["lib.Car", "lib.Boat"] [] = _
  rw [walkFrom_cons (by decide) carFound]
  show walkFrom _ _ _ ["lib.Boat", "lib.Vehicle"] _ = _
  rw [walkFrom_cons (by decide) boatFound]
  show walkFrom _ _ _ ["lib.Vehicle", "lib.Vehicle"] _ = _
  rw [walkFrom_cons (by decide) vehicleFound]
  show walkFrom _ _ _ ["lib.Vehicle", "lib.Amphibian"] _ = _
  rw [walkFrom, dif_pos (by decide), walkFrom, dif_pos (by decide), walkFrom]
  rfl

/-- The method of the car hides that of all vehicles, and not that of boats. -/
theorem amphibian_stop_methods :
    amphibian.methodsNamed (vehicles.source : TypeSource (Except TypeError)) "stop" =
      .ok [⟨"lib.Car", ⟨"stop", [], .primitive .void, false, []⟩⟩,
        ⟨"lib.Boat", ⟨"stop", [.primitive .int], .primitive .void, false, []⟩⟩] := by
  rw [methodsNamed_of_allSupertypes amphibian_supertypes]
  decide +kernel

end JvmScope.TypeDefinition
