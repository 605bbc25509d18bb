import JvmScope.ClassFile.Error
import JvmScope.Descriptor.Basic
import JvmScope.Text.After

/-!
# Type parameters of generic signatures

A generic class or method signature opens with its type parameters between `<` and `>`; each is
an identifier, a possibly empty class bound and any number of interface bounds. Only this
section is read, and every bound is erased on the way:

* a class type loses its type arguments, and its inner-class suffixes are joined with `$`;
* a type variable becomes `java/lang/Object`;
* an array keeps its shape over its erased component.

Type arguments nest, so class types, arguments and references are read by mutual recursion. Each
reader returns the text after what it read together with the proof that this text is shorter,
which is what makes the recursion end.
-/

namespace JvmScope

/-- A type parameter with its erased bounds, the class bound first. -/
structure TypeParameter where
  name : String
  bounds : List JvmType
  deriving DecidableEq, Repr

namespace Signature

open Text (After Rest)

/-- Characters that end an identifier. -/
def isDelimiter (c : Char) : Bool :=
  c == ';' || c == '<' || c == '>' || c == '.' || c == '/' || c == ':' || c == '['

/-- A non-empty identifier followed by `terminator`, which is consumed. -/
def terminated? (terminator : Char) (cs : List Char) : Option (List Char × After cs) :=
  match cs.takeWhile (!isDelimiter ·), h : cs.dropWhile (!isDelimiter ·) with
  | c :: name, d :: rest =>
    if d = terminator then
      some (c :: name, ⟨rest, by
        have := (List.dropWhile_suffix (l := cs) (!isDelimiter ·)).length_le
        rw [h, List.length_cons] at this
        omega⟩)
    else none
  | _, _ => none

/-- The type every type variable erases to. -/
def erasedVariable : JvmType := .ofDotted QualifiedName.object

mutual

/-- A class type, type variable or array, erased. -/
def referenceType? (cs : List Char) : Option (JvmType × After cs) :=
  match cs with
  | 'L' :: rest => (classType? [] rest).map fun (t, a) => (t, a.past)
  | 'T' :: rest =>
    (terminated? ';' rest).map fun (_, a) => (erasedVariable, a.past)
  | '[' :: c :: rest =>
    match Primitive.ofFieldCode? c with
    | some k => some (.array (.primitive k), ⟨rest, by simp only [List.length_cons]; omega⟩)
    | none =>
      (referenceType? (c :: rest)).map fun (t, a) => (.array t, a.past)
  | _ => none
termination_by (cs.length, 0)

/-- The rest of a class type whose erased name so far, reversed, is `name`. -/
def classType? (name : List Char) (cs : List Char) : Option (JvmType × After cs) :=
  match cs with
  | [] => none
  | ';' :: rest =>
    if name.isEmpty then none
    else some (.object (String.ofList name.reverse), ⟨rest, by simp⟩)
  | '<' :: rest =>
    match typeArguments? rest with
    | none => none
    | some ⟨after, _⟩ =>
      (classType? name after).map fun (t, a) =>
        (t, a.weaken (by simp only [List.length_cons]; omega))
  | '.' :: rest => (classType? ('$' :: name) rest).map fun (t, a) => (t, a.past)
  | c :: rest => (classType? (c :: name) rest).map fun (t, a) => (t, a.past)
termination_by (cs.length, 0)
decreasing_by all_goals simp_wf; omega

/-- Type arguments up to the closing `>`, which is consumed. -/
def typeArguments? (cs : List Char) : Option (After cs) :=
  match cs with
  | [] => none
  | '>' :: rest => some ⟨rest, by simp⟩
  | '*' :: rest => (typeArguments? rest).map (·.past)
  | '+' :: rest | '-' :: rest =>
    match referenceType? rest with
    | none => none
    | some (_, ⟨after, _⟩) =>
      (typeArguments? after).map (·.weaken (by simp only [List.length_cons]; omega))
  | c :: rest =>
    match referenceType? (c :: rest) with
    | none => none
    | some (_, ⟨after, _⟩) => (typeArguments? after).map (·.weaken (by simp at *; omega))
termination_by (cs.length, 1)
decreasing_by
  all_goals simp_wf
  all_goals grind

end

/-- The class bound: absent unless a reference type stands here. -/
def classBound? (cs : List Char) : Option (List JvmType × Rest cs) :=
  if cs.head?.any fun c => c == 'L' || c == 'T' || c == '[' then
    (referenceType? cs).map fun (t, a) => ([t], ⟨a.1, Nat.le_of_lt a.2⟩)
  else some ([], ⟨cs, Nat.le_refl _⟩)

/-- Interface bounds, each after a colon. -/
def interfaceBounds? (cs : List Char) : Option (List JvmType × Rest cs) :=
  match cs with
  | ':' :: rest =>
    match referenceType? rest with
    | none => none
    | some (t, ⟨after, _⟩) =>
      (interfaceBounds? after).map fun (ts, r) => (t :: ts, ⟨r.1, by have := r.2; simp; omega⟩)
  | cs => some ([], ⟨cs, Nat.le_refl _⟩)
termination_by cs.length
decreasing_by simp_wf; omega

/-- One type parameter: its name, a colon, its bounds. -/
def parameter? (cs : List Char) : Option (TypeParameter × After cs) :=
  match terminated? ':' cs with
  | none => none
  | some (name, ⟨rest, h⟩) =>
    match classBound? rest with
    | none => none
    | some (classBound, ⟨rest', h'⟩) =>
      (interfaceBounds? rest').map fun (bounds, r) =>
        (⟨String.ofList name, classBound ++ bounds⟩, ⟨r.1, by have := r.2; omega⟩)

/-- Type parameters up to the closing `>`. -/
def parameters? (cs : List Char) : Option (List TypeParameter) :=
  match cs with
  | '>' :: _ => some []
  | cs =>
    match parameter? cs with
    | none => none
    | some (p, ⟨rest, _⟩) => (parameters? rest).map (p :: ·)
termination_by cs.length

/-- The type parameters a signature opens with: none unless it starts with `<`, and a pair of
brackets around nothing is refused. -/
def typeParameters (text : String) : Except FormatError (List TypeParameter) :=
  match text.toList with
  | '<' :: rest =>
    match parameters? rest with
    | some (p :: ps) => .ok (p :: ps)
    | _ => .error (.invalidSignature text)
  | _ => .ok []

end Signature

end JvmScope
