import JvmScope.Proofs.Resolution.FileTrail
import JvmScope.Resolution.Symbol

/-!
# Imports that need no definitions

An import of a static member rests on the members of a type, and so does an import of one type
that turns out to have no such type. All other imports say for themselves what they introduce
(`Import.IsPlain`). In a program that has only these, looking a name up never needs the definition
of a type of the file: over any source for such definitions, even one that has none, the lookups
and the definitions that are made from written types come out the same (`lookupType_indep`,
`findSymbol_indep`, `definitionAt_indep`).

So a definition of the file never leads to another, and there is nothing for the trail of
`findInFile` to cut off (`find_declared`).
-/

namespace JvmScope

/-- The import says for itself what it introduces: it is on demand, or of a type that the file or
the classpath has. -/
def Import.IsPlain (tree : Tree) (classpath : TypeSource (Except TypeError)) : Import → Prop
  | .singleType name _ =>
    (∃ id, tree.typeNamed? name = some id) ∨ ∃ d, classpath.resolve name = .ok (some d)
  | .onDemand _ => True
  | .staticMember _ _ _ => False

namespace Resolver

variable {r : Resolver} {all all' : TypeSource (Except TypeError)} {name : String}
  {id context : NodeId}

/-- The type names in scope if the definitions of the types of the file are those of `all`. -/
def scopeOver (r : Resolver) (all : TypeSource (Except TypeError)) : TypeScope :=
  ⟨r.tree, r.classpath, all⟩

@[simp] theorem scopeOver_tree (r : Resolver) (all : TypeSource (Except TypeError)) :
    (r.scopeOver all).tree = r.tree := rfl

/-- All imports of the file are plain. -/
def PlainImports (r : Resolver) : Prop :=
  ∀ id what, r.tree.kind id = .importDecl what → what.IsPlain r.tree r.classpath

/-! ## Imports -/

/-- A type that is there is introduced whatever members other types have. -/
theorem importedName_indep {full : String} {renamed : Option String} {range : TextRange}
    (plain : (Import.singleType full renamed).IsPlain r.tree r.classpath) :
    (r.scopeOver all).importedName full range = (r.scopeOver all').importedName full range := by
  have same : (r.scopeOver all).qualifiedTarget full range =
      (r.scopeOver all').qualifiedTarget full range := rfl
  have found : ∃ target, (r.scopeOver all').qualifiedTarget full range = .ok (some target) := by
    unfold TypeScope.qualifiedTarget
    cases hfile : (r.scopeOver all').tree.typeNamed? full with
    | some declaration => exact ⟨_, rfl⟩
    | none =>
        obtain ⟨d, hd⟩ := plain.resolve_left fun ⟨declaration, h⟩ =>
          Option.some_ne_none declaration (h.symm.trans hfile)
        exact ⟨.external d, bind_ok_iff.2 ⟨some d, atRange_ok_iff.2 hd, rfl⟩⟩
  obtain ⟨target, htarget⟩ := found
  unfold TypeScope.importedName
  rw [same, bind_of_ok htarget, bind_of_ok htarget]

theorem imported_indep {what : Import} {range : TextRange}
    (plain : what.IsPlain r.tree r.classpath) :
    (r.scopeOver all).imported name range what = (r.scopeOver all').imported name range what := by
  cases what with
  | singleType full renamed =>
      unfold TypeScope.imported
      dsimp only
      rw [importedName_indep plain]
  | onDemand package => rfl
  | staticMember type member renamed => exact plain.elim

/-! ## Lookups -/

variable (plain : r.PlainImports)

include plain

theorem typeAt_indep : (r.scopeOver all).typeAt = (r.scopeOver all').typeAt := by
  funext name id
  unfold TypeScope.typeAt
  simp only [scopeOver_tree]
  cases hk : r.tree.kind id with
  | importDecl what =>
      dsimp only
      rw [imported_indep (plain id what hk)]
  | _ => rfl

/-- What a type name denotes does not rest on definitions of the file. -/
theorem lookupType_indep : (r.scopeOver all).lookupType = (r.scopeOver all').lookupType := by
  funext name context
  unfold TypeScope.lookupType TypeScope.typeAround TypeScope.typeIn
  rw [typeAt_indep plain]
  rfl

theorem symbolAt_indep : (r.scopeOver all).symbolAt = (r.scopeOver all').symbolAt := by
  funext name id
  unfold TypeScope.symbolAt
  simp only [scopeOver_tree]
  cases hk : r.tree.kind id with
  | importDecl what =>
      cases what with
      | staticMember type member renamed => exact (plain id _ hk).elim
      | _ => rfl
  | _ => rfl

theorem symbolAmong_indep (name : String) (cameFrom : Option NodeId) (scopes : List NodeId) :
    (r.scopeOver all).symbolAmong name cameFrom scopes =
      (r.scopeOver all').symbolAmong name cameFrom scopes := by
  induction scopes generalizing cameFrom with
  | nil => rfl
  | cons scope outer ih =>
      unfold TypeScope.symbolAmong
      rw [symbolAt_indep plain, ih]
      rfl

/-- What a name denotes in the place of a value does not rest on definitions of the file. -/
theorem findSymbol_indep : (r.scopeOver all).findSymbol = (r.scopeOver all').findSymbol := by
  funext name context
  unfold TypeScope.findSymbol
  simp only [scopeOver_tree]
  rw [symbolAmong_indep plain]

/-! ## Definitions -/

theorem jvmTypeOf_indep (context : NodeId) (type : TypeRef) :
    (r.scopeOver all).jvmTypeOf context type = (r.scopeOver all').jvmTypeOf context type := by
  cases type with
  | named name =>
      unfold TypeScope.jvmTypeOf
      rw [lookupType_indep plain]
      rfl
  | array element =>
      unfold TypeScope.jvmTypeOf
      rw [jvmTypeOf_indep context element]
  | function params result => rfl

theorem memberType_indep :
    (r.scopeOver all).memberType = (r.scopeOver all').memberType := by
  funext member type
  unfold TypeScope.memberType
  rw [jvmTypeOf_indep plain]

theorem parameterTypes_indep (parameters : List (NodeId × TypeRef)) :
    (r.scopeOver all).parameterTypes parameters =
      (r.scopeOver all').parameterTypes parameters := by
  induction parameters with
  | nil => rfl
  | cons parameter rest ih =>
      unfold TypeScope.parameterTypes
      rw [memberType_indep plain, ih]

theorem sourceMember_indep :
    (r.scopeOver all).sourceMember = (r.scopeOver all').sourceMember := by
  funext id
  unfold TypeScope.sourceMember
  simp only [scopeOver_tree]
  rw [memberType_indep plain, parameterTypes_indep plain]

/-- The definition of a type of the file is made without those of others. -/
theorem definitionAt_indep : (r.scopeOver all).definitionAt = (r.scopeOver all').definitionAt := by
  funext id
  unfold TypeScope.definitionAt
  simp only [scopeOver_tree]
  rw [sourceMember_indep plain]

/-- The definition of a type of the file, asked for at its declaration. -/
theorem sourceDefinition_eq (all : TypeSource (Except TypeError)) (id : NodeId) :
    r.sourceDefinition id = (r.scopeOver all).definitionAt id := by
  have own : r.scopeWithin [id] = r.scopeOver (fileSource r.tree r.classpath [id]) := rfl
  unfold sourceDefinition
  rw [own, definitionAt_indep plain]

/-- The definition of a type of the file, asked for by name. -/
theorem find_declared (all : TypeSource (Except TypeError))
    (declared : r.tree.typeNamed? name = some id) :
    (do
      let found ← r.source.find name
      pure (found.map (·.1))) =
      some <$> ((r.scopeOver all).definitionAt id).mapError (ResolveError.toTypeError name) := by
  have established : r.source.find name =
      ((r.sourceDefinition id).mapError (ResolveError.toTypeError name) >>= fun d =>
        pure (some ⟨d, .inl (Tree.mem_typeNames_of_typeNamed? declared)⟩)) :=
    findInFile_of_fresh declared List.not_mem_nil
  rw [established, sourceDefinition_eq plain all]
  cases (r.scopeOver all).definitionAt id with
  | ok d => rfl
  | error e => rfl

end Resolver

end JvmScope
