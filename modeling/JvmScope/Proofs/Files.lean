import JvmScope.Files.FileTree
import JvmScope.Proofs.Outcome
import Mathlib.Data.List.Nodup
import Mathlib.Data.List.TakeWhile

/-!
# Reading file trees

What stands at a place does not depend on the order of the nodes if the places are distinct, and
neither does where a path leads, as paths are followed by looking at nodes. Only listings are in
the order of the nodes: `FileTree.SameFiles`.

The extension of a name is what follows its last dot, if something stands before it
(`FilePath.splitExtension_eq_iff`).
-/

namespace JvmScope

/-! ## Names with extensions -/

namespace FilePath

variable {name stem extension : String}

theorem splitExtension_eq_iff : splitExtension name = (stem, some extension) ↔
    name = stem ++ "." ++ extension ∧ stem ≠ "" ∧ '.' ∉ extension.toList := by
  unfold splitExtension
  dsimp only
  constructor
  · intro h
    split at h
    · rename_i rest hrest
      split at h
      · cases h
      · rename_i nonempty
        obtain ⟨rfl, hextension⟩ := Prod.ext_iff.1 h
        cases hextension
        refine ⟨String.toList_injective ?_, ?_, fun hdot => ?_⟩
        · have chars : name.toList.reverse.takeWhile (· != '.') ++ '.' :: rest =
              name.toList.reverse := hrest ▸ List.takeWhile_append_dropWhile
          simpa using (congrArg List.reverse chars).symm
        · simpa using nonempty
        · rw [String.toList_ofList, List.mem_reverse] at hdot
          exact absurd (List.mem_takeWhile_imp hdot) (by decide)
    · cases h
  · rintro ⟨rfl, nonempty, dotless⟩
    have chars : (stem ++ "." ++ extension).toList.reverse =
        extension.toList.reverse ++ '.' :: stem.toList.reverse := by simp
    have behind : ∀ c ∈ extension.toList.reverse, (c != '.') = true := by
      intro c hc
      rw [bne_iff_ne]
      rintro rfl
      exact dotless (List.mem_reverse.1 hc)
    rw [chars, List.dropWhile_append_of_pos behind, List.takeWhile_append_of_pos behind]
    simp [nonempty]

theorem withoutExtension_eq (h : splitExtension name = (stem, some extension)) :
    withoutExtension name = if stem = "." then ".." else stem := by
  unfold withoutExtension
  rw [h]
  by_cases hdot : stem = "."
  · rw [if_pos hdot, hdot]
    rfl
  · rw [if_neg hdot]
    split
    · rename_i hsplit
      cases hsplit
      exact absurd rfl hdot
    · rename_i hsplit
      cases hsplit
      rfl

/-- A path has the characters of its last component. -/
theorem mem_intercalate_concat {folders : List String} {c : Char} (hc : c ∈ name.toList) :
    c ∈ ("/".intercalate (folders ++ [name])).toList := by
  by_cases top : folders = []
  · rw [top, List.nil_append, String.intercalate_singleton]
    exact hc
  · rw [String.intercalate_append_of_ne_nil top (List.cons_ne_nil _ _),
      String.intercalate_singleton, String.toList_append]
    exact List.mem_append_right _ hc

end FilePath

/-! ## Places and paths -/

namespace FileTree

variable {tree tree' : FileTree}

/-- The same files, whatever the orders of the listings. -/
structure SameFiles (tree tree' : FileTree) : Prop where
  nodeAt : ∀ place, tree'.nodeAt place = tree.nodeAt place
  list : ∀ directory, (tree.list directory).Perm (tree'.list directory)

/-- With distinct places every node is found. -/
theorem nodeAt_eq_some_iff (distinct : (tree.nodes.map Prod.fst).Nodup) {place : Place}
    {node : FileNode} (below : place ≠ []) :
    tree.nodeAt place = some node ↔ (place, node) ∈ tree.nodes := by
  unfold nodeAt
  rw [if_neg (by rwa [List.isEmpty_iff]), Option.map_eq_some_iff]
  constructor
  · rintro ⟨⟨found, _⟩, hfound, rfl⟩
    obtain rfl : found = place := by simpa using List.find?_some hfound
    exact List.mem_of_find?_eq_some hfound
  · intro h
    obtain ⟨front, back, hnodes, apart⟩ := exists_split_of_distinct distinct h
    refine ⟨(place, node), ?_, rfl⟩
    rw [hnodes, List.find?_eq_some_iff_append]
    refine ⟨beq_self_eq_true place, front, back, rfl, fun e he => ?_⟩
    rw [beq_eq_false_iff_ne.2 (apart e he)]
    rfl

/-- The name of a place in a directory. -/
def nameIn? (directory place : Place) : Option String :=
  if place.length = directory.length + 1 ∧ place.dropLast = directory then place.getLast?
  else none

theorem nameIn?_eq_some {directory place : Place} {name : String}
    (h : nameIn? directory place = some name) : place = directory ++ [name] := by
  obtain ⟨⟨-, hdirectory⟩, hname⟩ := Option.ite_none_right_eq_some.1 h
  rw [← hdirectory, List.dropLast_append_getLast? name hname]

/-- With distinct places a directory has distinct names. -/
theorem nodup_list (distinct : (tree.nodes.map Prod.fst).Nodup) (directory : Place) :
    (tree.list directory).Nodup := by
  have named : tree.list directory =
      (tree.nodes.map Prod.fst).filterMap (nameIn? directory) := by
    rw [List.filterMap_map]
    rfl
  rw [named]
  refine distinct.filterMap fun place place' name h h' => ?_
  rw [nameIn?_eq_some h, nameIn?_eq_some h']

/-- The order of the nodes does not matter, but for the order of listings. -/
theorem sameFiles_of_perm (distinct : (tree.nodes.map Prod.fst).Nodup)
    (perm : tree.nodes.Perm tree'.nodes) : SameFiles tree tree' := by
  have distinct' : (tree'.nodes.map Prod.fst).Nodup := (perm.map Prod.fst).nodup_iff.1 distinct
  refine ⟨fun place => ?_, fun directory => perm.filterMap _⟩
  by_cases top : place = []
  · rw [top]
    rfl
  · refine Option.ext fun node => ?_
    rw [nodeAt_eq_some_iff distinct' top, nodeAt_eq_some_iff distinct top, perm.mem_iff]

theorem destination_nil (links : Nat) (here : Place) :
    tree.destination links here [] = .ok here := by
  rw [destination]

/-- A name in a directory leads on, if nothing is linked there. -/
theorem destination_cons {links : Nat} {here : Place} {name : String} {rest : List String}
    (node : FileNode) (directory : tree.nodeAt here = some .directory)
    (plain : FilePath.isTrivial name = false ∧ name ≠ ".." ∧ ¬maxNameSize < name.utf8ByteSize)
    (there : tree.nodeAt (here ++ [name]) = some node) (notLink : ∀ target, node ≠ .link target) :
    tree.destination links here (name :: rest) = tree.destination links (here ++ [name]) rest := by
  rw [destination, directory]
  cases node with
  | link target => exact absurd rfl (notLink target)
  | directory => simp [plain, there]
  | file content => simp [plain, there]

/-- Where a path without links and detours leads. -/
theorem locate_of_names {path : String} {names : Place} {node : FileNode}
    (valid : path.isEmpty = false ∧ path.toList.contains '\x00' = false ∧
      ¬maxPathSize < path.utf8ByteSize)
    (pieces : FilePath.pieces path = "" :: names) (there : tree.nodeAt names = some node)
    (leads : tree.destination maxLinks [] names = .ok names) :
    tree.locate path = .ok (names, node) := by
  have top : tree.destination maxLinks [] ("" :: names) = tree.destination maxLinks [] names := by
    rw [destination, show tree.nodeAt [] = some .directory from rfl]
    exact if_pos rfl
  unfold locate
  rw [valid.1, valid.2.1, if_neg Bool.false_ne_true, if_neg Bool.false_ne_true, if_neg valid.2.2,
    pieces, top, leads]
  simp only [bind, Except.bind, there]
  rfl

namespace SameFiles

variable (same : SameFiles tree tree')
include same

/-- Paths are followed by looking at nodes only. -/
theorem destination (links : Nat) (here : Place) (todo : List String) :
    tree'.destination links here todo = tree.destination links here todo := by
  fun_induction FileTree.destination tree links here todo with
  | case1 => exact destination_nil ..
  | case9 =>
      -- a link goes on at the root or where it stands
      rename_i ih
      rw [FileTree.destination]
      simpa [same.nodeAt, *] using ih
  | _ =>
      rw [FileTree.destination]
      simp [same.nodeAt, *]

/-- A path leads to the same. -/
theorem locate : tree'.locate = tree.locate := by
  funext path
  unfold FileTree.locate
  simp only [same.destination, same.nodeAt]

end SameFiles

end FileTree

end JvmScope
