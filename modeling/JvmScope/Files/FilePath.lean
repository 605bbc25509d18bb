/-!
# Paths

Paths are texts whose components are separated by `/`. Texts are kept as they are written: a
joined path shows both of its parts, and only `parent?` looks through the components that do not
count (empty ones, and `.` anywhere but in front).
-/

namespace JvmScope.FilePath

/-- A path that starts at the root. -/
def isAbsolute (path : String) : Bool := path.toList.head? == some '/'

/-- `path` seen from `base`: an absolute path stands for itself. -/
def join (base path : String) : String :=
  if isAbsolute path then path
  else if base.isEmpty || base.toList.getLast? == some '/' then base ++ path
  else base ++ "/" ++ path

/-- The pieces between slashes. -/
def piecesOf : List Char → List (List Char)
  | [] => [[]]
  | '/' :: rest => [] :: piecesOf rest
  | c :: rest =>
    match piecesOf rest with
    | [] => [[c]]
    | p :: more => (c :: p) :: more

/-- The pieces between slashes, as strings. -/
def pieces (path : String) : List String := (piecesOf path.toList).map String.ofList

/-- A piece that leads nowhere. -/
def isTrivial (piece : String) : Bool := piece.isEmpty || piece == "."

/-- The path without its last component. The root and the empty path have none. -/
def parent? (path : String) : Option String :=
  match pieces path with
  | [] => none
  | first :: rest =>
    match rest.reverse.dropWhile isTrivial with
    | _ :: before =>
      match (before.dropWhile isTrivial).reverse with
      | [] => some (if first.isEmpty then "/" else first)
      | kept => some ("/".intercalate (first :: kept))
    | [] => if first.isEmpty then none else some ""

/-- The path without its last component, or as it is where there is none. -/
def parentOrSelf (path : String) : String := (parent? path).getD path

/-- The name without its extension, and the extension: what follows the last dot, unless the
dot is the first character. -/
def splitExtension (name : String) : String × Option String :=
  let cs := name.toList.reverse
  match cs.dropWhile (· != '.') with
  | '.' :: stem =>
    if stem.isEmpty then (name, none)
    else
      (String.ofList stem.reverse, some (String.ofList (cs.takeWhile (· != '.')).reverse))
  | _ => (name, none)

/-- The name without its extension and the dot between the two. That dot is kept where only a
dot stands before it, as in `..class`: a single one would not be a component. -/
def withoutExtension (name : String) : String :=
  match splitExtension name with
  | (".", some _) => ".."
  | (stem, _) => stem

end JvmScope.FilePath
