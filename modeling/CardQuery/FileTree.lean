import CardQuery.Path
import CardQuery.Text.Literal

/-!
# File trees

A tree of directories and regular files with their contents, and the two operations that programs
need: making a directory with all directories above it, and writing a file.  An operation that
fails leaves the tree as it is.

Main results:

- `text?_ofText` says that a text is read back from the file that it was written to.
- `find?_put_self` and `find?_put_of_ne` say that putting something at a path changes that path
  alone.
-/

namespace CardQuery

/-- What can stand at a path. -/
inductive Entry
  /-- A directory. -/
  | directory
  /-- A regular file with its content. -/
  | file (content : ByteArray)

namespace Entry

/-- The file that holds a text. -/
def ofText (t : Text) : Entry := file (String.ofList t).toUTF8

/-- The text that a content holds, if it is well-formed. -/
def text? (content : ByteArray) : Option Text := (String.fromUTF8? content).map String.toList

/-- A text is read back from what it was written to. -/
theorem text?_ofText (t : Text) : text? (String.ofList t).toUTF8 = some t := by
  have hvalid := (String.ofList t).isValidUTF8
  simp only [text?, String.fromUTF8?, String.toUTF8, hvalid, ↓reduceDIte, Option.map_some,
    Option.some.injEq]
  exact String.toList_ofList

end Entry

/-- Why a file operation fails. -/
inductive FileFault
  /-- There is a file where a directory is needed. -/
  | fileExists (path : Path)
  /-- The path leads through a file. -/
  | notDirectory (path : Path)
  /-- There is a directory where a file is needed. -/
  | isDirectory (path : Path)
deriving DecidableEq, Repr

namespace FileFault

/-- The wording of a fault, with the number of its kind. -/
def message : FileFault → Text
  | fileExists path => "[Errno 17] File exists: ".toList ++ path.written.literal
  | notDirectory path => "[Errno 20] Not a directory: ".toList ++ path.written.literal
  | isDirectory path => "[Errno 21] Is a directory: ".toList ++ path.written.literal

end FileFault

/-- The directories and regular files of a file tree, except for its root. -/
structure FileTree where
  /-- What stands at each path that is not empty. -/
  entries : List (Path × Entry) := []

namespace FileTree

/-- What stands at a path; the root is a directory. -/
def find? (tree : FileTree) (path : Path) : Option Entry :=
  match path with
  | [] => some .directory
  | _ => tree.entries.lookup path

/-- A tree with something put at a path. -/
def put (tree : FileTree) (path : Path) (entry : Entry) : FileTree :=
  ⟨(path, entry) :: tree.entries⟩

/-- What was put at a path is found there. -/
theorem find?_put_self (tree : FileTree) {path : Path} (h : path ≠ []) (entry : Entry) :
    (tree.put path entry).find? path = some entry := by
  cases path with
  | nil => exact absurd rfl h
  | cons name rest => simp [find?, put]

/-- Putting something at a path changes no other path. -/
theorem find?_put_of_ne (tree : FileTree) {path other : Path} (h : other ≠ path) (entry : Entry) :
    (tree.put path entry).find? other = tree.find? other := by
  cases other with
  | nil => rfl
  | cons name rest =>
    have hne : (name :: rest == path) = false := by simpa using h
    simp [find?, put, List.lookup_cons, hne]

/-- Whether a directory or a file stands at a path. -/
def exists_ (tree : FileTree) (path : Path) : Bool := (tree.find? path).isSome

/-- Whether a directory stands at a path. -/
def isDirectory (tree : FileTree) (path : Path) : Bool :=
  match tree.find? path with
  | some .directory => true
  | _ => false

/-- Whether a path leads to or through a regular file. -/
def meetsFile (tree : FileTree) (path : Path) : Bool :=
  (List.range (path.length + 1)).any fun n =>
    match tree.find? (path.take n) with
    | some (.file _) => true
    | _ => false

/-- A tree with every missing directory on the way to a path made. -/
def makeAll (tree : FileTree) (path : Path) : FileTree :=
  (List.range (path.length + 1)).foldl
    (fun tree n => if tree.exists_ (path.take n) then tree else tree.put (path.take n) .directory)
    tree

/-- The path reached from a directory by following names that exist, two dots leading back to the
parent. -/
def follow? (tree : FileTree) : Path → List Text → Option Path
  | p, [] => if tree.exists_ p then some p else none
  | p, name :: rest =>
    if tree.isDirectory p then
      follow? tree (if name = ['.', '.'] then p.parent else p ++ [name]) rest
    else none

/-- Whether a written path, in which a tilde has no special meaning, names a directory for a
program that runs at `place`. -/
def namesDirectory (tree : FileTree) (place : Place) (t : Text) : Bool :=
  if t.isEmpty then false
  else
    match tree.follow? (if t.head? = some '/' then [] else place.current) (Path.names t) with
    | some p => tree.isDirectory p
    | none => false

/-- A tree with a directory and all missing directories above it made. -/
def makeDirectory (tree : FileTree) (path : Path) : Except FileFault FileTree :=
  match tree.find? path with
  | some .directory => .ok tree
  | some (.file _) => .error (.fileExists path)
  | none => if tree.meetsFile path then .error (.notDirectory path) else .ok (tree.makeAll path)

/-- A tree with a file written and all missing directories above it made. -/
def writeFile (tree : FileTree) (path : Path) (entry : Entry) : Except FileFault FileTree :=
  match tree.makeDirectory path.parent with
  | .error fault => .error fault
  | .ok tree =>
    if tree.isDirectory path then .error (.isDirectory path) else .ok (tree.put path entry)

/-- The paths of the regular files in the directory `base`, from there on, with their contents. -/
def filesBelow (tree : FileTree) (base : Path) : List (Path × ByteArray) :=
  let paths := (tree.entries.map Prod.fst).eraseDups
  paths.filterMap fun path =>
    match base.isPrefixOf? path, tree.find? path with
    | some rest, some (.file content) => some (rest, content)
    | _, _ => none

end FileTree

end CardQuery
