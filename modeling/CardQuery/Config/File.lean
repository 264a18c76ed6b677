import CardQuery.Config.Document
import CardQuery.FileTree

/-!
# Configuration files

Loading the configuration from a file, saving it to a file, and writing a starter file.

Main results:

- `load_of_missing` says that a missing file gives the default configuration with a warning.
- `writeStarter_of_exists` says that a starter file never replaces anything unless it is forced.
-/

namespace CardQuery

namespace Config

/-! ## Loading -/

/-- Why a configuration cannot be loaded. -/
inductive LoadFault
  /-- The path has no meaning. -/
  | path (fault : PathFault)
  /-- The file cannot be read. -/
  | file (fault : FileFault)
  /-- The file does not hold a text. -/
  | notText
  /-- The text of the file holds no configuration. -/
  | document (fault : DocumentFault)
deriving DecidableEq, Repr

/-- The path of the configuration file that is used if none is named. -/
def defaultPath (place : Place) : Path :=
  place.home ++ [".config".toList, "cardsearch".toList, "config.toml".toList]

/-- The path of the configuration file that is written as `named?`, or the default one. -/
def resolvePath (place : Place) (named? : Option Text) : Except PathFault Path :=
  match named? with
  | some t => Path.resolve place t
  | none => .ok (defaultPath place)

/-- The configuration in the file at a path, with the warnings about it. -/
def loadAt (tree : FileTree) (path : Path) : Except LoadFault (Config × List ConfigWarning) :=
  match tree.find? path with
  | none =>
    match check {} with
    | .error fault => .error (.document (.invalid fault))
    | .ok warnings => .ok ({}, .noFile path.written :: warnings)
  | some .directory => .error (.file (.isDirectory path))
  | some (.file content) =>
    match Entry.text? content with
    | none => .error .notText
    | some source =>
      match read (some path.written) source with
      | .error fault => .error (.document fault)
      | .ok found => .ok found

/-- The configuration in the file that is named, or in the default one, with the warnings about
it. -/
def load (place : Place) (tree : FileTree) (named? : Option Text) :
    Except LoadFault (Config × List ConfigWarning) :=
  match resolvePath place named? with
  | .error fault => .error (.path fault)
  | .ok path => loadAt tree path

/-- The path and the text of the configuration file that is named, or of the default one, if there
is a text at the path. -/
def source? (place : Place) (tree : FileTree) (named? : Option Text) : Option (Path × Text) :=
  match resolvePath place named? with
  | .error _ => none
  | .ok path =>
    match tree.find? path with
    | some (.file content) => (Entry.text? content).map fun source => (path, source)
    | _ => none

/-- A missing file gives the default configuration with a warning. -/
theorem load_of_missing {tree : FileTree} {path : Path} (h : tree.find? path = none) :
    loadAt tree path = .ok ({}, [.noFile path.written]) := by
  simp [loadAt, h, check, outputFormats]

/-! ## Saving -/

/-- Why a configuration cannot be saved. -/
inductive SaveFault
  /-- The path has no meaning. -/
  | path (fault : PathFault)
  /-- The file cannot be written. -/
  | file (fault : FileFault)
deriving DecidableEq, Repr

/-- The tree after a configuration has been saved in the file that is named, in the one that it
was read from, or in the default one. -/
def save (place : Place) (tree : FileTree) (c : Config) (named? : Option Text) :
    Except SaveFault FileTree :=
  match resolvePath place (named?.or c.path) with
  | .error fault => .error (.path fault)
  | .ok path =>
    match tree.writeFile path (Entry.ofText c.write) with
    | .error fault => .error (.file fault)
    | .ok tree => .ok tree

/-! ## Starter files -/

/-- The lines of a starter file. -/
def starterLines : List String := [
  "# cardsearch configuration",
  "#",
  "# Location: ~/.config/cardsearch/config.toml",
  "# Create with: cardsearch init-config",
  "",
  "[search]",
  "# Reject is: states and prop: properties that are not known to the",
  "# scheduler (new, learn, review, relearn, due, suspended, buried, marked;",
  "# ivl, due, lapses, reps, ease, pos).",
  "strict = false",
  "",
  "# Longest accepted search string, in characters. 0 disables the cap.",
  "max_query_length = 1000",
  "",
  "[display]",
  "# Use colors in terminal output. NO_COLOR in the environment also disables it.",
  "colored_output = true",
  "",
  "# Output format for \"cardsearch parse\": \"table\" or \"json\".",
  "default_format = \"table\""]

/-- The text of a starter file. -/
def starter : Text := starterLines.flatMap fun line => line.toList ++ ['\n']

/-- Why a starter file cannot be written. -/
inductive StarterFault
  /-- The path has no meaning. -/
  | path (fault : PathFault)
  /-- Something stands at the path already. -/
  | alreadyExists (path : Path)
  /-- The file cannot be written. -/
  | file (path : Path) (fault : FileFault)
deriving DecidableEq, Repr

/-- The wording of a starter file that cannot be written; none for a path without meaning. -/
def StarterFault.message? : StarterFault → Option Text
  | .path _ => none
  | .alreadyExists p => some ("Config file already exists: ".toList ++ p.written)
  | .file p fault =>
    some ("Failed to write config file ".toList ++ p.written ++ ": ".toList ++ fault.message)

/-- The tree after a starter file has been written, with its path.  Nothing that exists is
replaced unless `force` is given. -/
def writeStarter (place : Place) (tree : FileTree) (named? : Option Text) (force : Bool) :
    Except StarterFault (Path × FileTree) :=
  match resolvePath place named? with
  | .error fault => .error (.path fault)
  | .ok path =>
    if tree.exists_ path && !force then .error (.alreadyExists path)
    else
      match tree.writeFile path (Entry.ofText starter) with
      | .error fault => .error (.file path fault)
      | .ok tree => .ok (path, tree)

/-- A starter file never replaces anything unless it is forced. -/
theorem writeStarter_of_exists {place : Place} {tree : FileTree} {named? : Option Text}
    {path : Path} (hpath : resolvePath place named? = .ok path)
    (hexists : tree.exists_ path = true) :
    writeStarter place tree named? false = .error (.alreadyExists path) := by
  simp [writeStarter, hpath, hexists]

end Config

end CardQuery
