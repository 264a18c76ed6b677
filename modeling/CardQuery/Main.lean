import CardQuery.Program

/-!
# The command

The program on a real file system: what stands at the paths that matter is looked up, the run is
computed, and what it changed and wrote is put where it belongs.
-/

namespace CardQuery

namespace Disk

/-- What stands at a path. -/
def entryAt? (path : Path) : IO (Option Entry) := do
  let file := (← IO.currentDir) / String.ofList path.written
  if ← file.isDir then return some .directory
  if ← file.pathExists then return some (.file (← IO.FS.readBinFile file))
  return none

/-- The paths that the name of a file may lead to or through. -/
def pathsOf (place : Place) (name : Text) : List Path :=
  let base := if name.head? = some '/' then [] else place.current
  let names := Path.names name
  let passed := (List.range (names.length + 1)).map fun n => Path.follow base (names.take n)
  (Path.resolve place name).toOption.toList ++ passed

/-- A tree with what stands at a path and above it. -/
def lookAt (tree : FileTree) (path : Path) : IO FileTree :=
  (List.range (path.length + 1)).foldlM
    (fun tree n => do
      let above := path.take n
      if tree.exists_ above then return tree
      match ← entryAt? above with
      | some entry => return tree.put above entry
      | none => return tree)
    tree

/-- The files that a run with the given arguments may look at. -/
def before (place : Place) (args : List Text) : IO FileTree :=
  let named := (Program.namedFiles args).flatMap (pathsOf place)
  (place.current :: place.home :: Config.defaultPath place :: named).foldlM lookAt {}

/-- Puts what a run added to a tree on the disk. -/
def save (old new : FileTree) : IO Unit := do
  let added := new.entries.take (new.entries.length - old.entries.length)
  for (path, entry) in added.reverse do
    let file := (← IO.currentDir) / String.ofList path.written
    match entry with
    | .directory => IO.FS.createDirAll file
    | .file content => IO.FS.writeBinFile file content

end Disk

/-- The home directory in an entry of the list of users, which has it as its sixth part. -/
def homeOfEntry? (entry : String) : Option (Text × Path) :=
  match Text.partsBetween (· == ':') entry.toList with
  | [name, _, _, _, _, home, _] => some (name, Path.names home)
  | _ => none

/-- The home directories of the users in the list of users, if there is one. -/
def otherHomes : IO (List (Text × Path)) := do
  try
    return (← IO.FS.lines "/etc/passwd").toList.filterMap homeOfEntry?
  catch _ => return []

/-- Runs the program and gives its exit code. -/
def runMain (args : List Text) : IO UInt32 := do
  let current := (← IO.currentDir).toString
  let home := (← IO.getEnv "HOME").getD current
  let place : Place :=
    { home := Path.names home.toList, current := Path.names current.toList,
      others := ← otherHomes }
  let noColor := (← IO.getEnv "NO_COLOR").isSome
  let tree ← Disk.before place args
  let outcome := Program.run { place, noColor } tree args
  Disk.save tree outcome.last.tree
  for entry in outcome.last.log do
    IO.eprintln (String.ofList entry.message)
  IO.print (String.ofList outcome.last.output)
  IO.eprint (String.ofList outcome.last.errors)
  return outcome.exitCode.toUInt32

end CardQuery

/-- The program with the arguments of the command line. -/
def main (args : List String) : IO UInt32 :=
  CardQuery.runMain (args.map String.toList)
