import CardQuery.Config.File
import CardQuery.Proofs.FileTree.Calls

/-!
# Obstacles to a starter file

Why a starter file is not written: its path has no meaning, or something stands there that is not to
be overwritten, or a file or a directory is in the way.  Each of the reasons has its own fault.

Main results:

- `FileTree.blocks_iff` says what keeps a file from being written.
- `Config.obstacle_iff` says what keeps a starter file from being written.
-/

namespace CardQuery

/-! ## Files -/

namespace FileTree

variable {tree : FileTree} {path : Path} {entry : Entry} {fault : FileFault}

/-- What keeps a file from being written, by the fault that is reported. -/
inductive Blocks (tree : FileTree) (path : Path) : FileFault → Prop
  /-- A file stands where the parent should. -/
  | parent {content : ByteArray} (h : tree.find? path.parent = some (.file content)) :
      Blocks tree path (.fileExists path.parent)
  /-- A file stands on the way to the parent, which is missing. -/
  | above (hmissing : tree.find? path.parent = none)
      (hfile : tree.meetsFile path.parent = true) : Blocks tree path (.notDirectory path.parent)
  /-- The parent is there or can be made, but there is a directory in it where the file should be. -/
  | target (hway : ∃ made, tree.makeDirectory path.parent = .ok made)
      (h : tree.find? path = some .directory) : Blocks tree path (.isDirectory path)

/-- Making the parent of a path makes no directory at the path. -/
theorem isDirectory_of_makeDirectory_parent {made : FileTree}
    (h : tree.makeDirectory path.parent = .ok made) :
    made.isDirectory path = tree.isDirectory path := by
  rcases (find?_of_makeDirectory h).2 path with hsame | ⟨hbegin, hmissing, -⟩
  · rw [isDirectory, isDirectory, hsame]
  · exact absurd hbegin (not_begins_parent hmissing)

/-- A file cannot be written exactly if something blocks it. -/
theorem blocks_iff : tree.Blocks path fault ↔ tree.writeFile path entry = .error fault := by
  constructor
  · intro h
    cases h with
    | parent h => simp [writeFile, makeDirectory, h]
    | above hmissing hfile => simp [writeFile, makeDirectory, hmissing, hfile]
    | target hway h =>
      obtain ⟨made, hmade⟩ := hway
      have hdirectory : made.isDirectory path = true := by
        rw [isDirectory_of_makeDirectory_parent hmade]
        simp [isDirectory, h]
      simp [writeFile, hmade, hdirectory]
  · intro h
    unfold writeFile at h
    split at h
    next found hparent =>
      obtain rfl := Except.error.inj h
      unfold makeDirectory at hparent
      split at hparent
      next => cases hparent
      next hfile =>
        obtain rfl := Except.error.inj hparent
        exact .parent hfile
      next hmissing =>
        split at hparent
        next hfile =>
          obtain rfl := Except.error.inj hparent
          exact .above hmissing hfile
        next => cases hparent
    next made hmade =>
      split at h
      next hdirectory =>
        obtain rfl := Except.error.inj h
        rw [isDirectory_of_makeDirectory_parent hmade] at hdirectory
        exact .target ⟨made, hmade⟩ (isDirectory_iff.1 hdirectory)
      next => cases h

end FileTree

/-! ## Starter files -/

namespace Config

variable {place : Place} {tree : FileTree} {named? : Option Text} {force : Bool}
  {fault : StarterFault}

/-- What keeps a starter file from being written, by the fault that is reported. -/
inductive Obstacle (place : Place) (tree : FileTree) (named? : Option Text) (force : Bool) :
    StarterFault → Prop
  /-- The path has no meaning. -/
  | meaningless {unknown : PathFault} (h : resolvePath place named? = .error unknown) :
      Obstacle place tree named? force (.path unknown)
  /-- Something stands at the path already, and is not to be overwritten. -/
  | taken {path : Path} (hpath : resolvePath place named? = .ok path)
      (hexists : tree.exists_ path = true) (hforce : force = false) :
      Obstacle place tree named? force (.alreadyExists path)
  /-- Nothing stands at the path or it is to be overwritten, but something blocks the file. -/
  | blocked {path : Path} {blocking : FileFault} (hpath : resolvePath place named? = .ok path)
      (hfree : tree.exists_ path = true → force = true) (h : tree.Blocks path blocking) :
      Obstacle place tree named? force (.file path blocking)

/-- A starter file is not written exactly if there is an obstacle. -/
theorem obstacle_iff :
    Obstacle place tree named? force fault ↔
      writeStarter place tree named? force = .error fault := by
  constructor
  · intro h
    cases h with
    | meaningless h => simp [writeStarter, h]
    | taken hpath hexists hforce => simp [writeStarter, hpath, hexists, hforce]
    | @blocked path blocking hpath hfree h =>
      have hwrite : tree.writeFile path (Entry.ofText starter) = .error blocking :=
        FileTree.blocks_iff.1 h
      simpa [writeStarter, hpath, hwrite] using hfree
  · intro h
    unfold writeStarter at h
    split at h
    next unknown hpath =>
      obtain rfl := Except.error.inj h
      exact .meaningless hpath
    next path hpath =>
      split at h
      next hexists =>
        obtain rfl := Except.error.inj h
        obtain ⟨hexists, hforce⟩ := Bool.and_eq_true_iff.1 hexists
        exact .taken hpath hexists (by simpa using hforce)
      next hfree =>
        split at h
        next blocking hwrite =>
          obtain rfl := Except.error.inj h
          exact .blocked hpath (by simpa using hfree) (FileTree.blocks_iff.2 hwrite)
        next => cases h

end Config

end CardQuery
