import CardQuery.FileTree
import Mathlib.Data.List.Basic

/-!
# What writing a file changes

Making a directory only adds directories on the way to it, and writing a file changes nothing else
but the file.  Whatever was found before at another path is found there afterwards.

Main results:

- `find?_makeAll` says what is found after all directories on the way to a path have been made.
- `find?_of_makeDirectory` and `Wrote.of_writeFile` say what the two operations lead to if they
  succeed.
- `writeFile_of_wrote` says that a file that was written can be written again.
-/

namespace CardQuery

namespace FileTree

/-! ## Directories -/

/-- Making one directory, unless something stands there, adds at most that directory. -/
theorem find?_makeOne (tree : FileTree) (path other : Path) :
    (if tree.exists_ path then tree else tree.put path .directory).find? other =
      (tree.find? other).or (if other = path then some .directory else none) := by
  by_cases hother : other = path
  · subst hother
    cases hfound : tree.find? other with
    | some entry => simp [exists_, hfound]
    | none =>
      have hne : other ≠ [] := by
        rintro rfl
        cases hfound
      simp [exists_, hfound, find?_put_self tree hne]
  · have hsame : (if tree.exists_ path then tree else tree.put path .directory).find? other =
        tree.find? other := by
      split
      · rfl
      · exact find?_put_of_ne tree hother _
    rw [hsame, if_neg hother, Option.or_none]

/-- Making directories one after the other adds at most those. -/
theorem find?_foldl_makeOne (path other : Path) (counts : List Nat) (tree : FileTree) :
    (counts.foldl (fun tree n =>
      if tree.exists_ (path.take n) then tree else tree.put (path.take n) .directory) tree).find?
        other =
      (tree.find? other).or
        (if ∃ n ∈ counts, other = path.take n then some .directory else none) := by
  induction counts generalizing tree with
  | nil => simp
  | cons n counts ih =>
    rw [List.foldl_cons, ih, find?_makeOne, Option.or_assoc]
    congr 1
    by_cases hfirst : other = path.take n
    · simp [hfirst]
    · simp [hfirst]

/-- With all directories on the way to a path made, a directory stands at each beginning of the path
at which there was nothing, and nothing else has changed. -/
theorem find?_makeAll (tree : FileTree) (path other : Path) :
    (tree.makeAll path).find? other =
      (tree.find? other).or (if other <+: path then some .directory else none) := by
  have hway : (∃ n ∈ List.range (path.length + 1), other = path.take n) ↔ other <+: path := by
    constructor
    · rintro ⟨n, -, rfl⟩
      exact List.take_prefix n path
    · intro h
      refine ⟨other.length, ?_, List.prefix_iff_eq_take.1 h⟩
      have hlength := h.length_le
      rw [List.mem_range]
      omega
  rw [makeAll, find?_foldl_makeOne]
  simp only [hway]

/-- Whether what stands at a path is what stood there before, or a new directory on the way to
another path. -/
def Keeps (tree tree' : FileTree) (way path : Path) : Prop :=
  tree'.find? path = tree.find? path ∨
    path <+: way ∧ tree.find? path = none ∧ tree'.find? path = some .directory

/-- A directory that could be made is there, and only directories on the way to it have been
added. -/
theorem find?_of_makeDirectory {tree tree' : FileTree} {path : Path}
    (h : tree.makeDirectory path = .ok tree') :
    tree'.find? path = some .directory ∧ ∀ other, tree.Keeps tree' path other := by
  unfold makeDirectory at h
  split at h
  next hdirectory =>
    cases h
    exact ⟨hdirectory, fun _ => Or.inl rfl⟩
  next => cases h
  next hmissing =>
    split at h
    next => cases h
    next =>
      cases h
      constructor
      · simp [find?_makeAll, hmissing]
      · intro other
        cases hother : tree.find? other with
        | some entry => exact Or.inl (by simp [find?_makeAll, hother])
        | none =>
          by_cases hway : other <+: path
          · exact Or.inr ⟨hway, hother, by simp [find?_makeAll, hother, hway]⟩
          · exact Or.inl (by simp [find?_makeAll, hother, hway])

/-! ## Files -/

/-- What has become of a tree in which a file was written: the file stands in a directory, and of
the rest only directories on the way to the file have been added. -/
structure Wrote (tree : FileTree) (path : Path) (entry : Entry) (tree' : FileTree) : Prop where
  target : tree'.find? path = some entry
  above : tree'.find? path.parent = some .directory
  others : ∀ other ≠ path, tree.Keeps tree' path.parent other

theorem parent_ne {path : Path} (h : path ≠ []) : path.parent ≠ path := by
  intro heq
  have hlength : path.parent.length = path.length := congrArg List.length heq
  rw [Path.parent, List.length_dropLast] at hlength
  have hpos := List.length_pos_of_ne_nil h
  omega

theorem ne_nil_of_not_isDirectory {tree : FileTree} {path : Path}
    (h : ¬tree.isDirectory path = true) : path ≠ [] := by
  rintro rfl
  exact h rfl

theorem Wrote.of_writeFile {tree tree' : FileTree} {path : Path} {entry : Entry}
    (h : tree.writeFile path entry = .ok tree') : tree.Wrote path entry tree' := by
  unfold writeFile at h
  split at h
  next => cases h
  next middle hmade =>
    split at h
    next => cases h
    next hfree =>
      cases h
      rcases find?_of_makeDirectory hmade with ⟨habove, hkeeps⟩
      have hne := ne_nil_of_not_isDirectory hfree
      constructor
      · exact find?_put_self middle hne entry
      · rw [find?_put_of_ne middle (parent_ne hne)]
        exact habove
      · intro other hother
        rw [Keeps, find?_put_of_ne middle hother]
        exact hkeeps other

/-- The root is no file. -/
theorem Wrote.ne_nil {tree tree' : FileTree} {path : Path} {content : ByteArray}
    (h : tree.Wrote path (.file content) tree') : path ≠ [] := by
  rintro rfl
  cases h.target

/-- A file that was written can be written again, which changes nothing else. -/
theorem writeFile_of_wrote {tree tree' : FileTree} {path : Path} {content : ByteArray}
    (h : tree.Wrote path (.file content) tree') (entry : Entry) :
    tree'.writeFile path entry = .ok (tree'.put path entry) := by
  have hfile : tree'.isDirectory path = false := by simp [isDirectory, h.target]
  simp [writeFile, makeDirectory, h.above, hfile]

/-- Putting again what stands at a path already changes nothing. -/
theorem find?_put_of_find? {tree : FileTree} {path : Path} {entry : Entry} (hne : path ≠ [])
    (h : tree.find? path = some entry) (other : Path) :
    (tree.put path entry).find? other = tree.find? other := by
  by_cases hother : other = path
  · rw [hother, find?_put_self tree hne, h]
  · exact find?_put_of_ne tree hother entry

end FileTree

end CardQuery
