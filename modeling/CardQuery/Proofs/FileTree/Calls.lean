import CardQuery.Proofs.FileTree
import Mathlib.Data.List.Induction
import Mathlib.Logic.Function.Basic

/-!
# Calls that change a file tree

Directories are made and a file is opened by single calls, and each of them can fail after others
have changed the tree.  In a tree in which everything stands in a directory, the calls that make a
directory with those above it fail before anything is changed, and so do those that open a file for
writing.  Then the calls one after the other do what the operations on whole trees do.

Main results:

- `makesLike` says that the calls that make a directory do what `makeDirectory` does.
- `openCalls_eq` says that the calls that open a file and what is put into it do what `writeFile`
  does.
- `closed_of_writeFile` says that everything stands in a directory afterwards, too.
- `Wrote.content?_eq` says that only the content of the file that was written has changed.
-/

namespace CardQuery

/-- Why a call fails. -/
inductive CallFault
  /-- Something stands in the way. -/
  | known (fault : FileFault)
  /-- A directory on the way to a path is missing. -/
  | missing (path : Path)
deriving DecidableEq, Repr

namespace FileTree

/-! ## Calls -/

/-- Why a path cannot be reached from a directory above it by names one after the other, if it
cannot. -/
def walkFault? (tree : FileTree) (path : Path) : (above : Path) → List Text → Option CallFault
  | _, [] => none
  | above, name :: rest =>
    match tree.find? above with
    | some .directory => walkFault? tree path (above ++ [name]) rest
    | some (.file _) => some (.known (.notDirectory path))
    | none => some (.missing path)

/-- Why a path cannot be reached from the root, if it cannot. -/
def wayFault? (tree : FileTree) (path : Path) : Option CallFault := tree.walkFault? path [] path

/-- The call that makes one directory. -/
def mkdir (tree : FileTree) (path : Path) : FileTree × Except CallFault Unit :=
  match tree.wayFault? path with
  | some fault => (tree, .error fault)
  | none =>
    if tree.exists_ path then (tree, .error (.known (.fileExists path)))
    else (tree.put path .directory, .ok ())

/-- What a call that makes a directory comes to if there may be one already. -/
def settle (path : Path) : FileTree × Except CallFault Unit → FileTree × Except CallFault Unit
  | (tree, .ok ()) => (tree, .ok ())
  | (tree, .error fault) => (tree, if tree.isDirectory path then .ok () else .error fault)

/-- The calls that make a directory: if a directory on the way is missing, it is made first. -/
def makeParents (tree : FileTree) (path : Path) : FileTree × Except CallFault Unit :=
  match tree.mkdir path with
  | (tree, .error (.missing found)) =>
    if path = [] then (tree, .error (.missing found))
    else
      match makeParents tree path.parent with
      | (tree, .error fault) => (tree, .error fault)
      | (tree, .ok ()) => settle path (tree.mkdir path)
  | called => settle path called
termination_by path.length
decreasing_by
  have hpos := List.length_pos_of_ne_nil ‹_›
  simp only [Path.parent, List.length_dropLast]
  omega

/-- The call that opens a file for writing, which makes it if there is none and empties it if there
is one. -/
def openFile (tree : FileTree) (path : Path) : FileTree × Except CallFault Unit :=
  match tree.wayFault? path with
  | some fault => (tree, .error fault)
  | none =>
    if tree.isDirectory path then (tree, .error (.known (.isDirectory path)))
    else (tree.put path (.file .empty), .ok ())

/-- The calls that open a file for writing after the directories above it have been made. -/
def openCalls (tree : FileTree) (path : Path) : FileTree × Except CallFault Unit :=
  match tree.makeParents path.parent with
  | (tree, .error fault) => (tree, .error fault)
  | (tree, .ok ()) => tree.openFile path

/-! ## Trees in which everything stands in a directory -/

/-- Whether everything stands in a directory. -/
def Closed (tree : FileTree) : Prop :=
  ∀ path, tree.find? path ≠ none → tree.find? path.parent = some .directory

variable {tree : FileTree} {path : Path}

theorem closed_empty : Closed {} := by
  intro path h
  cases path with
  | nil => rfl
  | cons name rest => exact absurd rfl h

/-- Every beginning of the way to something is a directory. -/
theorem Closed.find?_above (h : tree.Closed) {above : Path} (hbegin : above <+: path)
    (hne : above ≠ path) (hfound : tree.find? path ≠ none) :
    tree.find? above = some .directory := by
  induction path using List.reverseRecOn with
  | nil => exact absurd (List.prefix_nil.1 hbegin) hne
  | append_singleton path name ih =>
    have hparent := h _ hfound
    rw [Path.parent, List.dropLast_concat] at hparent
    rcases List.prefix_concat_iff.1 hbegin with heq | hbegin
    · exact absurd heq hne
    · by_cases hsame : above = path
      · rw [hsame, hparent]
      · exact ih hbegin hsame (by simp [hparent])

theorem parent_begins (path : Path) : path.parent <+: path := List.dropLast_prefix path

/-- What is missing is not the root, so it is not on the way to itself. -/
theorem ne_nil_of_missing (h : tree.find? path = none) : path ≠ [] := by
  rintro rfl
  cases h

theorem not_begins_parent (h : tree.find? path = none) : ¬path <+: path.parent := fun hbegin =>
  parent_ne (ne_nil_of_missing h) ((parent_begins path).sublist.antisymm hbegin.sublist)

theorem isDirectory_iff : tree.isDirectory path = true ↔ tree.find? path = some .directory := by
  unfold isDirectory
  split
  next hfound => exact iff_of_true rfl hfound
  next hfound => exact iff_of_false Bool.false_ne_true hfound

theorem Closed.find?_above_parent (h : tree.Closed)
    (hparent : tree.find? path.parent = some .directory) {above : Path}
    (hbegin : above <+: path.parent) : tree.find? above = some .directory := by
  by_cases hsame : above = path.parent
  · rw [hsame, hparent]
  · exact h.find?_above hbegin hsame (by simp [hparent])

/-- What stands in a directory can be reached. -/
theorem wayFault?_of_parent (h : tree.Closed) (hparent : tree.find? path.parent = some .directory) :
    tree.wayFault? path = none := by
  have hwalk : ∀ names above, above ++ names = path → tree.walkFault? path above names = none := by
    intro names
    induction names with
    | nil => exact fun _ _ => rfl
    | cons name rest ih =>
      intro above hpath
      have hbegin : above <+: path.parent := by
        rw [← hpath, Path.parent, List.dropLast_append_of_ne_nil (List.cons_ne_nil name rest)]
        exact List.prefix_append above _
      rw [walkFault?, h.find?_above_parent hparent hbegin]
      exact ih _ (by simp [hpath])
  exact hwalk path [] rfl

/-- A path meets a file that stands at one of its beginnings. -/
theorem meetsFile_iff :
    tree.meetsFile path = true ↔ ∃ above content, above <+: path ∧
      tree.find? above = some (.file content) := by
  rw [meetsFile, List.any_eq_true]
  constructor
  · rintro ⟨n, -, hfile⟩
    split at hfile
    next content hfound => exact ⟨path.take n, content, List.take_prefix n path, hfound⟩
    next => cases hfile
  · rintro ⟨above, content, hbegin, hfound⟩
    have hle := hbegin.length_le
    refine ⟨above.length, List.mem_range.2 (by omega), ?_⟩
    rw [← List.prefix_iff_eq_take.1 hbegin, hfound]

theorem Closed.meetsFile_of_missing (h : tree.Closed) {above : Path} (habove : above <+: path)
    (hfound : tree.find? above = none) (hmet : tree.meetsFile path = true) :
    ∃ other content, other <+: above ∧ other ≠ above ∧
      tree.find? other = some (.file content) := by
  obtain ⟨other, content, hbegin, hfile⟩ := meetsFile_iff.1 hmet
  have hne : other ≠ above := by
    rintro rfl
    rw [hfound] at hfile
    cases hfile
  rcases List.prefix_or_prefix_of_prefix hbegin habove with hbefore | hbehind
  · exact ⟨other, content, hbefore, hne, hfile⟩
  · have hdirectory := h.find?_above hbehind hne.symm (by simp [hfile])
    rw [hfound] at hdirectory
    cases hdirectory

/-- What stands in no directory cannot be reached: something on the way is a file, or something is
missing. -/
theorem wayFault?_of_not_parent (h : tree.Closed) (hmissing : tree.find? path = none)
    (hparent : tree.find? path.parent ≠ some .directory) :
    tree.wayFault? path =
      some (if tree.meetsFile path then .known (.notDirectory path) else .missing path) := by
  have hwalk : ∀ names above, above ++ names = path →
      (∀ other, other <+: above → other ≠ above → tree.find? other = some .directory) →
      tree.walkFault? path above names =
        some (if tree.meetsFile path then .known (.notDirectory path) else .missing path) := by
    intro names
    induction names with
    | nil =>
      intro above hpath habove
      rw [List.append_nil] at hpath
      subst hpath
      have hne := ne_nil_of_missing hmissing
      exact absurd (habove _ (parent_begins above) (parent_ne hne)) hparent
    | cons name rest ih =>
      intro above hpath habove
      have hbegin : above <+: path := hpath ▸ List.prefix_append above _
      rw [walkFault?]
      cases hfound : tree.find? above with
      | none =>
        have hmeets : ¬tree.meetsFile path = true := by
          intro hmet
          obtain ⟨other, content, hbefore, hne, hfile⟩ := h.meetsFile_of_missing hbegin hfound hmet
          rw [habove other hbefore hne] at hfile
          cases hfile
        rw [if_neg hmeets]
      | some entry =>
        cases entry with
        | file content => rw [if_pos (meetsFile_iff.2 ⟨above, content, hbegin, hfound⟩)]
        | directory =>
          apply ih _ (by simp [hpath])
          intro other hother hne
          rcases List.prefix_concat_iff.1 hother with heq | hbefore
          · exact absurd heq hne
          · by_cases hsame : other = above
            · rw [hsame, hfound]
            · exact habove other hbefore hsame
  exact hwalk path [] rfl fun other hother hne => absurd (List.prefix_nil.1 hother) hne

/-! ## Making directories -/

theorem closed_put (h : tree.Closed) (hparent : tree.find? path.parent = some .directory)
    (hfree : tree.find? path ≠ some .directory) (entry : Entry) : (tree.put path entry).Closed := by
  have hne : path ≠ [] := by
    rintro rfl
    exact hfree rfl
  intro other hother
  by_cases hsame : other = path
  · rw [hsame, find?_put_of_ne tree (parent_ne hne), hparent]
  · rw [find?_put_of_ne tree hsame] at hother
    have habove := h other hother
    have hnot : other.parent ≠ path := by
      intro heq
      rw [heq] at habove
      exact hfree habove
    rw [find?_put_of_ne tree hnot, habove]

/-- All directories on the way to a path are made by making those above it and then the last one. -/
theorem makeAll_eq (tree : FileTree) (hne : path ≠ []) :
    tree.makeAll path =
      if (tree.makeAll path.parent).exists_ path then tree.makeAll path.parent
      else (tree.makeAll path.parent).put path .directory := by
  let make (path : Path) (tree : FileTree) (n : Nat) : FileTree :=
    if tree.exists_ (path.take n) then tree else tree.put (path.take n) .directory
  have hlength : path.length = path.parent.length + 1 := by
    have hpos := List.length_pos_of_ne_nil hne
    rw [Path.parent, List.length_dropLast]
    omega
  have hbefore : (List.range path.length).foldl (make path) tree = tree.makeAll path.parent := by
    rw [hlength]
    apply List.foldl_ext
    intro tree n hn
    have hle : n ≤ path.length - 1 := by
      have hlt := List.mem_range.1 hn
      omega
    simp only [make, Path.parent, List.dropLast_eq_take, List.take_take, Nat.min_eq_left hle]
  have hunfold : tree.makeAll path = (List.range (path.length + 1)).foldl (make path) tree := rfl
  rw [hunfold, List.range_succ, List.foldl_append, hbefore, List.foldl_cons, List.foldl_nil]
  simp only [make, List.take_length]

/-- No directory is missing on the way to a directory. -/
theorem makeAll_of_directory (h : tree.Closed) (hfound : tree.find? path = some .directory) :
    tree.makeAll path = tree := by
  apply List.foldl_fixed'
  intro n
  have habove : tree.find? (path.take n) = some .directory := by
    by_cases hsame : path.take n = path
    · rw [hsame, hfound]
    · exact h.find?_above (List.take_prefix n path) hsame (by simp [hfound])
  exact if_pos (by simp [exists_, habove])

/-- The call that makes a directory makes it if it stands in a directory. -/
theorem mkdir_of_parent (h : tree.Closed) (hmissing : tree.find? path = none)
    (hparent : tree.find? path.parent = some .directory) :
    tree.mkdir path = (tree.put path .directory, .ok ()) := by
  rw [mkdir, wayFault?_of_parent h hparent]
  simp [exists_, hmissing]

/-- The call that makes a directory refuses to make what is there. -/
theorem mkdir_of_found (h : tree.Closed) {entry : Entry} (hfound : tree.find? path = some entry) :
    tree.mkdir path = (tree, .error (.known (.fileExists path))) := by
  rw [mkdir, wayFault?_of_parent h (h path (by simp [hfound]))]
  simp [exists_, hfound]

theorem begins_parent {other : Path} (h : other <+: path) (hne : other ≠ path) :
    other <+: path.parent := by
  rcases List.eq_nil_or_concat path with rfl | ⟨above, name, rfl⟩
  · exact absurd (List.prefix_nil.1 h) hne
  · rw [List.concat_eq_append] at h hne ⊢
    rw [Path.parent, List.dropLast_concat]
    exact (List.prefix_concat_iff.1 h).resolve_left hne

theorem not_meetsFile_of_parent (h : tree.Closed) (hmissing : tree.find? path = none)
    (hparent : tree.find? path.parent = some .directory) : ¬tree.meetsFile path = true := by
  intro hmet
  obtain ⟨other, content, hbefore, hne, hfile⟩ :=
    h.meetsFile_of_missing (List.prefix_refl path) hmissing hmet
  rw [h.find?_above_parent hparent (begins_parent hbefore hne)] at hfile
  cases hfile

/-- A path below what meets a file meets this file, too. -/
theorem meetsFile_of_parent (h : tree.meetsFile path.parent = true) :
    tree.meetsFile path = true := by
  obtain ⟨above, content, hbegin, hfile⟩ := meetsFile_iff.1 h
  exact meetsFile_iff.2 ⟨above, content, hbegin.trans (parent_begins path), hfile⟩

/-- The directory above can be made if there is neither a directory yet nor a file on the way. -/
theorem makeDirectory_parent (hparent : tree.find? path.parent ≠ some .directory)
    (hmeets : ¬tree.meetsFile path = true) :
    tree.makeDirectory path.parent = .ok (tree.makeAll path.parent) := by
  have habove : ¬tree.meetsFile path.parent = true := fun h => hmeets (meetsFile_of_parent h)
  unfold makeDirectory
  split
  next hfound => exact absurd hfound hparent
  next content hfile =>
    exact absurd (meetsFile_iff.2 ⟨_, content, List.prefix_refl _, hfile⟩) habove
  next => rw [if_neg habove]

/-- Calls for a path at which something stands change nothing. -/
theorem makeParents_of_found (h : tree.Closed) {entry : Entry}
    (hfound : tree.find? path = some entry) :
    tree.makeParents path =
      (tree, if tree.isDirectory path then .ok () else .error (.known (.fileExists path))) := by
  rw [makeParents, mkdir_of_found h hfound]
  rfl

/-- One call makes a directory in a directory. -/
theorem makeParents_of_parent (h : tree.Closed) (hmissing : tree.find? path = none)
    (hparent : tree.find? path.parent = some .directory) :
    tree.makeParents path = (tree.put path .directory, .ok ()) := by
  rw [makeParents, mkdir_of_parent h hmissing hparent]
  rfl

/-- Below a file the first call fails. -/
theorem makeParents_of_meetsFile (h : tree.Closed) (hmissing : tree.find? path = none)
    (hparent : tree.find? path.parent ≠ some .directory) (hmeets : tree.meetsFile path = true) :
    tree.makeParents path = (tree, .error (.known (.notDirectory path))) := by
  have hdirectory : tree.isDirectory path = false := by simp [isDirectory, hmissing]
  rw [makeParents, mkdir, wayFault?_of_not_parent h hmissing hparent, if_pos hmeets]
  simp only [settle, hdirectory, Bool.false_eq_true, if_false]

/-- Where the directory above is missing, it is made first. -/
theorem makeParents_of_missing (h : tree.Closed) (hmissing : tree.find? path = none)
    (hparent : tree.find? path.parent ≠ some .directory) (hmeets : ¬tree.meetsFile path = true)
    {middle : FileTree} (hmade : tree.makeDirectory path.parent = .ok middle)
    (habove : tree.makeParents path.parent = (middle, .ok ())) (hclosed : middle.Closed) :
    tree.makeParents path = (tree.makeAll path, .ok ()) ∧ (tree.makeAll path).Closed := by
  have hne := ne_nil_of_missing hmissing
  obtain rfl : tree.makeAll path.parent = middle :=
    Except.ok.inj ((makeDirectory_parent hparent hmeets).symm.trans hmade)
  obtain ⟨hdirectory, hkeeps⟩ := find?_of_makeDirectory hmade
  have hfree : (tree.makeAll path.parent).find? path = none := by
    rcases hkeeps path with hsame | ⟨hbegin, -⟩
    · rw [hsame, hmissing]
    · exact absurd hbegin (not_begins_parent hmissing)
  have hmake : tree.makeAll path = (tree.makeAll path.parent).put path .directory := by
    rw [makeAll_eq tree hne]
    simp [exists_, hfree]
  constructor
  · rw [makeParents, mkdir, wayFault?_of_not_parent h hmissing hparent, if_neg hmeets]
    simp only [if_neg hne, habove, mkdir_of_parent hclosed hfree hdirectory, settle, hmake]
  · rw [hmake]
    exact closed_put hclosed hdirectory (by simp [hfree]) _

/-- Whether the calls that make a directory do what `makeDirectory` does: they fail before anything
has changed, or lead to the same tree. -/
def MakesLike (tree : FileTree) (path : Path) : Prop :=
  (∃ fault, tree.makeDirectory path = .error fault ∧
      tree.makeParents path = (tree, .error (.known fault))) ∨
    ∃ after, tree.makeDirectory path = .ok after ∧ tree.makeParents path = (after, .ok ()) ∧
      after.Closed

theorem makesLike_of_found (h : tree.Closed) {entry : Entry}
    (hfound : tree.find? path = some entry) : tree.MakesLike path := by
  have hcalls := makeParents_of_found h hfound
  cases entry with
  | directory =>
    rw [if_pos (isDirectory_iff.2 hfound)] at hcalls
    exact Or.inr ⟨tree, by simp [makeDirectory, hfound], hcalls, h⟩
  | file content =>
    have hdirectory : ¬tree.isDirectory path = true := by simp [isDirectory_iff, hfound]
    rw [if_neg hdirectory] at hcalls
    exact Or.inl ⟨_, by simp [makeDirectory, hfound], hcalls⟩

theorem makesLike_of_parent (h : tree.Closed) (hmissing : tree.find? path = none)
    (hparent : tree.find? path.parent = some .directory) : tree.MakesLike path := by
  have hmeets := not_meetsFile_of_parent h hmissing hparent
  have hmake : tree.makeAll path = tree.put path .directory := by
    rw [makeAll_eq tree (ne_nil_of_missing hmissing), makeAll_of_directory h hparent]
    simp [exists_, hmissing]
  refine Or.inr ⟨tree.put path .directory, ?_, makeParents_of_parent h hmissing hparent,
    closed_put h hparent (by simp [hmissing]) _⟩
  simp [makeDirectory, hmissing, hmeets, hmake]

theorem makesLike_of_missing (h : tree.Closed) (hmissing : tree.find? path = none)
    (hparent : tree.find? path.parent ≠ some .directory) (habove : tree.MakesLike path.parent) :
    tree.MakesLike path := by
  by_cases hmeets : tree.meetsFile path = true
  · exact Or.inl ⟨_, by simp [makeDirectory, hmissing, hmeets],
      makeParents_of_meetsFile h hmissing hparent hmeets⟩
  · have hmade := makeDirectory_parent hparent hmeets
    rcases habove with ⟨fault, hfault, -⟩ | ⟨middle, hmiddle, hcalls, hclosed⟩
    · rw [hmade] at hfault
      cases hfault
    · obtain ⟨hall, hafter⟩ :=
        makeParents_of_missing h hmissing hparent hmeets hmiddle hcalls hclosed
      exact Or.inr ⟨tree.makeAll path, by simp [makeDirectory, hmissing, hmeets], hall, hafter⟩

/-- In a tree in which everything stands in a directory, the calls that make a directory do what
`makeDirectory` does. -/
theorem makesLike (h : tree.Closed) (path : Path) : tree.MakesLike path := by
  -- The path above is shorter.
  induction hlength : path.length generalizing path with
  | zero =>
    rw [List.length_eq_zero_iff.1 hlength]
    exact makesLike_of_found h rfl
  | succ n ih =>
    cases hfound : tree.find? path with
    | some entry => exact makesLike_of_found h hfound
    | none =>
      by_cases hparent : tree.find? path.parent = some .directory
      · exact makesLike_of_parent h hfound hparent
      · apply makesLike_of_missing h hfound hparent
        apply ih
        rw [Path.parent, List.length_dropLast, hlength, Nat.add_sub_cancel]

/-! ## Writing a file -/

/-- What was put at a path first does not matter. -/
theorem find?_put_put (tree : FileTree) (path : Path) (first entry : Entry) (other : Path) :
    ((tree.put path first).put path entry).find? other = (tree.put path entry).find? other := by
  by_cases hsame : other = path
  · subst hsame
    cases other with
    | nil => rfl
    | cons name rest => simp [find?, put]
  · rw [find?_put_of_ne _ hsame, find?_put_of_ne _ hsame, find?_put_of_ne _ hsame]

/-- Where a directory stands, no directory had to be made above it. -/
theorem eq_of_makeDirectory_parent (h : tree.Closed) {middle : FileTree}
    (hmade : tree.makeDirectory path.parent = .ok middle)
    (hdirectory : middle.find? path = some .directory) : middle = tree := by
  have hbefore : tree.find? path = some .directory := by
    rcases (find?_of_makeDirectory hmade).2 path with hsame | ⟨hbegin, hmissing, -⟩
    · rw [← hsame, hdirectory]
    · exact absurd hbegin (not_begins_parent hmissing)
  have hparent := h path (by simp [hbefore])
  have hnone : tree.makeDirectory path.parent = .ok tree := by simp [makeDirectory, hparent]
  exact (Except.ok.inj (hnone.symm.trans hmade)).symm

/-- The calls that open a file fail exactly if `writeFile` does, before anything has changed, and
what is put into the file then makes the tree that `writeFile` leads to. -/
theorem openCalls_eq (h : tree.Closed) (path : Path) (entry : Entry) :
    (∃ fault, tree.writeFile path entry = .error fault ∧
        tree.openCalls path = (tree, .error (.known fault))) ∨
      ∃ opened after, tree.writeFile path entry = .ok after ∧
        tree.openCalls path = (opened, .ok ()) ∧
        ∀ other, (opened.put path entry).find? other = after.find? other := by
  unfold openCalls writeFile
  rcases makesLike h path.parent with ⟨fault, hmade, hcalls⟩ | ⟨middle, hmade, hcalls, hclosed⟩
  · simp only [hmade, hcalls]
    exact Or.inl ⟨fault, rfl, rfl⟩
  · have hway := wayFault?_of_parent hclosed (find?_of_makeDirectory hmade).1
    simp only [hmade, hcalls, openFile, hway]
    by_cases hdirectory : middle.isDirectory path = true
    · obtain rfl := eq_of_makeDirectory_parent h hmade (isDirectory_iff.1 hdirectory)
      simp only [if_pos hdirectory]
      exact Or.inl ⟨.isDirectory path, rfl, rfl⟩
    · simp only [if_neg hdirectory]
      exact Or.inr ⟨_, _, rfl, rfl, find?_put_put middle path (.file .empty) entry⟩

/-- In a tree in which a file was written everything stands in a directory, too. -/
theorem closed_of_writeFile (h : tree.Closed) {after : FileTree} {content : ByteArray}
    (hwrite : tree.writeFile path (.file content) = .ok after) : after.Closed := by
  unfold writeFile at hwrite
  rcases makesLike h path.parent with ⟨fault, hmade, -⟩ | ⟨middle, hmade, -, hclosed⟩
  · rw [hmade] at hwrite
    cases hwrite
  · simp only [hmade] at hwrite
    split at hwrite
    next => cases hwrite
    next hdirectory =>
      obtain rfl := Except.ok.inj hwrite
      exact closed_put hclosed (find?_of_makeDirectory hmade).1
        (fun hfound => hdirectory (isDirectory_iff.2 hfound)) _

/-! ## Contents of files -/

/-- The content of the regular file at a path, if there is one. -/
def content? (tree : FileTree) (path : Path) : Option ByteArray :=
  match tree.find? path with
  | some (.file content) => some content
  | _ => none

theorem content?_congr {tree' : FileTree} (h : ∀ path, tree'.find? path = tree.find? path) :
    tree'.content? = tree.content? := by
  ext path : 1
  rw [content?, content?, h]

/-- Of the contents of files only that of the file that was written has changed. -/
theorem Wrote.content?_eq {after : FileTree} {content : ByteArray}
    (h : tree.Wrote path (.file content) after) :
    after.content? = Function.update tree.content? path (some content) := by
  ext other : 1
  by_cases hsame : other = path
  · rw [hsame, Function.update_self, content?, h.target]
  · rw [Function.update_of_ne hsame, content?, content?]
    rcases h.others other hsame with hfound | ⟨-, hmissing, hdirectory⟩
    · rw [hfound]
    · rw [hmissing, hdirectory]

end FileTree

end CardQuery
