import CardQuery.Proofs.Config.Saving
import CardQuery.Proofs.FileTree.Calls

/-!
# Writers of configuration files

A starter file and a configuration are written by calls one after the other.  If one of the calls
fails, all files have the contents that they had before, and otherwise only the file that was asked
for has a new content.

Main results:

- `endsLike_starterCalls` and `endsLike_saveCalls` say that the calls do what `writeStarter` and
  `save` do.
- `read_starter` says that a starter file holds the default configuration.
- `writers_touch_target` says what the writers leave behind.
-/

namespace CardQuery

namespace Config

/-! ## Calls -/

/-- Why a configuration file is not written. -/
inductive WriterFault
  /-- The path has no meaning. -/
  | path (fault : PathFault)
  /-- Something stands at the path already. -/
  | alreadyExists (path : Path)
  /-- A call fails. -/
  | call (fault : CallFault)
  /-- A number has more digits than can be written. -/
  | oversizedNumeral
deriving DecidableEq, Repr

/-- The fault of a writer that a starter file is refused with. -/
def StarterFault.cause : StarterFault → WriterFault
  | .path fault => .path fault
  | .alreadyExists p => .alreadyExists p
  | .file _ fault => .call (.known fault)

/-- The fault of a writer that saving is refused with. -/
def SaveFault.cause : SaveFault → WriterFault
  | .path fault => .path fault
  | .file fault => .call (.known fault)

/-- The calls that write a starter file. -/
def starterCalls (place : Place) (tree : FileTree) (named? : Option Text) (force : Bool) :
    FileTree × Except WriterFault Path :=
  match resolvePath place named? with
  | .error fault => (tree, .error (.path fault))
  | .ok path =>
    if tree.exists_ path && !force then (tree, .error (.alreadyExists path))
    else
      match tree.openCalls path with
      | (tree, .error fault) => (tree, .error (.call fault))
      | (tree, .ok ()) => (tree.put path (Entry.ofText starter), .ok path)

/-- What is written of a configuration before a number that has too many digits, if it has one. -/
def cutOff? (c : Config) : Option Text :=
  if (Text.ofNat c.maxQueryLength.natAbs).length ≤ Text.maxNumeralDigits then none
  else some (Toml.writeSections [⟨"search".toList, c.changed [.strict]⟩])

/-- The calls that save a configuration. -/
def saveCalls (place : Place) (tree : FileTree) (c : Config) (named? : Option Text) :
    FileTree × Except WriterFault Unit :=
  match resolvePath place (named?.or c.path) with
  | .error fault => (tree, .error (.path fault))
  | .ok path =>
    match tree.openCalls path with
    | (tree, .error fault) => (tree, .error (.call fault))
    | (tree, .ok ()) =>
      match c.cutOff? with
      | some t => (tree.put path (Entry.ofText t), .error .oversizedNumeral)
      | none => (tree.put path (Entry.ofText c.write), .ok ())

/-! ## Calls and operations on whole trees -/

/-- Whether calls end as an operation on a whole tree does: with the same result and the same
entries, or with its fault and the tree as it was. -/
def EndsLike {ε α : Type} (cause : ε → WriterFault) (tree : FileTree)
    (ended : FileTree × Except WriterFault α) : Except ε (α × FileTree) → Prop
  | .ok (a, after) => ended.2 = .ok a ∧ ∀ path, ended.1.find? path = after.find? path
  | .error fault => ended = (tree, .error (cause fault))

section

variable {tree : FileTree} (h : tree.Closed) (place : Place) (named? : Option Text)
include h

theorem endsLike_starterCalls (force : Bool) :
    EndsLike StarterFault.cause tree (starterCalls place tree named? force)
      (writeStarter place tree named? force) := by
  unfold starterCalls writeStarter
  cases resolvePath place named? with
  | error fault => exact rfl
  | ok path =>
    by_cases hexists : (tree.exists_ path && !force) = true
    · simp only [if_pos hexists]
      exact rfl
    · simp only [if_neg hexists]
      rcases FileTree.openCalls_eq h path (Entry.ofText starter) with
        ⟨fault, hwrite, hcalls⟩ | ⟨opened, after, hwrite, hcalls, hsame⟩
      · simp only [hwrite, hcalls]
        exact rfl
      · simp only [hwrite, hcalls]
        exact ⟨rfl, hsame⟩

theorem endsLike_saveCalls {c : Config}
    (hdigits : (Text.ofNat c.maxQueryLength.natAbs).length ≤ Text.maxNumeralDigits) :
    EndsLike SaveFault.cause tree (saveCalls place tree c named?)
      ((save place tree c named?).map fun after => ((), after)) := by
  have hwhole : c.cutOff? = none := if_pos hdigits
  unfold saveCalls save
  cases resolvePath place (named?.or c.path) with
  | error fault => exact rfl
  | ok path =>
    rcases FileTree.openCalls_eq h path (Entry.ofText c.write) with
      ⟨fault, hwrite, hcalls⟩ | ⟨opened, after, hwrite, hcalls, hsame⟩
    · simp only [hwrite, hcalls]
      exact rfl
    · simp only [hwrite, hcalls, hwhole]
      exact ⟨rfl, hsame⟩

end

/-! ## The starter file -/

/-- The path of a file does not matter to what is read from it. -/
theorem read_withPath {path : Option Text} {source : Text} {c : Config}
    {warnings : List ConfigWarning} (h : read path source = .ok (c, warnings))
    (other : Option Text) : read other source = .ok ({ c with path := other }, warnings) := by
  unfold read at h ⊢
  split at h
  next => cases h
  next => cases h
  next document hdocument =>
    split at h
    next => cases h
    next found htable =>
      have hcheck := ofTable_eq_ok_iff.1 htable
      have hother : ofTable other document = .ok { found with path := other } := by
        rw [ofTable_eq_ok_iff]
        refine ⟨fun s => ?_, rfl⟩
        rw [get_withPath]
        exact hcheck.1 s
      simp only [hother]
      unfold checked at h
      split at h
      next => cases h
      next hwarnings =>
        obtain ⟨rfl, rfl⟩ := Prod.mk.inj (Except.ok.inj h)
        have hsame : ({ found with path := other } : Config).check = found.check := rfl
        rw [checked, hsame, hwarnings]

theorem read_starter (path : Option Text) : read path starter = .ok ({ path := path }, []) := by
  -- The text has no parameter, so reading it is a computation.
  have hread : (read none starter).toOption = some ({}, []) := by decide +kernel
  cases hresult : read none starter with
  | error fault =>
    rw [hresult] at hread
    cases hread
  | ok found =>
    rw [hresult] at hread
    obtain rfl := Option.some.inj hread
    exact read_withPath hresult path

/-! ## What writers leave behind -/

/-- Whether only the file at a path has got a new content, and none has if something fails. -/
def TouchesOnly {α : Type} (tree : FileTree) (resolved : Except PathFault Path) (t : Text)
    (ended : FileTree × Except WriterFault α) : Prop :=
  match ended.2 with
  | .error _ => ended.1.content? = tree.content?
  | .ok _ => ∃ path, resolved = .ok path ∧
      ended.1.content? = Function.update tree.content? path (some (String.ofList t).toUTF8)

theorem TouchesOnly.of_endsLike {ε α : Type} {cause : ε → WriterFault} {tree : FileTree}
    {ended : FileTree × Except WriterFault α} {operation : Except ε (α × FileTree)}
    (h : EndsLike cause tree ended operation) {resolved : Except PathFault Path} {t : Text}
    (hwrite : ∀ a after, operation = .ok (a, after) →
      ∃ path, resolved = .ok path ∧ tree.writeFile path (Entry.ofText t) = .ok after) :
    TouchesOnly tree resolved t ended := by
  cases hoperation : operation with
  | error fault =>
    rw [hoperation] at h
    obtain rfl : ended = (tree, .error (cause fault)) := h
    exact rfl
  | ok result =>
    obtain ⟨path, hpath, hafter⟩ := hwrite result.1 result.2 hoperation
    rw [hoperation] at h
    obtain ⟨hok, hsame⟩ := h
    unfold TouchesOnly
    rw [hok]
    refine ⟨path, hpath, ?_⟩
    rw [FileTree.content?_congr hsame]
    exact (FileTree.Wrote.of_writeFile hafter).content?_eq

theorem writeStarter_eq_ok {place : Place} {tree after : FileTree} {named? : Option Text}
    {force : Bool} {path : Path} (h : writeStarter place tree named? force = .ok (path, after)) :
    resolvePath place named? = .ok path ∧
      tree.writeFile path (Entry.ofText starter) = .ok after := by
  unfold writeStarter at h
  split at h
  next => cases h
  next hpath =>
    split at h
    next => cases h
    next =>
      split at h
      next => cases h
      next hwrite =>
        obtain ⟨rfl, rfl⟩ := Prod.mk.inj (Except.ok.inj h)
        exact ⟨hpath, hwrite⟩

/-- A starter file that was written is loaded as the default configuration without a warning. -/
theorem load_of_writeStarter {place : Place} {tree after left : FileTree} {named? : Option Text}
    {force : Bool} {path : Path} (h : writeStarter place tree named? force = .ok (path, after))
    (hsame : ∀ other, left.find? other = after.find? other) :
    load place left named? = .ok ({ path := some path.written }, []) := by
  obtain ⟨hpath, hwrite⟩ := writeStarter_eq_ok h
  have htarget := (FileTree.Wrote.of_writeFile hwrite).target
  rw [← hsame] at htarget
  rw [load, hpath]
  simp only [loadAt_of_text? htarget (Entry.text?_ofText starter), read_starter]
  rfl

/-- The writers of configuration files touch only the file that they are asked for.  If one of their
calls fails, no file has changed. -/
theorem writers_touch_target {tree : FileTree} (htree : tree.Closed) (place : Place)
    (named? : Option Text) (force : Bool) {c : Config}
    (hdigits : (Text.ofNat c.maxQueryLength.natAbs).length ≤ Text.maxNumeralDigits) :
    (EndsLike StarterFault.cause tree (starterCalls place tree named? force)
        (writeStarter place tree named? force) ∧
      TouchesOnly tree (resolvePath place named?) starter
        (starterCalls place tree named? force)) ∧
    (EndsLike SaveFault.cause tree (saveCalls place tree c named?)
        ((save place tree c named?).map fun after => ((), after)) ∧
      TouchesOnly tree (resolvePath place (named?.or c.path)) c.write
        (saveCalls place tree c named?)) ∧
    (∀ path, resolvePath place named? = .ok path → tree.exists_ path = true →
      starterCalls place tree named? false = (tree, .error (.alreadyExists path))) ∧
    ∀ path, (starterCalls place tree named? force).2 = .ok path →
      load place (starterCalls place tree named? force).1 named? =
        .ok ({ path := some path.written }, []) := by
  have hstarter := endsLike_starterCalls htree place named? force
  have hsave := endsLike_saveCalls htree place named? hdigits
  refine ⟨⟨hstarter, ?_⟩, ⟨hsave, ?_⟩, ?_, ?_⟩
  · apply TouchesOnly.of_endsLike hstarter
    intro path after h
    exact ⟨path, writeStarter_eq_ok h⟩
  · apply TouchesOnly.of_endsLike hsave
    intro _ after hmap
    cases hsaved : save place tree c named? with
    | error fault =>
      rw [hsaved] at hmap
      cases hmap
    | ok saved =>
      rw [hsaved] at hmap
      obtain rfl : saved = after := (Prod.mk.inj (Except.ok.inj hmap)).2
      exact save_eq_ok_iff.1 hsaved
  · intro path hpath hexists
    simp [starterCalls, hpath, hexists]
  · intro path hok
    cases hwritten : writeStarter place tree named? force with
    | error fault =>
      rw [hwritten] at hstarter
      have hended : starterCalls place tree named? force = (tree, .error fault.cause) := hstarter
      rw [hended] at hok
      cases hok
    | ok written =>
      rw [hwritten] at hstarter
      obtain rfl : written.1 = path := Except.ok.inj (hstarter.1.symm.trans hok)
      exact load_of_writeStarter hwritten hstarter.2

/-- A starter file is written in a tree without files. -/
theorem writers_touch_target_empty :
    let place : Place := ⟨["home".toList], ["home".toList], []⟩
    let target : Path := ["home".toList, "conf".toList, "a.toml".toList]
    FileTree.Closed {} ∧
      (starterCalls place {} (some "conf/a.toml".toList) false).2 = .ok target ∧
      load place (starterCalls place {} (some "conf/a.toml".toList) false).1
        (some "conf/a.toml".toList) = .ok ({ path := some target.written }, []) := by
  intro place target
  have hdigits : (Text.ofNat ({} : Config).maxQueryLength.natAbs).length ≤
      Text.maxNumeralDigits := by decide
  obtain ⟨⟨hends, -⟩, -, -, hload⟩ := writers_touch_target FileTree.closed_empty place
    (some "conf/a.toml".toList) false hdigits
  have hwritten : (starterCalls place {} (some "conf/a.toml".toList) false).2 = .ok target :=
    hends.1
  exact ⟨FileTree.closed_empty, hwritten, hload target hwritten⟩

end Config

end CardQuery
