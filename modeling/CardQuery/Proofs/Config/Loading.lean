import CardQuery.Config.File
import CardQuery.Proofs.Config.Settings
import CardQuery.Proofs.Toml.Document

/-!
# Faults in a configuration file

Loading a configuration announces two faults: the text of the file breaks a rule of the format, or
the value of a setting is refused.  A file can be refused in three other ways, none of which is
foreseen: its content is no text, it holds a number that is too long to be read, or something that
is no table stands for a section.

Values are read however deeply they are nested in each other.  The bound that the depth of calls of
an interpreter puts on the nesting, beyond which a file is refused in yet another way, is left out.

Main results:

- `exists_source?_of_malformed` says that a file that is no document has a text to complain of.
- `loadAt_unforeseen_iff` says which files are refused in a way that is not foreseen.
- `load_foreseen_iff` says which files are loaded in a foreseen way, and how the others end.
- `endsForeseen_of_tables` says that sections that are tables, as they should be, are enough.
-/

namespace CardQuery

/-- A content is no text exactly if it breaks a rule of the encoding. -/
theorem Entry.text?_eq_none_iff {content : ByteArray} :
    text? content = none ↔ ¬content.IsValidUTF8 := by
  rw [text?, Option.map_eq_none_iff, String.fromUTF8?]
  split
  next hvalid => simp [hvalid]
  next hnot => simp [hnot]

namespace Config

/-- Whether a fault is one that loading a configuration announces. -/
def LoadFault.Foreseen : LoadFault → Prop
  | .document .malformed => True
  | .document (.invalid _) => True
  | _ => False

/-- What is refused in a way that is not foreseen, and why.  A section that is no table counts only
if no setting before is refused. -/
inductive Unforeseen (content : ByteArray) : LoadFault → Prop
  | notText (hinvalid : ¬content.IsValidUTF8) : Unforeseen content .notText
  | oversizedNumeral {source : Text} (htext : Entry.text? content = some source)
      (hread : Toml.read source = .error .oversizedNumeral) :
      Unforeseen content (.document .oversizedNumeral)
  | noTable {source : Text} {document : List (Text × Toml.Value)} {before after : List Setting}
      {s : Setting} {v : Toml.Value} (htext : Entry.text? content = some source)
      (hread : Toml.read source = .ok document) (hsplit : Setting.all = before ++ s :: after)
      (hbefore : ∀ r ∈ before, ∀ f, ¬Refuses document r f)
      (hfound : Toml.lookup? s.section_ document = some v) (hblocks : v.Blocks s.name) :
      Unforeseen content (.document (.noTable s))

/-! ## Documents -/

/-- A text is refused in a way that is not foreseen exactly for a number that is too long or for the
first section that is no table. -/
theorem read_unforeseen_iff {path : Option Text} {source : Text} {fault : DocumentFault} :
    read path source = .error fault ∧ ¬(LoadFault.document fault).Foreseen ↔
      (Toml.read source = .error .oversizedNumeral ∧ fault = .oversizedNumeral) ∨
        ∃ document s, Toml.read source = .ok document ∧ ofTable path document = .error fault ∧
          fault = .noTable s := by
  unfold read
  split
  next hread =>
    constructor
    · rintro ⟨h, hnot⟩
      cases h
      exact absurd trivial hnot
    · rintro (⟨h, -⟩ | ⟨document, s, h, -⟩)
      · cases hread.symm.trans h
      · cases hread.symm.trans h
  next hread =>
    constructor
    · rintro ⟨h, -⟩
      exact Or.inl ⟨hread, (Except.error.inj h).symm⟩
    · rintro (⟨-, rfl⟩ | ⟨document, s, h, -⟩)
      · exact ⟨rfl, id⟩
      · cases hread.symm.trans h
  next document hread =>
    constructor
    · rintro ⟨h, hnot⟩
      split at h
      next f htable =>
        obtain rfl : f = fault := Except.error.inj h
        -- A setting is refused for its section or for its value, and the latter is foreseen.
        obtain ⟨-, s, -, -, -, hrefuses⟩ := ofTable_eq_error_iff.1 htable
        cases hrefuses with
        | noTable hfound hblocks => exact Or.inr ⟨document, s, hread, htable, rfl⟩
        | wrongKind hvalue hkind => exact absurd trivial hnot
      next c htable =>
        unfold checked at h
        split at h
        next f hcheck =>
          cases h
          exact absurd trivial hnot
        next => cases h
    · rintro (⟨h, -⟩ | ⟨document', s, h, htable, rfl⟩)
      · cases hread.symm.trans h
      · obtain rfl : document = document' := Except.ok.inj (hread.symm.trans h)
        rw [htable]
        exact ⟨rfl, id⟩

/-! ## Files -/

section

variable {place : Place} {tree : FileTree} {named? : Option Text} {path : Path}
  {content : ByteArray}

theorem loadAt_of_text?_eq_none (hfile : tree.find? path = some (.file content))
    (htext : Entry.text? content = none) : loadAt tree path = .error .notText := by
  rw [loadAt, hfile]
  simp only [htext]

/-- A configuration in a file is loaded as the text of the file is read. -/
theorem loadAt_of_text? (hfile : tree.find? path = some (.file content)) {source : Text}
    (htext : Entry.text? content = some source) :
    loadAt tree path = (read (some path.written) source).mapError .document := by
  rw [loadAt, hfile]
  simp only [htext]
  cases read (some path.written) source <;> rfl

/-- A configuration that is no document was read from the text of a file. -/
theorem exists_source?_of_malformed
    (h : load place tree named? = .error (.document .malformed)) :
    ∃ found, source? place tree named? = some found := by
  unfold load at h
  split at h
  next => cases h
  next path hpath =>
    unfold loadAt at h
    split at h
    next => split at h <;> cases h
    next => cases h
    next content hfile =>
      split at h
      next => cases h
      next source htext =>
        refine ⟨(path, source), ?_⟩
        simp only [source?, hpath, hfile, htext, Option.map_some]

/-- A file is refused in a way that is not foreseen exactly for one of the three reasons. -/
theorem loadAt_unforeseen_iff (hfile : tree.find? path = some (.file content))
    {fault : LoadFault} :
    loadAt tree path = .error fault ∧ ¬fault.Foreseen ↔ Unforeseen content fault := by
  constructor
  · rintro ⟨h, hnot⟩
    cases htext : Entry.text? content with
    | none =>
      rw [loadAt_of_text?_eq_none hfile htext, Except.error.injEq] at h
      exact h ▸ .notText (Entry.text?_eq_none_iff.1 htext)
    | some source =>
      rw [loadAt_of_text? hfile htext] at h
      cases hread : read (some path.written) source with
      | ok found =>
        rw [hread] at h
        cases h
      | error f =>
        rw [hread] at h
        obtain rfl : .document f = fault := Except.error.inj h
        rcases read_unforeseen_iff.1 ⟨hread, hnot⟩ with
          ⟨hdocument, rfl⟩ | ⟨document, s, hdocument, htable, rfl⟩
        · exact .oversizedNumeral htext hdocument
        · obtain ⟨before, r, after, hsplit, hbefore, hrefuses⟩ := ofTable_eq_error_iff.1 htable
          cases hrefuses with
          | noTable hfound hblocks =>
            exact .noTable htext hdocument hsplit hbefore hfound hblocks
  · intro h
    cases h with
    | notText hinvalid =>
      exact ⟨loadAt_of_text?_eq_none hfile (Entry.text?_eq_none_iff.2 hinvalid), id⟩
    | oversizedNumeral htext hdocument =>
      have hread := (@read_unforeseen_iff (some path.written) _ _).2 (Or.inl ⟨hdocument, rfl⟩)
      rw [loadAt_of_text? hfile htext, hread.1]
      exact ⟨rfl, hread.2⟩
    | noTable htext hdocument hsplit hbefore hfound hblocks =>
      have htable := (@ofTable_eq_error_iff _ (some path.written) _).2
        ⟨_, _, _, hsplit, hbefore, .noTable hfound hblocks⟩
      have hread := read_unforeseen_iff.2 (Or.inr ⟨_, _, hdocument, htable, rfl⟩)
      rw [loadAt_of_text? hfile htext, hread.1]
      exact ⟨rfl, hread.2⟩

/-- Whether loading a configuration ends in one of the ways that it announces: with a configuration
and warnings, or with a fault that is foreseen. -/
def EndsForeseen (place : Place) (tree : FileTree) (named? : Option Text) : Prop :=
  (∃ c warnings, load place tree named? = .ok (c, warnings)) ∨
    ∃ fault, load place tree named? = .error fault ∧ fault.Foreseen

variable (hpath : resolvePath place named? = .ok path)
  (hfile : tree.find? path = some (.file content))
include hpath hfile

theorem load_unforeseen_iff {fault : LoadFault} :
    load place tree named? = .error fault ∧ ¬fault.Foreseen ↔ Unforeseen content fault := by
  rw [load, hpath]
  exact loadAt_unforeseen_iff hfile

/-- Loading ends in a foreseen way exactly if the file is not refused in another one. -/
theorem endsForeseen_iff : EndsForeseen place tree named? ↔ ¬∃ fault, Unforeseen content fault := by
  constructor
  · rintro hends ⟨fault, hunforeseen⟩
    rcases (load_unforeseen_iff hpath hfile).2 hunforeseen with ⟨hload, hnot⟩
    rcases hends with ⟨c, warnings, h⟩ | ⟨f, h, hforeseen⟩
    · cases hload.symm.trans h
    · obtain rfl : fault = f := Except.error.inj (hload.symm.trans h)
      exact hnot hforeseen
  · intro hnone
    cases hload : load place tree named? with
    | ok found => exact Or.inl ⟨found.1, found.2, hload⟩
    | error fault =>
      by_cases hforeseen : fault.Foreseen
      · exact Or.inr ⟨fault, hload, hforeseen⟩
      · exact absurd ⟨fault, (load_unforeseen_iff hpath hfile).1 ⟨hload, hforeseen⟩⟩ hnone

/-- A file that is there is loaded with a configuration or a foreseen fault, unless its content is no
text, holds a number that is too long to be read, or has a section that is no table and seems to hold
a setting; then it is refused for that. -/
theorem load_foreseen_iff :
    (EndsForeseen place tree named? ↔ ¬∃ fault, Unforeseen content fault) ∧
      ∀ fault, Unforeseen content fault → load place tree named? = .error fault :=
  ⟨endsForeseen_iff hpath hfile, fun _ h => ((load_unforeseen_iff hpath hfile).2 h).1⟩

/-- A document whose sections are tables is loaded in a foreseen way, whatever stands in them. -/
theorem endsForeseen_of_tables {source : Text} {document : List (Text × Toml.Value)}
    (htext : Entry.text? content = some source) (hread : Toml.read source = .ok document)
    (htables : ∀ (s : Setting) v, Toml.lookup? s.section_ document = some v →
      ∃ entries, v = .table entries) : EndsForeseen place tree named? := by
  rw [endsForeseen_iff hpath hfile]
  rintro ⟨fault, hunforeseen⟩
  cases hunforeseen with
  | notText hinvalid => cases htext.symm.trans (Entry.text?_eq_none_iff.2 hinvalid)
  | oversizedNumeral htext' hread' =>
    obtain rfl := Option.some.inj (htext.symm.trans htext')
    cases hread.symm.trans hread'
  | noTable htext' hread' hsplit hbefore hfound hblocks =>
    obtain rfl := Option.some.inj (htext.symm.trans htext')
    obtain rfl := Except.ok.inj (hread.symm.trans hread')
    obtain ⟨entries, rfl⟩ := htables _ _ hfound
    exact hblocks

end

/-- A scalar that stands in the place of the first section, and blocks the name of its first
setting, is refused in a way that is not foreseen. -/
theorem unforeseen_writeEntry {x : Toml.Scalar} (hreadable : x.Readable)
    (hblocks : x.toValue.Blocks Setting.strict.name) :
    Unforeseen (String.ofList (Toml.writeEntry (Setting.strict.section_, x))).toUTF8
      (.document (.noTable .strict)) := by
  have hkey : Toml.BareKey Setting.strict.section_ := by decide
  have hread := @Toml.read_writeEntry (Setting.strict.section_, x) hkey hreadable
  have hsplit : Setting.all = [] ++ .strict :: Setting.all.tail := rfl
  exact .noTable (Entry.text?_ofText _) hread hsplit nofun (Toml.lookup?_cons_self _ _ _) hblocks

/-- A tree with one file, which has a number in the place of a section. -/
def numberTree : FileTree :=
  ⟨[(["c".toList], .ofText (Toml.writeEntry (Setting.strict.section_, .integer 5)))]⟩

theorem resolvePath_numberTree :
    resolvePath ⟨[], [], []⟩ (some "/c".toList) = .ok ["c".toList] := rfl

theorem find?_numberTree : numberTree.find? ["c".toList] = some (.file
    (String.ofList (Toml.writeEntry (Setting.strict.section_, .integer 5))).toUTF8) := rfl

theorem unforeseen_numberTree : Unforeseen
    (String.ofList (Toml.writeEntry (Setting.strict.section_, .integer 5))).toUTF8
      (.document (.noTable .strict)) := by
  have hdigits : (Toml.Scalar.integer 5).Readable := by
    show (Text.ofNat 5).length ≤ Text.maxNumeralDigits
    decide
  exact unforeseen_writeEntry hdigits trivial

/-- The file is refused for its section, without a word about the value. -/
theorem load_foreseen_iff_number :
    load ⟨[], [], []⟩ numberTree (some "/c".toList) = .error (.document (.noTable .strict)) :=
  (load_foreseen_iff resolvePath_numberTree find?_numberTree).2 _ unforeseen_numberTree

/-- Not every file is loaded in a foreseen way. -/
theorem not_forall_load_endsForeseen :
    ¬∀ place tree named? path content, resolvePath place named? = .ok path →
      FileTree.find? tree path = some (.file content) → EndsForeseen place tree named? := by
  intro hall
  have hends := hall _ _ _ _ _ resolvePath_numberTree find?_numberTree
  exact (endsForeseen_iff resolvePath_numberTree find?_numberTree).1 hends
    ⟨_, unforeseen_numberTree⟩

end Config

end CardQuery
