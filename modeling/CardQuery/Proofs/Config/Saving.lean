import CardQuery.Proofs.Config.Loading
import CardQuery.Proofs.FileTree
import CardQuery.Proofs.Path
import CardQuery.Proofs.Toml.Document
import Mathlib.Data.List.Nodup

/-!
# Saved configurations

A configuration that was saved is loaded again as it was.  What is written are the settings that
differ from their defaults, and the reader fills in the defaults for the others, so both keep to the
same defaults.

Main results:

- `standsIn_sections_iff` says that exactly those settings stand in the file.
- `read_write` says that the text of a configuration file is read back, or refused for the reason
  for which the configuration is invalid.
- `load_save` says the same of files, and that saving again writes the same text.
-/

namespace CardQuery

namespace Toml

/-- The entries of a table with scalars for values. -/
def scalarEntries (entries : List (Text × Scalar)) : List (Text × Value) :=
  entries.map fun entry => (entry.1, entry.2.toValue)

theorem scalarEntries_names (entries : List (Text × Scalar)) :
    (scalarEntries entries).map Prod.fst = entries.map Prod.fst := by
  simp [scalarEntries]

theorem sectionsToTable_append (sections more : List Section) :
    sectionsToTable (sections ++ more) = sectionsToTable sections ++ sectionsToTable more :=
  List.map_append

end Toml

namespace Setting

/-- The settings of a section, in order. -/
def inSection (title : Text) : List Setting := all.filter fun s => s.section_ = title

theorem mem_inSection_iff {s : Setting} {title : Text} :
    s ∈ inSection title ↔ s.section_ = title := by
  simp [inSection, s.mem_all]

theorem nodup_inSection_names (title : Text) : ((inSection title).map name).Nodup :=
  List.Nodup.map (fun _ _ => name_inj.1) (nodup_all.filter _)

theorem section_cases (s : Setting) :
    s.section_ = "search".toList ∨ s.section_ = "display".toList := by
  cases s <;> decide

theorem bareKey_name (s : Setting) : Toml.BareKey s.name := by cases s <;> decide

end Setting

namespace Config

/-! ## What is written -/

section

variable (c : Config)

theorem changed_cons (s : Setting) (settings : List Setting) :
    c.changed (s :: settings) =
      if c.get s = get {} s then c.changed settings
      else (s.name, c.get s) :: c.changed settings := by
  rw [changed, List.filterMap_cons]
  by_cases h : c.get s = get {} s
  · rw [if_pos h, if_pos h]
    rfl
  · rw [if_neg h, if_neg h]
    rfl

/-- What is written are the settings that differ from their defaults. -/
theorem mem_changed_iff {settings : List Setting} {name : Text} {x : Toml.Scalar} :
    (name, x) ∈ c.changed settings ↔
      ∃ s ∈ settings, s.name = name ∧ c.get s ≠ get {} s ∧ c.get s = x := by
  induction settings with
  | nil =>
    constructor
    · intro h
      cases h
    · rintro ⟨s, hs, -⟩
      cases hs
  | cons s settings ih =>
    rw [changed_cons, List.exists_mem_cons_iff, ← ih]
    by_cases hdefault : c.get s = get {} s
    · rw [if_pos hdefault, or_iff_right]
      rintro ⟨-, hdiffers, -⟩
      exact hdiffers hdefault
    · rw [if_neg hdefault, List.mem_cons, Prod.mk.injEq, eq_comm, @eq_comm _ x]
      simp only [ne_eq, hdefault, not_false_eq_true, true_and]

/-- The names of what is written are among the names of the settings, in the same order. -/
theorem changed_names_sublist (settings : List Setting) :
    ((c.changed settings).map Prod.fst).Sublist (settings.map Setting.name) := by
  induction settings with
  | nil => exact List.Sublist.refl _
  | cons s settings ih =>
    rw [changed_cons]
    split
    · exact ih.cons _
    · exact ih.cons_cons _

/-- Under the name of a setting stands its value, if the setting is written at all. -/
theorem lookup?_changed_eq_some_iff {title name : Text} {v : Toml.Value} :
    Toml.lookup? name (Toml.scalarEntries (c.changed (Setting.inSection title))) = some v ↔
      ∃ s : Setting, s.section_ = title ∧ s.name = name ∧ c.get s ≠ get {} s ∧
        (c.get s).toValue = v := by
  have hnodup : ((Toml.scalarEntries (c.changed (Setting.inSection title))).map Prod.fst).Nodup := by
    rw [Toml.scalarEntries_names]
    exact (c.changed_names_sublist _).nodup (Setting.nodup_inSection_names title)
  rw [Toml.lookup?_eq_some_iff hnodup, Toml.scalarEntries, List.mem_map]
  constructor
  · rintro ⟨⟨_, x⟩, hmem, heq⟩
    obtain ⟨rfl, rfl⟩ := Prod.mk.inj heq
    obtain ⟨s, hs, hname, hdiffers, rfl⟩ := c.mem_changed_iff.1 hmem
    exact ⟨s, Setting.mem_inSection_iff.1 hs, hname, hdiffers, rfl⟩
  · rintro ⟨s, hs, hname, hdiffers, rfl⟩
    have hmem := c.mem_changed_iff.2
      ⟨s, Setting.mem_inSection_iff.2 hs, hname, hdiffers, rfl⟩
    exact ⟨_, hmem, rfl⟩

/-- The table that changed settings are written as, unless there are none. -/
def tableOf? (settings : List Setting) : Option Toml.Value :=
  if c.changed settings = [] then none
  else some (.table (Toml.scalarEntries (c.changed settings)))

theorem lookup?_sectionOf (title : Text) (name : String) (settings : List Setting) :
    Toml.lookup? title (Toml.sectionsToTable (c.sectionOf name settings)) =
      if name.toList = title then c.tableOf? settings else none := by
  unfold sectionOf tableOf?
  cases hchanged : c.changed settings with
  | nil => simp [Toml.sectionsToTable, Toml.lookup?]
  | cons entry entries => simp [Toml.sectionsToTable, Toml.lookup?, Toml.scalarEntries]

/-- A section holds what has changed of the settings in it. -/
theorem lookup?_sections (title : Text) :
    Toml.lookup? title (Toml.sectionsToTable c.sections) =
      c.tableOf? (Setting.inSection title) := by
  -- A section that is not written must not be looked for behind the other one.
  have hne : "search".toList ≠ "display".toList := by decide
  rw [sections, Toml.sectionsToTable_append, Toml.lookup?_append, lookup?_sectionOf,
    lookup?_sectionOf]
  by_cases hsearch : "search".toList = title
  · subst hsearch
    rw [if_pos rfl, if_neg hne.symm, Option.or_none]
    rfl
  · by_cases hdisplay : "display".toList = title
    · subst hdisplay
      rw [if_neg hne, if_pos rfl, Option.none_or]
      rfl
    · have hnone : Setting.inSection title = [] := by
        rw [List.eq_nil_iff_forall_not_mem]
        intro s hs
        rw [Setting.mem_inSection_iff] at hs
        rcases s.section_cases with h | h
        · exact hsearch (h.symm.trans hs)
        · exact hdisplay (h.symm.trans hs)
      rw [if_neg hsearch, if_neg hdisplay, hnone]
      rfl

/-- What stands in the document are exactly the settings that differ from their defaults. -/
theorem standsIn_sections_iff {title name : Text} {v : Toml.Value} :
    Toml.StandsIn (Toml.sectionsToTable c.sections) title name v ↔
      ∃ s : Setting, s.section_ = title ∧ s.name = name ∧ c.get s ≠ get {} s ∧
        (c.get s).toValue = v := by
  have hlookup : Toml.StandsIn (Toml.sectionsToTable c.sections) title name v ↔
      Toml.lookup? name (Toml.scalarEntries (c.changed (Setting.inSection title))) = some v := by
    rw [Toml.StandsIn, lookup?_sections, tableOf?]
    by_cases hchanged : c.changed (Setting.inSection title) = []
    · simp [hchanged, Toml.scalarEntries, Toml.lookup?]
    · simp [hchanged]
  rw [hlookup, lookup?_changed_eq_some_iff]

/-- A setting is read from the document exactly if it differs from its default. -/
theorem valueOf_sections (s : Setting) :
    valueOf s (Toml.sectionsToTable c.sections) =
      .ok (if c.get s = get {} s then none else some (c.get s).toValue) := by
  have hvalue : valueOf s (Toml.sectionsToTable c.sections) = .ok
      (Toml.lookup? s.name (Toml.scalarEntries (c.changed (Setting.inSection s.section_)))) := by
    rw [valueOf, lookup?_sections, tableOf?]
    by_cases hchanged : c.changed (Setting.inSection s.section_) = []
    · simp [hchanged, Toml.scalarEntries, Toml.lookup?]
    · simp [hchanged, valueIn]
  rw [hvalue]
  congr 1
  by_cases hdefault : c.get s = get {} s
  · rw [if_pos hdefault]
    apply Option.eq_none_iff_forall_ne_some.2
    intro v hv
    obtain ⟨r, -, hname, hdiffers, -⟩ := c.lookup?_changed_eq_some_iff.1 hv
    exact hdiffers (Setting.name_inj.1 hname ▸ hdefault)
  · rw [if_neg hdefault]
    exact c.lookup?_changed_eq_some_iff.2 ⟨s, rfl, rfl, hdefault, rfl⟩

end

/-! ## What is read back -/

theorem get_withPath (c : Config) (path : Option Text) (s : Setting) :
    get { c with path := path } s = c.get s := by
  cases s <;> rfl

/-- The document of a configuration holds this configuration. -/
theorem ofTable_sections (c : Config) (path : Option Text) :
    ofTable path (Toml.sectionsToTable c.sections) = .ok { c with path := path } := by
  rw [ofTable_eq_ok_iff]
  refine ⟨fun s => ?_, rfl⟩
  rw [Follows, get_withPath, valueOf_sections]
  by_cases hdefault : c.get s = get {} s
  · exact Or.inr ⟨by rw [if_pos hdefault], hdefault⟩
  · exact Or.inl (by rw [if_neg hdefault])

section

variable {c : Config}
  (hdigits : (Text.ofNat c.maxQueryLength.natAbs).length ≤ Text.maxNumeralDigits)
include hdigits

theorem readable_get (s : Setting) : (c.get s).Readable := by
  cases s with
  | maxQueryLength => exact hdigits
  | strict => trivial
  | coloredOutput => trivial
  | defaultFormat => trivial

/-- A section of a configuration file can be read back. -/
theorem writable_of_mem_sectionOf {title : String} (htitle : Toml.BareKey title.toList)
    {settings : List Setting} (hnodup : (settings.map Setting.name).Nodup) {s : Toml.Section}
    (hs : s ∈ c.sectionOf title settings) : s.Writable := by
  have hsection : s = ⟨title.toList, c.changed settings⟩ := by
    unfold sectionOf at hs
    split at hs
    next => cases hs
    next => exact List.mem_singleton.1 hs
  subst hsection
  constructor
  · exact htitle
  · rintro ⟨name, x⟩ hentry
    obtain ⟨r, -, rfl, -⟩ := c.mem_changed_iff.1 hentry
    exact r.bareKey_name
  · rintro ⟨name, x⟩ hentry
    obtain ⟨r, -, -, -, rfl⟩ := c.mem_changed_iff.1 hentry
    exact readable_get hdigits r
  · exact (c.changed_names_sublist settings).nodup hnodup

/-- The sections of a configuration file can be read back. -/
theorem writable_sections : Toml.Writable c.sections := by
  have hnames : ∀ (title : String) (settings : List Setting),
      ((c.sectionOf title settings).map Toml.Section.name).Sublist [title.toList] := by
    intro title settings
    unfold sectionOf
    split
    · exact List.nil_sublist _
    · exact List.Sublist.refl _
  constructor
  · intro s hs
    rcases List.mem_append.1 hs with hsearch | hdisplay
    · exact writable_of_mem_sectionOf hdigits (by decide) (by decide) hsearch
    · exact writable_of_mem_sectionOf hdigits (by decide) (by decide) hdisplay
  · rw [sections, List.map_append]
    exact ((hnames _ _).append (hnames _ _)).nodup (by decide)

/-- The text of a configuration file is read as the document of the configuration. -/
theorem read_document : Toml.read c.write = .ok (Toml.sectionsToTable c.sections) :=
  Toml.read_writeSections (writable_sections hdigits)

/-- The text of a configuration file is read back: as the configuration with the path of the file,
or as a fault for the reason for which the configuration is invalid. -/
theorem read_write (path : Option Text) :
    read path c.write = ({ c with path := path } : Config).checked := by
  rw [read, read_document hdigits]
  simp only [ofTable_sections]

end

/-! ## Files -/

/-- The path of a configuration is not written. -/
theorem write_withPath (c : Config) (path : Option Text) :
    write { c with path := path } = c.write := by
  simp only [write, sections, sectionOf, changed, get_withPath]

/-- The path of a configuration file is normal in a normal place. -/
theorem normal_of_resolvePath {place : Place} (h : place.Normal) {named? : Option Text}
    {path : Path} (hpath : resolvePath place named? = .ok path) : path.Normal := by
  cases named? with
  | some t => exact Path.normal_of_resolve h hpath
  | none =>
    cases hpath
    intro name hname
    rcases List.mem_append.1 hname with hhome | hbelow
    · exact h.home name hhome
    · simp only [List.mem_cons, List.not_mem_nil, or_false] at hbelow
      rcases hbelow with rfl | rfl | rfl
      all_goals exact ⟨by decide, by decide, by decide, by decide⟩

/-- What is left of a configuration in a file tree in which it was saved at a path. -/
structure SavedAt (place : Place) (tree : FileTree) (c : Config) (path : Path) : Prop where
  /-- The file holds exactly the settings that differ from their defaults. -/
  holds : ∃ content source document, tree.find? path = some (.file content) ∧
    Entry.text? content = some source ∧ Toml.read source = .ok document ∧
      ∀ title name v, Toml.StandsIn document title name v ↔
        ∃ s : Setting, s.section_ = title ∧ s.name = name ∧ c.get s ≠ get {} s ∧
          (c.get s).toValue = v
  /-- The file is loaded as the configuration with the path of the file, unless the configuration is
  invalid. -/
  loads : ∀ named?, resolvePath place named? = .ok path →
    load place tree named? =
      match c.check with
      | .error fault => .error (.document (.invalid fault))
      | .ok warnings => .ok ({ c with path := some path.written }, warnings)
  /-- The path that the loaded configuration remembers leads back to the file. -/
  leads : place.Normal → resolvePath place (some path.written) = .ok path
  /-- Saving what was loaded in the same file changes nothing. -/
  saves : ∀ named?, resolvePath place (named?.or (some path.written)) = .ok path →
    ∃ again, save place tree { c with path := some path.written } named? = .ok again ∧
      ∀ other, again.find? other = tree.find? other

theorem save_eq_ok_iff {place : Place} {tree tree' : FileTree} {c : Config}
    {named? : Option Text} :
    save place tree c named? = .ok tree' ↔
      ∃ path, resolvePath place (named?.or c.path) = .ok path ∧
        tree.writeFile path (Entry.ofText c.write) = .ok tree' := by
  unfold save
  cases resolvePath place (named?.or c.path) with
  | error fault => simp
  | ok path =>
    cases hwrite : tree.writeFile path (Entry.ofText c.write) <;> simp [hwrite]

/-- A configuration that was saved is what its file is loaded as, whatever was there before. -/
theorem load_save {place : Place} {tree tree' : FileTree} {c : Config} {named? : Option Text}
    (hdigits : (Text.ofNat c.maxQueryLength.natAbs).length ≤ Text.maxNumeralDigits)
    (hsave : save place tree c named? = .ok tree') :
    ∃ path, resolvePath place (named?.or c.path) = .ok path ∧ SavedAt place tree' c path := by
  rcases save_eq_ok_iff.1 hsave with ⟨path, hpath, hwrite⟩
  have hwrote := FileTree.Wrote.of_writeFile hwrite
  refine ⟨path, hpath, ?_⟩
  constructor
  · exact ⟨_, c.write, _, hwrote.target, Entry.text?_ofText _, read_document hdigits,
      fun _ _ _ => c.standsIn_sections_iff⟩
  · intro named? hnamed
    rw [load, hnamed]
    simp only [loadAt_of_text? hwrote.target (Entry.text?_ofText _), read_write hdigits]
    have hcheck : ({ c with path := some path.written } : Config).check = c.check := rfl
    rw [checked, hcheck]
    cases c.check <;> rfl
  · intro hplace
    exact Path.resolve_written place (normal_of_resolvePath hplace hpath)
  · intro named? hnamed
    have hagain := FileTree.writeFile_of_wrote hwrote (Entry.ofText c.write)
    refine ⟨tree'.put path (Entry.ofText c.write), ?_, ?_⟩
    · rw [save_eq_ok_iff]
      exact ⟨path, hnamed, (write_withPath c _).symm ▸ hagain⟩
    · exact FileTree.find?_put_of_find? hwrote.ne_nil hwrote.target

/-- A length without limit is loaded with its warning from a directory that was made for it. -/
theorem load_save_uncapped :
    let place : Place := ⟨["home".toList], ["home".toList], []⟩
    let c : Config := { strict := true, maxQueryLength := 0, defaultFormat := "json".toList }
    ∃ tree, save place {} c (some "conf/a.toml".toList) = .ok tree ∧
      load place tree (some "/home/conf/a.toml".toList) =
        .ok ({ c with path := some "/home/conf/a.toml".toList }, [.uncapped]) := by
  intro place c
  have hsave : ∃ tree, save place {} c (some "conf/a.toml".toList) = .ok tree := ⟨_, rfl⟩
  rcases hsave with ⟨tree, hsave⟩
  have hdigits : (Text.ofNat c.maxQueryLength.natAbs).length ≤ Text.maxNumeralDigits := by decide
  rcases load_save hdigits hsave with ⟨path, hpath, hsaved⟩
  obtain rfl : ["home".toList, "conf".toList, "a.toml".toList] = path := Except.ok.inj hpath
  exact ⟨tree, hsave, hsaved.loads _ rfl⟩

end Config

end CardQuery
