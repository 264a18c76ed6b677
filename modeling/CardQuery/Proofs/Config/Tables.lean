import CardQuery.Proofs.Config.Settings

/-!
# Documents with tables for sections

If the sections of a document are tables, all that matters of it are the values that it gives for
the four settings.  A value of another kind than the setting takes is refused first, in the order of
the settings, then a negative length, then an unknown form.  Whatever else stands in the document
makes no difference.

Main results:

- `ofTable_eq_ok_iff_gives` says which configuration such a document holds.
- `check_eq_error_iff` says for what a configuration is refused.
- `ofDocument_eq_error_iff` says for what such a document is refused.
- `gives_iff_of_edited` says that entries that are no settings can be added, removed and changed.
- `ofDocument_of_tabular` puts this together.
-/

namespace CardQuery

namespace Toml

theorem lookup?_eq_none {name : Text} {entries : List (Text × Value)}
    (h : ∀ e ∈ entries, e.1 ≠ name) : lookup? name entries = none := by
  induction entries with
  | nil => rfl
  | cons entry entries ih =>
    rw [List.forall_mem_cons] at h
    rw [lookup?, if_neg h.1]
    exact ih h.2

/-- Entries of other names can be replaced by any entries of other names. -/
theorem lookup?_replace {name : Text} {old new : List (Text × Value)}
    (h : ∀ e ∈ old ++ new, e.1 ≠ name) (before after : List (Text × Value)) :
    lookup? name (before ++ old ++ after) = lookup? name (before ++ new ++ after) := by
  rw [List.forall_mem_append] at h
  simp only [lookup?_append, lookup?_eq_none h.1, lookup?_eq_none h.2]

end Toml

/-- Whether a value is accepted for a setting: it is of the kind that the setting takes, a length is
not negative, and a form is one of the known ones. -/
def Setting.Accepts : Setting → Toml.Value → Prop
  | strict, .boolean _ => True
  | maxQueryLength, .integer n => 0 ≤ n
  | coloredOutput, .boolean _ => True
  | defaultFormat, .string t => t ∈ outputFormats
  | _, _ => False

theorem Setting.Accepts.takes {s : Setting} {v : Toml.Value} (h : s.Accepts v) : s.Takes v := by
  cases s <;> cases v <;> first
    | exact trivial
    | exact h.elim

namespace Config

variable {document other : List (Text × Toml.Value)} {path : Option Text} {c : Config}
  {s : Setting} {v w : Toml.Value}

/-! ## What a document gives -/

/-- Whether a document gives a setting a value: whether the value stands under the name of the
setting in the table of its section. -/
def Gives (document : List (Text × Toml.Value)) (s : Setting) (v : Toml.Value) : Prop :=
  Toml.StandsIn document s.section_ s.name v

/-- Whether the sections that a document has for settings are tables. -/
def Tabular (document : List (Text × Toml.Value)) : Prop :=
  ∀ (s : Setting) v, Toml.lookup? s.section_ document = some v → ∃ entries, v = .table entries

/-- A document gives a setting one value only. -/
theorem Gives.unique (hv : Gives document s v) (hw : Gives document s w) : v = w := by
  obtain ⟨entries, hsection, hentry⟩ := hv
  obtain ⟨entries', hsection', hentry'⟩ := hw
  obtain rfl := Toml.Value.table.inj (Option.some.inj (hsection.symm.trans hsection'))
  exact Option.some.inj (hentry.symm.trans hentry')

theorem valueOf_eq_some_iff : valueOf s document = .ok (some v) ↔ Gives document s v := by
  unfold valueOf Gives Toml.StandsIn
  cases Toml.lookup? s.section_ document with
  | none => simp
  | some found =>
    cases found with
    | table entries => simp [valueIn]
    | string t =>
      simp only [valueIn]
      split <;> simp
    | array items =>
      simp only [valueIn]
      split <;> simp
    | integer n => simp [valueIn]
    | float numeral => simp [valueIn]
    | boolean b => simp [valueIn]
    | moment written => simp [valueIn]

/-- A document whose sections are tables can be asked for every setting. -/
theorem exists_valueOf (h : Tabular document) (s : Setting) :
    ∃ found, valueOf s document = .ok found := by
  cases hvalue : valueOf s document with
  | ok found => exact ⟨found, rfl⟩
  | error fault =>
    obtain ⟨⟨v, hfound, hblocks⟩, -⟩ := valueOf_eq_error_iff.1 hvalue
    obtain ⟨entries, rfl⟩ := h s v hfound
    exact hblocks.elim

theorem valueOf_eq_none_iff (h : Tabular document) :
    valueOf s document = .ok none ↔ ∀ v, ¬Gives document s v := by
  obtain ⟨found, hvalue⟩ := exists_valueOf h s
  simp only [← valueOf_eq_some_iff, hvalue, Except.ok.injEq]
  exact Option.eq_none_iff_forall_ne_some

/-- A setting is refused exactly for a value of another kind than it takes. -/
theorem refuses_iff (h : Tabular document) {fault : DocumentFault} :
    Refuses document s fault ↔
      ∃ v, Gives document s v ∧ ¬s.Takes v ∧ fault = .invalid (.wrongKind s) := by
  constructor
  · intro hrefuses
    cases hrefuses with
    | noTable hfound hblocks =>
      obtain ⟨entries, rfl⟩ := h s _ hfound
      exact hblocks.elim
    | wrongKind hvalue hkind => exact ⟨_, valueOf_eq_some_iff.1 hvalue, hkind, rfl⟩
  · rintro ⟨v, hgives, hkind, rfl⟩
    exact .wrongKind (valueOf_eq_some_iff.2 hgives) hkind

/-! ## What a document holds -/

/-- A document holds the configuration whose settings have the values that it gives, and their
defaults where it gives none. -/
theorem ofTable_eq_ok_iff_gives (h : Tabular document) :
    ofTable path document = .ok c ↔
      (∀ s, Gives document s (c.get s).toValue ∨
        (∀ v, ¬Gives document s v) ∧ c.get s = get {} s) ∧ c.path = path := by
  simp only [ofTable_eq_ok_iff, Follows, valueOf_eq_some_iff, valueOf_eq_none_iff h]

/-- A document is read if it gives every setting a value of the kind that it takes, or none. -/
theorem exists_ofTable (h : Tabular document)
    (hkinds : ∀ s v, Gives document s v → s.Takes v) (path : Option Text) :
    ∃ c, ofTable path document = .ok c := by
  cases htable : ofTable path document with
  | ok c => exact ⟨c, rfl⟩
  | error fault =>
    obtain ⟨-, s, -, -, -, hrefuses⟩ := ofTable_eq_error_iff.1 htable
    obtain ⟨v, hgives, hkind, -⟩ := (refuses_iff h).1 hrefuses
    exact absurd (hkinds s v hgives) hkind

/-- Every default is accepted. -/
theorem accepts_default (s : Setting) : s.Accepts (get {} s).toValue := by
  cases s with
  | strict | coloredOutput => trivial
  | maxQueryLength =>
    show (0 : Int) ≤ 1000
    decide
  | defaultFormat =>
    show "table".toList ∈ outputFormats
    decide

section

variable (h : Tabular document) (htable : ofTable path document = .ok c)
include h htable

theorem get_of_gives (hgives : Gives document s v) : (c.get s).toValue = v := by
  rcases ((ofTable_eq_ok_iff_gives h).1 htable).1 s with hgives' | ⟨hnone, -⟩
  · exact hgives'.unique hgives
  · exact absurd hgives (hnone v)

theorem get_of_not_gives (hnone : ∀ v, ¬Gives document s v) : c.get s = get {} s := by
  rcases ((ofTable_eq_ok_iff_gives h).1 htable).1 s with hgives | ⟨-, hdefault⟩
  · exact absurd hgives (hnone _)
  · exact hdefault

/-- What a document that is read gives is of the kind that the setting takes. -/
theorem takes_of_gives (hgives : Gives document s v) : s.Takes v :=
  get_of_gives h htable hgives ▸ takes_get c s

/-- A value that is not the default is given by the document. -/
theorem gives_of_ne (hne : c.get s ≠ get {} s) : Gives document s (c.get s).toValue := by
  rcases ((ofTable_eq_ok_iff_gives h).1 htable).1 s with hgives | ⟨-, hdefault⟩
  · exact hgives
  · exact absurd hdefault hne

/-- The defaults are accepted, so a value is accepted exactly if the document gives no other. -/
theorem accepts_get_iff :
    s.Accepts (c.get s).toValue ↔ ∀ v, Gives document s v → s.Accepts v := by
  constructor
  · intro haccepts v hgives
    exact get_of_gives h htable hgives ▸ haccepts
  · intro hall
    by_cases hdefault : c.get s = get {} s
    · rw [hdefault]
      exact accepts_default s
    · exact hall _ (gives_of_ne h htable hdefault)

end

/-! ## Checks -/

/-- A configuration is valid exactly if the values of its settings are accepted. -/
theorem check_eq_ok_iff_accepts :
    (∃ warnings, c.check = .ok warnings) ↔ ∀ s : Setting, s.Accepts (c.get s).toValue := by
  rw [check_eq_ok_iff]
  constructor
  · rintro ⟨hlength, hformat⟩ s
    cases s with
    | strict | coloredOutput => trivial
    | maxQueryLength => exact hlength
    | defaultFormat => exact hformat
  · intro haccepts
    exact ⟨haccepts .maxQueryLength, haccepts .defaultFormat⟩

/-- A configuration is refused for a negative length, or else for an unknown form. -/
theorem check_eq_error_iff {fault : ConfigFault} :
    c.check = .error fault ↔
      c.maxQueryLength < 0 ∧ fault = .negativeLength ∨
        0 ≤ c.maxQueryLength ∧ c.defaultFormat ∉ outputFormats ∧ fault = .unknownFormat := by
  unfold check
  by_cases hlength : c.maxQueryLength < 0
  · simp [hlength, eq_comm, Int.not_le.2 hlength]
  · by_cases hformat : c.defaultFormat ∈ outputFormats
    · simp only [hlength, hformat, not_true_eq_false, if_false]
      split <;> simp
    · simp [hlength, hformat, Int.not_lt.1 hlength, eq_comm]

theorem checked_eq_ok_iff {d : Config} {warnings : List ConfigWarning} :
    checked c = .ok (d, warnings) ↔ c = d ∧ d.check = .ok warnings := by
  unfold checked
  constructor
  · intro hchecked
    split at hchecked
    next => cases hchecked
    next hcheck =>
      obtain ⟨rfl, rfl⟩ := Prod.mk.inj (Except.ok.inj hchecked)
      exact ⟨rfl, hcheck⟩
  · rintro ⟨rfl, hcheck⟩
    rw [hcheck]

theorem checked_eq_error_iff {fault : DocumentFault} :
    checked c = .error fault ↔ ∃ f, fault = .invalid f ∧ c.check = .error f := by
  unfold checked
  cases c.check with
  | error f => simp [eq_comm]
  | ok found => simp

/-! ## Checked documents -/

/-- The configuration that a document holds, checked, with the warnings about it. -/
def ofDocument (path : Option Text) (document : List (Text × Toml.Value)) :
    Except DocumentFault (Config × List ConfigWarning) :=
  ofTable path document >>= checked

/-- A file is read by way of its document. -/
theorem read_eq_ofDocument {source : Text} (h : Toml.read source = .ok document) :
    read path source = ofDocument path document := by
  unfold read ofDocument
  rw [h]
  dsimp only
  cases ofTable path document <;> rfl

theorem ofDocument_eq_ok_iff {warnings : List ConfigWarning} :
    ofDocument path document = .ok (c, warnings) ↔
      ofTable path document = .ok c ∧ c.check = .ok warnings := by
  unfold ofDocument
  cases ofTable path document with
  | error found =>
    constructor
    · intro hread
      cases hread
    · rintro ⟨hread, -⟩
      cases hread
  | ok d =>
    rw [Except.ok.injEq, ← checked_eq_ok_iff]
    rfl

/-! ## What is blamed -/

/-- What a document whose sections are tables is refused for: the first value of another kind than
its setting takes; or, if there is none, a negative length; or, if there is none either, a form that
is not known. -/
inductive Blamed (document : List (Text × Toml.Value)) : ConfigFault → Prop
  | wrongKind {before after : List Setting} {s : Setting} {v : Toml.Value}
      (hsplit : Setting.all = before ++ s :: after)
      (hbefore : ∀ r ∈ before, ∀ w, Gives document r w → r.Takes w)
      (hgives : Gives document s v) (hkind : ¬s.Takes v) : Blamed document (.wrongKind s)
  | negativeLength {n : Int} (hkinds : ∀ s v, Gives document s v → s.Takes v)
      (hgives : Gives document .maxQueryLength (.integer n)) (hnegative : n < 0) :
      Blamed document .negativeLength
  | unknownFormat {t : Text} (hkinds : ∀ s v, Gives document s v → s.Takes v)
      (hlength : ∀ n, Gives document .maxQueryLength (.integer n) → 0 ≤ n)
      (hgives : Gives document .defaultFormat (.string t)) (hunknown : t ∉ outputFormats) :
      Blamed document .unknownFormat

section

variable (h : Tabular document) {fault : DocumentFault}
include h

/-- Whatever a document is refused for is to be blamed in it. -/
theorem blamed_of_ofDocument (hrefused : ofDocument path document = .error fault) :
    ∃ f, fault = .invalid f ∧ Blamed document f := by
  unfold ofDocument at hrefused
  cases htable : ofTable path document with
  | error found =>
    rw [htable] at hrefused
    obtain rfl : found = fault := Except.error.inj hrefused
    obtain ⟨before, s, after, hsplit, hbefore, hrefuses⟩ := ofTable_eq_error_iff.1 htable
    obtain ⟨v, hgives, hkind, rfl⟩ := (refuses_iff h).1 hrefuses
    refine ⟨_, rfl, .wrongKind hsplit ?_ hgives hkind⟩
    intro r hr w hw
    apply Classical.byContradiction
    intro hnot
    exact hbefore r hr _ ((refuses_iff h).2 ⟨w, hw, hnot, rfl⟩)
  | ok c =>
    rw [htable] at hrefused
    have hkinds : ∀ s v, Gives document s v → s.Takes v := fun _ _ => takes_of_gives h htable
    obtain ⟨f, rfl, hcheck⟩ := checked_eq_error_iff.1 hrefused
    -- What the check refuses is no default, so the document gives it.
    rcases check_eq_error_iff.1 hcheck with ⟨hnegative, rfl⟩ | ⟨hlength, hunknown, rfl⟩
    · have hne : c.get .maxQueryLength ≠ get {} .maxQueryLength := by
        intro hdefault
        have hsame : c.maxQueryLength = 1000 := Toml.Scalar.integer.inj hdefault
        omega
      exact ⟨_, rfl, .negativeLength hkinds (gives_of_ne h htable hne) hnegative⟩
    · have hne : c.get .defaultFormat ≠ get {} .defaultFormat := by
        intro hdefault
        have hsame : c.defaultFormat = "table".toList := Toml.Scalar.string.inj hdefault
        rw [hsame] at hunknown
        exact hunknown (by decide)
      refine ⟨_, rfl, .unknownFormat hkinds ?_ (gives_of_ne h htable hne) hunknown⟩
      intro n hn
      have hsame : c.maxQueryLength = n := Toml.Value.integer.inj (get_of_gives h htable hn)
      exact hsame ▸ hlength

theorem ofDocument_of_blamed {f : ConfigFault} (hblamed : Blamed document f) :
    ofDocument path document = .error (.invalid f) := by
  unfold ofDocument
  cases hblamed with
  | @wrongKind before after s v hsplit hbefore hgives hkind =>
    have hfirst : ∀ r ∈ before, ∀ f, ¬Refuses document r f := by
      intro r hr f hrefuses
      obtain ⟨w, hw, hnot, -⟩ := (refuses_iff h).1 hrefuses
      exact hnot (hbefore r hr w hw)
    have htable : ofTable path document = .error (.invalid (.wrongKind s)) :=
      ofTable_eq_error_iff.2
        ⟨before, s, after, hsplit, hfirst, (refuses_iff h).2 ⟨v, hgives, hkind, rfl⟩⟩
    rw [htable]
    rfl
  | negativeLength hkinds hgives hnegative =>
    obtain ⟨c, htable⟩ := exists_ofTable h hkinds path
    have hsame := Toml.Value.integer.inj (get_of_gives h htable hgives)
    rw [htable]
    exact checked_eq_error_iff.2 ⟨_, rfl, check_eq_error_iff.2 (Or.inl ⟨hsame ▸ hnegative, rfl⟩)⟩
  | unknownFormat hkinds hlength hgives hunknown =>
    obtain ⟨c, htable⟩ := exists_ofTable h hkinds path
    have hsame := Toml.Value.string.inj (get_of_gives h htable hgives)
    have hnonneg : 0 ≤ c.maxQueryLength := by
      have hall : ∀ v, Gives document .maxQueryLength v → Setting.maxQueryLength.Accepts v := by
        intro v hv
        have hkind := hkinds _ v hv
        cases v <;> first
          | exact hlength _ hv
          | exact hkind.elim
      exact (accepts_get_iff h htable).2 hall
    rw [htable]
    exact checked_eq_error_iff.2
      ⟨_, rfl, check_eq_error_iff.2 (Or.inr ⟨hnonneg, hsame ▸ hunknown, rfl⟩)⟩

/-- A document is refused exactly for what is to be blamed in it. -/
theorem ofDocument_eq_error_iff :
    ofDocument path document = .error fault ↔ ∃ f, fault = .invalid f ∧ Blamed document f := by
  constructor
  · exact blamed_of_ofDocument h
  · rintro ⟨f, rfl, hblamed⟩
    exact ofDocument_of_blamed h hblamed

/-- A document holds a valid configuration exactly if every value that it gives is accepted. -/
theorem exists_ofDocument_iff :
    (∃ c warnings, ofDocument path document = .ok (c, warnings)) ↔
      ∀ s v, Gives document s v → s.Accepts v := by
  constructor
  · rintro ⟨c, warnings, hread⟩ s v
    obtain ⟨htable, hcheck⟩ := ofDocument_eq_ok_iff.1 hread
    exact (accepts_get_iff h htable).1 (check_eq_ok_iff_accepts.1 ⟨warnings, hcheck⟩ s) v
  · intro haccepts
    obtain ⟨c, htable⟩ := exists_ofTable h (fun s v hv => (haccepts s v hv).takes) path
    obtain ⟨warnings, hcheck⟩ := check_eq_ok_iff_accepts.2 fun s =>
      (accepts_get_iff h htable).2 (haccepts s)
    exact ⟨c, warnings, ofDocument_eq_ok_iff.2 ⟨htable, hcheck⟩⟩

end

/-! ## Entries that are no settings -/

/-- What a document says of the settings depends on what it gives them only. -/
theorem ofDocument_congr (h : Tabular document) (hother : Tabular other)
    (hsame : ∀ s v, Gives other s v ↔ Gives document s v) (path : Option Text) :
    ofDocument path other = ofDocument path document := by
  have hvalue : ∀ s, valueOf s other = valueOf s document := by
    intro s
    obtain ⟨found, hfound⟩ := exists_valueOf h s
    rw [hfound]
    cases found with
    | none =>
      have hnone := (valueOf_eq_none_iff h).1 hfound
      exact (valueOf_eq_none_iff hother).2 fun v hv => hnone v ((hsame s v).1 hv)
    | some v => exact valueOf_eq_some_iff.2 ((hsame s v).2 (valueOf_eq_some_iff.1 hfound))
  have hset : setFrom other = setFrom document := by
    funext c s
    rw [setFrom, setFrom, hvalue]
  rw [ofDocument, ofDocument, ofTable_eq_foldlM, ofTable_eq_foldlM, hset]

/-- Whether one document becomes another one by a change of entries that are no settings.  Entries
are added, removed and changed by being replaced by others, any number of them at a time. -/
inductive Edited : (document other : List (Text × Toml.Value)) → Prop
  /-- The entries are not called like a section of settings. -/
  | entries {before old new after : List (Text × Toml.Value)}
      (h : ∀ e ∈ old ++ new, ∀ s : Setting, e.1 ≠ s.section_) :
      Edited (before ++ old ++ after) (before ++ new ++ after)
  /-- The entries stand in a table and are not called like a setting of a section of its name. -/
  | inTable {before after first old new last : List (Text × Toml.Value)} {title : Text}
      (h : ∀ e ∈ old ++ new, ∀ s : Setting, s.section_ = title → e.1 ≠ s.name) :
      Edited (before ++ (title, .table (first ++ old ++ last)) :: after)
        (before ++ (title, .table (first ++ new ++ last)) :: after)

/-- A change of entries that are no settings leaves a section as it is, or leaves it a table in which
the setting is found as before. -/
theorem lookup?_of_edited (h : Edited document other) (s : Setting) :
    Toml.lookup? s.section_ other = Toml.lookup? s.section_ document ∨
      ∃ entries entries', Toml.lookup? s.section_ document = some (.table entries) ∧
        Toml.lookup? s.section_ other = some (.table entries') ∧
        Toml.lookup? s.name entries' = Toml.lookup? s.name entries := by
  cases h with
  | @entries before old new after h =>
    exact Or.inl (Toml.lookup?_replace (fun e he => h e he s) before after).symm
  | @inTable before after first old new last title h =>
    rw [Toml.lookup?_append, Toml.lookup?_append]
    cases Toml.lookup? s.section_ before with
    | some found => exact Or.inl rfl
    | none =>
      by_cases htitle : title = s.section_
      · have hreplaced := Toml.lookup?_replace (fun e he => h e he s htitle.symm) first last
        subst htitle
        simp only [Toml.lookup?_cons_self, Option.none_or]
        exact Or.inr ⟨_, _, rfl, rfl, hreplaced.symm⟩
      · rw [Toml.lookup?_cons_of_ne htitle, Toml.lookup?_cons_of_ne htitle]
        exact Or.inl rfl

theorem tabular_of_edited (h : Edited document other) (htabular : Tabular document) :
    Tabular other := by
  intro s v hv
  rcases lookup?_of_edited h s with hsame | ⟨entries, entries', -, hother, -⟩
  · exact htabular s v (hsame ▸ hv)
  · exact ⟨entries', Option.some.inj (hv.symm.trans hother)⟩

/-- Entries that are no settings make no difference to what a document gives. -/
theorem gives_iff_of_edited (h : Edited document other) (s : Setting) (v : Toml.Value) :
    Gives other s v ↔ Gives document s v := by
  unfold Gives Toml.StandsIn
  rcases lookup?_of_edited h s with hsame | ⟨entries, entries', hdocument, hother, hname⟩
  · rw [hsame]
  · simp [hdocument, hother, hname]

/-! ## All together -/

/-- A document whose sections are tables holds a valid configuration exactly if every value that it
gives is accepted.  The configuration then has the values that are given and the defaults elsewhere,
and its limit, if there is one, is positive.  Otherwise the document is refused for the first value
of another kind than its setting takes, or else for a negative length, or else for an unknown form.
Nothing that the document holds besides makes a difference. -/
theorem ofDocument_of_tabular (h : Tabular document) (path : Option Text) :
    ((∃ c warnings, ofDocument path document = .ok (c, warnings)) ↔
      ∀ s v, Gives document s v → s.Accepts v) ∧
    (∀ c warnings, ofDocument path document = .ok (c, warnings) →
      (∀ s v, Gives document s v → (c.get s).toValue = v) ∧
      (∀ s, (∀ v, ¬Gives document s v) → c.get s = get {} s) ∧
      c.path = path ∧ ∀ limit ∈ c.lengthLimit, 0 < limit) ∧
    (∀ fault, ofDocument path document = .error fault ↔
      ∃ f, fault = .invalid f ∧ Blamed document f) ∧
    (∀ other, Tabular other → (∀ s v, Gives other s v ↔ Gives document s v) →
      ofDocument path other = ofDocument path document) ∧
    ∀ other, Edited document other → ofDocument path other = ofDocument path document := by
  refine ⟨exists_ofDocument_iff h, ?_, fun _ => ofDocument_eq_error_iff h, ?_, ?_⟩
  · intro c warnings hread
    obtain ⟨htable, hcheck⟩ := ofDocument_eq_ok_iff.1 hread
    exact ⟨fun _ _ => get_of_gives h htable, fun _ => get_of_not_gives h htable,
      ((ofTable_eq_ok_iff_gives h).1 htable).2, fun _ hlimit => lengthLimit_pos hcheck hlimit⟩
  · exact fun other hother hsame => ofDocument_congr h hother hsame path
  · exact fun other hedited => ofDocument_congr h (tabular_of_edited hedited h)
      (gives_iff_of_edited hedited) path

/-- A text in the place of a truth value is blamed before a negative length in the section above. -/
theorem ofDocument_of_tabular_kinds :
    let document : List (Text × Toml.Value) :=
      [("search".toList, .table [("max_query_length".toList, .integer (-1))]),
        ("display".toList, .table [("colored_output".toList, .string "yes".toList)])]
    Tabular document ∧
      ofDocument none document = .error (.invalid (.wrongKind .coloredOutput)) := by
  intro document
  have htabular : Tabular document := by
    intro s v hv
    cases s <;> exact ⟨_, (Option.some.inj hv).symm⟩
  have hlength : Gives document .maxQueryLength (.integer (-1)) := ⟨_, rfl, rfl⟩
  have hcolor : Gives document .coloredOutput (.string "yes".toList) := ⟨_, rfl, rfl⟩
  have hstrict : ∀ w, ¬Gives document .strict w := by
    rintro w ⟨entries, hsection, hentry⟩
    obtain rfl := Toml.Value.table.inj (Option.some.inj hsection)
    cases hentry
  have hbefore : ∀ r ∈ [Setting.strict, .maxQueryLength], ∀ w, Gives document r w → r.Takes w := by
    intro r hr w hw
    simp only [List.mem_cons, List.not_mem_nil, or_false] at hr
    rcases hr with rfl | rfl
    · exact absurd hw (hstrict w)
    · exact hlength.unique hw ▸ trivial
  exact ⟨htabular, ((ofDocument_of_tabular htabular none).2.2.1 _).2
    ⟨_, rfl, .wrongKind rfl hbefore hcolor id⟩⟩

end Config

end CardQuery
