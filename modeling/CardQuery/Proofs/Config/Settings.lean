import CardQuery.Config.Document

/-!
# Settings in a document

A document is gone through setting by setting.  A setting that it gives a value of the right kind
takes that value, one that it does not give keeps the value it has, and the first one that is
refused ends the reading.

Main results:

- `valueOf_eq_error_iff` says which sections cannot stand for a table.
- `setFrom_eq_ok_iff` and `setFrom_eq_error_iff` say what one setting is set to, and when it is
  refused.
- `ofTable_eq_ok_iff` and `ofTable_eq_error_iff` say the same of a whole document.
-/

namespace CardQuery

namespace Setting

/-- The settings in the order in which they are looked at. -/
def all : List Setting := [strict, maxQueryLength, coloredOutput, defaultFormat]

theorem mem_all (s : Setting) : s ∈ all := by cases s <;> decide

theorem nodup_all : all.Nodup := by decide

/-- Settings have different names, also in different sections. -/
theorem name_inj {s r : Setting} : s.name = r.name ↔ s = r := by
  cases s <;> cases r <;> decide

/-- Whether a value is of the kind that a setting takes. -/
def Takes : Setting → Toml.Value → Prop
  | strict, .boolean _ => True
  | maxQueryLength, .integer _ => True
  | coloredOutput, .boolean _ => True
  | defaultFormat, .string _ => True
  | _, _ => False

end Setting

namespace Toml

theorem lookup?_append (name : Text) (entries more : List (Text × Value)) :
    lookup? name (entries ++ more) = (lookup? name entries).or (lookup? name more) := by
  induction entries with
  | nil => rfl
  | cons entry entries ih =>
    rw [List.cons_append, lookup?, lookup?, ih]
    by_cases h : entry.1 = name
    · rw [if_pos h, if_pos h]
      rfl
    · rw [if_neg h, if_neg h]

/-- With no name twice, what is found under a name is what stands there. -/
theorem lookup?_eq_some_iff {entries : List (Text × Value)} (h : (entries.map Prod.fst).Nodup)
    {name : Text} {v : Value} : lookup? name entries = some v ↔ (name, v) ∈ entries := by
  induction entries with
  | nil => simp [lookup?]
  | cons entry entries ih =>
    rcases entry with ⟨other, w⟩
    rw [List.map_cons, List.nodup_cons] at h
    by_cases hname : other = name
    · subst hname
      have hnot : (other, v) ∉ entries := fun hmem =>
        h.1 (List.mem_map.2 ⟨_, hmem, rfl⟩)
      rw [lookup?_cons_self, List.mem_cons, or_iff_left hnot, Option.some.injEq, Prod.mk.injEq,
        eq_self_iff_true, true_and, eq_comm]
    · have hne : (name, v) ≠ (other, w) := fun heq => hname (Prod.mk.inj heq).1.symm
      rw [lookup?_cons_of_ne hname, ih h.2, List.mem_cons, or_iff_right hne]

/-- Whether a value stands under a name in a section of a document. -/
def StandsIn (document : List (Text × Value)) (title name : Text) (v : Value) : Prop :=
  ∃ entries, lookup? title document = some (.table entries) ∧ lookup? name entries = some v

end Toml

theorem Toml.Scalar.toValue_inj {x y : Toml.Scalar} : x.toValue = y.toValue ↔ x = y := by
  cases x <;> cases y <;> simp [toValue]

/-- Whether a section with this value cannot be asked for a name: a text in which the name stands, a
sequence that has the name as an item, and everything that is neither a text, nor a sequence, nor a
table. -/
def Toml.Value.Blocks (name : Text) : Toml.Value → Prop
  | .table _ => False
  | .string t => ∃ before later, t = before ++ name ++ later
  | .array items => .string name ∈ items
  | _ => True

namespace Config

/-! ## Values -/

/-- A configuration is made of its settings and its path. -/
theorem ext_get {c d : Config} (h : ∀ s, c.get s = d.get s) (hpath : c.path = d.path) : c = d := by
  have hstrict := h .strict
  have hlength := h .maxQueryLength
  have hcolor := h .coloredOutput
  have hformat := h .defaultFormat
  cases c
  cases d
  simp_all [get]

/-- The value of a setting is of the kind that the setting takes. -/
theorem takes_get (c : Config) (s : Setting) : s.Takes (c.get s).toValue := by
  cases s <;> trivial

/-- A setting can be set to every value of its kind, which changes nothing else. -/
theorem exists_set (c : Config) {s : Setting} {v : Toml.Value} (h : s.Takes v) :
    ∃ d, c.set s v = .ok d ∧ (d.get s).toValue = v ∧ (∀ r ≠ s, d.get r = c.get r) ∧
      d.path = c.path := by
  have hothers : ∀ {s : Setting} {d : Config}, (∀ r ∈ Setting.all, r ≠ s → d.get r = c.get r) →
      ∀ r ≠ s, d.get r = c.get r := fun h r => h r r.mem_all
  cases s <;> cases v <;> first
    | exact h.elim
    | exact ⟨_, rfl, rfl, hothers (by simp [Setting.all, get]), rfl⟩

/-- A setting cannot be set to a value of another kind. -/
theorem set_of_not_takes (c : Config) {s : Setting} {v : Toml.Value} (h : ¬s.Takes v) :
    c.set s v = .error (.invalid (.wrongKind s)) := by
  cases s <;> cases v <;> first
    | exact absurd trivial h
    | rfl

/-! ## Sections -/

theorem isName_iff {name : Text} {v : Toml.Value} : isName name v = true ↔ v = .string name := by
  cases v <;> simp [isName]

theorem valueIn_eq_error_iff {s : Setting} {v : Toml.Value} {fault : DocumentFault} :
    valueIn s v = .error fault ↔ v.Blocks s.name ∧ fault = .noTable s := by
  cases v with
  | table entries => simp [valueIn, Toml.Value.Blocks]
  | string t =>
    rw [valueIn, Toml.Value.Blocks, ← Text.contains_iff]
    split
    next hcontains => simp [hcontains, eq_comm]
    next hcontains => simp [hcontains]
  | array items =>
    have hany : items.any (isName s.name) = true ↔ .string s.name ∈ items := by
      simp [List.any_eq_true, isName_iff]
    rw [valueIn, Toml.Value.Blocks, ← hany]
    split
    next hmem => simp [hmem, eq_comm]
    next hmem => simp [hmem]
  | integer n => simp [valueIn, Toml.Value.Blocks, eq_comm]
  | float numeral => simp [valueIn, Toml.Value.Blocks, eq_comm]
  | boolean b => simp [valueIn, Toml.Value.Blocks, eq_comm]
  | moment written => simp [valueIn, Toml.Value.Blocks, eq_comm]

/-- A document cannot be asked for a setting exactly if its section blocks the name. -/
theorem valueOf_eq_error_iff {s : Setting} {document : List (Text × Toml.Value)}
    {fault : DocumentFault} :
    valueOf s document = .error fault ↔
      (∃ v, Toml.lookup? s.section_ document = some v ∧ v.Blocks s.name) ∧ fault = .noTable s := by
  unfold valueOf
  cases Toml.lookup? s.section_ document with
  | none => simp
  | some v => simp [valueIn_eq_error_iff]

/-! ## Single settings -/

/-- Whether a setting goes from one value to another by what a document says: to the value that the
document gives, or else to none but the old one. -/
def Follows (document : List (Text × Toml.Value)) (s : Setting) (old new : Toml.Scalar) : Prop :=
  valueOf s document = .ok (some new.toValue) ∨ valueOf s document = .ok none ∧ new = old

/-- Whether a document makes a setting refused, and why. -/
inductive Refuses (document : List (Text × Toml.Value)) (s : Setting) : DocumentFault → Prop
  | noTable {v : Toml.Value} (hfound : Toml.lookup? s.section_ document = some v)
      (hblocks : v.Blocks s.name) : Refuses document s (.noTable s)
  | wrongKind {v : Toml.Value} (hvalue : valueOf s document = .ok (some v)) (hkind : ¬s.Takes v) :
      Refuses document s (.invalid (.wrongKind s))

section

variable {document : List (Text × Toml.Value)}

/-- A setting is refused exactly if the document makes it so, whatever was set before. -/
theorem setFrom_eq_error_iff {c : Config} {s : Setting} {fault : DocumentFault} :
    setFrom document c s = .error fault ↔ Refuses document s fault := by
  unfold setFrom
  constructor
  · intro h
    split at h
    next f hvalue =>
      cases h
      obtain ⟨⟨v, hfound, hblocks⟩, rfl⟩ := valueOf_eq_error_iff.1 hvalue
      exact .noTable hfound hblocks
    next => cases h
    next v hvalue =>
      by_cases hkind : s.Takes v
      · rcases c.exists_set hkind with ⟨d, hset, -⟩
        rw [hset] at h
        cases h
      · rw [set_of_not_takes c hkind] at h
        cases h
        exact .wrongKind hvalue hkind
  · intro h
    cases h with
    | noTable hfound hblocks => rw [valueOf_eq_error_iff.2 ⟨⟨_, hfound, hblocks⟩, rfl⟩]
    | wrongKind hvalue hkind =>
      rw [hvalue]
      exact set_of_not_takes c hkind

/-- A setting that goes by the document can be set so, which changes nothing else. -/
theorem exists_setFrom {c d : Config} {s : Setting} (h : Follows document s (c.get s) (d.get s)) :
    ∃ e, setFrom document c s = .ok e ∧ e.get s = d.get s ∧ (∀ r ≠ s, e.get r = c.get r) ∧
      e.path = c.path := by
  unfold setFrom
  rcases h with hvalue | ⟨hvalue, hsame⟩
  · rw [hvalue]
    rcases c.exists_set (takes_get d s) with ⟨e, hset, hget, hothers, hpath⟩
    exact ⟨e, hset, Toml.Scalar.toValue_inj.1 hget, hothers, hpath⟩
  · rw [hvalue]
    exact ⟨c, rfl, hsame.symm, fun _ _ => rfl, rfl⟩

/-- A setting is set to what the document says, and nothing else is changed. -/
theorem setFrom_eq_ok_iff {c d : Config} {s : Setting} :
    setFrom document c s = .ok d ↔
      Follows document s (c.get s) (d.get s) ∧ (∀ r ≠ s, d.get r = c.get r) ∧ d.path = c.path := by
  constructor
  · intro h
    unfold setFrom at h
    split at h
    next => cases h
    next hvalue =>
      cases h
      exact ⟨Or.inr ⟨hvalue, rfl⟩, fun _ _ => rfl, rfl⟩
    next v hvalue =>
      by_cases hkind : s.Takes v
      · rcases c.exists_set hkind with ⟨e, hset, hget, hothers, hpath⟩
        obtain rfl : e = d := Except.ok.inj (hset.symm.trans h)
        exact ⟨Or.inl (hget ▸ hvalue), hothers, hpath⟩
      · rw [set_of_not_takes c hkind] at h
        cases h
  · rintro ⟨hfollows, hothers, hpath⟩
    rcases exists_setFrom hfollows with ⟨e, hset, hget, hothers', hpath'⟩
    have heq : e = d := by
      apply ext_get _ (hpath'.trans hpath.symm)
      intro r
      by_cases hr : r = s
      · rw [hr, hget]
      · rw [hothers' r hr, hothers r hr]
    rw [hset, heq]

/-! ## All settings -/

/-- A run through settings sets each of them to what the document says, and nothing else. -/
theorem foldlM_setFrom_eq_ok_iff {settings : List Setting} (hnodup : settings.Nodup)
    {c d : Config} :
    settings.foldlM (setFrom document) c = .ok d ↔
      (∀ s ∈ settings, Follows document s (c.get s) (d.get s)) ∧
        (∀ r ∉ settings, d.get r = c.get r) ∧ d.path = c.path := by
  induction settings generalizing c with
  | nil =>
    constructor
    · intro h
      cases h
      exact ⟨nofun, fun _ _ => rfl, rfl⟩
    · rintro ⟨-, hothers, hpath⟩
      rw [ext_get (fun r => hothers r List.not_mem_nil) hpath]
      rfl
  | cons s settings ih =>
    rw [List.nodup_cons] at hnodup
    rw [List.foldlM_cons]
    constructor
    · intro h
      cases hfirst : setFrom document c s with
      | error fault =>
        rw [hfirst] at h
        cases h
      | ok e =>
        rw [hfirst] at h
        rcases setFrom_eq_ok_iff.1 hfirst with ⟨hfollows, hkept, hpath⟩
        rcases (ih hnodup.2).1 h with ⟨hrest, hothers, hpath'⟩
        -- The setting stands in the list once, so what it was set to is kept to the end.
        have hlast : d.get s = e.get s := hothers s hnodup.1
        refine ⟨List.forall_mem_cons.2 ⟨hlast ▸ hfollows, ?_⟩, ?_, hpath'.trans hpath⟩
        · intro r hr
          have hne : r ≠ s := fun heq => hnodup.1 (heq ▸ hr)
          exact hkept r hne ▸ hrest r hr
        · intro r hr
          rw [List.mem_cons, not_or] at hr
          rw [hothers r hr.2, hkept r hr.1]
    · rintro ⟨hfollows, hothers, hpath⟩
      rw [List.forall_mem_cons] at hfollows
      rcases exists_setFrom hfollows.1 with ⟨e, hset, hget, hkept, hpath'⟩
      rw [hset]
      refine (ih hnodup.2).2 ⟨?_, ?_, hpath.trans hpath'.symm⟩
      · intro r hr
        have hne : r ≠ s := fun heq => hnodup.1 (heq ▸ hr)
        exact (hkept r hne).symm ▸ hfollows.2 r hr
      · intro r hr
        by_cases hrs : r = s
        · rw [hrs, hget]
        · rw [hkept r hrs, hothers r (by simp [hrs, hr])]

/-- A run through settings ends exactly with the first one that is refused. -/
theorem foldlM_setFrom_eq_error_iff {settings : List Setting} {c : Config}
    {fault : DocumentFault} :
    settings.foldlM (setFrom document) c = .error fault ↔
      ∃ before s after, settings = before ++ s :: after ∧
        (∀ r ∈ before, ∀ f, ¬Refuses document r f) ∧ Refuses document s fault := by
  induction settings generalizing c with
  | nil =>
    constructor
    · intro h
      cases h
    · rintro ⟨before, s, after, hsplit, -⟩
      cases before <;> cases hsplit
  | cons s settings ih =>
    rw [List.foldlM_cons]
    cases hfirst : setFrom document c s with
    | error f =>
      have hs := setFrom_eq_error_iff.1 hfirst
      constructor
      · intro h
        obtain rfl : f = fault := Except.error.inj h
        exact ⟨[], s, settings, rfl, nofun, hs⟩
      · rintro ⟨before, r, after, hsplit, hbefore, hr⟩
        rcases List.cons_eq_append_iff.1 hsplit with ⟨rfl, hcons⟩ | ⟨before, rfl, -⟩
        · obtain rfl : r = s := (List.cons.inj hcons).1
          exact hfirst.symm.trans (setFrom_eq_error_iff.2 hr)
        · exact absurd hs (hbefore s List.mem_cons_self f)
    | ok e =>
      have hs : ∀ f, ¬Refuses document s f := by
        intro f hf
        rw [setFrom_eq_error_iff.2 hf] at hfirst
        cases hfirst
      refine Iff.trans ih ?_
      constructor
      · rintro ⟨before, r, after, rfl, hbefore, hr⟩
        exact ⟨s :: before, r, after, rfl, List.forall_mem_cons.2 ⟨hs, hbefore⟩, hr⟩
      · rintro ⟨before, r, after, hsplit, hbefore, hr⟩
        rcases List.cons_eq_append_iff.1 hsplit with ⟨rfl, hcons⟩ | ⟨before, rfl, hrest⟩
        · obtain rfl : r = s := (List.cons.inj hcons).1
          exact absurd hr (hs fault)
        · exact ⟨before, r, after, hrest, (List.forall_mem_cons.1 hbefore).2, hr⟩

variable {path : Option Text}

theorem ofTable_eq_foldlM :
    ofTable path document = Setting.all.foldlM (setFrom document) { path := path } := by
  simp [ofTable, Setting.all]

/-- A document holds exactly the configuration whose settings are what the document gives, or else
the defaults. -/
theorem ofTable_eq_ok_iff {c : Config} :
    ofTable path document = .ok c ↔
      (∀ s, Follows document s (get {} s) (c.get s)) ∧ c.path = path := by
  rw [ofTable_eq_foldlM, foldlM_setFrom_eq_ok_iff Setting.nodup_all]
  constructor
  · rintro ⟨hfollows, -, hpath⟩
    exact ⟨fun s => hfollows s s.mem_all, hpath⟩
  · rintro ⟨hfollows, hpath⟩
    exact ⟨fun s _ => hfollows s, fun r hr => absurd r.mem_all hr, hpath⟩

/-- A document is refused exactly for the first setting that it makes refused. -/
theorem ofTable_eq_error_iff {fault : DocumentFault} :
    ofTable path document = .error fault ↔
      ∃ before s after, Setting.all = before ++ s :: after ∧
        (∀ r ∈ before, ∀ f, ¬Refuses document r f) ∧ Refuses document s fault := by
  rw [ofTable_eq_foldlM, foldlM_setFrom_eq_error_iff]

end

end Config

end CardQuery
