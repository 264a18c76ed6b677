import CardQuery.Proofs.Toml.Scalars
import Mathlib.Data.List.Basic

/-!
# Documents in writing

A document of sections with bare names, no name twice in a section and no section twice, is read
back from the way it is written.  The reader goes through it line by line: the head of a section
opens a table, and each entry adds a value to the table that was opened last.

Main results:

- `readPair_entry` says that an entry of a section is read back from its line.
- `leads_entries` and `leads_sections` say what the reader has got to behind entries and sections.
- `read_writeSections` says that a document is read back.
- `read_writeEntry` says the same of a document that is a single entry in no section.
-/

namespace CardQuery

namespace Toml

/-! ## Bare names -/

/-- A name that is written without quotes. -/
structure BareKey (name : Text) : Prop where
  ne_nil : name ≠ []
  chars : ∀ c ∈ name, isKeyChar c = true

instance : DecidablePred BareKey := fun name =>
  decidable_of_iff (name ≠ [] ∧ name.all isKeyChar = true)
    ⟨fun ⟨hne, hall⟩ => ⟨hne, List.all_eq_true.1 hall⟩,
      fun h => ⟨h.ne_nil, List.all_eq_true.2 h.chars⟩⟩

theorem isSpace_eq_false {c : Char} (hspace : c ≠ ' ') (htab : c ≠ '\t') : isSpace c = false := by
  simp [isSpace, hspace, htab]

section

variable {name : Text} (h : BareKey name)
include h

/-- A bare name begins with no character that has a meaning at the beginning of a line. -/
theorem BareKey.exists_cons : ∃ c more, name = c :: more ∧ isKeyChar c = true := by
  rcases List.exists_cons_of_ne_nil h.ne_nil with ⟨c, more, rfl⟩
  exact ⟨c, more, rfl, h.chars c List.mem_cons_self⟩

theorem BareKey.append_ne {mark : Char} (hmark : isKeyChar mark = false) (rest r : Text) :
    name ++ rest ≠ mark :: r := by
  rcases h.exists_cons with ⟨c, more, rfl, hc⟩
  intro heq
  rw [(List.cons.inj heq).1, hmark] at hc
  cases hc

/-- A bare name is read up to the first character that cannot stand in one. -/
theorem readKeyPart_bare {mark : Char} (hmark : isKeyChar mark = false) (rest : Text) :
    readKeyPart (name ++ mark :: rest) = .ok (name, mark :: rest) := by
  have htake : (name ++ mark :: rest).takeWhile isKeyChar = name := by
    rw [List.takeWhile_append_of_pos h.chars, List.takeWhile_cons_of_neg (by simp [hmark]),
      List.append_nil]
  have hdrop : (name ++ mark :: rest).dropWhile isKeyChar = mark :: rest := by
    rw [List.dropWhile_append_of_pos h.chars, List.dropWhile_cons_of_neg (by simp [hmark])]
  rcases h.exists_cons with ⟨c, more, rfl, _⟩
  rw [readKeyPart]
  · simp only [htake, hdrop]
  · exact fun r => h.append_ne (by decide) _ r
  · exact fun r => h.append_ne (by decide) _ r

theorem skipSpace_bare (rest : Text) : skipSpace (name ++ rest) = name ++ rest := by
  rcases h.exists_cons with ⟨c, more, rfl, hc⟩
  have hspace : isSpace c = false := by
    apply isSpace_eq_false
    · rintro rfl
      exact absurd hc (by decide)
    · rintro rfl
      exact absurd hc (by decide)
  exact List.dropWhile_cons_of_neg (by simp [hspace])

/-- A bare name is a key of one part. -/
theorem readKey_bare {mark : Char} (hmark : isKeyChar mark = false) {rest after : Text}
    (hafter : skipSpace (mark :: rest) = after) (hdot : ∀ r, after ≠ '.' :: r) :
    readKey (name ++ mark :: rest) = .ok ([name], after) := by
  rw [readKey, readKeyWithin, readKeyPart_bare h hmark]
  simp only [hafter]

end

/-! ## Lines -/

theorem exists_written_cons (s : Scalar) : ∃ c more, s.written = c :: more ∧ isSpace c = false := by
  cases s with
  | string t => exact ⟨'"', _, rfl, by decide⟩
  | integer n =>
    rcases Text.exists_ofInt_cons n with ⟨c, more, hcons, hc⟩
    refine ⟨c, more, hcons, isSpace_eq_false ?_ ?_⟩
    · rintro rfl
      exact absurd hc (by decide)
    · rintro rfl
      exact absurd hc (by decide)
  | boolean b => cases b <;> exact ⟨_, _, rfl, by decide⟩

/-- An entry of a section is read back from its line. -/
theorem readPair_entry (fuel : Nat) {entry : Text × Scalar} (hname : BareKey entry.1)
    (hvalue : entry.2.Readable) (rest : Text) :
    readPair (fuel + 2) (writeEntry entry ++ rest) =
      .ok (([entry.1], entry.2.toValue), '\n' :: rest) := by
  have hline : writeEntry entry ++ rest =
      entry.1 ++ ' ' :: ('=' :: ' ' :: (entry.2.written ++ '\n' :: rest)) := by
    simp [writeEntry]
  have hkey : readKey (writeEntry entry ++ rest) =
      .ok ([entry.1], '=' :: ' ' :: (entry.2.written ++ '\n' :: rest)) := by
    rw [hline]
    exact readKey_bare hname (by decide) rfl (by simp)
  have hspace : skipSpace (' ' :: (entry.2.written ++ '\n' :: rest)) =
      entry.2.written ++ '\n' :: rest := by
    rcases exists_written_cons entry.2 with ⟨c, more, hcons, hc⟩
    rw [hcons, List.cons_append, skipSpace, List.dropWhile_cons_of_pos (by decide),
      List.dropWhile_cons_of_neg (by simp [hc])]
  simp only [readPair, hkey, hspace, readValue_written fuel hvalue rest]
  rfl

/-! ## Reading line by line -/

/-- Whether the reader gets from one place of a document to another by reading whole lines. -/
inductive Leads : Progress → Text → Progress → Text → Prop
  | refl (p : Progress) (t : Text) : Leads p t p t
  | line {p p' q : Progress} {t rest last : Text}
      (hread : readStatement p (skipSpace t) = .ok (p', '\n' :: rest))
      (hshort : rest.length < t.length) (hmore : Leads p' rest q last) : Leads p t q last

theorem Leads.trans {p q r : Progress} {t rest last : Text} (h : Leads p t q rest)
    (hmore : Leads q rest r last) : Leads p t r last := by
  induction h with
  | refl => exact hmore
  | line hread hshort _ ih => exact .line hread hshort (ih hmore)

/-- A document is read if whole lines lead to its end. -/
theorem readLines_of_leads {p q : Progress} {t last : Text} (h : Leads p t q last)
    (hlast : last = []) {fuel : Nat} (hfuel : t.length < fuel) : readLines fuel p t = .ok q := by
  induction h generalizing fuel with
  | refl p t =>
    obtain ⟨fuel, rfl⟩ := Nat.exists_eq_add_of_lt hfuel
    subst hlast
    rfl
  | @line p p' q t rest last hread hshort _ ih =>
    cases fuel with
    | zero => cases hfuel
    | succ fuel =>
      have hbreak : skipComment (skipSpace ('\n' :: rest)) = .ok ('\n' :: rest) := rfl
      rw [readLines, hread]
      simp only [hbreak]
      exact ih hlast (by omega)

/-- The reader passes over an empty line. -/
theorem leads_blank (p : Progress) (rest : Text) : Leads p ('\n' :: rest) p rest :=
  .line rfl (by simp) (.refl p rest)

/-! ## Tables that grow -/

namespace Entries

/-- A new name goes to the end. -/
theorem update_of_not_mem {name : Text} {f : Option Node → Option Node} {node : Node}
    (hnew : f none = some node) {entries : Entries} (h : name ∉ entries.map Prod.fst) :
    update name f entries = some (entries ++ [(name, node)]) := by
  induction entries with
  | nil => simp [update, hnew]
  | cons entry rest ih =>
    rw [List.map_cons, List.mem_cons, not_or] at h
    rw [update, if_neg (Ne.symm h.1), ih h.2]
    rfl

/-- What stands last is changed where it stands. -/
theorem update_last {name : Text} {f : Option Node → Option Node} {old node : Node}
    (hset : f (some old) = some node) {entries : Entries} (h : name ∉ entries.map Prod.fst) :
    update name f (entries ++ [(name, old)]) = some (entries ++ [(name, node)]) := by
  induction entries with
  | nil => simp [update, hset]
  | cons entry rest ih =>
    rw [List.map_cons, List.mem_cons, not_or] at h
    rw [List.cons_append, update, if_neg (Ne.symm h.1), ih h.2]
    rfl

end Entries

/-- The nodes that the entries of a section are read as. -/
def entryNodes (entries : List (Text × Scalar)) : Entries :=
  entries.map fun entry => (entry.1, .value entry.2.toValue)

/-- The node that a section is read as. -/
def Section.node (s : Section) : Text × Node := (s.name, .table .declared (entryNodes s.entries))

theorem entriesToValues_entryNodes (entries : List (Text × Scalar)) :
    entriesToValues (entryNodes entries) =
      entries.map fun entry => (entry.1, entry.2.toValue) := by
  induction entries with
  | nil => rfl
  | cons entry rest ih =>
    rw [entryNodes, List.map_cons, entriesToValues, ← entryNodes, ih]
    rfl

/-- The nodes of sections stand for the tables of the sections. -/
theorem entriesToValues_nodes (sections : List Section) :
    entriesToValues (sections.map Section.node) = sectionsToTable sections := by
  induction sections with
  | nil => rfl
  | cons s rest ih =>
    rw [List.map_cons, Section.node, entriesToValues, Node.toValue, entriesToValues_entryNodes, ih]
    rfl

/-! ## Sections -/

/-- A section that can be read back: all names are bare, no name stands twice, and all values can be
read back. -/
structure Section.Writable (s : Section) : Prop where
  name : BareKey s.name
  keys : ∀ entry ∈ s.entries, BareKey entry.1
  values : ∀ entry ∈ s.entries, entry.2.Readable
  nodup : (s.entries.map Prod.fst).Nodup

/-- The place behind the head of a section and some of its entries. -/
def Progress.opened (before : Entries) (name : Text) (entries : List (Text × Scalar))
    (number : Nat) : Progress :=
  ⟨before ++ [(name, .table .declared (entryNodes entries))], [name], number⟩

/-- The head of a section opens a table. -/
theorem leads_head {p : Progress} {name : Text} (hname : BareKey name)
    (hnew : name ∉ p.entries.map Prod.fst) (rest : Text) :
    Leads p ('[' :: name ++ [']', '\n'] ++ rest) (.opened p.entries name [] (p.sections + 1))
      rest := by
  have hkey : readKey (skipSpace (name ++ ']' :: '\n' :: rest)) =
      .ok ([name], ']' :: '\n' :: rest) := by
    rw [skipSpace_bare hname]
    exact readKey_bare hname (by decide) rfl (by simp)
  have hdeclare : p.entries.declare name =
      some (p.entries ++ [(name, .table .declared (entryNodes []))]) :=
    Entries.update_of_not_mem rfl hnew
  have hclose : Text.after? [']'] (']' :: '\n' :: rest) = some ('\n' :: rest) := rfl
  have hline : '[' :: name ++ [']', '\n'] ++ rest = '[' :: (name ++ ']' :: '\n' :: rest) := by simp
  have hspace : skipSpace ('[' :: (name ++ ']' :: '\n' :: rest)) =
      '[' :: (name ++ ']' :: '\n' :: rest) := rfl
  have hhead : readStatement p ('[' :: (name ++ ']' :: '\n' :: rest)) =
      .ok (.opened p.entries name [] (p.sections + 1), '\n' :: rest) := by
    rw [readStatement]
    · simp only [readHeader, hkey, List.getLast?_singleton, hclose, List.dropLast_singleton,
        Entries.within, hdeclare]
      rfl
    · exact fun r => hname.append_ne (by decide) _ r
  have hshort : rest.length < ('[' :: (name ++ ']' :: '\n' :: rest)).length := by
    simp only [List.length_cons, List.length_append]
    omega
  rw [hline]
  exact .line (hspace ▸ hhead) hshort (.refl _ _)

/-- An entry adds its value to the table that was opened last, if that has room for it. -/
theorem leads_pair {p : Progress} {entry : Text × Scalar} (hkey : BareKey entry.1)
    (hvalue : entry.2.Readable) {entries : Entries}
    (hwithin : p.entries.within p.header (fun es => es.define p.sections entry.2.toValue [entry.1]) =
      some entries) (rest : Text) :
    Leads p (writeEntry entry ++ rest) { p with entries := entries } rest := by
  have hspace : skipSpace (writeEntry entry ++ rest) = writeEntry entry ++ rest := by
    simp only [writeEntry, List.append_assoc]
    exact skipSpace_bare hkey _
  have hentry : readStatement p (writeEntry entry ++ rest) =
      .ok ({ p with entries := entries }, '\n' :: rest) := by
    have hpair := readPair_entry (2 * (writeEntry entry ++ rest).length + 1) hkey hvalue rest
    have hother : ∀ mark ∈ ['\n', '#', '['], ∀ r, writeEntry entry ++ rest ≠ mark :: r := by
      intro mark hmark r
      have hmark' : isKeyChar mark = false := by
        simp only [List.mem_cons, List.not_mem_nil, or_false] at hmark
        rcases hmark with rfl | rfl | rfl <;> decide
      simp only [writeEntry, List.append_assoc]
      exact hkey.append_ne hmark' _ r
    rw [readStatement, hpair]
    · simp only [hwithin]
    · rw [writeEntry, List.append_assoc, List.append_assoc, List.append_assoc]
      exact List.append_ne_nil_of_left_ne_nil hkey.ne_nil _
    · exact hother '\n' (by decide)
    · exact hother '#' (by decide)
    · exact fun r => hother '[' (by decide) _
    · exact hother '[' (by decide)
  have hshort : rest.length < (writeEntry entry ++ rest).length := by
    simp only [writeEntry, List.length_append, List.length_singleton]
    omega
  exact .line (hspace.symm ▸ hentry) hshort (.refl _ _)

/-- An entry of a section adds its value to the table of the section. -/
theorem leads_entry {before : Entries} {name : Text} (hname : name ∉ before.map Prod.fst)
    (number : Nat) {entries : List (Text × Scalar)} {entry : Text × Scalar} (hkey : BareKey entry.1)
    (hvalue : entry.2.Readable) (hnew : entry.1 ∉ entries.map Prod.fst) (rest : Text) :
    Leads (.opened before name entries number) (writeEntry entry ++ rest)
      (.opened before name (entries ++ [entry]) number) rest := by
  have hnames : (entryNodes entries).map Prod.fst = entries.map Prod.fst := by simp [entryNodes]
  have hdefine : Entries.define number entry.2.toValue [entry.1] (entryNodes entries) =
      some (entryNodes (entries ++ [entry])) := by
    rw [Entries.define, Entries.update_of_not_mem rfl (hnames ▸ hnew)]
    simp [entryNodes]
  have hwithin : Entries.within [name] (fun es => es.define number entry.2.toValue [entry.1])
      (before ++ [(name, .table .declared (entryNodes entries))]) =
        some (before ++ [(name, .table .declared (entryNodes (entries ++ [entry])))]) := by
    rw [Entries.within]
    exact Entries.update_last (by simp [Entries.within, hdefine]) hname
  exact @leads_pair (.opened before name entries number) _ hkey hvalue _ hwithin rest

/-- The entries of a section add their values one after the other. -/
theorem leads_entries {before : Entries} {name : Text} (hname : name ∉ before.map Prod.fst)
    (number : Nat) (rest : Text) {later : List (Text × Scalar)}
    (hkeys : ∀ entry ∈ later, BareKey entry.1) (hvalues : ∀ entry ∈ later, entry.2.Readable)
    (entries : List (Text × Scalar)) (hnodup : ((entries ++ later).map Prod.fst).Nodup) :
    Leads (.opened before name entries number) (later.flatMap writeEntry ++ rest)
      (.opened before name (entries ++ later) number) rest := by
  induction later generalizing entries with
  | nil =>
    rw [List.append_nil]
    exact .refl _ _
  | cons entry later ih =>
    have hnew : entry.1 ∉ entries.map Prod.fst := by
      rw [List.map_append, List.map_cons] at hnodup
      exact fun hmem => (List.nodup_append.1 hnodup).2.2 _ hmem _ List.mem_cons_self rfl
    have hfirst := leads_entry hname number (hkeys entry List.mem_cons_self)
      (hvalues entry List.mem_cons_self) hnew (later.flatMap writeEntry ++ rest)
    rw [List.append_cons] at hnodup ⊢
    rw [List.flatMap_cons, List.append_assoc]
    exact hfirst.trans (ih (fun e he => hkeys e (List.mem_cons_of_mem _ he))
      (fun e he => hvalues e (List.mem_cons_of_mem _ he)) _ hnodup)

/-- A section adds its table behind the ones before. -/
theorem leads_section {p : Progress} {s : Section} (hs : s.Writable)
    (hnew : s.name ∉ p.entries.map Prod.fst) (rest : Text) :
    ∃ q, Leads p (s.written ++ rest) q rest ∧ q.entries = p.entries ++ [s.node] := by
  have hhead := leads_head hs.name hnew (s.entries.flatMap writeEntry ++ rest)
  have hentries := leads_entries hnew (p.sections + 1) rest hs.keys hs.values [] hs.nodup
  refine ⟨.opened p.entries s.name s.entries (p.sections + 1), ?_, rfl⟩
  rw [Section.written, List.append_assoc]
  exact hhead.trans hentries

theorem writeSections_singleton (s : Section) : writeSections [s] = s.written := by
  simp [writeSections, List.intercalate]

theorem writeSections_cons_cons (s s' : Section) (more : List Section) :
    writeSections (s :: s' :: more) = s.written ++ '\n' :: writeSections (s' :: more) := by
  simp [writeSections, List.intercalate]

/-- Sections with different names that can be read back. -/
structure Writable (sections : List Section) : Prop where
  each : ∀ s ∈ sections, s.Writable
  nodup : (sections.map Section.name).Nodup

/-- Sections add their tables one after the other. -/
theorem leads_sections {sections : List Section} (h : Writable sections) {p : Progress}
    (hnew : ∀ s ∈ sections, s.name ∉ p.entries.map Prod.fst) :
    ∃ q, Leads p (writeSections sections) q [] ∧
      q.entries = p.entries ++ sections.map Section.node := by
  induction sections generalizing p with
  | nil => exact ⟨p, .refl p [], by simp⟩
  | cons s later ih =>
    rcases List.nodup_cons.1 h.nodup with ⟨hnot, hnodup⟩
    have hs := h.each s List.mem_cons_self
    have hlater : Writable later := ⟨fun t ht => h.each t (List.mem_cons_of_mem s ht), hnodup⟩
    cases later with
    | nil =>
      rcases leads_section hs (hnew s List.mem_cons_self) [] with ⟨q, hleads, hq⟩
      rw [List.append_nil] at hleads
      rw [writeSections_singleton]
      exact ⟨q, hleads, hq⟩
    | cons s' more =>
      rcases leads_section hs (hnew s List.mem_cons_self)
        ('\n' :: writeSections (s' :: more)) with ⟨q, hleads, hq⟩
      have hfresh : ∀ t ∈ s' :: more, t.name ∉ q.entries.map Prod.fst := by
        intro t ht hmem
        rw [hq, List.map_append] at hmem
        rcases List.mem_append.1 hmem with hold | hlast
        · exact hnew t (List.mem_cons_of_mem s ht) hold
        · have hsame : t.name = s.name := List.mem_singleton.1 hlast
          exact hnot (hsame ▸ List.mem_map_of_mem ht)
      rcases ih hlater hfresh with ⟨r, hmore, hr⟩
      refine ⟨r, ?_, by simp [hr, hq]⟩
      -- Only between sections does an empty line stand, which the reader has to pass over.
      rw [writeSections_cons_cons]
      exact hleads.trans ((leads_blank q _).trans hmore)

/-! ## Documents -/

theorem joinBreaks_of_not_mem {t : Text} (h : '\r' ∉ t) : joinBreaks t = t := by
  induction t with
  | nil => rfl
  | cons c t ih =>
    rw [List.mem_cons, not_or] at h
    rw [joinBreaks, ih h.2]
    rintro rest rfl
    exact absurd rfl h.1

theorem return_not_mem_writeChar (c : Char) : '\r' ∉ writeChar c := by
  have hcontrol : ∀ n : Fin 128, '\r' ∉ Text.hexadecimal 4 n := by decide +kernel
  unfold writeChar
  split
  next hprotected => rcases hprotected with rfl | rfl <;> decide
  next =>
    split_ifs with hfeed hreturn hback hform hother
    · decide
    · decide
    · decide
    · decide
    · have hlow : c.toNat < 128 := by omega
      have hdigits := hcontrol ⟨c.toNat, hlow⟩
      simpa using hdigits
    · simpa using Ne.symm hreturn

theorem return_not_mem_written (s : Scalar) : '\r' ∉ s.written := by
  cases s with
  | string t => simp [Scalar.written, writeString, return_not_mem_writeChar]
  | integer n =>
    have hdigits : '\r' ∉ Text.ofNat n.natAbs := fun hmem =>
      absurd ((Text.digits_ofNat n.natAbs).2 _ hmem) (by decide)
    have hsign : '\r' ∉ Text.signOf n := by
      unfold Text.signOf
      split <;> decide
    rw [Scalar.written, Text.ofInt_eq, List.mem_append, not_or]
    exact ⟨hsign, hdigits⟩
  | boolean b => cases b <;> decide

theorem BareKey.return_not_mem {name : Text} (h : BareKey name) : '\r' ∉ name :=
  fun hmem => absurd (h.chars _ hmem) (by decide)

theorem BareKey.return_not_mem_entry {entry : Text × Scalar} (h : BareKey entry.1) :
    '\r' ∉ writeEntry entry := by
  simp [writeEntry, h.return_not_mem, return_not_mem_written]

theorem Section.Writable.return_not_mem {s : Section} (h : s.Writable) : '\r' ∉ s.written := by
  have hentries : ∀ entry ∈ s.entries, '\r' ∉ writeEntry entry :=
    fun entry hentry => (h.keys entry hentry).return_not_mem_entry
  simpa [Section.written, h.name.return_not_mem] using hentries

/-- No line of a written document ends with a carriage return. -/
theorem return_not_mem_writeSections {sections : List Section} (h : Writable sections) :
    '\r' ∉ writeSections sections := by
  induction sections with
  | nil => exact List.not_mem_nil
  | cons s later ih =>
    have hs := (h.each s List.mem_cons_self).return_not_mem
    have hlater : Writable later :=
      ⟨fun t ht => h.each t (List.mem_cons_of_mem s ht), (List.nodup_cons.1 h.nodup).2⟩
    cases later with
    | nil =>
      rw [writeSections_singleton]
      exact hs
    | cons s' more =>
      rw [writeSections_cons_cons]
      simpa [hs] using ih hlater

/-- A document is read back from the way it is written. -/
theorem read_writeSections {sections : List Section} (h : Writable sections) :
    read (writeSections sections) = .ok (sectionsToTable sections) := by
  rcases leads_sections h (p := {}) (by simp) with ⟨q, hleads, hq⟩
  have hread := readLines_of_leads hleads rfl (Nat.lt_succ_self _)
  rw [List.nil_append] at hq
  rw [read, joinBreaks_of_not_mem (return_not_mem_writeSections h)]
  simp only [hread, Except.map, hq, entriesToValues_nodes]

/-- A document of one entry, in no section, is read back. -/
theorem read_writeEntry {entry : Text × Scalar} (hkey : BareKey entry.1)
    (hvalue : entry.2.Readable) : read (writeEntry entry) = .ok [(entry.1, entry.2.toValue)] := by
  have hleads := @leads_pair {} entry hkey hvalue _ rfl []
  rw [List.append_nil] at hleads
  have hread := readLines_of_leads hleads rfl (Nat.lt_succ_self _)
  rw [read, joinBreaks_of_not_mem hkey.return_not_mem_entry]
  simp only [hread]
  rfl

end Toml

end CardQuery
