import CardQuery.Proofs.Query.WellFormed

/-!
# Empty values

The value of a clause is what stands behind its keyword, the name of its field and its modifiers.
A value that is empty without its quotes asks for nothing, so a clause with such a value is refused
or places no constraint.  There are two exceptions: a field can be asked to be empty, and a lenient
reading takes a state without a name for a state.

Main results:

- `Text.eq_quote_of_hollow` says that only quotes stand for the empty value.
- `TextSearch.read?_eq_none_iff` says that a search without a text to search for is none.
- `Clause.addClause_of_emptyValue` says what a clause with an empty value makes of a query.
- `Query.statesNamed_iff_of_compile` says which compiled queries have a state without a name.
- `Query.compile_emptyValues` says where empty values stay in a compiled query.
-/

namespace CardQuery

/-! ## Texts that stand for nothing -/

namespace Text

/-- A text that stands for the empty value. -/
def Hollow (t : Text) : Prop := t.unquote.text = []

instance : DecidablePred Hollow := fun t => decEq t.unquote.text []

theorem eq_nil_of_unescape {inner : Text} (h : Region.unescape inner = []) : inner = [] := by
  fun_cases Region.unescape inner with
  | case1 rest => simp [Region.unescape] at h
  | case2 c rest hpair =>
    rw [Region.unescape] at h
    · cases h
    · exact hpair
  | case3 => rfl

/-- Pieces that stand for nothing are written with quotes alone. -/
theorem eq_quote_of_mem_writtenAll {ps : List Piece} (h : ps.flatMap Piece.content = []) {c : Char}
    (hc : c ∈ Piece.writtenAll ps) : c = '"' := by
  rcases List.mem_flatMap.1 hc with ⟨p, hp, hcp⟩
  have hcontent : p.content = [] := List.flatMap_eq_nil_iff.1 h p hp
  cases p with
  | char d => cases hcontent
  | region inner =>
    obtain rfl := eq_nil_of_unescape hcontent
    simpa [Piece.written] using hcp

/-- Only quotes stand for the empty value. -/
theorem eq_quote_of_hollow {t : Text} (h : t.Hollow) : ∀ c ∈ t, c = '"' := by
  unfold Hollow unquote at h
  dsimp only at h
  fun_induction Piece.segments t with
  | case1 t ps hread =>
    intro c hc
    have hwritten := Piece.written_pieces t
    rw [hread, List.append_nil] at hwritten
    rw [← hwritten] at hc
    exact eq_quote_of_mem_writtenAll h hc
  | case2 t ps first rest hread ih =>
    rw [List.flatMap_append] at h
    rcases List.append_eq_nil_iff.1 h with ⟨hfront, hrest⟩
    have hwritten := Piece.written_pieces t
    have hopen : first = '"' := by
      have hne : (Piece.pieces t).2 ≠ [] := by simp [hread]
      rcases Piece.open_of_pieces hne with ⟨after, hafter, _⟩
      rw [hread] at hafter
      exact List.head_eq_of_cons_eq hafter
    rw [hread] at hwritten
    intro c hc
    rw [← hwritten] at hc
    rcases List.mem_append.1 hc with hc | hc
    · exact eq_quote_of_mem_writtenAll hfront hc
    · rcases List.mem_cons.1 hc with rfl | hc
      · exact hopen
      · exact ih hrest c hc

end Text

/-- A text that stands for the empty value names no flag. -/
theorem readFlag_ne_ok_of_hollow {value : Text} (h : value.Hollow) (number : Nat) :
    readFlag value ≠ .ok number := by
  have hdigits : PropertyFilter.isDigits value = false := by
    cases value with
    | nil => rfl
    | cons c rest =>
      obtain rfl := Text.eq_quote_of_hollow h c List.mem_cons_self
      rfl
  simp [readFlag, hdigits]

/-- A text that stands for the empty value is no comparison of a property. -/
theorem PropertyFilter.read_ne_ok_of_hollow {strict : Bool} {expression : Text}
    (h : expression.Hollow) (f : PropertyFilter) : read strict expression ≠ .ok f := by
  have hrest : expression.dropWhile (fun c => !Comparator.isMark c) = [] := by
    rw [List.dropWhile_eq_nil_iff]
    intro c hc
    rw [Text.eq_quote_of_hollow h c hc]
    rfl
  have hsplit : Comparator.split? expression = none := by
    rw [Comparator.split?, hrest]
    rfl
  simp [read, readLenient, hsplit]

/-! ## Values of clauses -/

/-- The part of a text that is searched for: what stands behind the modifiers, and behind the mark
of a regular expression. -/
def TextSearch.searched (text : Text) : Text :=
  let body := (Modifiers.read {} text).2
  (Text.after? Modifiers.regexMark body).getD body

/-- A search without a text to search for is none. -/
theorem TextSearch.read?_eq_none_iff {negated : Bool} {field text : Text} :
    read? negated field text = none ↔ (searched text).Hollow := by
  unfold read? searched Text.Hollow
  dsimp only
  cases hpattern : Text.after? Modifiers.regexMark (Modifiers.read {} text).2 <;> simp

/-- A text without a mark is searched for as a whole. -/
theorem TextSearch.searched_of_not_marks {text : Text} (h : Modifiers.marks text = false) :
    searched text = text := by
  simp only [Modifiers.marks, Bool.or_eq_false_iff, Text.begins, Option.isSome_eq_false_iff,
    Option.isNone_iff_eq_none] at h
  rcases h with ⟨⟨hregex, hcombining⟩, hword⟩
  simp [searched, Modifiers.read_of_bare {} ⟨hcombining, hword⟩, hregex]

/-- The constraint of a clause about a field if its value is empty. -/
theorem fieldConstraint_of_hollow (negated : Bool) (field : Text) {text : Text}
    (h : (TextSearch.searched text).Hollow) :
    fieldConstraint negated field text =
      if Modifiers.marks text then none else some (.field field []) := by
  unfold fieldConstraint
  split
  next => rw [TextSearch.read?_eq_none_iff.2 h, Option.map_none]
  next hmarks =>
    rw [TextSearch.searched_of_not_marks (Bool.eq_false_iff.2 hmarks)] at h
    rw [h]

namespace Clause

/-- The value of a clause, as it is typed: what stands behind the keyword and the name of a field,
and in searches for a text behind the modifiers. -/
def value (c : Clause) : Text :=
  match Topic.read? c.text with
  | some (.front, rest) | some (.back, rest) => TextSearch.searched rest
  | some (.field, rest) => ((splitField? rest).map fun cut => TextSearch.searched cut.2).getD []
  | some (.deck, rest) | some (.tag, rest) | some (.state, rest) | some (.flag, rest)
  | some (.property, rest) => rest
  | none => TextSearch.searched c.text

/-- A clause whose value is empty without its quotes. -/
def EmptyValue (c : Clause) : Prop := c.value.Hollow

instance : DecidablePred EmptyValue := fun c => inferInstanceAs (Decidable c.value.Hollow)

/-- A clause about a state without a name. -/
def NamelessState (c : Clause) : Prop := ∃ rest, c.text = Topic.state.keyword ++ rest ∧ rest.Hollow

/-- A clause that asks for a field to be empty. -/
def EmptyField (c : Clause) (name : Text) : Prop :=
  ∃ value : Text, value.Hollow ∧
    (c.text = Topic.front.keyword ++ value ∧ name = "front".toList ∨
      c.text = Topic.back.keyword ++ value ∧ name = "back".toList ∨
      ∃ rest, c.text = Topic.field.keyword ++ rest ∧ splitField? rest = some (name, value))

theorem named_of_hollow (kind : Text → Constraint) {text : Text} (h : text.Hollow) :
    named kind text = none := by
  rw [Text.Hollow] at h
  simp [named, h]

/-- No state without a name is known. -/
theorem not_known_of_hollow {text : Text} (h : text.Hollow) :
    Text.lower text.unquote.text ∉ knownStates := by
  rw [Text.Hollow] at h
  rw [h]
  decide

section

variable {strict : Bool} {c : Clause}

/-- What a clause with an empty value places: nothing, an empty field, or, in a lenient reading, a
state without a name. -/
theorem Means.of_emptyValue {found : Option Constraint} (h : Means strict c found)
    (hempty : c.EmptyValue) :
    found = none ∨ (∃ name, c.EmptyField name ∧ found = some (.field name [])) ∨
      strict = false ∧ c.NamelessState ∧ found = some (.state c.negated []) := by
  -- A field is asked to be empty only if nothing is marked in its value.
  have hfield : ∀ {name value : Text}, (TextSearch.searched value).Hollow →
      (value.Hollow → c.EmptyField name) →
      fieldConstraint c.negated name value = none ∨
        ∃ name', c.EmptyField name' ∧
          fieldConstraint c.negated name value = some (.field name' []) := by
    intro name value hvalue hasks
    rw [fieldConstraint_of_hollow c.negated name hvalue]
    by_cases hmarks : Modifiers.marks value = true
    · exact Or.inl (if_pos hmarks)
    · rw [TextSearch.searched_of_not_marks (Bool.eq_false_iff.2 hmarks)] at hvalue
      exact Or.inr ⟨name, hasks hvalue, if_neg hmarks⟩
  unfold EmptyValue value at hempty
  cases h with
  | deck htopic =>
    rw [htopic] at hempty
    exact Or.inl (named_of_hollow _ hempty)
  | tag htopic =>
    rw [htopic] at hempty
    exact Or.inl (named_of_hollow _ hempty)
  | @state rest htopic hknown =>
    rw [htopic] at hempty
    have hlenient : strict = false :=
      Bool.eq_false_iff.2 fun hstrict => not_known_of_hollow hempty (hknown hstrict)
    have hname : rest.unquote.text = [] := hempty
    have hkeyword := Topic.read?_eq_some_iff.1 htopic
    exact Or.inr (Or.inr ⟨hlenient, ⟨rest, hkeyword, hempty⟩, by rw [hname]⟩)
  | @flag rest number htopic hflag =>
    rw [htopic] at hempty
    exact absurd hflag (readFlag_ne_ok_of_hollow hempty number)
  | @property rest filter htopic hread =>
    rw [htopic] at hempty
    exact absurd hread (PropertyFilter.read_ne_ok_of_hollow hempty filter)
  | @front rest htopic =>
    rw [htopic] at hempty
    rcases hfield hempty fun hvalue =>
        ⟨rest, hvalue, Or.inl ⟨Topic.read?_eq_some_iff.1 htopic, rfl⟩⟩ with hnone | hsome
    · exact Or.inl hnone
    · exact Or.inr (Or.inl hsome)
  | @back rest htopic =>
    rw [htopic] at hempty
    rcases hfield hempty fun hvalue =>
        ⟨rest, hvalue, Or.inr (Or.inl ⟨Topic.read?_eq_some_iff.1 htopic, rfl⟩)⟩ with hnone | hsome
    · exact Or.inl hnone
    · exact Or.inr (Or.inl hsome)
  | @field rest name value htopic hsplit hname =>
    simp only [htopic, hsplit, Option.map_some, Option.getD_some] at hempty
    rcases hfield hempty fun hvalue =>
        ⟨value, hvalue, Or.inr (Or.inr ⟨rest, Topic.read?_eq_some_iff.1 htopic, hsplit⟩)⟩ with
      hnone | hsome
    · exact Or.inl hnone
    · exact Or.inr (Or.inl hsome)
  | text htopic =>
    rw [htopic] at hempty
    rw [TextSearch.read?_eq_none_iff.2 hempty]
    exact Or.inl rfl

/-- What a clause with an empty value makes of a query: it is refused, or it leaves the query as it
is, or it asks for an empty field, or a lenient reading takes it for a state without a name. -/
theorem addClause_of_emptyValue (source : Text) (h : c.EmptyValue) (q : Query) :
    (∃ e, q.addClause strict source c = .error e) ∨ q.addClause strict source c = .ok q ∨
      (∃ name, c.EmptyField name ∧
        q.addClause strict source c = .ok (q.add (.field name []))) ∨
      strict = false ∧ c.NamelessState ∧
        q.addClause strict source c = .ok (q.add (.state c.negated [])) := by
  unfold Query.addClause Clause.constraint
  cases hmeaning : c.meaning strict with
  | error fault => exact Or.inl ⟨_, rfl⟩
  | ok found =>
    right
    rcases (meaning_eq_ok_iff.1 hmeaning).of_emptyValue h with
      rfl | ⟨name, hfield, rfl⟩ | ⟨hstrict, hstate, rfl⟩
    · exact Or.inl rfl
    · exact Or.inr (Or.inl ⟨name, hfield, rfl⟩)
    · exact Or.inr (Or.inr ⟨hstrict, hstate, rfl⟩)

/-- Only a clause about a state places a constraint about a state. -/
theorem Means.exists_state {negated : Bool} {name : Text}
    (h : Means strict c (some (.state negated name))) :
    ∃ rest, c.text = Topic.state.keyword ++ rest ∧ c.negated = negated ∧
      rest.unquote.text = name ∧ (strict = true → Text.lower name ∈ knownStates) := by
  generalize hfound : some (Constraint.state negated name) = found at h
  cases h with
  | @state rest htopic hknown =>
    obtain ⟨rfl, rfl⟩ := Constraint.state.inj (Option.some.inj hfound)
    exact ⟨rest, Topic.read?_eq_some_iff.1 htopic, rfl, rfl, hknown⟩
  | deck _ | tag _ =>
    simp only [named] at hfound
    split at hfound <;> cases hfound
  | flag _ _ | property _ _ => cases hfound
  | front _ | back _ | field _ _ _ =>
    unfold fieldConstraint at hfound
    split at hfound
    next => exact absurd (Option.map_eq_some_iff.1 hfound.symm) (by simp)
    next => cases hfound
  | text _ => exact absurd (Option.map_eq_some_iff.1 hfound.symm) (by simp)

/-- States without a name are placed by the clauses about them, in lenient readings. -/
theorem meaning_namelessState_iff {negated : Bool} :
    c.meaning strict = .ok (some (.state negated [])) ↔
      strict = false ∧ c.NamelessState ∧ c.negated = negated := by
  rw [meaning_eq_ok_iff]
  constructor
  · intro h
    rcases h.exists_state with ⟨rest, htext, hsign, hempty, hknown⟩
    have hlenient : strict = false :=
      Bool.eq_false_iff.2 fun hstrict => absurd (hknown hstrict) (by decide)
    exact ⟨hlenient, ⟨rest, htext, hempty⟩, hsign⟩
  · rintro ⟨rfl, ⟨rest, htext, hempty⟩, rfl⟩
    have hstate := @Means.state false c rest (Topic.read?_eq_some_iff.2 htext) nofun
    rw [hempty] at hstate
    exact hstate

end

end Clause

/-! ## Entries without a text -/

namespace Query

/-- A query in which no deck, no tag and no text to search for is empty, nor the name or the value
of a property. -/
structure Solid (q : Query) : Prop where
  decks : ∀ name ∈ q.decksInclude ++ q.decksExclude, name ≠ []
  tags : ∀ name ∈ q.tagsInclude ++ q.tagsExclude, name ≠ []
  texts : ∀ s ∈ q.textSearches, s.text ≠ []
  properties : ∀ f ∈ q.propertyFilters, f.property ≠ [] ∧ f.value ≠ []

theorem WellFormed.solid {q : Query} (h : q.WellFormed) : q.Solid where
  decks := h.decks
  tags := h.tags
  texts s hs := (h.texts s hs).text_ne_nil
  properties f hf := by
    rcases (h.properties f hf).name with ⟨first, rest, hname, _⟩
    exact ⟨hname ▸ List.cons_ne_nil _ _, (h.properties f hf).value_ne_nil⟩

/-- A query whose states, asked for or left out, all have names. -/
def StatesNamed (q : Query) : Prop := ∀ name ∈ q.states ++ q.statesExclude, name ≠ []

/-- Whether a query is read leniently and has a clause about a state without a name. -/
def MeetsNamelessState (dialect : Dialect) (query : Text) : Prop :=
  dialect.strict = false ∧
    ∃ clauses, Clause.split query = .ok clauses ∧ ∃ c ∈ clauses, c.NamelessState

/-- A constraint is one of a query exactly if its entry is in its bucket. -/
theorem mem_constraints_iff_entry {q : Query} {k : Constraint} :
    k ∈ q.constraints ↔ k.entry ∈ q.entries k.bucket := by
  constructor
  · intro h
    rcases mem_constraints_iff.1 h with ⟨b, e, he, rfl⟩
    cases b <;> exact he
  · exact fun h => mem_constraints_iff.2 ⟨k.bucket, k.entry, h, Bucket.constraint_entry k⟩

theorem not_statesNamed_iff {q : Query} :
    ¬q.StatesNamed ↔ ∃ negated, Constraint.state negated [] ∈ q.constraints := by
  have hstates : Constraint.state false [] ∈ q.constraints ↔ [] ∈ q.states :=
    mem_constraints_iff_entry
  have hout : Constraint.state true [] ∈ q.constraints ↔ [] ∈ q.statesExclude :=
    mem_constraints_iff_entry
  rw [Bool.exists_bool, hstates, hout]
  simp [StatesNamed]

/-- The states of a compiled query all have names, unless it is read leniently and one of its
clauses is about a state without a name. -/
theorem statesNamed_iff_of_compile {dialect : Dialect} {query : Text} {q : Query}
    (h : compile dialect query = .ok q) :
    q.StatesNamed ↔ ¬MeetsNamelessState dialect query := by
  rcases compile_eq_ok_iff.1 h with ⟨_, clauses, found, hsplit, hmeaning, rfl⟩
  -- A state of the query is one that was found, and what was found are the meanings of clauses.
  have hplaced : ∀ negated, Constraint.state negated [] ∈ (found.foldl addOption {}).constraints ↔
      ∃ c ∈ clauses, c.meaning dialect.strict = .ok (some (.state negated [])) := by
    intro negated
    have hbucket : (Constraint.state negated []).bucket ≠ .fields := by cases negated <;> decide
    have hnone : Constraint.state negated [] ∉ constraints {} := nofun
    rw [mem_constraints_foldl_iff hbucket, or_iff_right hnone, ← List.mem_map, hmeaning]
    simp
  rw [← not_iff_not, not_statesNamed_iff, not_not]
  simp only [hplaced, Clause.meaning_namelessState_iff, MeetsNamelessState, hsplit]
  constructor
  · rintro ⟨negated, c, hc, hstrict, hstate, _⟩
    exact ⟨hstrict, clauses, rfl, c, hc, hstate⟩
  · rintro ⟨hstrict, _, hclauses, c, hc, hstate⟩
    obtain rfl := Except.ok.inj hclauses
    exact ⟨c.negated, c, hc, hstrict, hstate, rfl⟩

/-- Where empty values stay.  In a compiled query no deck, tag, text to search for or property is
empty, and no state is, unless a lenient reading meets a clause about a state without a name.  Any
clause with an empty value is refused by every query or leaves it as it is, asks for an empty field,
or is about such a state. -/
theorem compile_emptyValues (dialect : Dialect) (query : Text) :
    (∀ q, compile dialect query = .ok q →
        q.Solid ∧ (q.StatesNamed ↔ ¬MeetsNamelessState dialect query)) ∧
      ∀ (source : Text) (c : Clause), c.EmptyValue → ∀ q : Query,
        (∃ e, q.addClause dialect.strict source c = .error e) ∨
          q.addClause dialect.strict source c = .ok q ∨
          (∃ name, c.EmptyField name ∧
            q.addClause dialect.strict source c = .ok (q.add (.field name []))) ∨
          dialect.strict = false ∧ c.NamelessState ∧
            q.addClause dialect.strict source c = .ok (q.add (.state c.negated [])) :=
  ⟨fun _ h => ⟨(wellFormed_of_compile h).solid, statesNamed_iff_of_compile h⟩,
    fun source _ h q => Clause.addClause_of_emptyValue source h q⟩

/-- The states of compiled queries do not all have names. -/
theorem not_forall_statesNamed :
    ¬∀ dialect query q, compile dialect query = .ok q → q.StatesNamed := by
  intro hall
  have hcompile : compile ⟨false, none⟩ "is:".toList = .ok { states := [[]] } := by decide +kernel
  exact hall _ _ _ hcompile [] List.mem_cons_self rfl

end Query

end CardQuery
