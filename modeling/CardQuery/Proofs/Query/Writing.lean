import CardQuery.Proofs.Query.Composition
import CardQuery.Proofs.Query.Quoted
import CardQuery.Proofs.Query.Strictness
import CardQuery.Proofs.Query.WellFormed
import CardQuery.Proofs.Region.Shield

/-!
# Queries in writing

Every well-formed query can be typed.  Each of its constraints is written as a clause of its own:
names, values and texts are shielded, so that nothing in them is read as part of the language, an
exact text is put between quotes, and a property filter is written as it is.  The query is written
as these clauses with a space between them.

Main results:

- `TextSearch.read?_pattern` says that a written search is read back.
- `Constraint.means_clause` says that a written constraint is what its clause means.
- `Query.compile_clauses` says that clauses with spaces between them are compiled to their
  constraints.
- `Query.compile_written` says that a written query is compiled to the query.
-/

namespace CardQuery

open Text

/-! ## Searches in writing -/

namespace TextSearch

/-- The modifiers of a search. -/
def modifiers (s : TextSearch) : Modifiers := ⟨s.isNoCombining, s.isWordBoundary⟩

/-- How the text of a search is written: an exact text between quotes, and any other shielded. -/
def body (s : TextSearch) : Text :=
  if s.isExact then Region.quote s.text
  else if s.isRegex then Modifiers.regexMark ++ shield s.text
  else shield s.text

/-- How a search is written, the field left out. -/
def pattern (s : TextSearch) : Text := s.modifiers.lead ++ s.body

/-- How a search is written. -/
def written (s : TextSearch) : Text :=
  if s.field.isEmpty then s.pattern
  else Topic.field.keyword ++ (shield s.field ++ ':' :: s.pattern)

variable {s : TextSearch}

theorem bare_body : Modifiers.Bare s.body := by
  unfold body
  split
  next => exact Modifiers.bare_quote _
  next =>
    split
    next => exact Modifiers.bare_regexMark _
    next => exact Modifiers.bare_quote _

theorem ofItems_body (h : s.WellFormed) : s.body.OfItems := by
  unfold body
  split
  next hexact => exact Region.ofItems_quote (h.exact_quotable hexact)
  next =>
    split
    next => exact (ofItems_of_plain (by decide)).append (ofItems_shield _)
    next => exact ofItems_shield _

/-- A shielded text behind modifiers is searched for as it is, stars standing for any
characters. -/
theorem read?_of_read_shield {negated : Bool} {field text t : Text} {m : Modifiers}
    (h : Modifiers.read {} text = (m, shield t)) (hne : t ≠ []) :
    read? negated field text = some
      { text := t
        field := field
        isWildcard := decide ('*' ∈ t)
        isNoCombining := m.noCombining
        isWordBoundary := m.wordBoundary
        isNegated := negated } := by
  have hregex : Text.after? Modifiers.regexMark (shield t) = none := rfl
  simp [read?, h, hregex, unquote_shield, hne]

/-- A shielded text that is marked as a regular expression is one, behind any modifiers. -/
theorem read?_of_read_regexMark {negated : Bool} {field text t : Text} {m : Modifiers}
    (h : Modifiers.read {} text = (m, Modifiers.regexMark ++ shield t)) (hne : t ≠ []) :
    read? negated field text = some
      { text := t
        field := field
        isRegex := true
        isNoCombining := m.noCombining
        isWordBoundary := m.wordBoundary
        isNegated := negated } := by
  simp [read?, h, unquote_shield, hne]

/-- A written search is read back. -/
theorem read?_pattern (h : s.WellFormed) : read? s.isNegated s.field s.pattern = some s := by
  have hread : Modifiers.read {} s.pattern = (s.modifiers, s.body) :=
    s.modifiers.read_lead bare_body
  -- The text is written in another way for each of the ways to read it.
  rcases s with ⟨text, field, isExact, isWildcard, isRegex, isNoCombining, isWordBoundary, negated⟩
  cases isExact with
  | true =>
    obtain ⟨rfl, rfl⟩ : isWildcard = false ∧ isRegex = false := h.of_exact rfl
    exact read?_of_read hread (h.exact_quotable rfl) h.text_ne_nil
  | false =>
    cases isRegex with
    | true =>
      obtain rfl : isWildcard = false := (h.of_regex rfl).2
      exact read?_of_read_regexMark hread h.text_ne_nil
    | false =>
      have hstar : isWildcard = decide ('*' ∈ text) := by
        have hiff : isWildcard = true ↔ '*' ∈ text := by simpa using h.wildcard_iff
        rw [Bool.eq_iff_iff, decide_eq_true_iff]
        exact hiff
      subst hstar
      exact read?_of_read_shield hread h.text_ne_nil

theorem ofItems_pattern (h : s.WellFormed) : s.pattern.OfItems :=
  (ofItems_of_plain s.modifiers.lead_plain).append (ofItems_body h)

/-- A written search is marked if it has a modifier or is a regular expression. -/
theorem marks_pattern (h : s.WellFormed)
    (hmarked : s.isRegex = true ∨ s.isNoCombining = true ∨ s.isWordBoundary = true) :
    Modifiers.marks s.pattern = true := by
  rcases s with ⟨text, field, isExact, isWildcard, isRegex, isNoCombining, isWordBoundary, negated⟩
  cases isNoCombining with
  | true => rfl
  | false =>
    cases isWordBoundary with
    | true => rfl
    | false =>
      -- No modifier is left, so that the mark is that of a regular expression.
      obtain rfl : isRegex = true := by simpa using hmarked
      obtain rfl : isExact = false := (h.of_regex rfl).1
      rfl

/-- A written search without a field begins with a quote or a mark. -/
theorem head_pattern (s : TextSearch) :
    ∃ c rest, s.pattern = c :: rest ∧ (c = '"' ∨ c = 'n' ∨ c = 'w' ∨ c = 'r') := by
  rcases s with ⟨text, field, isExact, isWildcard, isRegex, isNoCombining, isWordBoundary, negated⟩
  cases isNoCombining with
  | true => exact ⟨_, _, rfl, by decide⟩
  | false =>
    cases isWordBoundary with
    | true => exact ⟨_, _, rfl, by decide⟩
    | false =>
      cases isExact with
      | true => exact ⟨_, _, rfl, by decide⟩
      | false => cases isRegex <;> exact ⟨_, _, rfl, by decide⟩

/-- A written search without a field names no topic. -/
theorem topic_pattern (s : TextSearch) : Topic.read? s.pattern = none := by
  rcases s.head_pattern with ⟨c, rest, hpattern, hc⟩
  rw [hpattern]
  rcases hc with rfl | rfl | rfl | rfl <;> rfl

end TextSearch

/-! ## Constraints in writing -/

namespace Constraint

/-- The clause that a constraint is written as. -/
def clause : Constraint → Clause
  | .text search => ⟨search.isNegated, search.written⟩
  | .deck negated name => ⟨negated, Topic.deck.keyword ++ shield name⟩
  | .tag negated name => ⟨negated, Topic.tag.keyword ++ shield name⟩
  | .field name value => ⟨false, Topic.field.keyword ++ (shield name ++ ':' :: shield value)⟩
  | .state negated name => ⟨negated, Topic.state.keyword ++ shield name⟩
  | .flag negated number => ⟨negated, Topic.flag.keyword ++ Text.ofInt number⟩
  | .property filter => ⟨false, Topic.property.keyword ++ filter.written⟩

/-- The number of a flag is written in digits, and read back. -/
theorem flag_ofInt {number : Int} (h : 0 ≤ number ∧ number ≤ 7) :
    ∃ n : Nat, number = n ∧ readFlag (Text.ofInt number) = .ok n ∧
      (Text.ofInt number).OfItems := by
  have hall : ∀ n : Fin 8, readFlag (Text.ofNat n) = .ok n.val ∧
      (Text.ofNat n).Plain := by decide +kernel
  obtain ⟨n, rfl⟩ := Int.eq_ofNat_of_zero_le h.1
  have hn : n < 8 := by omega
  exact ⟨n, rfl, (hall ⟨n, hn⟩).1, ofItems_of_plain (hall ⟨n, hn⟩).2⟩

theorem ofItems_keyword_append (topic : Topic) {rest : Text} (h : rest.OfItems) :
    (topic.keyword ++ rest).OfItems :=
  (ofItems_of_plain topic.keyword_plain).append h

theorem ofItems_name_append (name : Text) {rest : Text} (h : rest.OfItems) :
    (shield name ++ ':' :: rest).OfItems := by
  have hcolon : OfItems ([':'] ++ rest) := (ofItems_of_plain (by decide)).append h
  exact (ofItems_shield name).append hcolon

/-- The clause of a constraint is made of items. -/
theorem ofItems_clause {k : Constraint} (h : k.WellFormed) : k.clause.text.OfItems := by
  cases k with
  | text search =>
    have hpattern := TextSearch.ofItems_pattern h
    simp only [clause, TextSearch.written]
    split
    next => exact hpattern
    next => exact ofItems_keyword_append .field (ofItems_name_append search.field hpattern)
  | deck negated name => exact ofItems_keyword_append .deck (ofItems_shield name)
  | tag negated name => exact ofItems_keyword_append .tag (ofItems_shield name)
  | field name value =>
    exact ofItems_keyword_append .field (ofItems_name_append name (ofItems_shield value))
  | state negated name => exact ofItems_keyword_append .state (ofItems_shield name)
  | flag negated number =>
    rcases flag_ofInt h with ⟨_, _, _, hitems⟩
    exact ofItems_keyword_append .flag hitems
  | property filter =>
    have hname := ofItems_of_plain (PropertyFilter.plain_of_identifier h.name)
    have hsymbol := ofItems_of_plain filter.comparator.symbol_plain
    exact ofItems_keyword_append .property ((hname.append hsymbol).append h.value_ofItems)

/-- The clause of a constraint begins neither like a minus sign nor like the joining word. -/
theorem head_clause (k : Constraint) :
    ∃ c rest, k.clause.text = c :: rest ∧ c ∉ ['-', 'A', 'a'] := by
  cases k with
  | text search =>
    simp only [clause, TextSearch.written]
    split
    next =>
      rcases search.head_pattern with ⟨c, rest, hpattern, hc⟩
      refine ⟨c, rest, hpattern, ?_⟩
      rcases hc with rfl | rfl | rfl | rfl <;> decide
    next => exact ⟨_, _, rfl, by decide⟩
  | deck | tag | field | state | flag | property => exact ⟨_, _, rfl, by decide⟩

theorem named_shield {kind : Text → Constraint} {name : Text} (hne : name ≠ []) :
    Clause.named kind (shield name) = some (kind name) := by
  simp [Clause.named, unquote_shield, hne]

/-- A clause about a field means what follows its shielded name asks of the field. -/
theorem means_field {strict negated : Bool} {name : Text} (hname : name ≠ []) (rest : Text) :
    Clause.Means strict ⟨negated, Topic.field.keyword ++ (shield name ++ ':' :: rest)⟩
      (fieldConstraint negated name rest) := by
  have hsplit : splitField? (shield name ++ ':' :: rest) = some (name, rest) := by
    have hcut := @splitField?_writtenAll (shields name) (fun _ => proper_of_mem_shields)
      (fun _ => ne_colon_of_mem_shields) rest
    rw [← shield, unquote_shield] at hcut
    exact hcut
  exact .field (Topic.read?_keyword .field _) hsplit hname

/-- A written constraint is what its clause means. -/
theorem means_clause {k : Constraint} (h : k.WellFormed) :
    Clause.Means false k.clause (some k) := by
  cases k with
  | text search =>
    have hread := TextSearch.read?_pattern h
    by_cases hfield : search.field = []
    · have hwritten : search.written = search.pattern := by simp [TextSearch.written, hfield]
      have hmeans : Clause.Means false ⟨search.isNegated, search.pattern⟩
          ((TextSearch.read? search.isNegated [] search.pattern).map .text) :=
        .text search.topic_pattern
      rw [← hfield, hread] at hmeans
      rw [clause, hwritten]
      exact hmeans
    · have hmarks := TextSearch.marks_pattern h (h.field_marked hfield)
      have hmeans := @means_field false search.isNegated search.field hfield search.pattern
      rw [fieldConstraint, if_pos hmarks, hread] at hmeans
      simpa [clause, TextSearch.written, hfield] using hmeans
  | deck negated name =>
    have hmeans : Clause.Means false (clause (.deck negated name)) _ :=
      .deck (Topic.read?_keyword .deck _)
    rw [named_shield h] at hmeans
    exact hmeans
  | tag negated name =>
    have hmeans : Clause.Means false (clause (.tag negated name)) _ :=
      .tag (Topic.read?_keyword .tag _)
    rw [named_shield h] at hmeans
    exact hmeans
  | field name value =>
    have hmeans := @means_field false false name h (shield value)
    have hvalue : fieldConstraint false name (shield value) = some (.field name value) := by
      have hmarks : Modifiers.marks (shield value) = false := rfl
      simp [fieldConstraint, hmarks, unquote_shield]
    rw [hvalue] at hmeans
    exact hmeans
  | state negated name =>
    have hmeans : Clause.Means false (clause (.state negated name)) _ :=
      .state (Topic.read?_keyword .state _) fun h => absurd h Bool.false_ne_true
    rw [unquote_shield] at hmeans
    exact hmeans
  | flag negated number =>
    rcases flag_ofInt h with ⟨n, rfl, hflag, _⟩
    exact .flag (Topic.read?_keyword .flag _) hflag
  | property filter =>
    have hread : PropertyFilter.read false filter.written = .ok filter := by
      rw [PropertyFilter.read_lenient, PropertyFilter.readLenient_eq_ok_iff]
      exact ⟨rfl, h.toReadable⟩
    exact .property (Topic.read?_keyword .property _) hread

end Constraint

/-! ## Queries in writing -/

namespace Query

/-- How a query is written: the clauses of its constraints with a space between them. -/
def written (q : Query) : Text :=
  List.intercalate [' '] (q.constraints.map fun k => k.clause.written)

/-- The clause of a well-formed constraint is compiled to that constraint. -/
theorem compile_clause {k : Constraint} (h : k.WellFormed) :
    compile ⟨false, none⟩ k.clause.written = .ok (add {} k) := by
  rcases k.head_clause with ⟨c, rest, htext, hc⟩
  exact compile_of_split (Clause.split_of_items _ (Constraint.ofItems_clause h) htext hc)
    (Clause.meaning_of_means (Constraint.means_clause h))

/-- Clauses with spaces between them are compiled to their constraints in order. -/
theorem compile_clauses {ks : List Constraint} (h : ∀ k ∈ ks, k.WellFormed) :
    compile ⟨false, none⟩ (List.intercalate [' '] (ks.map fun k => k.clause.written)) =
      .ok (ks.foldl add {}) := by
  induction ks with
  | nil =>
    rw [compile_eq_ok_iff]
    exact ⟨nofun, [], [], Clause.split_of_blank nofun, rfl, rfl⟩
  | cons k rest ih =>
    have hfirst := compile_clause (h k List.mem_cons_self)
    have hrest := ih fun k hk => h k (List.mem_cons_of_mem _ hk)
    cases rest with
    | nil => simpa using hfirst
    | cons k' rest =>
      have hboth := compile_append ⟨[' '], by decide, by decide⟩ hfirst hrest
      rw [← foldl_add, ← List.foldl_cons] at hboth
      simpa [List.intercalate_cons_cons] using hboth

/-- Every well-formed query can be typed: what it is written as is compiled to the query, and a
strict reading does the same if its states and properties are known. -/
theorem compile_written {q : Query} (h : q.WellFormed) :
    compile ⟨false, none⟩ q.written = .ok q ∧
      (q.Known → compile ⟨true, none⟩ q.written = .ok q) := by
  have hlenient : compile ⟨false, none⟩ q.written = .ok q := by
    have hall := compile_clauses (wellFormed_iff.1 h)
    rw [foldl_constraints] at hall
    exact hall
  exact ⟨hlenient, fun hknown => compile_strict_iff.2 ⟨hlenient, hknown⟩⟩

/-- Texts, names and values with quotes, blanks, colons, line breaks, backslashes at the end, minus
signs, stars, beginnings of other clauses, and the joining word. -/
theorem compile_written_symbols :
    ∃ q : Query,
      q =
        { textSearches :=
            [{ text := "-\"a b\"\\".toList, isNegated := true },
             { text := "*:\n*".toList, isWildcard := true, isNoCombining := true },
             { text := "re:\\".toList, isRegex := true },
             { text := "\\\\\"".toList
               field := "a:\" \\".toList
               isExact := true
               isWordBoundary := true }]
          decksInclude := ["AND".toList]
          tagsExclude := ["tag:\"x\\".toList]
          fieldSearches :=
            { entries := [("front".toList, []), (" :".toList, "w:\"\n\\".toList)]
              nodup := by decide }
          states := ["dUe".toList]
          flags := [7]
          propertyFilters := [⟨"ivl".toList, .ge, "-5.0".toList⟩] } ∧
        q.WellFormed ∧ q.Known ∧ compile ⟨false, none⟩ q.written = .ok q ∧
          compile ⟨true, none⟩ q.written = .ok q := by
  refine ⟨_, rfl, ?well, ?known, (compile_written ?well).1, (compile_written ?well).2 ?known⟩
  case well => decide +kernel
  case known => decide +kernel

end Query

end CardQuery
