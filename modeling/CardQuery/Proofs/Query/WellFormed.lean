import CardQuery.Proofs.Clause.FieldName
import CardQuery.Proofs.Clause.Means
import CardQuery.Proofs.Clause.Modifiers
import CardQuery.Proofs.Clause.Writing
import CardQuery.Proofs.Property.Reading
import CardQuery.Proofs.Query.Compilation
import CardQuery.Proofs.Query.Constraints
import CardQuery.Proofs.Text.Numeral

/-!
# Well-formed queries

What can be relied on in every query that was compiled.  Each kind of constraint has its own
conditions; they hold of the constraint of any clause that is made of items, whatever the clause
is about, and so they hold of all entries of a compiled query.

Main results:

- `TextSearch.wellFormed_of_read?` and `PropertyFilter.wellFormed_of_read` say that what is read
  from a text of items is well-formed.
- `Clause.wellFormed_of_means` says that a clause of items places a well-formed constraint.
- `Query.wellFormed_iff` says that a query is well-formed if each of its constraints is.
- `Query.hasNumerals_of_compile` says that the flags of a compiled query can be written.
- `Query.wellFormed_of_compile` says that every compiled query is well-formed.
-/

namespace CardQuery

/-! ## Well-formed constraints -/

/-- What can be relied on in a search for a text. -/
structure TextSearch.WellFormed (s : TextSearch) : Prop where
  text_ne_nil : s.text ≠ []
  /-- The text is read in one way at most. -/
  one_kind : [s.isExact, s.isWildcard, s.isRegex].count true ≤ 1
  wildcard_iff : s.isWildcard = true ↔ s.isExact = false ∧ s.isRegex = false ∧ '*' ∈ s.text
  exact_quotable : s.isExact = true → s.text.Quotable
  /-- Without a regular expression and modifiers a field is not searched but compared. -/
  field_marked : s.field ≠ [] →
    s.isRegex = true ∨ s.isNoCombining = true ∨ s.isWordBoundary = true

instance : DecidablePred TextSearch.WellFormed := fun s =>
  decidable_of_iff (s.text ≠ [] ∧ [s.isExact, s.isWildcard, s.isRegex].count true ≤ 1 ∧
      (s.isWildcard = true ↔ s.isExact = false ∧ s.isRegex = false ∧ '*' ∈ s.text) ∧
      (s.isExact = true → s.text.Quotable) ∧
      (s.field ≠ [] → s.isRegex = true ∨ s.isNoCombining = true ∨ s.isWordBoundary = true))
    ⟨fun ⟨hne, hkind, hstar, hexact, hfield⟩ => ⟨hne, hkind, hstar, hexact, hfield⟩,
      fun h => ⟨h.text_ne_nil, h.one_kind, h.wildcard_iff, h.exact_quotable, h.field_marked⟩⟩

/-- An exact text is neither a pattern with stars nor a regular expression. -/
theorem TextSearch.WellFormed.of_exact {s : TextSearch} (h : s.WellFormed)
    (hexact : s.isExact = true) : s.isWildcard = false ∧ s.isRegex = false := by
  have hkind := h.one_kind
  rw [hexact] at hkind
  revert hkind
  cases s.isWildcard <;> cases s.isRegex <;> decide

/-- A regular expression is neither an exact text nor a pattern with stars. -/
theorem TextSearch.WellFormed.of_regex {s : TextSearch} (h : s.WellFormed)
    (hregex : s.isRegex = true) : s.isExact = false ∧ s.isWildcard = false := by
  have hkind := h.one_kind
  rw [hregex] at hkind
  revert hkind
  cases s.isExact <;> cases s.isWildcard <;> decide

/-- What can be relied on in a comparison of a property: the name is an identifier, and the value
is a text of items that is not empty and does not begin with a character of a comparator. -/
structure PropertyFilter.WellFormed (f : PropertyFilter) : Prop extends f.Readable where
  value_ofItems : f.value.OfItems

instance : DecidablePred PropertyFilter.WellFormed := fun f =>
  decidable_of_iff (f.Readable ∧ f.value.OfItems)
    ⟨fun ⟨hreadable, hitems⟩ => ⟨hreadable, hitems⟩, fun h => ⟨h.toReadable, h.value_ofItems⟩⟩

/-- What can be relied on in a constraint. -/
def Constraint.WellFormed : Constraint → Prop
  | .text search => search.WellFormed
  | .deck _ name | .tag _ name => name ≠ []
  | .field name _ => name ≠ []
  | .state _ _ => True
  | .flag _ number => 0 ≤ number ∧ number ≤ 7
  | .property filter => filter.WellFormed

instance : DecidablePred Constraint.WellFormed
  | .text search => inferInstanceAs (Decidable search.WellFormed)
  | .deck _ name | .tag _ name => inferInstanceAs (Decidable (name ≠ []))
  | .field name _ => inferInstanceAs (Decidable (name ≠ []))
  | .state _ _ => inferInstanceAs (Decidable True)
  | .flag _ number => inferInstanceAs (Decidable (0 ≤ number ∧ number ≤ 7))
  | .property filter => inferInstanceAs (Decidable filter.WellFormed)

/-! ## What is read from a text of items -/

/-- A search that is read from a text of items is well-formed, in a field if the text is marked. -/
theorem TextSearch.wellFormed_of_read? {negated : Bool} {field text : Text} {s : TextSearch}
    (h : read? negated field text = some s) (htext : text.OfItems)
    (hfield : field ≠ [] → Modifiers.marks text = true) : s.WellFormed := by
  rcases hread : Modifiers.read {} text with ⟨m, body⟩
  have hbody : body.OfItems := by
    rcases Modifiers.exists_lead_of_read {} text with ⟨before, hbefore, hplain⟩
    rw [hbefore, hread] at htext
    exact htext.of_append hplain
  simp only [read?, hread] at h
  split at h
  next pattern hpattern =>
    split at h
    next => cases h
    next hne =>
      rw [← Option.some.inj h]
      exact
        { text_ne_nil := by simpa using hne
          one_kind := by simp
          wildcard_iff := by simp
          exact_quotable := nofun
          field_marked := fun _ => Or.inl rfl }
  next hpattern =>
    split at h
    next => cases h
    next hne =>
      rw [← Option.some.inj h]
      refine
        { text_ne_nil := by simpa using hne
          one_kind := ?_
          wildcard_iff := by simp
          exact_quotable := Text.quotable_of_quoted hbody
          field_marked := ?_ }
      · have hkinds : ∀ quoted star : Bool, [quoted, !quoted && star, false].count true ≤ 1 := by
          decide
        exact hkinds _ _
      · intro hfieldne
        have hmarked := Modifiers.marked_of_marks (hfield hfieldne)
        rw [hread] at hmarked
        rcases hmarked with ⟨pattern, hregex⟩ | hset
        · rw [hpattern] at hregex
          cases hregex
        · exact Or.inr hset

/-- A filter that is read from a text of items is well-formed. -/
theorem PropertyFilter.wellFormed_of_read {strict : Bool} {expression : Text} {f : PropertyFilter}
    (h : read strict expression = .ok f) (htext : expression.OfItems) : f.WellFormed := by
  have hlenient : readLenient expression = .ok f := by
    rw [← read_lenient]
    cases strict with
    | false => exact h
    | true => exact (read_strict_iff.1 h).1
  rcases readLenient_eq_ok_iff.1 hlenient with ⟨rfl, hreadable⟩
  have hname := plain_of_identifier hreadable.name
  exact ⟨hreadable, htext.of_append (hname.append f.comparator.symbol_plain)⟩

/-- A flag that is read is one of the eight. -/
theorem le_of_readFlag {value : Text} {number : Nat} (h : readFlag value = .ok number) :
    number ≤ 7 := by
  unfold readFlag at h
  split at h
  next => cases h
  next =>
    split at h
    next => cases h
    next =>
      simp only at h
      split at h
      next => cases h
      next hle =>
        rw [← Except.ok.inj h]
        exact Nat.le_of_not_lt hle

/-! ## What clauses of items ask for -/

/-- The keyword of a topic has neither quotes nor blanks. -/
theorem Topic.keyword_plain (topic : Topic) : topic.keyword.Plain := by
  cases topic <;> decide

theorem Topic.ofItems_of_read? {text rest : Text} {topic : Topic}
    (h : read? text = some (topic, rest)) (htext : text.OfItems) : rest.OfItems := by
  rw [read?_eq_some_iff.1 h] at htext
  exact htext.of_append topic.keyword_plain

/-- The value behind the name of a field is made of items as well. -/
theorem ofItems_of_splitField? {text name value : Text}
    (h : splitField? text = some (name, value)) (htext : text.OfItems) : value.OfItems := by
  rcases exists_name_of_splitField? h with ⟨ps, hproper, rfl, _⟩
  have hcolon : Text.OfItems ([':'] ++ value) := ((Text.ofItems_append_iff hproper).1 htext).2
  exact hcolon.of_append (by decide)

namespace Clause

theorem wellFormed_of_mem_named {kind : Text → Constraint}
    (hkind : ∀ t, t ≠ [] → (kind t).WellFormed) {text : Text} {k : Constraint}
    (h : k ∈ named kind text) : k.WellFormed := by
  simp only [named] at h
  split at h
  next => cases h
  next hne =>
    rw [← Option.some.inj h]
    exact hkind _ (by simpa using hne)

theorem wellFormed_of_mem_fieldConstraint {negated : Bool} {field text : Text} {k : Constraint}
    (h : k ∈ fieldConstraint negated field text) (hfield : field ≠ []) (htext : text.OfItems) :
    k.WellFormed := by
  unfold fieldConstraint at h
  split at h
  next hmarks =>
    rcases Option.map_eq_some_iff.1 h with ⟨search, hsearch, rfl⟩
    exact TextSearch.wellFormed_of_read? hsearch htext fun _ => hmarks
  next =>
    rw [← Option.some.inj h]
    exact hfield

/-- A clause of items places a well-formed constraint, if it places one. -/
theorem wellFormed_of_means {strict : Bool} {c : Clause} {found : Option Constraint}
    (h : Means strict c found) (htext : c.text.OfItems) : ∀ k ∈ found, k.WellFormed := by
  cases h with
  | deck _ =>
    intro k hk
    exact @wellFormed_of_mem_named (.deck c.negated) (fun _ => id) _ k hk
  | tag _ =>
    intro k hk
    exact @wellFormed_of_mem_named (.tag c.negated) (fun _ => id) _ k hk
  | state _ _ =>
    intro k hk
    rw [← Option.some.inj hk]
    trivial
  | @flag _ number _ hflag =>
    intro k hk
    rw [← Option.some.inj hk]
    have hle := le_of_readFlag hflag
    constructor <;> omega
  | @property _ filter htopic hread =>
    intro k hk
    have hfilter := PropertyFilter.wellFormed_of_read hread (Topic.ofItems_of_read? htopic htext)
    rw [← Option.some.inj hk]
    cases c.negated with
    | false => exact hfilter
    | true => exact ⟨⟨hfilter.name, hfilter.value_ne_nil, hfilter.value_head⟩, hfilter.value_ofItems⟩
  | front htopic =>
    intro k hk
    exact wellFormed_of_mem_fieldConstraint hk (by decide) (Topic.ofItems_of_read? htopic htext)
  | back htopic =>
    intro k hk
    exact wellFormed_of_mem_fieldConstraint hk (by decide) (Topic.ofItems_of_read? htopic htext)
  | field htopic hsplit hname =>
    intro k hk
    have hvalue := ofItems_of_splitField? hsplit (Topic.ofItems_of_read? htopic htext)
    exact wellFormed_of_mem_fieldConstraint hk hname hvalue
  | text _ =>
    intro k hk
    rcases Option.map_eq_some_iff.1 hk with ⟨search, hsearch, rfl⟩
    exact TextSearch.wellFormed_of_read? hsearch htext fun hne => absurd rfl hne

end Clause

/-! ## Well-formed queries -/

namespace Query

/-- What can be relied on in a compiled query. -/
structure WellFormed (q : Query) : Prop where
  texts : ∀ s ∈ q.textSearches, s.WellFormed
  decks : ∀ name ∈ q.decksInclude ++ q.decksExclude, name ≠ []
  tags : ∀ name ∈ q.tagsInclude ++ q.tagsExclude, name ≠ []
  fields : ∀ name ∈ q.fieldSearches.names, name ≠ []
  fields_nodup : q.fieldSearches.names.Nodup
  flags : ∀ number ∈ q.flags ++ q.flagsExclude, 0 ≤ number ∧ number ≤ 7
  properties : ∀ f ∈ q.propertyFilters, f.WellFormed

/-- A query is well-formed exactly if each of its constraints is. -/
theorem wellFormed_iff {q : Query} : q.WellFormed ↔ ∀ k ∈ q.constraints, k.WellFormed := by
  rw [forall_constraints_iff]
  constructor
  · intro h b e he
    cases b with
    | texts => exact h.texts e he
    | decks => exact h.decks e (List.mem_append_left _ he)
    | decksLeftOut => exact h.decks e (List.mem_append_right _ he)
    | tags => exact h.tags e (List.mem_append_left _ he)
    | tagsLeftOut => exact h.tags e (List.mem_append_right _ he)
    | fields => exact h.fields e.1 (List.mem_map_of_mem he)
    | states | statesLeftOut => trivial
    | flags => exact h.flags e (List.mem_append_left _ he)
    | flagsLeftOut => exact h.flags e (List.mem_append_right _ he)
    | properties => exact h.properties e he
  · intro h
    refine
      { texts := h .texts
        decks := ?_
        tags := ?_
        fields := ?_
        fields_nodup := q.fieldSearches.nodup
        flags := ?_
        properties := h .properties }
    · exact fun name hname => (List.mem_append.1 hname).elim (h .decks name) (h .decksLeftOut name)
    · exact fun name hname => (List.mem_append.1 hname).elim (h .tags name) (h .tagsLeftOut name)
    · intro name hname
      rcases List.mem_map.1 hname with ⟨e, he, rfl⟩
      exact h .fields e he
    · exact fun n hn => (List.mem_append.1 hn).elim (h .flags n) (h .flagsLeftOut n)

instance : DecidablePred WellFormed := fun _ => decidable_of_iff _ wellFormed_iff.symm

section

variable {dialect : Dialect} {query : Text} {q : Query}

/-- The constraints of a compiled query are those of its clauses, and well-formed. -/
theorem wellFormed_of_mem_constraints (h : compile dialect query = .ok q) :
    ∀ k ∈ q.constraints, k.WellFormed := by
  rcases compile_eq_ok_iff.1 h with ⟨_, clauses, found, hsplit, hmeaning, rfl⟩
  intro k hk
  rcases mem_constraints_of_mem_foldl hk with hnone | hsome
  · cases hnone
  · have hmem : Except.ok (some k) ∈ clauses.map (Clause.meaning dialect.strict) := by
      rw [hmeaning]
      exact List.mem_map_of_mem hsome
    rcases List.mem_map.1 hmem with ⟨c, hc, hmeans⟩
    exact Clause.wellFormed_of_means (Clause.meaning_eq_ok_iff.1 hmeans)
      (Clause.writable_of_mem_split hsplit hc).body.ofItems k rfl

/-- The flags of a compiled query can be written. -/
theorem hasNumerals_of_compile (h : compile dialect query = .ok q) : q.HasNumerals := by
  intro flag hflag
  have hbounds := (wellFormed_iff.2 (wellFormed_of_mem_constraints h)).flags flag hflag
  exact Text.hasNumeral_of_lt_ten (by omega)

/-- Every compiled query is well-formed, whatever was typed and however it was read. -/
theorem wellFormed_of_compile (h : compile dialect query = .ok q) : q.WellFormed :=
  wellFormed_iff.2 (wellFormed_of_mem_constraints h)

end

/-- A deck whose name begins with a blank, modified searches in and out of a field, a value of
that field, a star, and a comparison with a quoted value the other way round. -/
theorem wellFormed_of_compile_mixed :
    ∃ q, compile ⟨false, none⟩
        "deck:\" \"a nc:re:x* front:w:\"y\" front:\"z\" -foo* -flag:2 -prop:ivl>=\"5 \"".toList =
        .ok q ∧ q.WellFormed := by
  have hcompile : compile ⟨false, none⟩
      "deck:\" \"a nc:re:x* front:w:\"y\" front:\"z\" -foo* -flag:2 -prop:ivl>=\"5 \"".toList =
      .ok
        { textSearches :=
            [{ text := "x*".toList, isRegex := true, isNoCombining := true },
             { text := "y".toList
               field := "front".toList
               isExact := true
               isWordBoundary := true },
             { text := "foo*".toList, isWildcard := true, isNegated := true }]
          decksInclude := [" a".toList]
          fieldSearches := { entries := [("front".toList, "z".toList)] }
          flagsExclude := [2]
          propertyFilters := [⟨"ivl".toList, .lt, "\"5 \"".toList⟩] } := by
    decide +kernel
  exact ⟨_, hcompile, wellFormed_of_compile hcompile⟩

end Query

end CardQuery
