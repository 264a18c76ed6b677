import CardQuery.Proofs.Clause.Means
import CardQuery.Proofs.Clause.Modifiers
import CardQuery.Proofs.Clause.Writing
import CardQuery.Proofs.Query.Compilation
import CardQuery.Proofs.Region.Quoting

/-!
# Queries of a quoted text

A text between quotes means itself: no blank, sign, star, colon or joining word in it is read as
part of the language of queries.  This holds for a quoted text by itself, for one with a minus sign
and for one behind the beginning of a clause.

Main results:

- `split_quoted` says that the query of a quoted text is a single clause.
- `compile_quoted` says what a quoted text is compiled to by itself and behind each beginning.
-/

namespace CardQuery

open Region

/-! ## Beginnings of clauses -/

namespace Topic

theorem read?_quote (t : Text) : read? (quote t) = none := rfl

end Topic

/-! ## Modifiers before a quoted text -/

namespace Modifiers

theorem read_quote (m : Modifiers) (t : Text) : m.read (quote t) = (m, quote t) :=
  read_of_bare m (bare_quote _)

theorem read_regexMark (m : Modifiers) (t : Text) :
    m.read (regexMark ++ t) = (m, regexMark ++ t) :=
  read_of_bare m (bare_regexMark t)

/-- The beginning for combining marks is the only modifier before a quoted text. -/
theorem read_noCombiningMark_quote (t : Text) :
    read {} (noCombiningMark ++ quote t) = ({ noCombining := true }, quote t) := by
  rw [read_noCombiningMark rfl, read_quote]

/-- The beginning for word boundaries is the only modifier before a quoted text. -/
theorem read_wordMark_quote (t : Text) :
    read {} (wordMark ++ quote t) = ({ wordBoundary := true }, quote t) := by
  rw [read_wordMark rfl, read_quote]

theorem marks_quote (t : Text) : marks (quote t) = false := rfl

end Modifiers

namespace TextSearch

/-- A quoted text behind modifiers is searched for exactly, with these modifiers only. -/
theorem read?_of_read {negated : Bool} {field text t : Text} {m : Modifiers}
    (h : Modifiers.read {} text = (m, quote t)) (ht : t.Quotable) (hne : t ≠ []) :
    read? negated field text = some
      { text := t
        field := field
        isExact := true
        isNoCombining := m.noCombining
        isWordBoundary := m.wordBoundary
        isNegated := negated } := by
  have hregex : Text.after? Modifiers.regexMark (quote t) = none := by
    simp [Modifiers.regexMark, quote, Text.after?]
  simp [read?, h, hregex, unquote_quote ht, hne]

/-- A quoted text that is marked as a regular expression is one, without modifiers. -/
theorem read?_regexMark_quote {t : Text} (negated : Bool) (field : Text) (ht : t.Quotable)
    (hne : t ≠ []) :
    read? negated field (Modifiers.regexMark ++ quote t) =
      some { text := t, field := field, isRegex := true, isNegated := negated } := by
  simp [read?, Modifiers.read_regexMark, unquote_quote ht, hne]

end TextSearch

/-- A quoted text behind the name of a field is the value that the field has to contain. -/
theorem fieldConstraint_quote {t : Text} (negated : Bool) (field : Text) (ht : t.Quotable) :
    fieldConstraint negated field (quote t) = some (.field field t) := by
  simp [fieldConstraint, Modifiers.marks_quote, unquote_quote ht]

/-! ## What a quoted text asks for -/

/-- The beginnings that can stand before a quoted text and leave it to mean itself. -/
inductive Opening
  | phrase
  | deck
  | tag
  | state
  | front
  | back
  | regex
  | noCombining
  | word
deriving DecidableEq, Repr

namespace Opening

/-- How a beginning is written. -/
def lead : Opening → Text
  | phrase => []
  | deck => Topic.deck.keyword
  | tag => Topic.tag.keyword
  | state => Topic.state.keyword
  | front => Topic.front.keyword
  | back => Topic.back.keyword
  | regex => Modifiers.regexMark
  | noCombining => Modifiers.noCombiningMark
  | word => Modifiers.wordMark

/-- What a quoted text behind a beginning asks of a card. -/
def constraint (negated : Bool) (t : Text) : Opening → Constraint
  | phrase => .text { text := t, isExact := true, isNegated := negated }
  | deck => .deck negated t
  | tag => .tag negated t
  | state => .state negated t
  | front => .field "front".toList t
  | back => .field "back".toList t
  | regex => .text { text := t, isRegex := true, isNegated := negated }
  | noCombining => .text { text := t, isExact := true, isNoCombining := true, isNegated := negated }
  | word => .text { text := t, isExact := true, isWordBoundary := true, isNegated := negated }

/-- A beginning has no quote and no blank and does not look like a minus sign. -/
theorem lead_plain (o : Opening) :
    o.lead.head? ≠ some '-' ∧ o.lead.Plain := by
  cases o <;> decide +kernel

/-- A clause of a beginning and a quoted text places the constraint of the beginning.  A strict
reading knows the quoted text if it stands for a state. -/
theorem meaning_quote {strict : Bool} {t : Text} (o : Opening) (negated : Bool)
    (ht : t.Quotable) (hne : t ≠ [])
    (hstate : o = state → strict = true → isKnownState t = true) :
    Clause.meaning strict ⟨negated, o.lead ++ quote t⟩ = .ok (some (o.constraint negated t)) := by
  have hvalue : (quote t).unquote = ⟨t, true⟩ := unquote_quote ht
  cases o with
  | phrase =>
    have hsearch := @TextSearch.read?_of_read negated [] _ _ _ (Modifiers.read_quote {} t) ht hne
    rw [lead, List.nil_append, Clause.meaning, Topic.read?_quote]
    simp [hsearch, constraint]
  | deck => simp [Clause.meaning, lead, Topic.read?_keyword, Clause.named, hvalue, hne, constraint]
  | tag => simp [Clause.meaning, lead, Topic.read?_keyword, Clause.named, hvalue, hne, constraint]
  | state =>
    have hknown : (strict && !isKnownState t) = false := by
      cases strict with
      | false => rfl
      | true => simp [hstate rfl rfl]
    simp [Clause.meaning, lead, Topic.read?_keyword, hvalue, hknown, constraint]
  | front =>
    simp [Clause.meaning, lead, Topic.read?_keyword, fieldConstraint_quote _ _ ht, constraint]
  | back =>
    simp [Clause.meaning, lead, Topic.read?_keyword, fieldConstraint_quote _ _ ht, constraint]
  | regex =>
    have htopic := @Topic.read?_mark Modifiers.regexMark (by simp) (quote t)
    simp [Clause.meaning, lead, htopic, TextSearch.read?_regexMark_quote _ _ ht hne, constraint]
  | noCombining =>
    have htopic := @Topic.read?_mark Modifiers.noCombiningMark (by simp) (quote t)
    have hsearch :=
      @TextSearch.read?_of_read negated [] _ _ _ (Modifiers.read_noCombiningMark_quote t) ht hne
    simp [Clause.meaning, lead, htopic, hsearch, constraint]
  | word =>
    have htopic := @Topic.read?_mark Modifiers.wordMark (by simp) (quote t)
    have hsearch :=
      @TextSearch.read?_of_read negated [] _ _ _ (Modifiers.read_wordMark_quote t) ht hne
    simp [Clause.meaning, lead, htopic, hsearch, constraint]

end Opening

/-! ## Queries -/

namespace Clause

/-- A quoted text behind a sign and a beginning without quotes and blanks is a single clause. -/
theorem split_quoted {lead t : Text} (negated : Bool) (hhead : lead.head? ≠ some '-')
    (hplain : lead.Plain) (ht : t.Quotable) :
    split (written ⟨negated, lead ++ quote t⟩) = .ok [⟨negated, lead ++ quote t⟩] := by
  have hbody : Body (lead ++ quote t) := by
    refine ⟨(Text.ofItems_of_plain hplain).append (ofItems_quote ht), by simp [quote], ?_⟩
    cases lead with
    | nil => simp [quote]
    | cons c lead => exact hhead
  -- A clause with a quote in it is not the joining word.
  have hjoins : ¬Joins ⟨negated, lead ++ quote t⟩ := fun h =>
    (h.2.plain '"' (by simp [quote])).2.1 rfl
  exact split_of_writable ⟨hbody, hjoins⟩

end Clause

namespace Query

/-- A quoted text behind a sign and a beginning is compiled to the constraint of the beginning. -/
theorem compile_opening {strict : Bool} {t : Text} (o : Opening) (negated : Bool)
    (ht : t.Quotable) (hne : t ≠ [])
    (hstate : o = .state → strict = true → isKnownState t = true) :
    compile ⟨strict, none⟩ (Clause.written ⟨negated, o.lead ++ quote t⟩) =
      .ok (add {} (o.constraint negated t)) :=
  compile_of_split (Clause.split_quoted negated o.lead_plain.1 o.lead_plain.2 ht)
    (o.meaning_quote negated ht hne hstate)

/-- A quoted text means itself, whatever it contains: by itself and with a minus sign it is one
exact search, behind the beginning of a deck, a tag or a state it is the name and nothing else,
behind that of a field side it is the value asked of that side, behind that of a regular expression
it is the expression, and behind a modifier it is an exact search with that modifier only. -/
theorem compile_quoted {t : Text} (ht : t.Quotable) (hne : t ≠ []) (strict : Bool) :
    compile ⟨strict, none⟩ (quote t) =
        .ok { textSearches := [{ text := t, isExact := true }] } ∧
      compile ⟨strict, none⟩ ('-' :: quote t) =
        .ok { textSearches := [{ text := t, isExact := true, isNegated := true }] } ∧
      compile ⟨strict, none⟩ ("deck:".toList ++ quote t) = .ok { decksInclude := [t] } ∧
      compile ⟨strict, none⟩ ("tag:".toList ++ quote t) = .ok { tagsInclude := [t] } ∧
      compile ⟨false, none⟩ ("is:".toList ++ quote t) = .ok { states := [t] } ∧
      compile ⟨strict, none⟩ ("front:".toList ++ quote t) =
        .ok { fieldSearches := { entries := [("front".toList, t)] } } ∧
      compile ⟨strict, none⟩ ("back:".toList ++ quote t) =
        .ok { fieldSearches := { entries := [("back".toList, t)] } } ∧
      compile ⟨strict, none⟩ ("re:".toList ++ quote t) =
        .ok { textSearches := [{ text := t, isRegex := true }] } ∧
      compile ⟨strict, none⟩ ("nc:".toList ++ quote t) =
        .ok { textSearches := [{ text := t, isExact := true, isNoCombining := true }] } ∧
      compile ⟨strict, none⟩ ("w:".toList ++ quote t) =
        .ok { textSearches := [{ text := t, isExact := true, isWordBoundary := true }] } := by
  have hplain : ∀ o : Opening, o ≠ .state → ∀ negated,
      compile ⟨strict, none⟩ (Clause.written ⟨negated, o.lead ++ quote t⟩) =
        .ok (add {} (o.constraint negated t)) :=
    fun o ho negated => compile_opening o negated ht hne fun hstate => absurd hstate ho
  refine ⟨?_, ?_, ?_, ?_, ?_, ?_, ?_, ?_, ?_, ?_⟩
  · exact hplain .phrase (by decide) false
  · exact hplain .phrase (by decide) true
  · exact hplain .deck (by decide) false
  · exact hplain .tag (by decide) false
  · exact compile_opening .state false ht hne nofun
  · exact hplain .front (by decide) false
  · exact hplain .back (by decide) false
  · exact hplain .regex (by decide) false
  · exact hplain .noCombining (by decide) false
  · exact hplain .word (by decide) false

/-- A text with a minus sign, blanks, a beginning, a star, the joining word, a line break, double
quotes and runs of backslashes, as a phrase and behind a modifier. -/
theorem compile_quoted_syntax :
    compile ⟨true, none⟩ (quote "-a \"deck:b* AND c\\\\\"\n\\d\\\\".toList) =
        .ok
          { textSearches :=
              [{ text := "-a \"deck:b* AND c\\\\\"\n\\d\\\\".toList, isExact := true }] } ∧
      compile ⟨true, none⟩ ("w:".toList ++ quote "-a \"deck:b* AND c\\\\\"\n\\d\\\\".toList) =
        .ok
          { textSearches :=
              [{ text := "-a \"deck:b* AND c\\\\\"\n\\d\\\\".toList
                 isExact := true
                 isWordBoundary := true }] } := by
  have hall := @compile_quoted "-a \"deck:b* AND c\\\\\"\n\\d\\\\".toList (by decide +kernel)
    (by decide +kernel) true
  rcases hall with ⟨hphrase, _, _, _, _, _, _, _, _, hword⟩
  exact ⟨hphrase, hword⟩

end Query

end CardQuery
