import CardQuery.Proofs.Clause.FieldScope
import CardQuery.Proofs.Clause.Search
import Mathlib.Data.List.Forall2

/-!
# Values that are taken from clauses

While a clause is read, the value is taken of what stands behind its keyword and its modifiers, and
of the name of its field.  The quotes of a query are closed along its clauses, and a clause is cut
outside of its quoted regions only, so every text whose value is taken is made of closed regions and
of characters other than quotes.  No quote is passed over in such a text, no character is lost, and
a backslash is left out only if it protects a quote.

The reading of a clause is written down as a computation that notes each text whose value it takes.

Main results:

- `Region.standsFor_iff` says that leaving out backslashes goes by the pairs of a region.
- `Text.ReadAs.sound` says what the value of a text is that is read as pieces to its end.
- `Clause.noting_run` says which texts are noted, and that noting them changes nothing.
- `Clause.sound_of_noted` says that no character of a value is lost.
-/

namespace CardQuery

/-! ## What pieces stand for -/

namespace Region

/-- What the text between two quotes stands for.  A backslash before a quote stands with it for the
quote.  Every other backslash stands with the character behind it, and both stay; every other
character stands for itself. -/
inductive StandsFor : Text → Text → Prop
  | nil : StandsFor [] []
  | quote {t v : Text} : StandsFor t v → StandsFor ('\\' :: '"' :: t) ('"' :: v)
  | pair {c : Char} {t v : Text} : c ≠ '"' → c ≠ '\n' → StandsFor t v →
      StandsFor ('\\' :: c :: t) ('\\' :: c :: v)
  | single {c : Char} {t v : Text} : c ≠ '"' → c ≠ '\\' → StandsFor t v →
      StandsFor (c :: t) (c :: v)

/-- A backslash and a character other than a quote both stay, also if a quote comes next, since that
quote would have closed the region. -/
theorem unescape_pair {c : Char} (hquote : c ≠ '"') {t : Text} (ht : Inner t) :
    unescape ('\\' :: c :: t) = '\\' :: c :: unescape t := by
  have htail : unescape (c :: t) = c :: unescape t := by
    rw [unescape]
    rintro rest rfl rfl
    exact ht.ne_quote_cons rfl
  rw [unescape, htail]
  intro rest _ hpair
  exact hquote (List.cons.inj hpair).1

theorem unescape_single {c : Char} (hslash : c ≠ '\\') (t : Text) :
    unescape (c :: t) = c :: unescape t := by
  rw [unescape]
  rintro rest rfl
  exact absurd rfl hslash

/-- Leaving out the backslash before every quote goes by the pairs that a region is made of. -/
theorem standsFor_iff {t v : Text} : StandsFor t v ↔ Inner t ∧ unescape t = v := by
  constructor
  · intro h
    induction h with
    | nil => exact ⟨.nil, rfl⟩
    | quote _ ih => exact ⟨.pair (by decide) ih.1, by rw [unescape, ih.2]⟩
    | pair hquote hbreak _ ih =>
      exact ⟨.pair hbreak ih.1, by rw [unescape_pair hquote ih.1, ih.2]⟩
    | single hquote hslash _ ih =>
      exact ⟨.single hquote hslash ih.1, by rw [unescape_single hslash, ih.2]⟩
  · rintro ⟨hinner, rfl⟩
    induction hinner with
    | nil => exact .nil
    | @pair c t hbreak ht ih =>
      by_cases hquote : c = '"'
      · subst hquote
        exact .quote ih
      · rw [unescape_pair hquote ht]
        exact .pair hquote hbreak ih
    | single hquote hslash _ ih =>
      rw [unescape_single hslash]
      exact .single hquote hslash ih

end Region

/-- What a piece stands for: a character other than a quote for itself, and a closed region for what
the text between its quotes stands for. -/
inductive Piece.StandsFor : Piece → Text → Prop
  | char {c : Char} : c ≠ '"' → StandsFor (.char c) [c]
  | region {inner v : Text} : Region.StandsFor inner v → StandsFor (.region inner) v

theorem Piece.standsFor_content {p : Piece} (h : p.Proper) : p.StandsFor p.content := by
  cases p with
  | char c => exact .char h
  | region inner => exact .region (Region.standsFor_iff.2 ⟨h, rfl⟩)

/-! ## What texts of pieces stand for -/

namespace Text

/-- What is known of the value of a text that is made of closed regions and of characters other than
quotes. -/
structure Sound (t : Text) (ps : List Piece) : Prop where
  read : t.ReadAs ps
  /-- The text is read in no other way. -/
  only : ∀ qs, t.ReadAs qs → qs = ps
  /-- The value is what the pieces stand for, in order. -/
  value : ∃ vs, List.Forall₂ Piece.StandsFor ps vs ∧ t.unquote.text = vs.flatten
  /-- The value counts as quoted exactly if the text is a single region. -/
  quoted_iff : t.unquote.quoted = true ↔ ∃ inner, ps = [.region inner]

namespace ReadAs

variable {t u : Text} {ps qs : List Piece}

theorem unique (h : t.ReadAs ps) (h' : t.ReadAs qs) : qs = ps := by
  have hread := Piece.pieces_writtenAll h'.proper
  rw [← h'.written, h.written, Piece.pieces_writtenAll h.proper] at hread
  exact (Prod.mk.inj hread).1.symm

theorem unquote_text (h : t.ReadAs ps) : t.unquote.text = ps.flatMap Piece.content := by
  rw [h.written, unquote_text_writtenAll h.proper]

/-- A text that is read as pieces to its end stands for what its pieces stand for. -/
theorem sound (h : t.ReadAs ps) : t.Sound ps where
  read := h
  only _ h' := h.unique h'
  value := by
    refine ⟨ps.map Piece.content, ?_, h.unquote_text⟩
    rw [List.forall₂_map_right_iff, List.forall₂_same]
    exact fun p hp => Piece.standsFor_content (h.proper p hp)
  quoted_iff := by
    rw [h.written]
    exact unquote_quoted_iff h.proper

/-- Pieces of one text and pieces of another one are the pieces of both together. -/
theorem append (h : t.ReadAs ps) (h' : u.ReadAs qs) : (t ++ u).ReadAs (ps ++ qs) where
  proper p hp := (List.mem_append.1 hp).elim (h.proper p) (h'.proper p)
  written := by rw [Piece.writtenAll_append, h.written, h'.written]

/-- The value of two texts together is put together from their values. -/
theorem unquote_text_append (h : t.ReadAs ps) (h' : u.ReadAs qs) :
    (t ++ u).unquote.text = t.unquote.text ++ u.unquote.text := by
  rw [(h.append h').unquote_text, List.flatMap_append, h.unquote_text, h'.unquote_text]

end ReadAs

theorem OfItems.exists_readAs {t : Text} (h : t.OfItems) : ∃ ps, t.ReadAs ps := by
  rcases h with ⟨ps, hitems, rfl⟩
  exact ⟨ps, fun p hp => (hitems p hp).proper, rfl⟩

end Text

/-! ## Noting the texts whose values are taken -/

/-- A computation that notes each text whose value it takes. -/
abbrev Noting := StateM (List Text)

/-- The value of a text, which is noted. -/
def Noting.valueOf (t : Text) : Noting Unquoted := do
  modify fun noted => noted ++ [t]
  return t.unquote

open Noting (valueOf)

/-- The search for a text in a field. -/
def TextSearch.noting (negated : Bool) (field text : Text) : Noting (Option TextSearch) := do
  let (modifiers, body) := Modifiers.read {} text
  match Text.after? Modifiers.regexMark body with
  | some pattern => return ofValue? modifiers negated field true (← valueOf pattern)
  | none => return ofValue? modifiers negated field false (← valueOf body)

/-- The constraint of a clause about a field. -/
def fieldNoting (negated : Bool) (field text : Text) : Noting (Option Constraint) := do
  if Modifiers.marks text then
    return (← TextSearch.noting negated field text).map .text
  else
    return some (.field field (← valueOf text).text)

/-- The name of a field with its quotes: what stands before the first colon outside of regions. -/
def fieldLead (text : Text) : Text :=
  Piece.writtenAll ((Piece.pieces text).1.takeWhile fun p => p != .char ':')

/-- A field is named in front of a colon that follows the name with its quotes. -/
theorem splitField?_eq (text : Text) :
    splitField? text =
      match text.drop (fieldLead text).length with
      | ':' :: rest => some ((fieldLead text).unquote.text, rest)
      | _ => none := rfl

namespace Clause

/-- The constraint about a named thing. -/
def namedNoting (constraint : Text → Constraint) (text : Text) : Noting (Option Constraint) := do
  let name ← valueOf text
  return if name.text.isEmpty then none else some (constraint name.text)

/-- The constraint of a clause about any field, whose value is taken only if the field is named. -/
def anyFieldNoting (c : Clause) (body : Text) : Noting (Except QueryFault (Option Constraint)) := do
  let name ← valueOf (fieldLead body)
  match body.drop (fieldLead body).length with
  | ':' :: text =>
    if name.text.isEmpty then
      return .error (.emptyFieldName c.text)
    return .ok (← fieldNoting c.negated name.text text)
  | _ => return .error (.emptyFieldName c.text)

/-- The constraint of a clause, or why it is refused. -/
def noting (strict : Bool) (c : Clause) : Noting (Except QueryFault (Option Constraint)) :=
  match Topic.read? c.text with
  | some (.deck, rest) => return .ok (← namedNoting (.deck c.negated) rest)
  | some (.tag, rest) => return .ok (← namedNoting (.tag c.negated) rest)
  | some (.state, rest) => do
    let state ← valueOf rest
    if strict && !isKnownState state.text then
      return .error (.unknownState state.text)
    return .ok (some (.state c.negated state.text))
  | some (.flag, rest) => return (readFlag rest).map fun number => some (.flag c.negated number)
  | some (.property, rest) =>
    match PropertyFilter.read strict rest with
    | .error fault => return .error (.invalidProperty rest fault)
    | .ok filter =>
      return .ok (some (.property (if c.negated then filter.complement else filter)))
  | some (.front, rest) => return .ok (← fieldNoting c.negated "front".toList rest)
  | some (.back, rest) => return .ok (← fieldNoting c.negated "back".toList rest)
  | some (.field, rest) => c.anyFieldNoting rest
  | none => return .ok ((← TextSearch.noting c.negated [] c.text).map .text)

/-- The value behind the name of a field, if there is a name. -/
def fieldValues (body : Text) : List Text :=
  match splitField? body with
  | none | some ([], _) => []
  | some (_ :: _, text) => [TextSearch.searched text]

/-- The texts whose values are taken while a clause is read. -/
def noted (c : Clause) : List Text :=
  match Topic.read? c.text with
  | some (.flag, _) | some (.property, _) => []
  | some (.field, rest) => fieldLead rest :: fieldValues rest
  | _ => [c.value]

end Clause

/-! ## What is noted -/

namespace Noting

variable {α β : Type} {log log' : List Text} {x : Noting α} {f : α → Noting β} {a : α}

/-- A computation goes on with what its first part has led to and noted. -/
theorem run_bind (h : x.run log = (a, log')) : (x >>= f).run log = (f a).run log' := by
  rw [StateT.run_bind, h]
  rfl

theorem valueOf_run (t : Text) : (valueOf t).run log = (t.unquote, log ++ [t]) := rfl

end Noting

section

variable (log : List Text)

/-- A search for a text takes the value of what is searched for. -/
theorem TextSearch.noting_run (negated : Bool) (field text : Text) :
    (noting negated field text).run log =
      (read? negated field text, log ++ [searched text]) := by
  rw [read?_eq_ofValue?]
  unfold noting searched Text.begins
  dsimp only
  split
  next pattern hregex =>
    rw [hregex]
    rfl
  next hplain =>
    rw [hplain]
    rfl

theorem fieldNoting_run (negated : Bool) (field text : Text) :
    (fieldNoting negated field text).run log =
      (fieldConstraint negated field text, log ++ [TextSearch.searched text]) := by
  unfold fieldNoting fieldConstraint
  split
  next =>
    rw [Noting.run_bind (TextSearch.noting_run log negated field text)]
    rfl
  next hmarks =>
    rw [TextSearch.searched_of_not_marks (Bool.eq_false_iff.2 hmarks)]
    rfl

namespace Clause

/-- A clause about any field takes the value of the name, and of what follows if there is a name. -/
theorem anyFieldNoting_run (c : Clause) (body : Text) :
    (c.anyFieldNoting body).run log =
      (match splitField? body with
        | none => .error (.emptyFieldName c.text)
        | some (name, text) =>
          if name.isEmpty then .error (.emptyFieldName c.text)
          else .ok (fieldConstraint c.negated name text),
        log ++ fieldLead body :: fieldValues body) := by
  unfold anyFieldNoting fieldValues
  rw [Noting.run_bind (Noting.valueOf_run _), splitField?_eq]
  split
  next text _ =>
    cases hname : (fieldLead body).unquote.text with
    | nil => rfl
    | cons first more =>
      rw [if_neg (by simp), Noting.run_bind (fieldNoting_run _ c.negated _ text)]
      simp only [List.isEmpty_cons, Bool.false_eq_true, if_false, List.append_assoc,
        List.singleton_append]
      rfl
  next => rfl

/-- A clause is read in the same way when the texts are noted whose values are taken. -/
theorem noting_run (strict : Bool) (c : Clause) :
    (c.noting strict).run log = (c.meaning strict, log ++ c.noted) := by
  unfold noting meaning noted value
  cases htopic : Topic.read? c.text with
  | none =>
    dsimp only
    rw [Noting.run_bind (TextSearch.noting_run log c.negated [] c.text)]
    rfl
  | some found =>
    rcases found with ⟨topic, rest⟩
    cases topic with
    | deck => rfl
    | tag => rfl
    | state =>
      dsimp only
      rw [Noting.run_bind (Noting.valueOf_run rest)]
      by_cases hknown : (strict && !isKnownState rest.unquote.text) = true
      · simp only [hknown, if_true]
        rfl
      · simp only [hknown]
        rfl
    | flag =>
      rw [List.append_nil]
      rfl
    | property =>
      rw [List.append_nil]
      cases hread : PropertyFilter.read strict rest <;> simp only [hread] <;> rfl
    | front =>
      dsimp only
      rw [Noting.run_bind (fieldNoting_run log c.negated _ rest)]
      rfl
    | back =>
      dsimp only
      rw [Noting.run_bind (fieldNoting_run log c.negated _ rest)]
      rfl
    | field => exact anyFieldNoting_run log c rest

end Clause

end

/-! ## The texts that are noted -/

/-- What is searched for in a text of items is made of items as well. -/
theorem TextSearch.ofItems_searched {text : Text} (h : text.OfItems) :
    (searched text).OfItems := by
  rcases Modifiers.exists_lead_of_read {} text with ⟨lead, htext, hplain⟩
  have hbody : Text.OfItems (Modifiers.read {} text).2 := by
    rw [htext] at h
    exact h.of_append hplain
  unfold searched
  dsimp only
  cases hregex : Text.after? Modifiers.regexMark (Modifiers.read {} text).2 with
  | none => exact hbody
  | some pattern =>
    rw [Text.after?_eq_some_iff.1 hregex] at hbody
    exact hbody.of_append (by decide)

/-- The name of a field is cut off between pieces. -/
theorem fieldLead_readAs (text : Text) :
    (fieldLead text).ReadAs ((Piece.pieces text).1.takeWhile fun p => p != .char ':') where
  proper _ hp := Piece.proper_of_mem_pieces ((List.takeWhile_sublist _).subset hp)
  written := rfl

namespace Clause

/-- Every text whose value is taken is read as pieces to its end. -/
theorem exists_readAs_of_mem_noted {c : Clause} (h : c.text.OfItems) {t : Text}
    (ht : t ∈ c.noted) : ∃ ps, t.ReadAs ps := by
  unfold noted value at ht
  cases htopic : Topic.read? c.text with
  | none =>
    rw [htopic] at ht
    rw [List.mem_singleton.1 ht]
    exact (TextSearch.ofItems_searched h).exists_readAs
  | some found =>
    rcases found with ⟨topic, rest⟩
    have hrest := Topic.ofItems_of_read? htopic h
    rw [htopic] at ht
    cases topic with
    | deck | tag | state =>
      rw [List.mem_singleton.1 ht]
      exact hrest.exists_readAs
    | front | back =>
      rw [List.mem_singleton.1 ht]
      exact (TextSearch.ofItems_searched hrest).exists_readAs
    | flag | property => cases ht
    | field =>
      rcases List.mem_cons.1 ht with rfl | ht
      · exact ⟨_, fieldLead_readAs rest⟩
      · unfold fieldValues at ht
        split at ht
        next => cases ht
        next => cases ht
        next first more text hsplit =>
          rw [List.mem_singleton.1 ht]
          exact (TextSearch.ofItems_searched (ofItems_of_splitField? hsplit hrest)).exists_readAs

/-- No character of a value is lost.  The clauses of a query can be read in such a way that every
text is noted whose value is taken, and each of these texts is made of closed regions and of
characters other than quotes.  Its value is put together from the characters and from what the
regions stand for, in order, and it counts as quoted exactly if it is a single region.  So the value
of two such texts together is the value of the one and then that of the other. -/
theorem sound_of_noted :
    (∀ (query : Text) (clauses : List Clause), split query = .ok clauses → ∀ c ∈ clauses,
      (∀ strict log, (c.noting strict).run log = (c.meaning strict, log ++ c.noted)) ∧
        ∀ t ∈ c.noted, ∃ ps, t.Sound ps) ∧
      ∀ (t u : Text) (ps qs : List Piece), t.ReadAs ps → u.ReadAs qs →
        (t ++ u).unquote.text = t.unquote.text ++ u.unquote.text := by
  refine ⟨fun query clauses hsplit c hc => ⟨fun strict log => noting_run log strict c, ?_⟩, ?_⟩
  · intro t ht
    have hitems := (writable_of_mem_split hsplit hc).body.ofItems
    rcases exists_readAs_of_mem_noted hitems ht with ⟨ps, hread⟩
    exact ⟨ps, hread.sound⟩
  · exact fun t u ps qs ht hu => ht.unquote_text_append hu

/-- The colon in the name of a field is kept, and the modifier behind it is no part of the value.  The
backslash in front of a letter stays. -/
theorem sound_of_noted_field :
    let c : Clause := ⟨true, "field:\"a:b\":w:x\"\\d \\\"\"y".toList⟩
    let name : Text := "\"a:b\"".toList
    let value : Text := "x\"\\d \\\"\"y".toList
    split c.written = .ok [c] ∧
      (c.noting true).run [] = (c.meaning true, [name, value]) ∧
      (∃ ps, value.Sound ps) ∧
      (name ++ value).unquote.text = "a:bx\\d \"y".toList := by
  intro c name value
  have hsplit : split c.written = .ok [c] := split_of_writable (by decide +kernel)
  have hnoted : c.noted = [name, value] := by decide +kernel
  obtain ⟨hrun, hsound⟩ := sound_of_noted.1 _ _ hsplit c List.mem_cons_self
  obtain ⟨ps, hname⟩ := hsound name (by simp [hnoted])
  obtain ⟨qs, hvalue⟩ := hsound value (by simp [hnoted])
  have happend := sound_of_noted.2 name value ps qs hname.read hvalue.read
  refine ⟨hsplit, ?_, ⟨qs, hvalue⟩, ?_⟩
  · rw [hrun, hnoted]
    rfl
  · rw [happend]
    decide +kernel

end Clause

end CardQuery
