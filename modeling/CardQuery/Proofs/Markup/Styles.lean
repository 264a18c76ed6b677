import CardQuery.Markup.Render
import CardQuery.Proofs.Markup.Pieces

/-!
# Tags around a label

A label stands between a tag with a word for a style and the tag that switches the style off.  A
word that can be nothing but a colour is compared as it is, so the second tag finds the first, and
markup without other tags is shown.

Main results:

- `normalName_of_plainWord` says that such a word is compared as it is.
- `render_of_noTags` and `render_of_label` say that markup without tags, or with those around a
  label only, shows its characters.
-/

namespace CardQuery

namespace Markup

/-! ## Texts without tags -/

@[simp] theorem tags_append (s t : List Token) : tags (s ++ t) = tags s ++ tags t :=
  List.filterMap_append

/-- Whether a text has neither opening brackets nor backslashes. -/
def Bare (t : Text) : Prop := ∀ c ∈ t, c ≠ '[' ∧ c ≠ '\\'

instance : DecidablePred Bare := fun t =>
  decidable_of_iff ((t.all fun c => c != '[' && c != '\\') = true) (by simp [Bare])

/-- A bare text is read as its characters. -/
theorem read_append_of_bare {label : Text} (h : Bare label) (t : Text) :
    read (label ++ t) = label.map Token.char ++ read t := by
  induction label with
  | nil => rfl
  | cons c label ih =>
    obtain ⟨hbracket, hslash⟩ := h c List.mem_cons_self
    have hrest := ih fun d hd => h d (List.mem_cons_of_mem c hd)
    rw [List.cons_append, read_of_char (fun _ heq => absurd heq hslash) (fun hc => hslash hc.1)
      (tag?_of_ne hbracket _), hrest]
    rfl

@[simp] theorem tags_cons_tag (inner : Text) (tokens : List Token) :
    tags (.tag inner :: tokens) = inner :: tags tokens := rfl

theorem tags_map_char (label : Text) : tags (label.map Token.char) = [] := by
  simp [tags, List.filterMap_map]

theorem tags_read_bare {t : Text} (h : Bare t) (markup : Text) :
    tags (read (t ++ markup)) = tags (read markup) := by
  rw [read_append_of_bare h, tags_append, tags_map_char, List.nil_append]

/-! ## Plain words -/

/-- A word for a style that can be nothing but the name of a colour, if it has a meaning at all. -/
structure PlainWord (word : Text) : Prop where
  inner : Inner word
  noEquals : '=' ∉ word
  noSlash : word.head? ≠ some '/'
  noCall : word.head? ≠ some '@'
  words : Style.wordsOf word = [word]
  strip : word.strip = word
  lower : Text.lower word = word
  noAttribute : Attribute.ofName? word = none
  special : word ∉ ["none".toList, "on".toList, "not".toList, "link".toList]
  noParts : Color.inner? "rgb(".toList word = none

namespace PlainWord

variable {word : Text}

theorem inner_slash (h : PlainWord word) : Inner ('/' :: word) :=
  ⟨⟨'/', rfl, by decide⟩, List.forall_mem_cons.2 ⟨by decide, h.inner.inside⟩⟩

theorem ne_equals (h : PlainWord word) : ∀ c ∈ word, (c != '=') = true := by
  intro c hc
  rw [bne_iff_ne]
  rintro rfl
  exact h.noEquals hc

theorem ne_nil (h : PlainWord word) : word ≠ [] := by
  obtain ⟨c, hc, -⟩ := h.inner.starts
  rintro rfl
  cases hc

end PlainWord

/-! ## The style of a word -/

/-- A word that does not spell out the parts of a colour is a colour or has no meaning. -/
theorem Color.check_of_noParts {word : Text} (h : Color.inner? "rgb(".toList word = none) :
    Color.check word = .ok () ∨ Color.check word = .error .noStyle := by
  unfold Color.check
  split
  next => exact Or.inl rfl
  next =>
    rw [h]
    exact Or.inr rfl

section

variable {word : Text}

/-- A plain word is read as the word for a colour, if it has a meaning at all. -/
theorem Style.read_of_plainWord (h : PlainWord word) :
    Style.read word = .ok { color? := some word } ∨ Style.read word = .error .noStyle := by
  have hspecial := h.special
  simp only [List.mem_cons, List.not_mem_nil, or_false, not_or] at hspecial
  obtain ⟨hnone, hon, hnot, hlink⟩ := hspecial
  rw [Style.read, h.strip, Style.noneWord, if_neg hnone, h.words, Style.readWords, h.lower,
    if_neg hon, if_neg hnot, if_neg hlink, h.noAttribute]
  rcases Color.check_of_noParts h.noParts with hcheck | hcheck
  · rw [hcheck]
    exact Or.inl rfl
  · rw [hcheck]
    exact Or.inr rfl

/-- A plain word is compared as it is. -/
theorem normalName_of_plainWord (h : PlainWord word) : normalName word = .ok word := by
  have htext : Style.text { color? := some word } = word := by
    have hnone : (Attribute.all.flatMap fun _ => ([] : List Text)) = [] := rfl
    simp [Style.text, Style.words, hnone]
  rcases Style.read_of_plainWord h with hread | hread
  · simp only [normalName, Style.normalName, hread, htext]
  · rw [normalName, Style.normalName_of_noStyle hread, h.strip, h.lower]

theorem isUnreadable_of_plainWord (h : PlainWord word) : isUnreadable word = false := by
  rcases Style.read_of_plainWord h with hread | hread
  all_goals rw [isUnreadable, hread]

/-! ## Switching the style on and off -/

theorem ofTag_of_plainWord (h : PlainWord word) :
    Switch.ofTag word = .ok (.on ⟨word, none⟩) := by
  have hname : ∀ c ∈ word, (c != '=') = true := h.ne_equals
  have htake : (word.takeWhile fun c => c != '=') = word := List.takeWhile_eq_self_iff.2 hname
  have hdrop : (word.dropWhile fun c => c != '=') = [] := List.dropWhile_eq_nil_iff.2 hname
  unfold Switch.ofTag
  simp only [htake, hdrop]
  split
  next name => exact absurd rfl h.noSlash
  next =>
    rw [normalName_of_plainWord h]
    rfl

theorem ofTag_slash_of_plainWord (h : PlainWord word) :
    Switch.ofTag ('/' :: word) = .ok (.off word) := by
  have hname : ∀ c ∈ '/' :: word, (c != '=') = true :=
    List.forall_mem_cons.2 ⟨by decide, h.ne_equals⟩
  have htake : (('/' :: word).takeWhile fun c => c != '=') = '/' :: word :=
    List.takeWhile_eq_self_iff.2 hname
  have hsome : ¬word.strip.isEmpty = true := by
    rw [h.strip, List.isEmpty_iff]
    exact h.ne_nil
  unfold Switch.ofTag
  simp only [htake, if_neg hsome, normalName_of_plainWord h]
  rfl

/-- The tags around a label switch its style on and off. -/
theorem stylesOf_of_plainWord (h : PlainWord word) :
    stylesOf [] [word, '/' :: word] = .ok [word] := by
  have hcall : OpenTag.isCall ⟨word, none⟩ = false :=
    beq_eq_false_iff_ne.2 h.noCall
  have hclose : OpenTag.close ⟨word, none⟩ = .ok [word] := by
    rw [OpenTag.close, hcall]
    rfl
  have htake : OpenTag.take? word [⟨word, none⟩] = some (⟨word, none⟩, []) := if_pos rfl
  have hrest : stylesOf [⟨word, none⟩] ['/' :: word] = .ok [word] := by
    rw [stylesOf, ofTag_slash_of_plainWord h]
    simp only [htake, hclose]
    rfl
  rw [stylesOf, ofTag_of_plainWord h]
  exact hrest

/-! ## Markup that is shown -/

/-- A label is read as its characters between the two tags. -/
theorem read_label (h : PlainWord word) {label : Text} (hlabel : Bare label) (markup : Text) :
    read ('[' :: (word ++ ']' :: (label ++ '[' :: ('/' :: word ++ ']' :: markup)))) =
      .tag word :: (label.map Token.char ++ .tag ('/' :: word) :: read markup) := by
  have hon : tag? ('[' :: (word ++ ']' :: (label ++ '[' :: ('/' :: word ++ ']' :: markup)))) =
      some (word, label ++ '[' :: ('/' :: word ++ ']' :: markup)) :=
    tag?_eq_some_iff.2 ⟨rfl, h.inner⟩
  have hoff : tag? ('[' :: ('/' :: word ++ ']' :: markup)) = some ('/' :: word, markup) :=
    tag?_eq_some_iff.2 ⟨rfl, h.inner_slash⟩
  rw [read_of_tag? hon, read_append_of_bare hlabel, read_of_tag? hoff]

/-- Markup without tags shows its characters. -/
theorem render_of_noTags {markup : Text} (h : tags (read markup) = []) :
    render markup = .ok (shown (read markup)) := by
  simp only [render, h]
  rfl

/-- Markup whose only tags are those around a label shows its characters. -/
theorem render_of_label (hword : PlainWord word) {markup : Text}
    (h : tags (read markup) = [word, '/' :: word]) :
    render markup = .ok (shown (read markup)) := by
  have hcheck : checkStyles [word] = .ok () := by
    rw [checkStyles, List.any_cons, isUnreadable_of_plainWord hword]
    rfl
  simp only [render, h, stylesOf_of_plainWord hword, hcheck, bind, Except.bind]
  rfl

end

end Markup

end CardQuery
