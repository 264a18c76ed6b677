import CardQuery.Console
import CardQuery.Proofs.Markup.Lines
import CardQuery.Proofs.Markup.Styles
import CardQuery.Proofs.Markup.Verbatim
import CardQuery.Proofs.Text.Tabs

/-!
# Messages in printed lines

A message is put into a line of markup as it is, between fixed texts.  It is printed as it is if it
is no markup: if it has no tag, no backslash in front of an opening bracket, no tab and no character
that acts on a terminal.  Otherwise the line cannot be printed, or what is printed has fewer
brackets or backslashes than the message, or no such character.

Main results:

- `filter_printed`, `count_printed` and `not_mem_printed` say which characters are printed.
- `Frame.printed_iff` says which messages are printed as they are between fixed texts.
-/

namespace CardQuery

open Markup

/-! ## What is printed for markup -/

namespace Console

variable {markup printed : Text} {c : Char}

/-- What is printed for markup that can be shown. -/
theorem eq_of_printed (h : Console.printed markup = .ok printed) :
    printed = Text.expandTabs ((shown (read markup)).filter fun c => !isAction c) ++ ['\n'] := by
  have hrender : ∀ t, render markup = .ok t → t = shown (read markup) := by
    intro t ht
    unfold render at ht
    simp only [bind, Except.bind] at ht
    split at ht
    next => cases ht
    next =>
      split at ht
      next => cases ht
      next => exact (Except.ok.inj ht).symm
  unfold Console.printed plain at h
  cases hshown : render markup with
  | error fault =>
    rw [hshown] at h
    cases h
  | ok t =>
    rw [hshown] at h
    rw [← hrender t hshown]
    exact (Except.ok.inj h).symm

/-- Whatever is shown is printed, except for blanks and characters that act on a terminal. -/
theorem filter_printed (h : Console.printed markup = .ok printed) {p : Char → Bool}
    (hblank : ∀ d ∈ [' ', '\t', '\n'], p d = false) (haction : ∀ d, p d = true → isAction d = false) :
    printed.filter p = (shown (read markup)).filter p := by
  have htabs := Text.filter_expandTabs (hblank ' ' (by simp)) (hblank '\t' (by simp))
  have hnewline : ['\n'].filter p = [] := by simp [hblank '\n' (by simp)]
  rw [eq_of_printed h, List.filter_append, htabs, hnewline, List.append_nil, List.filter_filter]
  congr 1
  ext d
  cases hd : p d with
  | false => rfl
  | true => simp [haction d hd]

/-- Characters that are no blanks and do not act on a terminal are printed if they are shown. -/
theorem count_printed (h : Console.printed markup = .ok printed) (haction : isAction c = false)
    (hblank : c ∉ [' ', '\t', '\n']) : printed.count c = (shown (read markup)).count c := by
  have hcount : ∀ t : Text, t.count c = (t.filter (· == c)).length := fun _ =>
    List.countP_eq_length_filter
  rw [hcount, hcount, filter_printed h]
  · intro d hd
    exact beq_eq_false_iff_ne.2 fun heq => hblank (heq ▸ hd)
  · intro d hd
    rw [beq_iff_eq.1 hd, haction]

/-- Neither a tab nor a character that acts on a terminal is printed. -/
theorem not_mem_printed (h : Console.printed markup = .ok printed)
    (hc : c = '\t' ∨ isAction c = true) : c ∉ printed := by
  let text := (shown (read markup)).filter fun c => !isAction c
  rw [eq_of_printed h, List.mem_append, not_or]
  rcases hc with rfl | haction
  · exact ⟨Text.noTab_expandTabs text, by decide⟩
  · have hnone : (Text.expandTabs text).filter isAction = [] := by
      rw [Text.filter_expandTabs (by decide) (by decide), List.filter_eq_nil_iff]
      intro d hd
      have hkept := List.of_mem_filter hd
      simpa using hkept
    constructor
    · intro hmem
      exact List.filter_eq_nil_iff.1 hnone c hmem haction
    · intro hmem
      rw [List.mem_singleton.1 hmem] at haction
      exact absurd haction (by decide)

/-- Markup that shows neither is printed as it is shown. -/
theorem printed_of_render {t : Text} (h : render markup = .ok t) (htab : '\t' ∉ t)
    (haction : ∀ c ∈ t, isAction c = false) : Console.printed markup = .ok (t ++ ['\n']) := by
  have hkept : (t.filter fun c => !isAction c) = t :=
    List.filter_eq_self.2 fun c hc => by simp [haction c hc]
  simp [Console.printed, plain, h, Except.map, hkept, Text.expandTabs_of_noTab htab]

end Console

/-! ## Messages between fixed texts -/

namespace Markup

/-- Whether a text has neither backslashes, nor tabs, nor characters that act on a terminal. -/
def Plain (t : Text) : Prop := ∀ c ∈ t, c ≠ '\\' ∧ c ≠ '\t' ∧ Console.isAction c = false

instance : DecidablePred Plain := fun t =>
  decidable_of_iff ((t.all fun c => c != '\\' && c != '\t' && !Console.isAction c) = true)
    (by simp [Plain, and_assoc])

/-- Fixed texts in front of a message and behind it, whose only brackets are those of the tags
around a label. -/
structure Frame (word before behind : Text) : Prop where
  plainWord : PlainWord word
  label : (activeTags before ++ activeTags behind).map Prod.snd = [word, '/' :: word]
  two : before.count '[' + behind.count '[' = 2
  opened : (brackets before).getLast? ≠ some '['
  closed : (brackets behind).head? ≠ some ']'
  plain : Plain (before ++ behind)

/-- Whether a text in front of another one is no markup: it is shown as it is and ends nothing. -/
structure Verbatim (message behind : Text) : Prop where
  noTag : ∀ inner, ¬ActiveTag message inner
  noSlash : ¬Slashed (message ++ behind)
  noTab : '\t' ∉ message
  noAction : ∀ c ∈ message, Console.isAction c = false

/-- A text is no markup if it has no tag and is plain. -/
theorem verbatim_of_plain {message : Text} (hnone : activeTags message = []) (h : Plain message) :
    Verbatim message [] := by
  refine ⟨activeTags_eq_nil_iff.1 hnone, ?_, fun htab => (h _ htab).2.1 rfl,
    fun c hc => (h c hc).2.2⟩
  rw [List.append_nil]
  exact fun hslash => (h _ (hslash.subset List.mem_cons_self)).1 rfl

namespace Frame

variable {word before message behind : Text}

theorem apart_before (h : Frame word before behind) (t : Text) : Apart before t :=
  ⟨fun hlast => absurd rfl (h.plain '\\' (List.mem_append_left _ (List.mem_of_getLast? hlast))).1,
    fun hlast => absurd hlast h.opened⟩

theorem apart_behind (h : Frame word before behind) (hslash : ¬Slashed (message ++ behind)) :
    Apart message behind := by
  constructor
  · intro hlast c hc
    constructor
    · rintro rfl
      exact hslash (slashed_append.2 (Or.inr (Or.inr ⟨hlast, hc⟩)))
    · exact (h.plain c (List.mem_append_right _ (List.mem_of_head? hc))).1
  · exact fun _ => h.closed

/-- A line between fixed texts has the tags of the label, and those of the message between them. -/
theorem tags_read (h : Frame word before behind) (hslash : ¬Slashed (message ++ behind)) :
    tags (read (before ++ (message ++ behind))) = (activeTags before).map Prod.snd ++
      ((activeTags message).map Prod.snd ++ (activeTags behind).map Prod.snd) := by
  rw [tags_read_eq, activeTags_append (h.apart_before _), activeTags_append (h.apart_behind hslash)]
  simp only [List.map_append, moved_append, map_snd_moved]

theorem count_eq_zero (h : Frame word before behind) :
    before.count '\\' = 0 ∧ behind.count '\\' = 0 :=
  ⟨List.count_eq_zero.2 fun hmem => absurd rfl (h.plain _ (List.mem_append_left _ hmem)).1,
    List.count_eq_zero.2 fun hmem => absurd rfl (h.plain _ (List.mem_append_right _ hmem)).1⟩

/-- What is printed with a message in it has all brackets and backslashes of the message, so none of
them was taken for markup. -/
theorem verbatim_of_printed (h : Frame word before behind) {printed : Text}
    (hprinted : Console.printed (before ++ (message ++ behind)) = .ok printed)
    (hmem : message <:+: printed) : Verbatim message behind := by
  have hslash : ¬Slashed (message ++ behind) := by
    intro hslash
    have hline : Slashed (before ++ (message ++ behind)) :=
      slashed_append.2 (Or.inr (Or.inl hslash))
    have hlt := count_slash_shown_lt hline
    have hle := hmem.sublist.count_le '\\'
    rw [Console.count_printed hprinted (by decide) (by decide)] at hle
    rw [List.count_append, List.count_append, h.count_eq_zero.1, h.count_eq_zero.2] at hlt
    omega
  refine ⟨?_, hslash, ?_, ?_⟩
  · have hcount := count_bracket_read (before ++ (message ++ behind))
    have hle := hmem.sublist.count_le '['
    have hown := congrArg List.length h.label
    have htwo := h.two
    rw [Console.count_printed hprinted (by decide) (by decide)] at hle
    rw [h.tags_read hslash] at hcount
    simp only [List.length_append, List.length_map, List.count_append, List.length_cons,
      List.length_nil] at hcount hown
    exact activeTags_eq_nil_iff.1 (List.length_eq_zero_iff.1 (by omega))
  · exact fun htab => Console.not_mem_printed hprinted (Or.inl rfl) (hmem.subset htab)
  · intro c hc
    rw [← Bool.not_eq_true]
    exact fun haction => Console.not_mem_printed hprinted (Or.inr haction) (hmem.subset hc)

/-- A message that is no markup is printed as it is. -/
theorem exists_printed (h : Frame word before behind) (hmessage : Verbatim message behind) :
    ∃ printed, Console.printed (before ++ (message ++ behind)) = .ok printed ∧
      message <:+: printed := by
  have hnone : activeTags message = [] := activeTags_eq_nil_iff.2 hmessage.noTag
  have hchars : read message = message.map Token.char := by
    refine read_eq_map_char ?_ fun hslash => hmessage.noSlash (slashed_append.2 (Or.inl hslash))
    rw [tags_read_eq, hnone]
    rfl
  have htags : tags (read (before ++ (message ++ behind))) = [word, '/' :: word] := by
    rw [h.tags_read hmessage.noSlash, hnone, List.map_nil, List.nil_append, ← List.map_append,
      h.label]
  have hshown : shown (read (before ++ (message ++ behind))) =
      shown (read before) ++ (message ++ shown (read behind)) := by
    rw [read_append (h.apart_before _), read_append (h.apart_behind hmessage.noSlash), hchars]
    simp [shown, List.filterMap_map]
  have hrender := render_of_label h.plainWord htags
  rw [hshown] at hrender
  have hplain : ∀ c ∈ shown (read before) ++ (message ++ shown (read behind)),
      c ≠ '\t' ∧ Console.isAction c = false := by
    intro c hc
    rcases List.mem_append.1 hc with hc | hc
    · exact (h.plain c (List.mem_append_left _ ((shown_read_sublist before).subset hc))).2
    · rcases List.mem_append.1 hc with hc | hc
      · exact ⟨fun heq => hmessage.noTab (heq ▸ hc), hmessage.noAction c hc⟩
      · exact (h.plain c (List.mem_append_right _ ((shown_read_sublist behind).subset hc))).2
  refine ⟨_, Console.printed_of_render hrender (fun htab => (hplain _ htab).1 rfl)
    (fun c hc => (hplain c hc).2), ?_⟩
  exact ⟨shown (read before), shown (read behind) ++ ['\n'], by simp⟩

/-- A message is printed as it is between fixed texts exactly if it is no markup. -/
theorem printed_iff (h : Frame word before behind) :
    (∃ printed, Console.printed (before ++ (message ++ behind)) = .ok printed ∧
      message <:+: printed) ↔ Verbatim message behind :=
  ⟨fun ⟨_, hprinted, hmem⟩ => h.verbatim_of_printed hprinted hmem, h.exists_printed⟩

end Frame

end Markup

end CardQuery
