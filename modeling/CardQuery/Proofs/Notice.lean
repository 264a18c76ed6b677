import CardQuery.Console
import CardQuery.Proofs.Markup.Lines
import CardQuery.Proofs.Markup.Styles

/-!
# Notices that can be shown

Most notices begin with a label in a tone, and the others are in a tone as a whole.  A notice can be
shown if its tags are those of the tone only, so that each of them finds the other.  They are if
nothing is put into the notice but escaped texts and texts without brackets.  A notice into which a
path or a message is put as it is can fail.

Main results:

- `tags_read_label` says which tags a line with a label has.
- `tags_read_toned` says that an escaped text in a tone between fixed texts adds no tag.
- `exists_printed_of_tags` says that a line whose only tags are those of a tone can be printed.
- `printable_notUnderstood` and `printable_compiling` say that the refusal of a query and its
  announcement can be shown, whatever the query is.
- `printable_warned` says that a warning without brackets in its wording can be shown.
-/

namespace CardQuery

namespace Markup

/-! ## Tags around a label -/

theorem plainWord_name (tone : Tone) : PlainWord tone.name := by
  cases tone <;> constructor <;> decide

theorem inner_name (tone : Tone) : Inner tone.name := (plainWord_name tone).inner

theorem inner_slash_name (tone : Tone) : Inner ('/' :: tone.name) :=
  (plainWord_name tone).inner_slash

/-- The tag that switches a tone on. -/
theorem tags_read_on (tone : Tone) (markup : Text) :
    tags (read ('[' :: (tone.name ++ ']' :: markup))) = tone.name :: tags (read markup) := by
  rw [read_of_tag? (tag?_eq_some_iff.2 ⟨rfl, inner_name tone⟩), tags_cons_tag]

/-- The tag that switches a tone off. -/
theorem tags_read_off (tone : Tone) (markup : Text) :
    tags (read ('[' :: ('/' :: tone.name ++ ']' :: markup))) =
      ('/' :: tone.name) :: tags (read markup) := by
  rw [read_of_tag? (tag?_eq_some_iff.2 ⟨rfl, inner_slash_name tone⟩), tags_cons_tag]

/-- The tags around a label come before those of what follows it. -/
theorem tags_read_label (tone : Tone) {lead label : Text} (hlead : Bare lead)
    (hlabel : Bare label) (markup : Text) :
    tags (read (lead ++ (tone.apply label ++ ' ' :: markup))) =
      tone.name :: ('/' :: tone.name) :: tags (read markup) := by
  have hsplit : tone.apply label ++ ' ' :: markup =
      '[' :: (tone.name ++ ']' :: (label ++ '[' :: ('/' :: tone.name ++ ']' ::
        ([' '] ++ markup)))) := by
    simp [Tone.apply]
  have hspace : Bare [' '] := by decide
  rw [hsplit, tags_read_bare hlead, tags_read_on, tags_read_bare hlabel, tags_read_off,
    tags_read_bare hspace]

end Markup

/-! ## Texts in a tone -/

namespace Tone

open Markup

/-- Parts in a tone. -/
def parts (tone : Tone) (inside : List Part) : List Part :=
  .tag tone.name :: inside ++ [.tag ('/' :: tone.name)]

theorem lineOf_parts (tone : Tone) (inside : List Part) :
    lineOf (tone.parts inside) = tone.apply (lineOf inside) := by
  simp [parts, apply, lineOf, Part.markup]

/-- A text in a tone between fixed texts is a sound line. -/
theorem sound_parts (tone : Tone) {before behind : Text} (hbefore : Quiet before)
    (hbehind : Quiet behind) (hne : behind.isEmpty = false) (t : Text) :
    Sound (tone.parts [.fixed before, .escaped t, .fixed behind]) := by
  have hguards : Guards [.fixed behind, .tag ('/' :: tone.name)] = true := by
    simp [Guards, hne]
  exact ⟨inner_name tone, hbefore, hguards, hbehind, inner_slash_name tone, trivial⟩

/-- The only tags of an escaped text in a tone between fixed texts are those of the tone. -/
theorem tags_read_toned (tone : Tone) {before behind : Text} (hbefore : Quiet before)
    (hbehind : Quiet behind) (hne : behind.isEmpty = false) (t : Text) :
    tags (read (tone.apply (before ++ escape t ++ behind))) = [tone.name, '/' :: tone.name] := by
  have hline : tone.apply (before ++ escape t ++ behind) =
      lineOf (tone.parts [.fixed before, .escaped t, .fixed behind]) := by
    simp [lineOf_parts, Part.markup]
  rw [hline, tags_read_eq, activeTags_lineOf (tone.sound_parts hbefore hbehind hne t)]
  simp [parts, ownTags, Part.ownTags]

end Tone

/-! ## Notices -/

namespace Console

/-- A line whose only tags are those around its label can be printed. -/
theorem exists_printed_of_tags {tone : Tone} {markup : Text}
    (h : Markup.tags (Markup.read markup) = [tone.name, '/' :: tone.name]) :
    ∃ t, printed markup = .ok t := by
  have hrender := Markup.render_of_label (Markup.plainWord_name tone) h
  exact ⟨_, by rw [printed, plain, hrender]; rfl⟩

end Console

namespace Notice

open Markup (Bare Quiet)

/-- Whether every line of a notice can be printed. -/
def Printable (n : Notice) : Prop := ∀ line ∈ n.lines, ∃ t, Console.printed line = .ok t

/-- The refusal of a query can be shown, whatever the query is. -/
theorem printable_notUnderstood (e : QueryError) : (notUnderstood e).Printable := by
  intro line hline
  simp only [lines, List.mem_cons, List.not_mem_nil, or_false] at hline
  rcases hline with rfl | rfl
  · have htags := Markup.tags_read_label .error (by decide : Bare [])
      (by decide : Bare "Error:".toList) "Could not understand search".toList
    have hplain : '[' ∉ "Could not understand search".toList := by decide
    rw [Markup.tags_read_of_noBracket hplain] at htags
    exact Console.exists_printed_of_tags htags
  · have htags := Markup.tags_read_label .info (by decide : Bare "  ".toList)
      (by decide : Bare "Hint:".toList) (Markup.escape e.message)
    rw [Markup.tags_read_escape] at htags
    exact Console.exists_printed_of_tags htags

/-- The announcement of a query can be shown, whatever the query is. -/
theorem printable_compiling (query : Text) (strict : Bool) :
    (compiling query strict).Printable := by
  intro line hline
  obtain rfl := List.mem_singleton.1 hline
  have hbehind : Quiet (" (strict=".toList ++ LogEntry.truth strict ++ [')']) := by
    cases strict <;> decide
  have htags := Tone.info.tags_read_toned (by decide : Quiet "Parsing ".toList) hbehind rfl
    query.literal
  simpa using Console.exists_printed_of_tags htags

/-- A warning whose wording has no brackets can be shown. -/
theorem printable_warned {warning : ConfigWarning} (h : '[' ∉ warning.message) :
    (warned warning).Printable := by
  intro line hline
  obtain rfl := List.mem_singleton.1 hline
  have htags := Markup.tags_read_label .warning (by decide : Bare [])
    (by decide : Bare "Warning:".toList) warning.message
  rw [Markup.tags_read_of_noBracket h] at htags
  exact Console.exists_printed_of_tags htags

end Notice

end CardQuery
