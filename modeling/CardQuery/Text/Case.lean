import CardQuery.Text.Case.Table

/-!
# Small letters

A text with its capital letters replaced by small ones.  Of the capitals only the dotted I has no
single small letter, and only the sigma has two, one of them for the end of a word.

Main results:

- `lower_of_ascii` says that a text of plain characters is changed character by character.
-/

namespace CardQuery

namespace Text

/-- The single small letter of a capital letter. -/
def smallOf? (c : Char) : Option Char :=
  let n := c.toNat
  let run? := capitalRuns.find? fun run =>
    run.first ≤ n && n ≤ run.last && (n - run.first) % run.step == 0
  run?.map fun run => Char.ofNat (run.small + (n - run.first))

/-- Whether the sigma between two parts of a text, the first one in reverse, ends a word: of the
characters that are not passed over, the one before it has a case and the one after it has none. -/
def endsWord (before after : Text) : Bool :=
  let cased (part : Text) : Bool :=
    (part.dropWhile (inRanges passedRanges)).head?.any (inRanges casedRanges)
  cased before && !cased after

/-- The small letters of a character between two parts of a text, the first one in reverse. -/
def lowerChar (before : Text) (c : Char) (after : Text) : Text :=
  if c.toNat < 0x80 then [c.toLower]
  else if c = 'Σ' then [if endsWord before after then 'ς' else 'σ']
  else if c = 'İ' then ['i', '\u0307']
  else [(smallOf? c).getD c]

/-- The rest of a text in small letters; what stands before it is given in reverse. -/
def lowerAfter (before : Text) : Text → Text
  | [] => []
  | c :: t => lowerChar before c t ++ lowerAfter (c :: before) t

/-- A text in small letters. -/
def lower (t : Text) : Text := lowerAfter [] t

/-- Plain characters are changed one by one, whatever stands before them. -/
theorem lowerAfter_of_ascii {t : Text} (h : ∀ c ∈ t, c.toNat < 0x80) (before : Text) :
    lowerAfter before t = t.map Char.toLower := by
  induction t generalizing before with
  | nil => rfl
  | cons c t ih =>
    have hc := h c List.mem_cons_self
    have ht := ih fun d hd => h d (List.mem_cons_of_mem c hd)
    simp [lowerAfter, lowerChar, hc, ht]

/-- A text of plain characters is changed character by character. -/
theorem lower_of_ascii {t : Text} (h : ∀ c ∈ t, c.toNat < 0x80) :
    lower t = t.map Char.toLower :=
  lowerAfter_of_ascii h []

end Text

end CardQuery
