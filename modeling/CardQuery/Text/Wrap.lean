import CardQuery.Text.Blank
import CardQuery.Text.Cluster

/-!
# Lines of a given width

A text as lines on a grid of cells: tabs are replaced by spaces, words are put on as few lines as
they need, and each line is cut or filled to the width.

Main results:

- `expandTabs_of_noTab` says that a text without tabs stays as it is.
- `width_fit` says that a line that is not too wide is fitted to the width asked for.
- `flatten_fill` says that no character of the words is lost when they are put on lines.
-/

namespace CardQuery

namespace Text

/-! ## Tabs -/

/-- The distance between two tab stops. -/
def tabStop : Nat := 8

/-- The parts of a line between its tabs, put together from a column on.  A tab takes at least one
space and as many as lead to a tab stop. -/
def joinAtStops (column : Nat) : List Text → Text
  | [] => []
  | [last] => last
  | part :: rest =>
    let reached := column + width (part ++ [' '])
    let stop := (reached + (tabStop - 1)) / tabStop * tabStop
    part ++ ' ' :: List.replicate (stop - reached) ' ' ++ joinAtStops stop rest

/-- A line with each tab replaced by spaces up to a tab stop. -/
def expandLine (line : Text) : Text := joinAtStops 0 (partsBetween (· == '\t') line)

/-- A text with each tab replaced by spaces up to a tab stop of its line. -/
def expandTabs (t : Text) : Text :=
  List.intercalate ['\n'] ((partsBetween (· == '\n') t).map expandLine)

/-- A line without tabs stays as it is. -/
theorem expandLine_of_noTab {line : Text} (h : '\t' ∉ line) : expandLine line = line := by
  have hparts : partsBetween (· == '\t') line = [line] :=
    partsBetween_of_noEnd fun c hc => beq_eq_false_iff_ne.2 fun heq => h (heq ▸ hc)
  rw [expandLine, hparts]
  rfl

/-- A text without tabs stays as it is. -/
theorem expandTabs_of_noTab {t : Text} (h : '\t' ∉ t) : expandTabs t = t := by
  have hlines : ∀ line ∈ partsBetween (· == '\n') t, expandLine line = id line := fun line hline =>
    expandLine_of_noTab fun htab => h (mem_of_mem_partsBetween hline htab)
  rw [expandTabs, List.map_congr_left hlines, List.map_id, intercalate_partsBetween]

/-! ## Words -/

/-- Whether a character belongs to a word. -/
def isInk (c : Char) : Bool := !isBlank c

/-- Cutting off the blanks and the word at the beginning of a text that is not blank shortens
it. -/
theorem length_dropWord_lt {t : Text} (h : t.dropWhile isBlank ≠ []) :
    (((t.dropWhile isBlank).dropWhile isInk).dropWhile isBlank).length < t.length := by
  cases hrest : t.dropWhile isBlank with
  | nil => exact absurd hrest h
  | cons c rest =>
    have hc : isInk c = true := by
      have hnot := List.head_dropWhile_not isBlank h
      simp only [hrest, List.head_cons] at hnot
      simp [isInk, hnot]
    have hwhole := (List.dropWhile_sublist isBlank (l := t)).length_le
    have hword := (List.dropWhile_sublist isInk (l := rest)).length_le
    have hblank := (List.dropWhile_sublist isBlank (l := rest.dropWhile isInk)).length_le
    rw [hrest, List.length_cons] at hwhole
    rw [List.dropWhile_cons_of_pos hc]
    omega

/-- The words of a text, each with the blanks after it and the first one also with the blanks
before it. -/
def words (t : Text) : List Text :=
  let lead := t.takeWhile isBlank
  let ink := t.dropWhile isBlank
  if _h : ink = [] then []
  else
    let after := ink.dropWhile isInk
    (lead ++ ink.takeWhile isInk ++ after.takeWhile isBlank) :: words (after.dropWhile isBlank)
termination_by t.length
decreasing_by exact length_dropWord_lt _h

/-! ## Lines -/

/-- The lines that words are put on after `line`, of which `used` cells are taken.  A word begins a
new line if the cells that are left do not hold it without the blanks at its end. -/
def fill (w : Nat) (line : Text) (used : Nat) : List Text → List Text
  | [] => [line]
  | word :: rest =>
    if used + width (stripEnd word) ≤ w then fill w (line ++ word) (used + width word) rest
    else if line.isEmpty then fill w word (width word) rest
    else line :: fill w word (width word) rest

/-- A line without as many of the blanks at its end as it has characters too many. -/
def trimTo (w : Nat) (line : Text) : Text :=
  line.take (max w (stripEnd line).length)

/-- A line with spaces for the cells that it lacks of `w`. -/
def pad (w : Nat) (line : Text) : Text := line ++ List.replicate (w - width line) ' '

/-- A line of `w` cells: what is too much is replaced by three dots, and what is missing is filled
up.  A joiner at the end of the line hides the first space, which a second filling makes up for. -/
def fit (w : Nat) (line : Text) : Text :=
  pad w (pad w (if width line ≤ w then line else cut (w - 1) line ++ ['…']))

/-- The lines of `w` cells that hold one line of text. -/
def wrapLine (w : Nat) (line : Text) : List Text :=
  let line := expandLine line
  let lines :=
    match words line with
    | [] => [line]
    | all => fill w [] 0 all
  lines.map fun line => fit w (trimTo w line)

/-- The lines of `w` cells that hold a text. -/
def wrap (w : Nat) (t : Text) : List Text :=
  (partsBetween (· == '\n') t).flatMap (wrapLine w)

/-- No character is lost when words are put on lines. -/
theorem flatten_fill (w : Nat) (line : Text) (used : Nat) (all : List Text) :
    (fill w line used all).flatten = line ++ all.flatten := by
  induction all generalizing line used with
  | nil => simp [fill]
  | cons word rest ih =>
    unfold fill
    split
    next => simp [ih]
    next =>
      split
      next hempty => simp [ih, List.isEmpty_iff.1 hempty]
      next => simp [ih]

/-! ## Widths of lines -/

/-- Whether a text ends in a joiner that hides what comes next. -/
def endsOpen : Text → Bool
  | [] => false
  | c :: t =>
    if c = joiner then
      match t with
      | [] => true
      | _ :: rest => endsOpen rest
    else endsOpen t

/-- A character that is no joiner changes nothing about how the text after it ends. -/
theorem endsOpen_cons {c : Char} (h : c ≠ joiner) (t : Text) : endsOpen (c :: t) = endsOpen t := by
  rw [endsOpen.eq_def]
  simp only [if_neg h]

/-- Spaces are one cell wide. -/
theorem widthAfter_replicate_space (last? : Option Char) (n : Nat) :
    widthAfter last? (List.replicate n ' ') = n := by
  have hspace : charWidth ' ' = 1 := by decide
  rw [widthAfter_of_plain]
  · simp [hspace]
  · simp [joiner]
  · simp [selector]

/-- Spaces after a text add their number to its width, but a joiner at its end hides the first
one. -/
theorem widthAfter_append_spaces (last? : Option Char) (t : Text) (n : Nat) :
    widthAfter last? (t ++ List.replicate n ' ') =
      widthAfter last? t + (if endsOpen t then n - 1 else n) := by
  fun_induction widthAfter last? t with
  | case1 last? => simp [endsOpen, widthAfter_replicate_space]
  | case2 last? =>
    cases n with
    | zero => simp [widthAfter, endsOpen]
    | succ n => simp [widthAfter, endsOpen, List.replicate_succ, widthAfter_replicate_space]
  | case3 last? d rest ih => simpa [widthAfter, endsOpen] using ih
  | case4 last? t hne ih =>
    rw [List.cons_append, widthAfter.eq_def, endsOpen_cons hne]
    simp only [if_neg hne, if_true, ih]
    omega
  | case5 last? c t hjoiner hselector ih =>
    rw [List.cons_append, widthAfter.eq_def, endsOpen_cons hjoiner]
    simp only [if_neg hjoiner, if_neg hselector, ih]
    omega

/-- A text that spaces follow does not end in a joiner that hides what comes next. -/
theorem endsOpen_append_spaces (t : Text) {n : Nat} (h : 0 < n) :
    endsOpen (t ++ List.replicate n ' ') = false := by
  have hspaces : ∀ m : Nat, endsOpen (List.replicate m ' ') = false := by
    intro m
    induction m with
    | zero => rfl
    | succ m ih => rw [List.replicate_succ, endsOpen_cons (by decide), ih]
  obtain ⟨m, rfl⟩ : ∃ m, n = m + 1 := ⟨n - 1, by omega⟩
  fun_induction endsOpen t with
  | case1 => exact hspaces (m + 1)
  | case2 => simpa [endsOpen, List.replicate_succ] using hspaces m
  | case3 d rest ih => simpa [endsOpen] using ih
  | case4 c t hne ih => rw [List.cons_append, endsOpen_cons hne, ih]

/-- A line of at most `w` cells takes `w` cells when it is filled up twice. -/
theorem width_pad_pad {w : Nat} {line : Text} (h : width line ≤ w) :
    width (pad w (pad w line)) = w := by
  have hpad : ∀ t : Text, width (pad w t) =
      width t + (if endsOpen t then w - width t - 1 else w - width t) :=
    fun t => widthAfter_append_spaces none t (w - width t)
  by_cases hfull : width line = w
  · have hsame : pad w line = line := by simp [pad, hfull]
    rw [hsame, hpad line, hfull]
    simp
  · have hclosed : endsOpen (pad w line) = false :=
      endsOpen_append_spaces line (by omega)
    rw [hpad (pad w line), hclosed, hpad line]
    split <;> simp <;> omega

/-- A line that is not too wide is fitted to the width asked for. -/
theorem width_fit {w : Nat} {line : Text} (h : width line ≤ w) : width (fit w line) = w := by
  rw [fit, if_pos h, width_pad_pad h]

end Text

end CardQuery
