import CardQuery.Text.Width.Table

/-!
# Cell widths

How many cells of a fixed-pitch grid a text takes.  A character takes no, one or two cells.  A
joiner hides the character after it, and a selector makes an emoji of the character before it.

Main results:

- `width_of_plain` says that widths add up in a text without joiners and selectors.
- `width_of_ascii` says that a text of the characters from the space to the tilde is as wide as
  it is long.
-/

namespace CardQuery

namespace Text

/-- The character that joins the character after it to the one before it. -/
def joiner : Char := '\u200D'

/-- The character that asks for the character before it to be shown as an emoji. -/
def selector : Char := '\uFE0F'

/-- Whether a character controls a device instead of being shown. -/
def isControl (c : Char) : Bool := c.toNat < 0x20 || (0x7F ≤ c.toNat && c.toNat < 0xA0)

/-- How many cells a character takes. -/
def charWidth (c : Char) : Nat :=
  if 0x20 ≤ c.toNat && c.toNat < 0x7F then 1
  else if isControl c || inRanges emptyRanges c then 0
  else if inRanges wideRanges c then 2
  else 1

/-- How many cells a character takes more when it is shown as an emoji. -/
def emojiGain (c : Char) : Nat := if inRanges emojiRanges c then 1 else 0

/-- How many cells a text takes after the visible character `last?` that a selector can change. -/
def widthAfter : (last? : Option Char) → Text → Nat
  | _, [] => 0
  | last?, c :: t =>
    if c = joiner then
      match t with
      | [] => 0
      | _ :: rest => widthAfter last? rest
    else if c = selector then (last?.map emojiGain).getD 0 + widthAfter none t
    else charWidth c + widthAfter (if charWidth c = 0 then last? else some c) t

/-- How many cells a text takes. -/
def width (t : Text) : Nat := widthAfter none t

/-- Nothing takes no cell. -/
@[simp] theorem width_nil : width [] = 0 := rfl

/-- The cells that the characters of a text take, each by itself. -/
def cells (t : Text) : Nat := t.foldr (fun c n => charWidth c + n) 0

@[simp] theorem cells_nil : cells [] = 0 := rfl

@[simp] theorem cells_cons (c : Char) (t : Text) : cells (c :: t) = charWidth c + cells t := rfl

@[simp] theorem cells_append (s t : Text) : cells (s ++ t) = cells s + cells t := by
  induction s with
  | nil => simp
  | cons c s ih => simp [ih, Nat.add_assoc]

@[simp] theorem cells_replicate (n : Nat) (c : Char) :
    cells (List.replicate n c) = n * charWidth c := by
  induction n with
  | zero => simp
  | succ n ih => simp [List.replicate_succ, ih, Nat.succ_mul, Nat.add_comm]

/-- Without joiners and selectors widths add up after any character. -/
theorem widthAfter_of_plain {t : Text} (hjoiner : joiner ∉ t) (hselector : selector ∉ t)
    (last? : Option Char) : widthAfter last? t = cells t := by
  induction t generalizing last? with
  | nil => rfl
  | cons c t ih =>
    have hcj : c ≠ joiner := fun heq => hjoiner (heq ▸ List.mem_cons_self)
    have hcs : c ≠ selector := fun heq => hselector (heq ▸ List.mem_cons_self)
    have ht := ih (fun hmem => hjoiner (List.mem_cons_of_mem c hmem))
      (fun hmem => hselector (List.mem_cons_of_mem c hmem))
    rw [widthAfter.eq_def]
    simp only [if_neg hcj, if_neg hcs, ht, cells_cons]

/-- Widths add up in a text without joiners and selectors. -/
theorem width_of_plain {t : Text} (hjoiner : joiner ∉ t) (hselector : selector ∉ t) :
    width t = cells t :=
  widthAfter_of_plain hjoiner hselector none

/-- A text of the characters from the space to the tilde is as wide as it is long. -/
theorem width_of_ascii {t : Text} (h : ∀ c ∈ t, 0x20 ≤ c.toNat ∧ c.toNat < 0x7F) :
    width t = t.length := by
  have hjoiner : joiner ∉ t := fun hmem => absurd (h joiner hmem).2 (by decide)
  have hselector : selector ∉ t := fun hmem => absurd (h selector hmem).2 (by decide)
  rw [width_of_plain hjoiner hselector]
  induction t with
  | nil => rfl
  | cons c t ih =>
    have hc := h c List.mem_cons_self
    have hone : charWidth c = 1 := by simp [charWidth, hc.1, hc.2]
    have ht := ih (fun d hd => h d (List.mem_cons_of_mem c hd))
      (fun hmem => hjoiner (List.mem_cons_of_mem c hmem))
      (fun hmem => hselector (List.mem_cons_of_mem c hmem))
    rw [cells_cons, hone, ht, List.length_cons, Nat.add_comm]

end Text

end CardQuery
