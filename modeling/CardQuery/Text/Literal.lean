import CardQuery.Text.Printable

/-!
# Quoted literals

A text written on one line between quotes: printable characters stand for themselves, the others
are written with a backslash.  The quotes are single ones, unless the text holds a single quote
and no double quote.

Main results:

- `literal_of_plain` says that a text of printable characters without quotes and backslashes is
  written between single quotes as it is.
-/

namespace CardQuery

namespace Text

/-- The lower case hexadecimal numeral of `n` with at least `places` digits. -/
def hexadecimal (places n : Nat) : Text :=
  let digits := Nat.toDigits 16 n
  List.replicate (places - digits.length) '0' ++ digits

/-- How a character is written inside a literal that ends at `quote`. -/
def escaped (quote c : Char) : Text :=
  if c = '\\' ∨ c = quote then ['\\', c]
  else if c = '\n' then ['\\', 'n']
  else if c = '\r' then ['\\', 'r']
  else if c = '\t' then ['\\', 't']
  else if isPrintable c then [c]
  else if c.toNat < 0x100 then '\\' :: 'x' :: hexadecimal 2 c.toNat
  else if c.toNat < 0x10000 then '\\' :: 'u' :: hexadecimal 4 c.toNat
  else '\\' :: 'U' :: hexadecimal 8 c.toNat

/-- The quote that a text is written between. -/
def quoteFor (t : Text) : Char :=
  if '\'' ∈ t ∧ '"' ∉ t then '"' else '\''

/-- A text as a quoted literal. -/
def literal (t : Text) : Text :=
  let quote := quoteFor t
  quote :: t.flatMap (escaped quote) ++ [quote]

/-- A text of printable characters without quotes and backslashes is written as it is. -/
theorem literal_of_plain {t : Text}
    (h : ∀ c ∈ t, isPrintable c = true ∧ c ≠ '\\' ∧ c ≠ '\'' ∧ c ≠ '\n' ∧ c ≠ '\r' ∧ c ≠ '\t') :
    literal t = '\'' :: t ++ ['\''] := by
  have hquote : quoteFor t = '\'' := by
    have hnot : '\'' ∉ t := fun hmem => (h _ hmem).2.2.1 rfl
    simp [quoteFor, hnot]
  have hbody : t.flatMap (escaped '\'') = t := by
    induction t with
    | nil => rfl
    | cons c t ih =>
      obtain ⟨hp, h1, h2, h3, h4, h5⟩ := h c (by simp)
      have hnot : '\'' ∉ t := fun hmem => (h _ (by simp [hmem])).2.2.1 rfl
      have ht := ih (fun d hd => h d (by simp [hd])) (by simp [quoteFor, hnot])
      simp [escaped, h1, h2, h3, h4, h5, hp, ht]
  simp [literal, hquote, hbody]

end Text

end CardQuery
