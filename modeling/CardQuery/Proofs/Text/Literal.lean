import CardQuery.Proofs.Text.Hexadecimal

/-!
# Reading literals back

A literal is written for one text only.  The quote in front tells which quote is written with a
backslash, and behind it one character after the other can be read back, whatever follows.

Main results:

- `readChar?_escaped` says that a character of a literal is read back.
- `literal_injective` says that different texts have different literals.
-/

namespace CardQuery

namespace Text

/-! ## Characters of a literal -/

/-- The character whose number is written in so many hexadecimal digits, and the text after it. -/
def readNumbered (places : Nat) (t : Text) : Char × Text :=
  (Char.ofNat (toNat 16 (t.take places)), t.drop places)

/-- The character that is written as a backslash, `c` and perhaps a number, and the text after
it. -/
def readEscape (c : Char) (rest : Text) : Char × Text :=
  if c = 'n' then ('\n', rest)
  else if c = 'r' then ('\r', rest)
  else if c = 't' then ('\t', rest)
  else if c = 'x' then readNumbered 2 rest
  else if c = 'u' then readNumbered 4 rest
  else if c = 'U' then readNumbered 8 rest
  else (c, rest)

/-- The character that the inside of a literal begins with, and the text after it. -/
def readChar? : Text → Option (Char × Text)
  | '\\' :: c :: rest => some (readEscape c rest)
  | c :: rest => some (c, rest)
  | [] => none

theorem readNumbered_hexadecimal {places : Nat} (hpos : 0 < places) {c : Char}
    (h : c.toNat < 16 ^ places) (rest : Text) :
    readNumbered places (hexadecimal places c.toNat ++ rest) = (c, rest) := by
  have hlength := length_hexadecimal hpos h
  rw [readNumbered, List.take_left' hlength, List.drop_left' hlength, toNat_hexadecimal,
    Char.ofNat_toNat]

theorem quoteFor_cases (t : Text) : quoteFor t = '\'' ∨ quoteFor t = '"' := by
  unfold quoteFor
  split
  next => exact Or.inr rfl
  next => exact Or.inl rfl

/-- A character of a literal is read back, whatever follows. -/
theorem readChar?_escaped {quote : Char} (hquote : quote = '\'' ∨ quote = '"') (c : Char)
    (rest : Text) : readChar? (escaped quote c ++ rest) = some (c, rest) := by
  have hnumber : c.toNat < 16 ^ 8 := by
    have hvalid : c.toNat < 0xd800 ∨ 0xdfff < c.toNat ∧ c.toNat < 0x110000 := c.valid
    omega
  unfold escaped
  split_ifs with hself hline hreturn htab hshown hshort hlong
  · rcases hself with rfl | rfl
    · rfl
    · rcases hquote with rfl | rfl <;> rfl
  · subst hline
    rfl
  · subst hreturn
    rfl
  · subst htab
    rfl
  · have hslash : c ≠ '\\' := fun heq => hself (Or.inl heq)
    simp [readChar?, hslash]
  · exact congrArg some (readNumbered_hexadecimal (by decide) hshort rest)
  · exact congrArg some (readNumbered_hexadecimal (by decide) hlong rest)
  · exact congrArg some (readNumbered_hexadecimal (by decide) hnumber rest)

/-- The inside of a literal stands for one text only. -/
theorem flatMap_escaped_injective {quote : Char} (hquote : quote = '\'' ∨ quote = '"') :
    Function.Injective fun t : Text => t.flatMap (escaped quote) := by
  have hnil : ∀ c t, escaped quote c ++ t ≠ [] := by
    intro c t hnil
    have hread := readChar?_escaped hquote c t
    rw [hnil] at hread
    cases hread
  intro t u h
  induction t generalizing u with
  | nil =>
    cases u with
    | nil => rfl
    | cons d u => exact absurd (List.flatMap_cons.symm.trans h.symm) (hnil d _)
  | cons c t ih =>
    cases u with
    | nil => exact absurd (List.flatMap_cons.symm.trans h) (hnil c _)
    | cons d u =>
      have hread := readChar?_escaped hquote c (t.flatMap (escaped quote))
      have hsame : escaped quote c ++ t.flatMap (escaped quote) =
          escaped quote d ++ u.flatMap (escaped quote) := by
        rw [← List.flatMap_cons, ← List.flatMap_cons]
        exact h
      rw [hsame, readChar?_escaped hquote d] at hread
      obtain ⟨rfl, hrest⟩ := Prod.mk.inj (Option.some.inj hread)
      rw [ih hrest.symm]

/-! ## Literals -/

/-- A literal ends in the quote that it begins with. -/
theorem getLast?_literal (t : Text) : t.literal.getLast? = some (quoteFor t) :=
  List.getLast?_concat

/-- Different texts have different literals. -/
theorem literal_injective : Function.Injective literal := by
  intro t u h
  obtain ⟨hquote, hbody⟩ := List.cons.inj h
  rw [← hquote] at hbody
  exact flatMap_escaped_injective (quoteFor_cases t) (List.append_inj_left' hbody rfl)

end Text

end CardQuery
