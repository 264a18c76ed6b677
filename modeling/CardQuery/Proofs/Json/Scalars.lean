import CardQuery.Json.Reader
import CardQuery.Json.Writer
import CardQuery.Proofs.Text.Hexadecimal

/-!
# Texts and numbers in JSON

A text with any characters is read back from between its quotes, whether a character is written as
itself, by a short escape or by the numbers of its sixteen bit units.  A whole number is read back
from its numeral, unless what follows goes on with the number.

Main results:

- `readUnits?_writeChar` says that the units of a character are read back from what is written for
  it.
- `readString?_written` says that a text is read back from between its quotes.
- `readNumber?_ofNat` says that a whole number is read back from its numeral.
-/

namespace CardQuery

/-- A character has units of at most sixteen bits. -/
theorem Text.lt_of_mem_charUnits {c : Char} {u : Nat} (h : u ∈ Text.charUnits c) : u < 0x10000 := by
  have hscalar := Text.toNat_scalar c
  unfold Text.charUnits at h
  dsimp only at h
  split at h
  next hsmall =>
    rw [List.mem_singleton.1 h]
    exact hsmall
  next hlarge =>
    simp only [List.mem_cons, List.not_mem_nil, or_false] at h
    omega

/-- A character of less than seventeen bits is its only unit. -/
theorem Text.charUnits_of_lt {c : Char} (h : c.toNat < 0x10000) : Text.charUnits c = [c.toNat] := by
  simp [Text.charUnits, h]

namespace Json

/-! ## Characters -/

/-- A unit is read back from its four hexadecimal digits. -/
theorem readUnits?_hexadecimal {u : Nat} (h : u < 0x10000) (t : Text) :
    readUnits? ('\\' :: 'u' :: (Text.hexadecimal 4 u ++ t)) =
      (readUnits? t).map fun found => (u :: found.1, found.2) := by
  have hlength : (Text.hexadecimal 4 u).length = 4 := Text.length_hexadecimal (by decide) h
  have hdigits : (Text.hexadecimal 4 u).all isHexDigit = true :=
    List.all_eq_true.2 (Text.forall_mem_hexadecimal (by decide) 4 u)
  have hvalue : Text.toNat 16 (Text.hexadecimal 4 u) = u := Text.toNat_hexadecimal 4 u
  match hnumeral : Text.hexadecimal 4 u, hlength with
  | [a, b, c, d], _ =>
    rw [hnumeral] at hdigits hvalue
    simp only [List.cons_append, List.nil_append, readUnits?, hdigits, hvalue, if_true]

/-- Units are read back from their numerals. -/
theorem readUnits?_escapes {us : List Nat} (h : ∀ u ∈ us, u < 0x10000) (t : Text) :
    readUnits? ((us.flatMap fun u => '\\' :: 'u' :: Text.hexadecimal 4 u) ++ t) =
      (readUnits? t).map fun found => (us ++ found.1, found.2) := by
  induction us with
  | nil => simp
  | cons u us ih =>
    have hrest := ih fun v hv => h v (List.mem_cons_of_mem u hv)
    rw [List.flatMap_cons, List.append_assoc, List.cons_append, List.cons_append,
      readUnits?_hexadecimal (h u List.mem_cons_self), hrest, Option.map_map]
    rfl

/-- A unit is read back from a short escape. -/
theorem readUnits?_short {c e : Char} (hne : c ≠ 'u') (h : shortEscape? c = some e) (t : Text) :
    readUnits? ('\\' :: c :: t) =
      (readUnits? t).map fun found => (e.toNat :: found.1, found.2) := by
  rw [readUnits?, h]
  · rfl
  · rintro a b c' d rest rfl -
    exact hne rfl

/-- A character that needs no escape is read as its unit. -/
theorem readUnits?_plain {c : Char} (hquote : c ≠ '"') (hslash : c ≠ '\\') (h : 0x20 ≤ c.toNat)
    (t : Text) :
    readUnits? (c :: t) = (readUnits? t).map fun found => (c.toNat :: found.1, found.2) := by
  have hnot : ¬(c.toNat < 0x20 ∨ c = '\\') := by
    rintro (hlow | rfl)
    · omega
    · exact hslash rfl
  rw [readUnits?]
  · simp [hnot]
  · exact fun heq => hquote heq
  · rintro a b c' d rest rfl -
    exact hslash rfl
  · rintro d rest rfl -
    exact hslash rfl

/-- The units of a character are read back from the way it is written. -/
theorem readUnits?_writeChar (c : Char) (t : Text) :
    readUnits? (writeChar c ++ t) =
      (readUnits? t).map fun found => (Text.charUnits c ++ found.1, found.2) := by
  unfold writeChar
  split_ifs with hprotected hplain hfeed hreturn htab hback hform
  · rcases hprotected with rfl | rfl
    · exact readUnits?_short (by decide) rfl t
    · exact readUnits?_short (by decide) rfl t
  · rw [not_or] at hprotected
    rw [Text.charUnits_of_lt (by omega)]
    exact readUnits?_plain hprotected.1 hprotected.2 hplain.1 t
  · subst hfeed
    exact readUnits?_short (by decide) rfl t
  · subst hreturn
    exact readUnits?_short (by decide) rfl t
  · subst htab
    exact readUnits?_short (by decide) rfl t
  · obtain rfl : c = '\x08' := Char.toNat_inj.1 hback
    exact readUnits?_short (by decide) rfl t
  · obtain rfl : c = '\x0c' := Char.toNat_inj.1 hform
    exact readUnits?_short (by decide) rfl t
  · exact readUnits?_escapes (fun u => Text.lt_of_mem_charUnits) t

/-! ## Texts -/

/-- The units of a text are read up to the closing quote. -/
theorem readUnits?_written (t rest : Text) :
    readUnits? (t.flatMap writeChar ++ '"' :: rest) = some (Text.units t, rest) := by
  induction t with
  | nil => simp [readUnits?, Text.units]
  | cons c t ih =>
    rw [List.flatMap_cons, List.append_assoc, readUnits?_writeChar, ih]
    rfl

/-- A text is read back from between its quotes. -/
theorem readString?_written (t rest : Text) :
    readString? (t.flatMap writeChar ++ '"' :: rest) = some (t, rest) := by
  rw [readString?, readUnits?_written, Option.bind_some, Text.ofUnits?_units]
  rfl

/-! ## Numbers -/

/-- Whether a text does not go on with a number that stands in front of it. -/
def EndsNumber (t : Text) : Prop :=
  ∀ c ∈ t.head?, Text.isDigit c = false ∧ c ≠ '.' ∧ c ≠ 'e' ∧ c ≠ 'E'

theorem EndsNumber.readFraction? {t : Text} (h : EndsNumber t) :
    readFraction? t = some ([], t) := by
  rw [Json.readFraction?.eq_def]
  split
  next rest => exact absurd rfl (h '.' rfl).2.1
  next => rfl

theorem EndsNumber.readExponent? {t : Text} (h : EndsNumber t) :
    readExponent? t = some ([], t) := by
  cases t with
  | nil => rfl
  | cons c t =>
    obtain ⟨-, -, hsmall, hcapital⟩ := h c rfl
    simp [Json.readExponent?, hsmall, hcapital]

/-- The digits of a numeral end where the number does. -/
theorem readDigits?_ofNat (n : Nat) {rest : Text} (h : EndsNumber rest) :
    readDigits? (Text.ofNat n ++ rest) = some (Text.ofNat n, rest) := by
  obtain ⟨hne, hdigits⟩ := Text.digits_ofNat n
  have hall : ∀ c ∈ Text.ofNat n, Text.isDigit c = true := fun c hc => decide_eq_true (hdigits c hc)
  have hnone : rest.takeWhile Text.isDigit = [] ∧ rest.dropWhile Text.isDigit = rest := by
    cases rest with
    | nil => exact ⟨rfl, rfl⟩
    | cons c rest => simp [(h c rfl).1]
  have hempty : (Text.ofNat n).isEmpty = false := by simpa using hne
  simp only [readDigits?, List.takeWhile_append_of_pos hall, List.dropWhile_append_of_pos hall,
    hnone, List.append_nil, hempty, Bool.false_eq_true, if_false]

/-- A whole number is read back from its numeral. -/
theorem readNumber?_ofNat (negative : Bool) (n : Nat) {rest : Text} (h : EndsNumber rest) :
    readNumber? negative (Text.ofNat n ++ rest) =
      some (integer (if negative then -(n : Int) else n), rest) := by
  have hzero : ¬((Text.ofNat n).length ≠ 1 ∧ (Text.ofNat n).head? = some '0') := by
    rintro ⟨hlength, hhead⟩
    rcases Nat.eq_zero_or_pos n with rfl | hpos
    · exact hlength rfl
    · exact Text.head?_ofNat hpos hhead
  simp [readNumber?, readDigits?_ofNat n h, hzero, h.readFraction?, h.readExponent?,
    Text.toNat_ofNat]

end Json

end CardQuery
