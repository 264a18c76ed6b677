import CardQuery.Proofs.Text.Strip
import CardQuery.PropertyFilter
import Mathlib.Data.List.Basic

/-!
# Property filters in writing

A property filter is written as its name, its comparator and its value one after the other.  The
three parts can be told apart again if the name is an identifier and the value does not go on with
a character of a comparator.  A strict reading asks in addition for a known property and a number.

Main results:

- `isName_iff` and `isNumber_iff` say which texts are names and numbers.
- `Comparator.split?_append` and `Comparator.split?_written` say where an expression is split.
- `readLenient_eq_ok_iff` says which expressions are filters, and which filter each of them is.
- `read_strict_iff` says what a strict reading asks in addition.
-/

namespace CardQuery

namespace Text

/-! ## Names and numbers -/

/-- A text of one or more digits. -/
def Digits (t : Text) : Prop := t ≠ [] ∧ ∀ c ∈ t, '0' ≤ c ∧ c ≤ '9'

/-- A number: optionally a minus sign, then digits, then optionally a point and more digits. -/
def Numeral (t : Text) : Prop :=
  ∃ sign whole fraction : Text, t = sign ++ whole ++ fraction ∧ (sign = [] ∨ sign = ['-']) ∧
    Digits whole ∧ (fraction = [] ∨ ∃ digits, Digits digits ∧ fraction = '.' :: digits)

/-- A letter of plain text or an underscore. -/
def NameLetter (c : Char) : Prop := ('A' ≤ c ∧ c ≤ 'Z') ∨ ('a' ≤ c ∧ c ≤ 'z') ∨ c = '_'

/-- An identifier: a letter or an underscore, then letters, underscores and digits. -/
def Identifier (t : Text) : Prop :=
  ∃ first rest, t = first :: rest ∧ NameLetter first ∧
    ∀ c ∈ rest, NameLetter c ∨ ('0' ≤ c ∧ c ≤ '9')

end Text

namespace PropertyFilter

open Text

theorem isNameStart_iff {c : Char} : isNameStart c = true ↔ NameLetter c := by
  simp [isNameStart, NameLetter, or_assoc]

/-- The names of properties are the identifiers. -/
theorem isName_iff {t : Text} : isName t = true ↔ t.Identifier := by
  cases t with
  | nil => simp [isName, Identifier]
  | cons first rest =>
    simp [isName, Identifier, isNameStart_iff, isDigit]

instance : DecidablePred Text.Identifier := fun t =>
  decidable_of_iff (isName t = true) isName_iff

theorem isDigits_iff {t : Text} : isDigits t = true ↔ t.Digits := by
  cases t <;> simp [isDigits, Digits, isDigit]

/-- A digit is no point. -/
theorem isDigit_point : isDigit '.' = false := by decide

/-- The digits in front of a text are cut off where it ends or goes on with a point. -/
theorem cut_digits {whole fraction : Text} (hwhole : whole.Digits)
    (hfraction : fraction = [] ∨ ∃ digits, fraction = '.' :: digits) :
    (whole ++ fraction).takeWhile isDigit = whole ∧
      (whole ++ fraction).dropWhile isDigit = fraction := by
  have hkeep : ∀ c ∈ whole, isDigit c = true := by
    intro c hc
    simpa [isDigit] using hwhole.2 c hc
  rw [List.takeWhile_append_of_pos hkeep, List.dropWhile_append_of_pos hkeep]
  rcases hfraction with rfl | ⟨digits, rfl⟩
  · simp
  · simp [isDigit_point]

/-- Whether a text is a number without a sign. -/
def isUnsigned (t : Text) : Bool :=
  isDigits (t.takeWhile isDigit) &&
    match t.dropWhile isDigit with
    | [] => true
    | c :: rest => c == '.' && isDigits rest

theorem isNumber_minus (t : Text) : isNumber ('-' :: t) = isUnsigned t := rfl

theorem isNumber_of_ne {t : Text} (h : ∀ rest, t ≠ '-' :: rest) : isNumber t = isUnsigned t := by
  unfold isNumber
  split
  next rest => exact absurd rfl (h rest)
  next => rfl

/-- The check for a number without a sign finds digits and a fraction. -/
theorem isUnsigned_iff {t : Text} :
    isUnsigned t = true ↔ ∃ whole fraction, t = whole ++ fraction ∧ Digits whole ∧
      (fraction = [] ∨ ∃ digits, Digits digits ∧ fraction = '.' :: digits) := by
  unfold isUnsigned
  constructor
  · intro h
    rw [Bool.and_eq_true, isDigits_iff] at h
    refine ⟨_, _, (List.takeWhile_append_dropWhile (p := isDigit) (l := t)).symm, h.1, ?_⟩
    cases hfraction : t.dropWhile isDigit with
    | nil => exact Or.inl rfl
    | cons c rest =>
      have hpoint : c = '.' ∧ Digits rest := by
        simpa [hfraction, isDigits_iff] using h.2
      exact Or.inr ⟨rest, hpoint.2, by rw [hpoint.1]⟩
  · rintro ⟨whole, fraction, rfl, hwhole, hfraction⟩
    have hends : fraction = [] ∨ ∃ digits, fraction = '.' :: digits := by
      rcases hfraction with rfl | ⟨digits, _, rfl⟩
      · exact Or.inl rfl
      · exact Or.inr ⟨digits, rfl⟩
    rw [(cut_digits hwhole hends).1, (cut_digits hwhole hends).2, isDigits_iff.2 hwhole]
    rcases hfraction with rfl | ⟨digits, hdigits, rfl⟩
    · rfl
    · simp [isDigits_iff.2 hdigits]

/-- Digits do not begin with a minus sign. -/
theorem digits_ne_minus_cons {whole fraction rest : Text} (h : whole.Digits) :
    whole ++ fraction ≠ '-' :: rest := by
  intro hminus
  rcases List.exists_cons_of_ne_nil h.1 with ⟨c, more, rfl⟩
  have hdigit := h.2 c List.mem_cons_self
  rw [(List.cons.inj hminus).1] at hdigit
  exact absurd hdigit (by decide)

/-- The check for a number finds the numerals. -/
theorem isNumber_iff {t : Text} : isNumber t = true ↔ t.Numeral := by
  constructor
  · by_cases hminus : ∃ rest, t = '-' :: rest
    · rcases hminus with ⟨rest, rfl⟩
      rw [isNumber_minus, isUnsigned_iff]
      rintro ⟨whole, fraction, rfl, hwhole, hfraction⟩
      exact ⟨['-'], whole, fraction, rfl, Or.inr rfl, hwhole, hfraction⟩
    · rw [isNumber_of_ne (not_exists.1 hminus), isUnsigned_iff]
      rintro ⟨whole, fraction, rfl, hwhole, hfraction⟩
      exact ⟨[], whole, fraction, rfl, Or.inl rfl, hwhole, hfraction⟩
  · rintro ⟨sign, whole, fraction, rfl, rfl | rfl, hwhole, hfraction⟩
    · rw [List.nil_append, isNumber_of_ne fun rest => digits_ne_minus_cons hwhole, isUnsigned_iff]
      exact ⟨whole, fraction, rfl, hwhole, hfraction⟩
    · rw [List.append_assoc, List.singleton_append, isNumber_minus, isUnsigned_iff]
      exact ⟨whole, fraction, rfl, hwhole, hfraction⟩

instance : DecidablePred Text.Numeral := fun t =>
  decidable_of_iff (isNumber t = true) isNumber_iff

/-- A letter of plain text, a digit and an underscore are neither a quote nor a blank. -/
theorem plain_of_word {c : Char} (h : NameLetter c ∨ ('0' ≤ c ∧ c ≤ '9')) :
    c ≠ '"' ∧ isBlank c = false := by
  have hrange : 48 ≤ c.toNat ∧ c.toNat ≤ 122 := by
    simp only [NameLetter, Char.le_def, UInt32.le_iff_toNat_le, Char.toNat_val,
      Char.reduceToNat, ← Char.toNat_inj] at h
    omega
  constructor
  · rintro rfl
    exact absurd hrange (by decide)
  · simp [isBlank]
    omega

/-- A numeral holds neither quotes nor blanks. -/
theorem plain_of_digits {t : Text} (h : t.Digits) : t.Plain := fun c hc =>
  plain_of_word (Or.inr (h.2 c hc))

/-- An identifier holds neither quotes nor blanks. -/
theorem plain_of_identifier {t : Text} (h : t.Identifier) : t.Plain := by
  rcases h with ⟨first, rest, rfl, hfirst, hrest⟩
  intro c hc
  rcases List.mem_cons.1 hc with rfl | hc
  · exact plain_of_word (Or.inl hfirst)
  · exact plain_of_word (hrest c hc)

end PropertyFilter

/-! ## Where an expression is split -/

namespace Comparator

/-- A comparator holds neither quotes nor blanks. -/
theorem symbol_plain (k : Comparator) : k.symbol.Plain := by
  cases k <;> decide

theorem isMark_iff {c : Char} : isMark c = true ↔ c ∈ ['=', '!', '<', '>'] := by
  simp [isMark, or_assoc]

/-- A comparator begins with a character of comparators. -/
theorem exists_symbol_cons (k : Comparator) :
    ∃ c rest, k.symbol = c :: rest ∧ isMark c = true := by
  cases k <;> exact ⟨_, _, rfl, by decide⟩

theorem isMark_eq_false_iff {c : Char} : isMark c = false ↔ c ∉ ['=', '!', '<', '>'] := by
  rw [← isMark_iff, Bool.not_eq_true]

theorem isMark_of_head?_symbol (k : Comparator) (value : Text) :
    ∀ c ∈ (k.symbol ++ value).head?, isMark c = true := by
  rcases k.exists_symbol_cons with ⟨c, rest, hsymbol, hc⟩
  rw [hsymbol]
  rintro d ⟨⟩
  exact hc

/-- An expression is cut in front of its first character of comparators. -/
theorem split?_append {lead t : Text} (hlead : ∀ c ∈ lead, isMark c = false)
    (ht : ∀ c ∈ t.head?, isMark c = true) :
    split? (lead ++ t) = (read? t).map fun found => (lead, found.1, found.2) := by
  have hkeep : ∀ c ∈ lead, (!isMark c) = true := by
    intro c hc
    simp [hlead c hc]
  have hstop : t.takeWhile (fun c => !isMark c) = [] ∧ t.dropWhile (fun c => !isMark c) = t := by
    cases t with
    | nil => exact ⟨rfl, rfl⟩
    | cons c t => simp [ht c rfl]
  rw [split?, List.takeWhile_append_of_pos hkeep, List.dropWhile_append_of_pos hkeep, hstop.1,
    hstop.2, List.append_nil]

/-- An expression is split at its first comparator, unless the comparator could be a longer one. -/
theorem split?_written {lead value : Text} (k : Comparator) (hlead : ∀ c ∈ lead, isMark c = false)
    (hvalue : ∀ rest, value ≠ '=' :: rest) :
    split? (lead ++ k.symbol ++ value) = some (lead, k, value) := by
  rw [List.append_assoc, split?_append hlead (k.isMark_of_head?_symbol value),
    read?_symbol k hvalue]
  rfl

end Comparator

/-! ## Which expressions are filters -/

namespace PropertyFilter

open Comparator

/-- What an expression has to be in order to be read: the name is an identifier, and the value is
not empty and does not go on with a character of a comparator. -/
structure Readable (f : PropertyFilter) : Prop where
  name : f.property.Identifier
  value_ne_nil : f.value ≠ []
  value_head : ∀ c ∈ f.value.head?, c ∉ ['=', '!', '<', '>']

/-- An identifier holds no character of a comparator. -/
theorem isMark_eq_false_of_identifier {t : Text} (h : t.Identifier) :
    ∀ c ∈ t, isMark c = false := by
  have hplain : ∀ c ∈ t, isNameStart c = true ∨ Text.isDigit c = true := by
    rcases h with ⟨first, rest, rfl, hfirst, hrest⟩
    intro c hc
    rcases List.mem_cons.1 hc with rfl | hc
    · exact Or.inl (isNameStart_iff.2 hfirst)
    · rcases hrest c hc with hletter | hdigit
      · exact Or.inl (isNameStart_iff.2 hletter)
      · exact Or.inr (by simpa [Text.isDigit] using hdigit)
  intro c hc
  by_contra hmark
  rw [Bool.not_eq_false, isMark_iff] at hmark
  simp only [List.mem_cons, List.not_mem_nil, or_false] at hmark
  rcases hmark with rfl | rfl | rfl | rfl
  · exact absurd (hplain _ hc) (by decide)
  · exact absurd (hplain _ hc) (by decide)
  · exact absurd (hplain _ hc) (by decide)
  · exact absurd (hplain _ hc) (by decide)

/-- An expression is a filter exactly if it is the written form of a readable one, which is the
filter that it is. -/
theorem readLenient_eq_ok_iff {expression : Text} {f : PropertyFilter} :
    readLenient expression = .ok f ↔ expression = f.written ∧ f.Readable := by
  constructor
  · intro h
    unfold readLenient at h
    split at h
    next => cases h
    next name comparator value hsplit =>
      split at h
      next => cases h
      next hname =>
        split at h
        next => cases h
        next c rest =>
          split at h
          next => cases h
          next hmark =>
            cases h
            refine ⟨written_of_split? hsplit, ⟨?_, List.cons_ne_nil c rest, ?_⟩⟩
            · exact isName_iff.1 (by simpa using hname)
            · intro d hd
              obtain rfl : c = d := by simpa using hd
              rw [← isMark_iff]
              exact hmark
  · rintro ⟨rfl, hreadable⟩
    rcases f with ⟨name, comparator, value⟩
    obtain ⟨c, rest, rfl⟩ : ∃ c rest, value = c :: rest :=
      List.exists_cons_of_ne_nil hreadable.value_ne_nil
    have hmark : isMark c = false := by
      rw [Bool.eq_false_iff, Ne, isMark_iff]
      exact hreadable.value_head c rfl
    have hsplit : split? (written ⟨name, comparator, c :: rest⟩) =
        some (name, comparator, c :: rest) := by
      refine split?_written comparator (isMark_eq_false_of_identifier hreadable.name) ?_
      intro others heq
      rw [(List.cons.inj heq).1] at hmark
      exact absurd hmark (by decide)
    have hname : isName name = true := isName_iff.2 hreadable.name
    simp [readLenient, hsplit, hname, hmark]

instance : DecidablePred Readable := fun f =>
  decidable_of_iff (readLenient f.written = .ok f)
    (readLenient_eq_ok_iff.trans (and_iff_right rfl))

/-! ## Strict readings -/

/-- What a strict reading asks of a filter: a known property and a number to compare with. -/
def Known (f : PropertyFilter) : Prop := f.property ∈ knownProperties ∧ f.value.Numeral

theorem check_eq_ok_iff {f : PropertyFilter} : f.check = .ok () ↔ f.Known := by
  unfold check Known
  by_cases hname : f.property ∈ knownProperties
  · by_cases hvalue : isNumber f.value = true
    · simp [hname, hvalue, isNumber_iff.1 hvalue]
    · simp [hname, hvalue, ← isNumber_iff]
  · simp [hname]

theorem read_lenient (expression : Text) : read false expression = readLenient expression := by
  unfold read
  cases readLenient expression <;> rfl

/-- A strict reading accepts the known filters among those that a lenient one accepts. -/
theorem read_strict_iff {expression : Text} {f : PropertyFilter} :
    read true expression = .ok f ↔ read false expression = .ok f ∧ f.Known := by
  rw [read_lenient, read, ← check_eq_ok_iff]
  cases readLenient expression with
  | error fault => simp
  | ok filter =>
    simp only [if_true]
    cases hcheck : filter.check with
    | error fault =>
      simp only [Except.map, reduceCtorEq, Except.ok.injEq, false_iff, not_and]
      rintro rfl
      rw [hcheck]
      exact nofun
    | ok u =>
      simp only [Except.map, Except.ok.injEq, iff_self_and]
      rintro rfl
      exact hcheck

end PropertyFilter

end CardQuery
