import CardQuery.Proofs.Query.Refusal
import CardQuery.Proofs.Text.Hexadecimal

/-!
# Numbers of flags

A flag is named by a decimal numeral that denotes a number from 0 to 7.  Zeros may stand in front,
so there are such numerals of every length, but behind the zeros there is one digit only: with any
further one the number would be ten or more.

Main results:

- `toNat_eq_zero_iff` says that only zeros denote the number zero.
- `toNat_le_iff` says which numerals denote a number of one digit.
- `writesFlag_iff` says that flags are written as the numerals of the numbers up to the greatest.
- `readFlag_denotes` says which texts name a flag, and how all others are refused.
-/

namespace CardQuery

namespace Text

/-! ## Numerals of small numbers -/

/-- The values of two digits compare as the digits do. -/
theorem digitValue_le_iff {c d : Char} (hc : '0' ≤ c ∧ c ≤ '9') (hd : '0' ≤ d ∧ d ≤ '9') :
    digitValue c ≤ digitValue d ↔ c ≤ d := by
  rw [digitValue_of_digit hc, digitValue_of_digit hd]
  simp only [Char.le_def, UInt32.le_iff_toNat_le, Char.toNat_val, Char.reduceToNat] at *
  omega

theorem digitValue_eq_zero_iff {c : Char} (h : '0' ≤ c ∧ c ≤ '9') : digitValue c = 0 ↔ c = '0' := by
  have hle := digitValue_le_iff h (d := '0') (by decide)
  have hzero : digitValue '0' = 0 := by decide
  rw [hzero, Nat.le_zero] at hle
  rw [hle]
  exact ⟨fun hc => Char.le_antisymm hc h.1, fun hc => hc ▸ Char.le_refl _⟩

/-- Only zeros denote the number zero. -/
theorem toNat_eq_zero_iff {t : Text} (h : ∀ c ∈ t, '0' ≤ c ∧ c ≤ '9') :
    toNat 10 t = 0 ↔ ∀ c ∈ t, c = '0' := by
  induction t using List.reverseRecOn with
  | nil => simp [toNat]
  | append_singleton t c ih =>
    simp only [List.forall_mem_append, List.forall_mem_singleton] at h ⊢
    rw [toNat_concat, ← ih h.1, ← digitValue_eq_zero_iff h.2]
    omega

/-- A numeral denotes at most the number of a digit if it is that digit or one before it, perhaps
with zeros in front. -/
theorem toNat_le_iff {t : Text} (ht : t.Digits) {greatest : Char}
    (hgreatest : '0' ≤ greatest ∧ greatest ≤ '9') :
    toNat 10 t ≤ digitValue greatest ↔
      ∃ zeros digit, t = List.replicate zeros '0' ++ [digit] ∧ digit ≤ greatest := by
  have hten : digitValue greatest < 10 := by
    have hle := (digitValue_le_iff hgreatest (d := '9') (by decide)).2 hgreatest.2
    have hnine : digitValue '9' = 9 := by decide
    omega
  rcases List.eq_nil_or_concat t with rfl | ⟨lead, digit, rfl⟩
  · exact absurd rfl ht.1
  · rw [List.concat_eq_append] at ht ⊢
    have hdigits := ht.2
    simp only [List.forall_mem_append, List.forall_mem_singleton] at hdigits
    obtain ⟨hlead, hdigit⟩ := hdigits
    rw [toNat_concat]
    constructor
    · intro hle
      have hzeros : toNat 10 lead = 0 := by omega
      rw [toNat_eq_zero_iff hlead] at hzeros
      refine ⟨lead.length, digit, ?_, (digitValue_le_iff hdigit hgreatest).1 (by omega)⟩
      rw [← List.eq_replicate_of_mem hzeros]
    · rintro ⟨zeros, last, heq, hle⟩
      obtain ⟨rfl, hlast⟩ := List.append_inj' heq rfl
      obtain rfl : digit = last := List.head_eq_of_cons_eq hlast
      have hzero : toNat 10 (List.replicate zeros '0') = 0 :=
        (toNat_eq_zero_iff hlead).2 fun c hc => List.eq_of_mem_replicate hc
      have hvalue := (digitValue_le_iff hdigit hgreatest).2 hle
      omega

/-! ## How flags are written -/

/-- How a flag is written: any number of zeros, and then one digit from 0 to 7, whose value is the
number of the flag. -/
def WritesFlag (t : Text) (number : Nat) : Prop :=
  ∃ zeros digit, t = List.replicate zeros '0' ++ [digit] ∧ '0' ≤ digit ∧ digit ≤ '7' ∧
    number = digit.toNat - '0'.toNat

/-- Zeros in front of a digit are digits as well. -/
theorem digits_zeros_append {zeros : Nat} {digit : Char} (h : '0' ≤ digit ∧ digit ≤ '9') :
    Digits (List.replicate zeros '0' ++ [digit]) := by
  refine ⟨by simp, ?_⟩
  simp only [List.forall_mem_append, List.forall_mem_singleton]
  refine ⟨fun c hc => ?_, h⟩
  rw [List.eq_of_mem_replicate hc]
  decide

/-- Flags are written as the numerals of the numbers up to the greatest one. -/
theorem writesFlag_iff {t : Text} {number : Nat} :
    t.WritesFlag number ↔ t.Digits ∧ toNat 10 t = number ∧ number ≤ maxFlag := by
  have hseven : digitValue '7' = maxFlag := by decide
  constructor
  · rintro ⟨zeros, digit, rfl, hzero, hle, rfl⟩
    have hdigit : '0' ≤ digit ∧ digit ≤ '9' := ⟨hzero, Char.le_trans hle (by decide)⟩
    have hvalue : toNat 10 (List.replicate zeros '0' ++ [digit]) = digit.toNat - '0'.toNat := by
      rw [toNat_zeros, ← digitValue_of_digit hdigit]
      simp [toNat]
    refine ⟨digits_zeros_append hdigit, hvalue, ?_⟩
    rw [← hvalue, ← hseven, toNat_le_iff (digits_zeros_append hdigit) (by decide)]
    exact ⟨zeros, digit, rfl, hle⟩
  · rintro ⟨hdigits, rfl, hle⟩
    rw [← hseven, toNat_le_iff hdigits (by decide)] at hle
    obtain ⟨zeros, digit, rfl, hle⟩ := hle
    have hdigit := hdigits.2 digit (by simp)
    refine ⟨zeros, digit, rfl, hdigit.1, hle, ?_⟩
    rw [toNat_zeros, ← digitValue_of_digit hdigit]
    simp [toNat]

end Text

/-! ## Reading flags -/

/-- A flag is read exactly if it is written as one and is not too long. -/
theorem readFlag_eq_ok_iff {value : Text} {number : Nat} :
    readFlag value = .ok number ↔
      value.WritesFlag number ∧ value.length ≤ Text.maxNumeralDigits := by
  rw [Text.writesFlag_iff]
  by_cases hdigits : value.Digits
  · rw [readFlag_of_digits hdigits]
    by_cases hlong : Text.maxNumeralDigits < value.length
    · simp [hlong]
    · by_cases hlarge : maxFlag < Text.toNat 10 value
      · simp [hlong, hlarge]
        omega
      · simp [hlong, hlarge, hdigits]
        omega
  · simp [readFlag_of_not_digits hdigits, hdigits]

/-- A text that is not too long and not written as a flag is refused for what it is. -/
theorem readFlag_eq_invalidFlag {value : Text} (h : value.length ≤ Text.maxNumeralDigits)
    (hnone : ∀ number, ¬value.WritesFlag number) :
    readFlag value = .error (.invalidFlag value) := by
  by_cases hdigits : value.Digits
  · rw [readFlag_of_digits hdigits, if_neg (Nat.not_lt.2 h), if_pos]
    by_contra hsmall
    exact hnone _ (Text.writesFlag_iff.2 ⟨hdigits, rfl, Nat.not_lt.1 hsmall⟩)
  · exact readFlag_of_not_digits hdigits

/-- A clause about a flag asks for the flag that is read, or is refused as the flag is. -/
theorem Clause.constraint_flag (strict : Bool) (source : Text) (negated : Bool) (value : Text) :
    constraint strict source ⟨negated, Topic.flag.keyword ++ value⟩ =
      ((readFlag value).map fun number : Nat => some (.flag negated number)).mapError
        fun fault => ⟨source, fault⟩ := by
  simp only [constraint, meaning, Topic.read?_keyword]
  cases readFlag value <;> rfl

/-- A text of at most 4300 characters names a flag exactly if it is any number of zeros and then one
digit from 0 to 7, and the flag is the value of that digit.  Every other text of that length is
refused as the text that it is, and so is a clause about such a flag. -/
theorem readFlag_denotes {value : Text} (h : value.length ≤ 4300) :
    (∀ number, readFlag value = .ok number ↔ value.WritesFlag number) ∧
    ((∀ number, ¬value.WritesFlag number) → readFlag value = .error (.invalidFlag value)) ∧
    ∀ strict source negated,
      (∀ number : Nat, value.WritesFlag number →
        Clause.constraint strict source ⟨negated, Topic.flag.keyword ++ value⟩ =
          .ok (some (.flag negated number))) ∧
      ((∀ number, ¬value.WritesFlag number) →
        Clause.constraint strict source ⟨negated, Topic.flag.keyword ++ value⟩ =
          .error ⟨source, .invalidFlag value⟩) := by
  have hread : ∀ number, readFlag value = .ok number ↔ value.WritesFlag number := fun number =>
    readFlag_eq_ok_iff.trans (and_iff_left h)
  refine ⟨hread, readFlag_eq_invalidFlag h, fun strict source negated => ⟨?_, fun hnone => ?_⟩⟩
  · intro number hwrites
    rw [Clause.constraint_flag, (hread number).2 hwrites]
    rfl
  · rw [Clause.constraint_flag, readFlag_eq_invalidFlag h hnone]
    rfl

/-- The longest numeral that is read, and a digit that is none of the ten. -/
theorem readFlag_denotes_zeros :
    let value : Text := List.replicate 4299 '0' ++ ['7']
    let wide : Text := ['７']
    value.length ≤ 4300 ∧ readFlag value = .ok 7 ∧ wide.length ≤ 4300 ∧
      Clause.constraint true [] ⟨false, Topic.flag.keyword ++ wide⟩ =
        .error ⟨[], .invalidFlag wide⟩ := by
  intro value wide
  have hvalue : value.length ≤ 4300 := by
    rw [List.length_append, List.length_replicate]
    decide
  have hwide : wide.length ≤ 4300 := by simp [wide]
  have hseven : value.WritesFlag 7 := ⟨4299, '7', rfl, by decide, by decide, rfl⟩
  have hnone : ∀ number, ¬wide.WritesFlag number := by
    intro number hwrites
    have hdigits := PropertyFilter.isDigits_iff.2 (Text.writesFlag_iff.1 hwrites).1
    exact absurd hdigits (by decide)
  exact ⟨hvalue, ((readFlag_denotes hvalue).1 7).2 hseven, hwide,
    ((readFlag_denotes hwide).2.2 true [] false).2 hnone⟩

end CardQuery
