import CardQuery.Proofs.Property.Reading
import Mathlib.Algebra.Group.Int.Defs
import Mathlib.Algebra.Group.Nat.Defs

/-!
# Decimal numerals

The numeral of a number is one or more digits, the first of which is a zero for the number zero
alone.  It denotes the number that it was written for.  An integer whose numeral has too many digits
cannot be written.

Main results:

- `digits_ofNat` says that a numeral is made of digits.
- `head?_ofNat` says that a numeral of a positive number does not begin with a zero.
- `toNat_ofNat` says that a numeral denotes the number it was written for.
- `ofInt_eq` says how an integer is written.
- `hasNumeral_iff` says which integers can be written.
-/

namespace CardQuery

namespace Text

/-- A numeral is made of digits. -/
theorem digits_ofNat (n : Nat) : Digits (ofNat n) := by
  refine ⟨Nat.toDigits_ne_nil, fun c hc => ?_⟩
  have hdigit : c.isDigit = true := Nat.isDigit_of_mem_toDigits (by decide) (by decide) hc
  simp only [Char.isDigit, Bool.and_eq_true, decide_eq_true_eq] at hdigit
  exact ⟨hdigit.1, hdigit.2⟩

/-- Only the number zero has a numeral that begins with a zero. -/
theorem head?_ofNat {n : Nat} (h : 0 < n) : (ofNat n).head? ≠ some '0' := by
  induction n using Nat.strongRecOn with
  | ind n ih =>
    rw [ofNat, Nat.toDigits_eq_if (by decide)]
    split
    next => simpa using Nat.ne_of_gt h
    next hbig =>
      have hhead := ih (n / 10) (by omega) (by omega)
      rcases List.exists_cons_of_ne_nil (digits_ofNat (n / 10)).1 with ⟨c, rest, hcons⟩
      rw [hcons] at hhead
      rw [ofNat] at hcons
      rw [hcons]
      exact hhead

/-- The value of a digit. -/
theorem digitValue_of_digit {c : Char} (h : '0' ≤ c ∧ c ≤ '9') :
    digitValue c = c.toNat - '0'.toNat := if_pos h

/-- A numeral denotes the number that it was written for. -/
theorem toNat_ofNat (n : Nat) : toNat 10 (ofNat n) = n := by
  have hfold : ∀ (t : Text) (start : Nat), (∀ c ∈ t, '0' ≤ c ∧ c ≤ '9') →
      t.foldl (fun n c => 10 * n + digitValue c) start = Nat.ofDigitChars 10 t start := by
    intro t
    induction t with
    | nil => intro start _; rfl
    | cons c t ih =>
      intro start h
      rw [List.foldl_cons, Nat.ofDigitChars_cons, digitValue_of_digit (h c List.mem_cons_self)]
      exact ih _ fun d hd => h d (List.mem_cons_of_mem c hd)
  rw [toNat, hfold _ 0 (digits_ofNat n).2, ofNat, Nat.ofDigitChars_ten_toDigits]

/-! ## Signs -/

/-- The sign that an integer is written with. -/
def signOf (n : Int) : Text := if n < 0 then ['-'] else []

/-- An integer is written as its sign and the numeral of its absolute value. -/
theorem ofInt_eq (n : Int) : ofInt n = signOf n ++ ofNat n.natAbs := by
  cases n with
  | ofNat n => simp [ofInt, signOf]
  | negSucc n => simp [ofInt, signOf, Int.negSucc_lt_zero]

/-- An integer is written with a minus sign or a digit in front. -/
theorem exists_ofInt_cons (n : Int) :
    ∃ c rest, ofInt n = c :: rest ∧ (c = '-' ∨ '0' ≤ c ∧ c ≤ '9') := by
  rw [ofInt_eq, signOf]
  split
  next => exact ⟨'-', _, rfl, Or.inl rfl⟩
  next =>
    rcases digits_ofNat n.natAbs with ⟨hne, hdigits⟩
    rcases List.exists_cons_of_ne_nil hne with ⟨d, ds, hcons⟩
    exact ⟨d, ds, hcons, Or.inr (hdigits d (hcons ▸ List.mem_cons_self))⟩

/-! ## Numerals that can be written -/

/-- The integers that can be written are those below a power of ten. -/
theorem hasNumeral_iff {n : Int} : HasNumeral n ↔ n.natAbs < 10 ^ maxNumeralDigits :=
  Nat.length_toDigits_le_iff (by decide) (by decide)

/-- An integer of one digit can be written. -/
theorem hasNumeral_of_lt_ten {n : Int} (h : n.natAbs < 10) : HasNumeral n :=
  hasNumeral_iff.2 (Nat.lt_of_lt_of_le h (Nat.le_self_pow (by decide) 10))

/-- A large power of ten cannot be written. -/
theorem not_hasNumeral_pow {k : Nat} (h : maxNumeralDigits ≤ k) : ¬HasNumeral (10 ^ k) := by
  rw [hasNumeral_iff, Int.natAbs_pow, Nat.not_lt]
  exact Nat.pow_le_pow_right (by decide) h

end Text

end CardQuery
