import CardQuery.Proofs.Text.Numeral
import CardQuery.Text.Literal
import Mathlib.Algebra.Group.Nat.Defs

/-!
# Hexadecimal numerals

A numeral in base sixteen is made of the ten digits and the first six letters.  It denotes the
number that it was written for, also with zeros in front.

Main results:

- `forall_mem_hexadecimal` says that hexadecimal numerals are made of the sixteen digits.
- `toNat_hexadecimal` says that a hexadecimal numeral denotes the number it was written for.
- `length_hexadecimal` says which numbers are written with as many digits as asked for.
-/

namespace CardQuery

namespace Text

/-- A hexadecimal numeral is made of the digits of the numbers below sixteen. -/
theorem digit_of_mem_toDigits {n : Nat} {c : Char} (h : c ∈ Nat.toDigits 16 n) :
    ∃ d < 16, c = Nat.digitChar d := by
  induction n using Nat.strongRecOn with
  | ind n ih =>
    rw [Nat.toDigits_eq_if (by decide)] at h
    split at h
    next hsmall => exact ⟨n, hsmall, List.mem_singleton.1 h⟩
    next hbig =>
      rcases List.mem_append.1 h with h | h
      · exact ih (n / 16) (by omega) h
      · exact ⟨n % 16, by omega, List.mem_singleton.1 h⟩

/-- What holds of the sixteen digits holds of every character of a numeral, also with zeros in
front. -/
theorem forall_mem_hexadecimal {p : Char → Prop} (h : ∀ d : Fin 16, p (Nat.digitChar d))
    (places n : Nat) : ∀ c ∈ hexadecimal places n, p c := by
  intro c hc
  rcases List.mem_append.1 hc with hc | hc
  · rw [List.eq_of_mem_replicate hc]
    exact h 0
  · obtain ⟨d, hd, rfl⟩ := digit_of_mem_toDigits hc
    exact h ⟨d, hd⟩

/-- The value of the digit of a number below sixteen is the number. -/
theorem digitValue_digitChar {d : Nat} (h : d < 16) : digitValue (Nat.digitChar d) = d := by
  have hall : ∀ d : Fin 16, digitValue (Nat.digitChar d) = d := by decide
  exact hall ⟨d, h⟩

theorem toNat_concat (base : Nat) (t : Text) (c : Char) :
    toNat base (t ++ [c]) = base * toNat base t + digitValue c := by
  simp [toNat]

theorem toNat_toDigits (n : Nat) : toNat 16 (Nat.toDigits 16 n) = n := by
  induction n using Nat.strongRecOn with
  | ind n ih =>
    rw [Nat.toDigits_eq_if (by decide)]
    split
    next hsmall =>
      have hone := toNat_concat 16 [] (Nat.digitChar n)
      rw [digitValue_digitChar hsmall] at hone
      simpa [toNat] using hone
    next hbig =>
      rw [toNat_concat, ih (n / 16) (by omega), digitValue_digitChar (by omega)]
      omega

/-- Zeros in front of a numeral do not matter. -/
theorem toNat_zeros (base k : Nat) (t : Text) :
    toNat base (List.replicate k '0' ++ t) = toNat base t := by
  induction k with
  | zero => rfl
  | succ k ih =>
    have hzero : digitValue '0' = 0 := by decide
    have hfirst : toNat base ('0' :: (List.replicate k '0' ++ t)) =
        toNat base (List.replicate k '0' ++ t) := by simp [toNat, hzero]
    rw [List.replicate_succ, List.cons_append, hfirst, ih]

/-- A hexadecimal numeral denotes the number that it was written for. -/
theorem toNat_hexadecimal (places n : Nat) : toNat 16 (hexadecimal places n) = n := by
  rw [hexadecimal, toNat_zeros, toNat_toDigits]

/-- A number that needs no more digits than asked for is written with exactly as many. -/
theorem length_hexadecimal {places n : Nat} (hpos : 0 < places) (h : n < 16 ^ places) :
    (hexadecimal places n).length = places := by
  have hle : (Nat.toDigits 16 n).length ≤ places :=
    (Nat.length_toDigits_le_iff (by decide) hpos).2 h
  rw [hexadecimal, List.length_append, List.length_replicate]
  omega

end Text

end CardQuery
