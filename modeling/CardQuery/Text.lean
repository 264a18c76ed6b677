/-!
# Text

A text is the list of its characters, so lengths and positions count characters.  This module
holds the few general operations on texts: the rest after a given beginning, the search for a
part, the parts between separators, and decimal numerals.

Main results:

- `after?_eq_some_iff` says that `after?` undoes putting the beginning in front.
- `contains_iff` says that `contains` finds exactly the parts of a text.
- `partsBetween_of_noEnd` says that a text without separators is one part.
- `intercalate_partsBetween` says that the parts with the separator between them are the text.
-/

namespace CardQuery

/-- A text is the list of its characters. -/
abbrev Text := List Char

namespace Text

instance : LawfulBEq Text := inferInstance

/-! ## Beginnings and parts -/

/-- The rest of `t` after the beginning `lead`, if `t` begins so. -/
def after? : (lead t : Text) → Option Text
  | [], t => some t
  | _ :: _, [] => none
  | a :: lead, c :: t => if a = c then after? lead t else none

/-- A text has the rest `r` after `lead` exactly when it is `lead` followed by `r`. -/
theorem after?_eq_some_iff {lead t r : Text} : after? lead t = some r ↔ t = lead ++ r := by
  fun_induction after? lead t with
  | case1 t => simp [eq_comm]
  | case2 a lead => simp
  | case3 lead a t ih => simp [ih]
  | case4 a lead c t h => simp [Ne.symm h]

/-- Putting a beginning in front of a text and taking it away again changes nothing. -/
@[simp] theorem after?_append (lead r : Text) : after? lead (lead ++ r) = some r :=
  after?_eq_some_iff.2 rfl

/-- Whether `t` begins with `lead`. -/
def begins (lead t : Text) : Bool := (after? lead t).isSome

/-- Whether `part` occurs somewhere in `t`. -/
def contains (part : Text) : Text → Bool
  | [] => part.isEmpty
  | c :: t => begins part (c :: t) || contains part t

/-- A text contains exactly the texts that stand somewhere in it. -/
theorem contains_iff {part t : Text} :
    contains part t = true ↔ ∃ before later, t = before ++ part ++ later := by
  induction t with
  | nil =>
    constructor
    · intro h
      have hp : part = [] := by simpa [contains] using h
      exact ⟨[], [], by simp [hp]⟩
    · rintro ⟨before, later, h⟩
      have hp : part = [] := by
        simp only [List.append_assoc] at h
        exact (List.append_eq_nil_iff.1 (List.append_eq_nil_iff.1 h.symm).2).1
      simp [contains, hp]
  | cons c t ih =>
    simp only [contains, Bool.or_eq_true, ih, begins, Option.isSome_iff_exists,
      after?_eq_some_iff]
    constructor
    · rintro (⟨r, h⟩ | ⟨before, later, h⟩)
      · exact ⟨[], r, by simpa using h⟩
      · exact ⟨c :: before, later, by simp [h]⟩
    · rintro ⟨before, later, h⟩
      cases before with
      | nil => exact Or.inl ⟨later, by simpa using h⟩
      | cons d before =>
        refine Or.inr ⟨before, later, ?_⟩
        simp only [List.cons_append, List.cons.injEq] at h
        exact h.2

/-- The parts of a text between the characters that satisfy `isEnd`; there is one part more than
there are such characters. -/
def partsBetween (isEnd : Char → Bool) : Text → List Text
  | [] => [[]]
  | c :: t =>
    if isEnd c then [] :: partsBetween isEnd t
    else
      match partsBetween isEnd t with
      | [] => [[c]]
      | part :: rest => (c :: part) :: rest

/-- A text without an end is its only part. -/
theorem partsBetween_of_noEnd {isEnd : Char → Bool} {t : Text} (h : ∀ c ∈ t, isEnd c = false) :
    partsBetween isEnd t = [t] := by
  induction t with
  | nil => rfl
  | cons c t ih => simp [partsBetween, h c, ih fun d hd => h d (List.mem_cons_of_mem c hd)]

/-- The parts of a text hold characters of the text only. -/
theorem mem_of_mem_partsBetween {isEnd : Char → Bool} {t part : Text} {c : Char}
    (hpart : part ∈ partsBetween isEnd t) (hc : c ∈ part) : c ∈ t := by
  induction t generalizing part with
  | nil =>
    rw [List.mem_singleton.1 hpart] at hc
    exact hc
  | cons d t ih =>
    unfold partsBetween at hpart
    split at hpart
    next =>
      rcases List.mem_cons.1 hpart with rfl | hrest
      · cases hc
      · exact List.mem_cons_of_mem d (ih hrest hc)
    next =>
      split at hpart
      next =>
        rw [List.mem_singleton.1 hpart] at hc
        exact List.mem_cons.2 (Or.inl (List.mem_singleton.1 hc))
      next first rest hparts =>
        rcases List.mem_cons.1 hpart with rfl | hrest
        · rcases List.mem_cons.1 hc with rfl | hmem
          · exact List.mem_cons_self
          · exact List.mem_cons_of_mem d (ih (hparts ▸ List.mem_cons_self) hmem)
        · exact List.mem_cons_of_mem d (ih (hparts ▸ List.mem_cons_of_mem first hrest) hc)

/-- A text has at least one part. -/
theorem partsBetween_ne_nil (isEnd : Char → Bool) (t : Text) : partsBetween isEnd t ≠ [] := by
  cases t with
  | nil => exact List.cons_ne_nil _ _
  | cons c t =>
    unfold partsBetween
    split
    next => exact List.cons_ne_nil _ _
    next => split <;> exact List.cons_ne_nil _ _

/-- The parts of a text with the separator between them are the text. -/
theorem intercalate_partsBetween (sep : Char) (t : Text) :
    List.intercalate [sep] (partsBetween (· == sep) t) = t := by
  induction t with
  | nil => rfl
  | cons c t ih =>
    unfold partsBetween
    cases hparts : partsBetween (· == sep) t with
    | nil => exact absurd hparts (partsBetween_ne_nil _ t)
    | cons first rest =>
      rw [hparts] at ih
      by_cases hc : c = sep
      · simpa [hc, List.intercalate] using ih
      · cases rest with
        | nil => simpa [hc, List.intercalate] using ih
        | cons second rest => simpa [hc, List.intercalate] using ih

/-! ## Decimal numerals -/

/-- The decimal numeral of a natural number. -/
def ofNat (n : Nat) : Text := Nat.toDigits 10 n

/-- The decimal numeral of an integer, a minus sign in front of a negative one, however many digits
it has. -/
def ofInt : Int → Text
  | .ofNat n => ofNat n
  | .negSucc n => '-' :: ofNat (n + 1)

/-- The value of a character as a digit of a numeral, letters of either case counting from ten. -/
def digitValue (c : Char) : Nat :=
  if '0' ≤ c ∧ c ≤ '9' then c.toNat - '0'.toNat
  else if 'a' ≤ c ∧ c ≤ 'f' then c.toNat - 'a'.toNat + 10
  else if 'A' ≤ c ∧ c ≤ 'F' then c.toNat - 'A'.toNat + 10
  else 0

/-- The number that the digits of `t` denote in the given base. -/
def toNat (base : Nat) (t : Text) : Nat := t.foldl (fun n c => base * n + digitValue c) 0

/-- Whether a character is one of the digits 0 to 9. -/
def isDigit (c : Char) : Bool := decide ('0' ≤ c ∧ c ≤ '9')

/-- The most digits that a decimal numeral may have and still be read or written. -/
def maxNumeralDigits : Nat := 4300

/-- Whether an integer can be written: its numeral does not have too many digits. -/
def HasNumeral (n : Int) : Prop := (ofNat n.natAbs).length ≤ maxNumeralDigits

instance : DecidablePred HasNumeral := fun n =>
  inferInstanceAs (Decidable ((ofNat n.natAbs).length ≤ maxNumeralDigits))

/-- The decimal numeral of an integer that can be written. -/
def numeral? (n : Int) : Option Text := if HasNumeral n then some (ofInt n) else none

end Text

end CardQuery
