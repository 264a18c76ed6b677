import CardQuery.Proofs.Text.Numeral
import CardQuery.Toml.Reader
import CardQuery.Toml.Writer

/-!
# Scalars in writing

A scalar that stands at the end of a line is read back from the way it is written: a text with any
characters between its quotes, a truth value, and a whole number that has no more digits than can be
read.  A number is not mistaken for a moment in time, a number of another base or one with a point.

Main results:

- `readString_written` says that a text is read back from its basic string.
- `readNumber_ofInt` says that a whole number is read back from its numeral.
- `readValue_written` says that every scalar is read back.
-/

namespace CardQuery

namespace Toml

/-! ## Strings -/

/-- A string goes on behind an escape with the character that the escape stands for. -/
theorem readBasic_escape {t rest : Text} {c : Char} (h : readEscape t = .ok (c, rest)) :
    readBasic ('\\' :: t) = (readBasic rest).map fun found => (c :: found.1, found.2) := by
  rw [readBasic, if_neg (by decide), if_pos rfl]
  split
  next fault hread =>
    rw [h] at hread
    cases hread
  next d after hread =>
    rw [h] at hread
    obtain ⟨rfl, rfl⟩ := Prod.mk.inj (Except.ok.inj hread)
    rfl

/-- A control character is written with four digits that denote it. -/
theorem charOfDigits_hexadecimal {n : Nat} (h : n < 128) :
    (Text.hexadecimal 4 n).length = 4 ∧
      charOfDigits (Text.hexadecimal 4 n) = .ok (Char.ofNat n) := by
  have hall : ∀ n : Fin 128, (Text.hexadecimal 4 n).length = 4 ∧
      charOfDigits (Text.hexadecimal 4 n) = .ok (Char.ofNat n) := by decide +kernel
  exact hall ⟨n, h⟩

theorem readEscape_hexadecimal {n : Nat} (h : n < 128) (rest : Text) :
    readEscape ('u' :: Text.hexadecimal 4 n ++ rest) = .ok (Char.ofNat n, rest) := by
  rcases charOfDigits_hexadecimal h with ⟨hlength, hread⟩
  match hdigits : Text.hexadecimal 4 n, hlength with
  | [a, b, c, d], _ =>
    rw [hdigits] at hread
    simp only [List.cons_append, List.nil_append, readEscape, hread]
    rfl

/-- A character is read back from the way it is written in a string. -/
theorem readBasic_writeChar (c : Char) (rest : Text) :
    readBasic (writeChar c ++ rest) =
      (readBasic rest).map fun found => (c :: found.1, found.2) := by
  unfold writeChar
  split
  next hprotected =>
    rcases hprotected with rfl | rfl
    · exact readBasic_escape rfl
    · exact readBasic_escape rfl
  next hplain =>
    split
    next hfeed =>
      subst hfeed
      exact readBasic_escape rfl
    next hfeed =>
      split
      next hreturn =>
        subst hreturn
        exact readBasic_escape rfl
      next hreturn =>
        split
        next hback =>
          obtain rfl : c = '\x08' := Char.toNat_inj.1 hback
          exact readBasic_escape rfl
        next hback =>
          split
          next hform =>
            obtain rfl : c = '\x0c' := Char.toNat_inj.1 hform
            exact readBasic_escape rfl
          next hform =>
            split
            next hcontrol =>
              have hlow : c.toNat < 128 := by omega
              have hread := readEscape_hexadecimal hlow rest
              rw [Char.ofNat_toNat] at hread
              exact readBasic_escape hread
            next hcontrol =>
              have hnot : isControl c = false := by simpa [isControl] using hcontrol
              rw [not_or] at hplain
              exact readBasic_char hplain.1 hplain.2 hnot rest

/-- A text is read back from between its quotes. -/
theorem readBasic_written (t rest : Text) :
    readBasic (t.flatMap writeChar ++ '"' :: rest) = .ok (t, rest) := by
  induction t with
  | nil => exact readBasic_quote rest
  | cons c t ih =>
    rw [List.flatMap_cons, List.append_assoc, readBasic_writeChar, ih]
    rfl

theorem readString_of_ne {t : Text} (h : ∀ r, t ≠ '"' :: '"' :: r) :
    readString ('"' :: t) = readBasic t := by
  rw [readString]
  exact fun r heq => h r heq

theorem exists_writeChar_cons (c : Char) : ∃ d more, writeChar c = d :: more ∧ d ≠ '"' := by
  unfold writeChar
  split
  next => exact ⟨_, _, rfl, by decide⟩
  next hplain =>
    split_ifs
    all_goals first
      | exact ⟨_, _, rfl, by decide⟩
      | exact ⟨_, _, rfl, fun heq => hplain (Or.inl heq)⟩

/-- A text is read back from its basic string, unless a quote follows. -/
theorem readString_written (t : Text) {rest : Text} (h : ∀ r, rest ≠ '"' :: r) :
    readString (writeString t ++ rest) = .ok (t, rest) := by
  have hwritten : writeString t ++ rest = '"' :: (t.flatMap writeChar ++ '"' :: rest) := by
    simp [writeString]
  rw [hwritten, readString_of_ne, readBasic_written]
  -- Two quotes in front could be the beginning of three; they stand there for the empty text only.
  intro r heq
  cases t with
  | nil =>
    rw [List.flatMap_nil, List.nil_append] at heq
    exact h r (List.cons.inj heq).2
  | cons c t =>
    rcases exists_writeChar_cons c with ⟨d, more, hchar, hd⟩
    rw [List.flatMap_cons, hchar] at heq
    exact hd (List.cons.inj heq).1

/-! ## Whole numbers -/

section

variable {ds : Text} (hds : ∀ c ∈ ds, '0' ≤ c ∧ c ≤ '9')
include hds

/-- What is left of digits behind a number of fixed length are digits. -/
theorem digits_of_readFixed? {count number : Nat} {rest after : Text}
    (h : readFixed? count (ds ++ '\n' :: rest) = some (number, after)) :
    ∃ ds' : Text, (∀ c ∈ ds', '0' ≤ c ∧ c ≤ '9') ∧ after = ds' ++ '\n' :: rest := by
  unfold readFixed? at h
  dsimp only at h
  split at h
  next htaken =>
    rcases htaken with ⟨hlength, hdigits⟩
    obtain rfl : (ds ++ '\n' :: rest).drop count = after := (Prod.mk.inj (Option.some.inj h)).2
    have hle : count ≤ ds.length := by
      by_contra hlong
      have hmem : '\n' ∈ (ds ++ '\n' :: rest).take count := by
        rw [List.take_append]
        have hpos : 0 < count - ds.length := by omega
        obtain ⟨k, hk⟩ : ∃ k, count - ds.length = k + 1 := ⟨_, (Nat.succ_pred_eq_of_pos hpos).symm⟩
        simp [hk]
      have hfeed := List.all_eq_true.1 hdigits _ hmem
      exact absurd hfeed (by decide)
    refine ⟨ds.drop count, fun c hc => hds c (List.mem_of_mem_drop hc), ?_⟩
    rw [List.drop_append_of_le_length hle]
  next => cases h

/-- No mark of a date or a time of day stands in digits. -/
theorem after?_digits (mark : Char) (hmark : ¬('0' ≤ mark ∧ mark ≤ '9')) (hfeed : mark ≠ '\n')
    (rest : Text) : Text.after? [mark] (ds ++ '\n' :: rest) = none := by
  cases ds with
  | nil => simp [Text.after?, hfeed]
  | cons d ds =>
    have hne : mark ≠ d := by
      rintro rfl
      exact hmark (hds mark List.mem_cons_self)
    simp [Text.after?, hne]

theorem readDate?_digits (rest : Text) : readDate? (ds ++ '\n' :: rest) = none := by
  unfold readDate?
  cases hyear : readFixed? 4 (ds ++ '\n' :: rest) with
  | none => rfl
  | some found =>
    rcases found with ⟨year, after⟩
    rcases digits_of_readFixed? hds hyear with ⟨ds', hds', rfl⟩
    simp [after?_digits hds' '-' (by decide) (by decide)]

theorem skipTime?_digits (rest : Text) : skipTime? (ds ++ '\n' :: rest) = none := by
  unfold skipTime? skipHourMinute?
  cases hhour : readFixed? 2 (ds ++ '\n' :: rest) with
  | none => rfl
  | some found =>
    rcases found with ⟨hour, after⟩
    rcases digits_of_readFixed? hds hhour with ⟨ds', hds', rfl⟩
    simp [after?_digits hds' ':' (by decide) (by decide)]

/-- Digits are no moment in time. -/
theorem readMoment?_digits (rest : Text) : readMoment? (ds ++ '\n' :: rest) = none := by
  simp [readMoment?, readDate?_digits hds, skipTime?_digits hds]

/-- Digits have no base in front. -/
theorem readBased?_digits (rest : Text) : readBased? (ds ++ '\n' :: rest) = none := by
  have hletter : ∀ mark ∈ ['x', 'o', 'b'], ∀ after, ds ++ '\n' :: rest ≠ '0' :: mark :: after := by
    intro mark hmark after heq
    have hnot : ¬('0' ≤ mark ∧ mark ≤ '9') ∧ mark ≠ '\n' := by
      simp only [List.mem_cons, List.not_mem_nil, or_false] at hmark
      rcases hmark with rfl | rfl | rfl <;> decide
    match ds, heq with
    | [_], heq => exact hnot.2 (List.cons.inj (List.cons.inj heq).2).1.symm
    | _ :: d :: _, heq =>
      obtain rfl : d = mark := (List.cons.inj (List.cons.inj heq).2).1
      exact hnot.1 (hds d (by simp))
  rw [readBased?]
  · exact hletter 'x' (by decide)
  · exact hletter 'o' (by decide)
  · exact hletter 'b' (by decide)

theorem moreDigits_digits (rest : Text) :
    moreDigits Text.isDigit (ds ++ '\n' :: rest) = (ds, '\n' :: rest) := by
  induction ds with
  | nil =>
    rw [List.nil_append, moreDigits]
    · rfl
    · exact nofun
  | cons d ds ih =>
    have hd := hds d List.mem_cons_self
    have hdigit : Text.isDigit d = true := decide_eq_true hd
    have hmore := ih fun c hc => hds c (List.mem_cons_of_mem d hc)
    rw [List.cons_append, moreDigits]
    · simp [hdigit, hmore]
    · rintro c after rfl
      exact absurd hd (by decide)

end

/-- The digits of a numeral are read as a whole. -/
theorem readWhole?_ofNat (n : Nat) (rest : Text) :
    readWhole? (Text.ofNat n ++ '\n' :: rest) = some (Text.ofNat n, '\n' :: rest) := by
  rcases Nat.eq_zero_or_pos n with rfl | hpos
  · rfl
  · rcases Text.digits_ofNat n with ⟨hne, hdigits⟩
    have hhead := Text.head?_ofNat hpos
    rcases List.exists_cons_of_ne_nil hne with ⟨d, ds, hcons⟩
    rw [hcons] at hdigits hhead ⊢
    have hdigit : Text.isDigit d = true := decide_eq_true (hdigits d List.mem_cons_self)
    have hmore := moreDigits_digits (fun c hc => hdigits c (List.mem_cons_of_mem d hc)) rest
    rw [List.cons_append, readWhole?]
    · simp [readRun?, hdigit, hmore]
    · intro after heq
      rw [(List.cons.inj heq).1] at hhead
      exact hhead rfl

/-- What begins with a minus sign is no moment in time. -/
theorem readMoment?_minus (t : Text) : readMoment? ('-' :: t) = none := by
  have hfixed : ∀ count, readFixed? (count + 1) ('-' :: t) = none := by
    intro count
    have hminus : Text.isDigit '-' = false := by decide
    simp [readFixed?, hminus]
  simp [readMoment?, readDate?, skipTime?, skipHourMinute?, hfixed]

theorem readSign_ofInt (n : Int) (rest : Text) :
    readSign (Text.ofInt n ++ '\n' :: rest) =
      (Text.signOf n, Text.ofNat n.natAbs ++ '\n' :: rest) := by
  rw [Text.ofInt_eq]
  by_cases hneg : n < 0
  · simp [Text.signOf, hneg, readSign]
  · rcases Text.digits_ofNat n.natAbs with ⟨hne, hdigits⟩
    rcases List.exists_cons_of_ne_nil hne with ⟨d, ds, hcons⟩
    have hd := hdigits d (hcons ▸ List.mem_cons_self)
    have hsign : ¬(d = '+' ∨ d = '-') := by
      rintro (rfl | rfl) <;> exact absurd hd (by decide)
    simp [Text.signOf, hneg, hcons, readSign, hsign]

/-- A whole number that has no more digits than can be read is read back from its numeral. -/
theorem readDecimal?_ofInt {n : Int} (h : (Text.ofNat n.natAbs).length ≤ Text.maxNumeralDigits)
    (rest : Text) :
    readDecimal? (Text.ofInt n ++ '\n' :: rest) = some (.ok (.integer n), '\n' :: rest) := by
  have hpoint : skipExponent (skipPoint ('\n' :: rest)) = '\n' :: rest := rfl
  have hvalue : (if Text.signOf n = ['-'] then -(n.natAbs : Int) else n.natAbs) = n := by
    by_cases hneg : n < 0
    · rw [Text.signOf, if_pos hneg, if_pos rfl]
      omega
    · rw [Text.signOf, if_neg hneg, if_neg (by decide)]
      omega
  simp only [readDecimal?, readSign_ofInt, readWhole?_ofNat, Option.map_some, hpoint,
    Text.toNat_ofNat, Nat.lt_irrefl, Nat.not_lt.2 h, if_false, hvalue]

/-- The same where any number can stand: a numeral is neither a moment in time nor a number of
another base. -/
theorem readNumber_ofInt {n : Int} (h : (Text.ofNat n.natAbs).length ≤ Text.maxNumeralDigits)
    (rest : Text) :
    readNumber (Text.ofInt n ++ '\n' :: rest) = .ok (.integer n, '\n' :: rest) := by
  have hdigits := (Text.digits_ofNat n.natAbs).2
  have hmoment : readMoment? (Text.ofInt n ++ '\n' :: rest) = none := by
    rw [Text.ofInt_eq]
    by_cases hneg : n < 0
    · rw [Text.signOf, if_pos hneg]
      exact readMoment?_minus _
    · rw [Text.signOf, if_neg hneg]
      exact readMoment?_digits hdigits rest
  have hbased : readBased? (Text.ofInt n ++ '\n' :: rest) = none := by
    rw [Text.ofInt_eq]
    by_cases hneg : n < 0
    · rw [Text.signOf, if_pos hneg]
      rfl
    · rw [Text.signOf, if_neg hneg]
      exact readBased?_digits hdigits rest
  simp only [readNumber, hmoment, hbased, readDecimal?_ofInt h rest]
  rfl

/-! ## Values -/

/-- A scalar that can be read back: a whole number has no more digits than can be read. -/
def Scalar.Readable : Scalar → Prop
  | .integer n => (Text.ofNat n.natAbs).length ≤ Text.maxNumeralDigits
  | .string _ | .boolean _ => True

theorem readValue_string (fuel : Nat) (t : Text) {rest : Text} (h : ∀ r, rest ≠ '"' :: r) :
    readValue (fuel + 1) (writeString t ++ rest) = .ok (.string t, rest) := by
  have hread := readString_written t h
  rw [writeString, List.cons_append, List.cons_append] at hread ⊢
  rw [readValue, hread]
  rfl

theorem readValue_boolean (fuel : Nat) (b : Bool) (rest : Text) :
    readValue (fuel + 1) ((Scalar.boolean b).written ++ rest) = .ok (.boolean b, rest) := by
  cases b with
  | false => rfl
  | true => rfl

/-- A value that begins like a number is one. -/
theorem readValue_integer (fuel : Nat) {n : Int}
    (h : (Text.ofNat n.natAbs).length ≤ Text.maxNumeralDigits) (rest : Text) :
    readValue (fuel + 1) (Text.ofInt n ++ '\n' :: rest) = .ok (.integer n, '\n' :: rest) := by
  have hread := readNumber_ofInt h rest
  rcases Text.exists_ofInt_cons n with ⟨c, more, hcons, hc⟩
  have hne : ∀ mark ∈ ['"', '\'', '[', '\x7b', 't', 'f'], c ≠ mark := by
    rintro mark hmark rfl
    simp only [List.mem_cons, List.not_mem_nil, or_false] at hmark
    rcases hmark with rfl | rfl | rfl | rfl | rfl | rfl <;> revert hc <;> decide
  have hother : ∀ mark ∈ ['"', '\'', '[', '\x7b', 't', 'f'],
      ∀ r, c :: (more ++ '\n' :: rest) ≠ mark :: r :=
    fun mark hmark r heq => hne mark hmark (List.cons.inj heq).1
  rw [hcons, List.cons_append] at hread ⊢
  rw [readValue]
  · have htrue : Text.after? "true".toList (c :: (more ++ '\n' :: rest)) = none :=
      if_neg fun heq => hne 't' (by decide) heq.symm
    have hfalse : Text.after? "false".toList (c :: (more ++ '\n' :: rest)) = none :=
      if_neg fun heq => hne 'f' (by decide) heq.symm
    simp only [htrue, hfalse, hread]
  · exact hother '"' (by decide)
  · exact hother '\'' (by decide)
  · exact hother '[' (by decide)
  · exact hother '\x7b' (by decide)

/-- A scalar at the end of a line is read back from the way it is written. -/
theorem readValue_written (fuel : Nat) {s : Scalar} (h : s.Readable) (rest : Text) :
    readValue (fuel + 1) (s.written ++ '\n' :: rest) = .ok (s.toValue, '\n' :: rest) := by
  cases s with
  | string t => exact readValue_string fuel t (by simp)
  | integer n => exact readValue_integer fuel h rest
  | boolean b => exact readValue_boolean fuel b _

end Toml

end CardQuery
