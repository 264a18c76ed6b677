import CardQuery.Proofs.Json.Scalars

/-!
# JSON documents

A value whose numbers are whole is written in ASCII and read back from what was written: the reader
passes over the line breaks and the indentation, and needs no more steps than there are characters.

Main results:

- `ascii_document` says that documents are written in ASCII.
- `readValue?_write` says that a value is read back in front of anything that ends it.
- `read?_document` says that a document is read back.
- `document?_inj` says that different values have different documents.
-/

namespace CardQuery

namespace Json

/-- A value all of whose numbers are whole. -/
inductive Whole : Json → Prop
  | null : Whole null
  | bool (b : Bool) : Whole (bool b)
  | integer (n : Int) : Whole (integer n)
  | string (t : Text) : Whole (string t)
  | array {items : List Json} (h : ∀ v ∈ items, Whole v) : Whole (array items)
  | object {members : List (Text × Json)} (h : ∀ m ∈ members, Whole m.2) : Whole (object members)

/-! ## Writing in ASCII -/

/-- Whether a text is made of ASCII characters. -/
def Ascii (t : Text) : Prop := ∀ c ∈ t, c.toNat < 128

instance : DecidablePred Ascii := fun t =>
  decidable_of_iff ((t.all fun c => decide (c.toNat < 128)) = true) (by simp [Ascii])

theorem ascii_nil : Ascii [] := nofun

theorem Ascii.append {s t : Text} (hs : Ascii s) (ht : Ascii t) : Ascii (s ++ t) :=
  fun c hc => (List.mem_append.1 hc).elim (hs c) (ht c)

theorem Ascii.cons {c : Char} {t : Text} (hc : c.toNat < 128) (ht : Ascii t) : Ascii (c :: t) :=
  List.forall_mem_cons.2 ⟨hc, ht⟩

theorem ascii_hexadecimal (places n : Nat) : Ascii (Text.hexadecimal places n) :=
  Text.forall_mem_hexadecimal (by decide) places n

theorem ascii_ofInt (n : Int) : Ascii (Text.ofInt n) := by
  have hsign : Ascii (Text.signOf n) := by
    unfold Text.signOf
    split
    next => decide
    next => exact ascii_nil
  have hdigits : Ascii (Text.ofNat n.natAbs) := by
    intro c hc
    have hle : c.toNat ≤ '9'.toNat := ((Text.digits_ofNat n.natAbs).2 c hc).2
    exact Nat.lt_of_le_of_lt hle (by decide)
  rw [Text.ofInt_eq]
  exact hsign.append hdigits

/-- Every character is written in ASCII. -/
theorem ascii_writeChar (c : Char) : Ascii (writeChar c) := by
  unfold writeChar
  split_ifs with hprotected hplain
  · rcases hprotected with rfl | rfl
    all_goals decide
  · exact Ascii.cons (by omega) ascii_nil
  all_goals first
    | decide
    | intro d hd
      obtain ⟨u, -, hd⟩ := List.mem_flatMap.1 hd
      exact (Ascii.cons (by decide) (Ascii.cons (by decide) (ascii_hexadecimal 4 u))) d hd

theorem ascii_writeString (t : Text) : Ascii (writeString t) := by
  have hbody : Ascii (t.flatMap writeChar) := by
    intro d hd
    obtain ⟨c, -, hd⟩ := List.mem_flatMap.1 hd
    exact ascii_writeChar c d hd
  exact (Ascii.cons (by decide) hbody).append (by decide)

theorem ascii_lineBreak (level : Nat) : Ascii (lineBreak level) := by
  refine Ascii.cons (by decide) fun c hc => ?_
  rw [List.eq_of_mem_replicate hc]
  decide

theorem ascii_writeItems {items : List Json} {level : Nat}
    (h : ∀ v ∈ items, Ascii (write level v)) : Ascii (writeItems level items) := by
  induction items with
  | nil => exact ascii_nil
  | cons v items ih =>
    have hv := h v List.mem_cons_self
    have hrest := ih fun w hw => h w (List.mem_cons_of_mem v hw)
    exact ((Ascii.cons (by decide) (ascii_lineBreak level)).append hv).append hrest

/-- The name of a member and the colon after it are written in ASCII. -/
theorem ascii_name (name : Text) : Ascii (writeString name ++ [':', ' ']) :=
  (ascii_writeString name).append (by decide)

theorem ascii_writeMembers {members : List (Text × Json)} {level : Nat}
    (h : ∀ m ∈ members, Ascii (write level m.2)) : Ascii (writeMembers level members) := by
  induction members with
  | nil => exact ascii_nil
  | cons m members ih =>
    obtain ⟨name, v⟩ := m
    have hv : Ascii (write level v) := h (name, v) List.mem_cons_self
    have hrest := ih fun w hw => h w (List.mem_cons_of_mem _ hw)
    have hbreak := Ascii.cons (by decide : (',' : Char).toNat < 128) (ascii_lineBreak level)
    rw [writeMembers, List.append_assoc (',' :: lineBreak level)]
    exact ((hbreak.append (ascii_name name)).append hv).append hrest

/-- Every value is written in ASCII. -/
theorem ascii_write {v : Json} (h : v.Whole) (level : Nat) : Ascii (write level v) := by
  induction h generalizing level with
  | null => exact (by decide : Ascii "null".toList)
  | bool b =>
    cases b with
    | false => exact (by decide : Ascii "false".toList)
    | true => exact (by decide : Ascii "true".toList)
  | integer n => exact ascii_ofInt n
  | string t => exact ascii_writeString t
  | @array items _ ih =>
    match items with
    | [] => exact (by decide : Ascii ['[', ']'])
    | v :: items =>
      have hopen := Ascii.cons (by decide : ('[' : Char).toNat < 128) (ascii_lineBreak (level + 1))
      have hv := ih v List.mem_cons_self (level + 1)
      have hrest := ascii_writeItems fun w hw => ih w (List.mem_cons_of_mem v hw) (level + 1)
      have hclose := (ascii_lineBreak level).append (by decide : Ascii [']'])
      rw [write, List.append_assoc _ (lineBreak level)]
      exact ((hopen.append hv).append hrest).append hclose
  | @object members _ ih =>
    match members with
    | [] => exact (by decide : Ascii ['\x7b', '\x7d'])
    | (name, v) :: members =>
      have hopen := Ascii.cons (by decide : ('\x7b' : Char).toNat < 128)
        (ascii_lineBreak (level + 1))
      have hv : Ascii (write (level + 1) v) := ih (name, v) List.mem_cons_self (level + 1)
      have hrest := ascii_writeMembers fun w hw => ih w (List.mem_cons_of_mem _ hw) (level + 1)
      have hclose := (ascii_lineBreak level).append (by decide : Ascii ['\x7d'])
      rw [write, List.append_assoc _ (lineBreak level),
        List.append_assoc ('\x7b' :: lineBreak (level + 1))]
      exact (((hopen.append (ascii_name name)).append hv).append hrest).append hclose

/-- A document is written in ASCII. -/
theorem ascii_document {v : Json} (h : v.Whole) : Ascii v.document := ascii_write h 0

/-! ## Space between the parts -/

/-- Whether a character is not one of the space characters of JSON. -/
def Solid (c : Char) : Prop := (c == ' ' || c == '\n' || c == '\r' || c == '\t') = false

instance (c : Char) : Decidable (Solid c) :=
  inferInstanceAs (Decidable ((c == ' ' || c == '\n' || c == '\r' || c == '\t') = false))

theorem skipSpace_cons {c : Char} (h : Solid c) (t : Text) : skipSpace (c :: t) = c :: t := by
  rw [skipSpace, List.dropWhile_cons, h]
  rfl

/-- A new line and its indentation are passed over. -/
theorem skipSpace_lineBreak (level : Nat) (t : Text) :
    skipSpace (lineBreak level ++ t) = skipSpace t := by
  have hspace : ∀ n, skipSpace (List.replicate n ' ' ++ t) = skipSpace t := by
    intro n
    induction n with
    | zero => rfl
    | succ n ih => exact ih
  exact hspace (2 * level)

/-- The reader passes over the space in front of a value. -/
theorem readValue?_congr {s t : Text} (h : skipSpace s = skipSpace t) (fuel : Nat) :
    readValue? fuel s = readValue? fuel t := by
  cases fuel with
  | zero => rfl
  | succ fuel => rw [readValue?, readValue?, h]

theorem readItems?_congr {s t : Text} (h : skipSpace s = skipSpace t) (fuel : Nat) :
    readItems? fuel s = readItems? fuel t := by
  cases fuel with
  | zero => rfl
  | succ fuel => rw [readItems?, readItems?, readValue?_congr h]

theorem readMembers?_congr {s t : Text} (h : skipSpace s = skipSpace t) (fuel : Nat) :
    readMembers? fuel s = readMembers? fuel t := by
  cases fuel with
  | zero => rfl
  | succ fuel => rw [readMembers?, readMembers?, h]

/-! ## The first character of a value -/

theorem ne_of_isDigit {c d : Char} (hc : Text.isDigit c = true) (hd : Text.isDigit d = false) :
    c ≠ d := by
  rintro rfl
  rw [hc] at hd
  exact absurd hd (by decide)

theorem solid_of_isDigit {c : Char} (h : Text.isDigit c = true) : Solid c := by
  have hne : ∀ d, Text.isDigit d = false → c ≠ d := fun d hd => ne_of_isDigit h hd
  simp [Solid, hne ' ' (by decide), hne '\n' (by decide), hne '\r' (by decide),
    hne '\t' (by decide)]

/-- A value is written with a character in front that is no space and does not end an array. -/
theorem exists_write_cons {v : Json} (h : v.Whole) (level : Nat) :
    ∃ c t, write level v = c :: t ∧ Solid c ∧ c ≠ ']' := by
  cases h with
  | null => exact ⟨'n', "ull".toList, rfl, by decide, by decide⟩
  | bool b =>
    cases b with
    | false => exact ⟨'f', "alse".toList, rfl, by decide, by decide⟩
    | true => exact ⟨'t', "rue".toList, rfl, by decide, by decide⟩
  | integer n =>
    obtain ⟨c, t, heq, hc⟩ := Text.exists_ofInt_cons n
    rcases hc with rfl | hdigit
    · exact ⟨'-', t, heq, by decide, by decide⟩
    · have hdigit : Text.isDigit c = true := decide_eq_true hdigit
      exact ⟨c, t, heq, solid_of_isDigit hdigit, ne_of_isDigit hdigit (by decide)⟩
  | string t => exact ⟨'"', _, rfl, by decide, by decide⟩
  | @array items _ => cases items <;> exact ⟨'[', _, rfl, by decide, by decide⟩
  | @object members _ => cases members <;> exact ⟨'\x7b', _, rfl, by decide, by decide⟩

/-- No space is passed over in front of a value. -/
theorem skipSpace_write {v : Json} (h : v.Whole) (level : Nat) (rest : Text) :
    skipSpace (write level v ++ rest) = write level v ++ rest := by
  obtain ⟨c, t, heq, hsolid, -⟩ := exists_write_cons h level
  rw [heq, List.cons_append, skipSpace_cons hsolid]

/-! ## Reading a value of each kind -/

theorem writeString_append (t rest : Text) :
    writeString t ++ rest = '"' :: (t.flatMap writeChar ++ '"' :: rest) := by
  simp [writeString]

theorem readValue?_string (t rest : Text) (fuel : Nat) :
    readValue? (fuel + 1) (writeString t ++ rest) = some (string t, rest) := by
  rw [writeString_append, readValue?, skipSpace_cons (by decide)]
  simp [readString?_written]

theorem readValue?_digit {c : Char} (hc : Text.isDigit c = true) (t : Text) (fuel : Nat) :
    readValue? (fuel + 1) (c :: t) = readNumber? false (c :: t) := by
  have hne : ∀ d, Text.isDigit d = false → c ≠ d := fun d hd => ne_of_isDigit hc hd
  rw [readValue?, skipSpace_cons (solid_of_isDigit hc)]
  simp [Text.after?, (hne 't' (by decide)).symm, (hne 'f' (by decide)).symm,
    (hne 'n' (by decide)).symm, hne '"' (by decide), hne '[' (by decide), hne '-' (by decide),
    hne '\x7b' (by decide)]

theorem readValue?_integer (n : Int) {rest : Text} (h : EndsNumber rest) (fuel : Nat) :
    readValue? (fuel + 1) (Text.ofInt n ++ rest) = some (integer n, rest) := by
  rw [Text.ofInt_eq, Text.signOf]
  split
  next hneg =>
    have hminus : readValue? (fuel + 1) ('-' :: (Text.ofNat n.natAbs ++ rest)) =
        readNumber? true (Text.ofNat n.natAbs ++ rest) := by
      rw [readValue?, skipSpace_cons (by decide)]
      rfl
    have hvalue : -(n.natAbs : Int) = n := by omega
    rw [List.append_assoc, List.singleton_append, hminus, readNumber?_ofNat true _ h, if_pos rfl,
      hvalue]
  next hpos =>
    obtain ⟨hne, hdigits⟩ := Text.digits_ofNat n.natAbs
    obtain ⟨c, t, heq⟩ := List.exists_cons_of_ne_nil hne
    have hc : Text.isDigit c = true := decide_eq_true (hdigits c (heq ▸ List.mem_cons_self))
    have hread := readNumber?_ofNat false n.natAbs h
    have hvalue : (n.natAbs : Int) = n := by omega
    rw [List.nil_append, heq, List.cons_append, readValue?_digit hc, ← List.cons_append, ← heq,
      hread, if_neg (by decide), hvalue]

/-- A bracket that does not close at once begins an array with items. -/
theorem readValue?_array {t : Text} (h : (skipSpace t).head? ≠ some ']') (fuel : Nat) :
    readValue? (fuel + 1) ('[' :: t) =
      (readItems? fuel (skipSpace t)).map fun found => (array found.1, found.2) := by
  rw [readValue?, skipSpace_cons (by decide)]
  simp only
  split
  next heq => exact absurd (congrArg List.head? heq) h
  next => rfl

/-- A brace that does not close at once begins an object with members. -/
theorem readValue?_object {t : Text} (h : (skipSpace t).head? ≠ some '\x7d') (fuel : Nat) :
    readValue? (fuel + 1) ('\x7b' :: t) =
      (readMembers? fuel (skipSpace t)).map fun found => (object found.1, found.2) := by
  rw [readValue?, skipSpace_cons (by decide)]
  simp only
  split
  next heq => exact absurd (congrArg List.head? heq) h
  next => rfl

/-! ## Reading what was written -/

/-- Whether a value is read back in front of anything that ends it, in no more steps than there are
characters. -/
def ReadBack (v : Json) : Prop :=
  ∀ (level fuel : Nat) (rest : Text), EndsNumber rest → (write level v).length ≤ fuel →
    readValue? fuel (write level v ++ rest) = some (v, rest)

theorem endsNumber_cons {c : Char} (hdigit : Text.isDigit c = false) (hpoint : c ≠ '.')
    (hsmall : c ≠ 'e') (hcapital : c ≠ 'E') (t : Text) : EndsNumber (c :: t) := by
  intro d hd
  obtain rfl : c = d := by simpa using hd
  exact ⟨hdigit, hpoint, hsmall, hcapital⟩

/-- What follows a value in an array or an object ends it. -/
theorem endsNumber_comma (t : Text) : EndsNumber (',' :: t) :=
  endsNumber_cons (by decide) (by decide) (by decide) (by decide) t

theorem endsNumber_lineBreak (level : Nat) (t : Text) : EndsNumber (lineBreak level ++ t) :=
  endsNumber_cons (by decide) (by decide) (by decide) (by decide) _

/-- The last item of an array. -/
theorem readItems?_last {fuel : Nat} {t u rest : Text} {v : Json}
    (hread : readValue? fuel t = some (v, u)) (hend : skipSpace u = ']' :: rest) :
    readItems? (fuel + 1) t = some ([v], rest) := by
  rw [readItems?, hread]
  simp only [hend]

/-- An item of an array with more items after it. -/
theorem readItems?_next {fuel : Nat} {t u rest : Text} {v : Json}
    (hread : readValue? fuel t = some (v, u)) (hcomma : skipSpace u = ',' :: rest) :
    readItems? (fuel + 1) t = (readItems? fuel rest).map fun found => (v :: found.1, found.2) := by
  rw [readItems?, hread]
  simp only [hcomma]

/-- The items of an array are read up to its end. -/
theorem readItems?_write {items : List Json} (hitems : ∀ v ∈ items, ReadBack v) {v : Json}
    (hv : ReadBack v) (level outer : Nat) (rest : Text) {fuel : Nat}
    (hfuel : (write level v).length + (writeItems level items).length < fuel) :
    readItems? fuel (write level v ++ (writeItems level items ++
      (lineBreak outer ++ ']' :: rest))) = some (v :: items, rest) := by
  obtain ⟨fuel, rfl⟩ : ∃ k, fuel = k + 1 := ⟨fuel - 1, by omega⟩
  induction items generalizing v fuel with
  | nil =>
    have hread := hv level fuel _ (endsNumber_lineBreak outer (']' :: rest)) (by omega)
    have hend : skipSpace (lineBreak outer ++ ']' :: rest) = ']' :: rest := by
      rw [skipSpace_lineBreak, skipSpace_cons (by decide)]
    exact readItems?_last hread hend
  | cons w items ih =>
    let later := write level w ++ (writeItems level items ++ (lineBreak outer ++ ']' :: rest))
    have hlater : writeItems level (w :: items) ++ (lineBreak outer ++ ']' :: rest) =
        ',' :: (lineBreak level ++ later) := by
      simp [writeItems, later]
    rw [writeItems, List.length_append, List.length_append, List.length_cons] at hfuel
    have hread := hv level fuel _ (endsNumber_comma (lineBreak level ++ later)) (by omega)
    obtain ⟨fuel, rfl⟩ : ∃ k, fuel = k + 1 := ⟨fuel - 1, by omega⟩
    have hrest := ih (fun u hu => hitems u (List.mem_cons_of_mem w hu))
      (hitems w List.mem_cons_self) fuel (by omega)
    rw [hlater, readItems?_next hread (skipSpace_cons (by decide) _),
      readItems?_congr (skipSpace_lineBreak level later), hrest, Option.map_some]

/-- The last member of an object. -/
theorem readMembers?_last {fuel : Nat} {t u rest : Text} {v : Json} (name : Text)
    (hread : readValue? fuel t = some (v, u)) (hend : skipSpace u = '\x7d' :: rest) :
    readMembers? (fuel + 1) (writeString name ++ ':' :: ' ' :: t) = some ([(name, v)], rest) := by
  have hskip : skipSpace (' ' :: t) = skipSpace t := rfl
  have hspace : readValue? fuel (' ' :: t) = some (v, u) := by rw [readValue?_congr hskip, hread]
  rw [writeString_append, readMembers?, skipSpace_cons (by decide)]
  simp only [readString?_written]
  rw [skipSpace_cons (by decide)]
  simp only [hspace, hend]

/-- A member of an object with more members after it. -/
theorem readMembers?_next {fuel : Nat} {t u rest : Text} {v : Json} (name : Text)
    (hread : readValue? fuel t = some (v, u)) (hcomma : skipSpace u = ',' :: rest) :
    readMembers? (fuel + 1) (writeString name ++ ':' :: ' ' :: t) =
      (readMembers? fuel rest).map fun found => ((name, v) :: found.1, found.2) := by
  have hskip : skipSpace (' ' :: t) = skipSpace t := rfl
  have hspace : readValue? fuel (' ' :: t) = some (v, u) := by rw [readValue?_congr hskip, hread]
  rw [writeString_append, readMembers?, skipSpace_cons (by decide)]
  simp only [readString?_written]
  rw [skipSpace_cons (by decide)]
  simp only [hspace, hcomma]

/-- The members of an object are read up to its end. -/
theorem readMembers?_write {members : List (Text × Json)} (hmembers : ∀ m ∈ members, ReadBack m.2)
    (name : Text) {v : Json} (hv : ReadBack v) (level outer : Nat) (rest : Text) {fuel : Nat}
    (hfuel : (write level v).length + (writeMembers level members).length < fuel) :
    readMembers? fuel (writeString name ++ ':' :: ' ' :: (write level v ++
      (writeMembers level members ++ (lineBreak outer ++ '\x7d' :: rest)))) =
        some ((name, v) :: members, rest) := by
  obtain ⟨fuel, rfl⟩ : ∃ k, fuel = k + 1 := ⟨fuel - 1, by omega⟩
  induction members generalizing name v fuel with
  | nil =>
    have hread := hv level fuel _ (endsNumber_lineBreak outer ('\x7d' :: rest)) (by omega)
    have hend : skipSpace (lineBreak outer ++ '\x7d' :: rest) = '\x7d' :: rest := by
      rw [skipSpace_lineBreak, skipSpace_cons (by decide)]
    exact readMembers?_last name hread hend
  | cons m members ih =>
    obtain ⟨other, w⟩ := m
    have hw : ReadBack w := hmembers (other, w) List.mem_cons_self
    let later := writeString other ++ ':' :: ' ' :: (write level w ++
      (writeMembers level members ++ (lineBreak outer ++ '\x7d' :: rest)))
    have hlater : writeMembers level ((other, w) :: members) ++
        (lineBreak outer ++ '\x7d' :: rest) = ',' :: (lineBreak level ++ later) := by
      simp [writeMembers, later]
    rw [writeMembers] at hfuel
    simp only [List.length_append, List.length_cons] at hfuel
    have hread := hv level fuel _ (endsNumber_comma (lineBreak level ++ later)) (by omega)
    obtain ⟨fuel, rfl⟩ : ∃ k, fuel = k + 1 := ⟨fuel - 1, by omega⟩
    have hrest := ih (fun u hu => hmembers u (List.mem_cons_of_mem (other, w) hu)) other hw fuel
      (by omega)
    rw [hlater, readMembers?_next name hread (skipSpace_cons (by decide) _),
      readMembers?_congr (skipSpace_lineBreak level later), hrest, Option.map_some]

/-- It is enough to look at a positive number of steps, since nothing is written as no text. -/
theorem ReadBack.of_succ {v : Json} (hv : v.Whole)
    (h : ∀ (level fuel : Nat) (rest : Text), EndsNumber rest →
      (write level v).length ≤ fuel + 1 →
        readValue? (fuel + 1) (write level v ++ rest) = some (v, rest)) : ReadBack v := by
  intro level fuel rest hends hfuel
  cases fuel with
  | zero =>
    obtain ⟨c, t, heq, -, -⟩ := exists_write_cons hv level
    rw [heq] at hfuel
    exact absurd hfuel (Nat.not_succ_le_zero _)
  | succ fuel => exact h level fuel rest hends hfuel

theorem ReadBack.array {items : List Json} (hwhole : ∀ v ∈ items, Whole v)
    (h : ∀ v ∈ items, ReadBack v) : ReadBack (array items) := by
  refine ReadBack.of_succ (Whole.array hwhole) fun level fuel rest _ hfuel => ?_
  cases items with
  | nil => rfl
  | cons v items =>
    let later := write (level + 1) v ++ (writeItems (level + 1) items ++
      (lineBreak level ++ ']' :: rest))
    have hwritten : write level (Json.array (v :: items)) ++ rest =
        '[' :: (lineBreak (level + 1) ++ later) := by
      simp [write, later]
    have hskip : skipSpace (lineBreak (level + 1) ++ later) = later := by
      rw [skipSpace_lineBreak, skipSpace_write (hwhole v List.mem_cons_self)]
    have hhead : later.head? ≠ some ']' := by
      obtain ⟨c, t, heq, -, hne⟩ := exists_write_cons (hwhole v List.mem_cons_self) (level + 1)
      simpa [later, heq] using hne
    rw [write] at hfuel
    simp only [List.length_append, List.length_cons, List.length_nil] at hfuel
    have hitems : readItems? fuel later = some (v :: items, rest) :=
      readItems?_write (fun w hw => h w (List.mem_cons_of_mem v hw)) (h v List.mem_cons_self)
        (level + 1) level rest (by omega)
    rw [hwritten, readValue?_array (by rwa [hskip]), hskip, hitems, Option.map_some]

theorem ReadBack.object {members : List (Text × Json)} (hwhole : ∀ m ∈ members, Whole m.2)
    (h : ∀ m ∈ members, ReadBack m.2) : ReadBack (object members) := by
  refine ReadBack.of_succ (Whole.object hwhole) fun level fuel rest _ hfuel => ?_
  match members with
  | [] => rfl
  | (name, v) :: members =>
    let later := writeString name ++ ':' :: ' ' :: (write (level + 1) v ++
      (writeMembers (level + 1) members ++ (lineBreak level ++ '\x7d' :: rest)))
    have hwritten : write level (Json.object ((name, v) :: members)) ++ rest =
        '\x7b' :: (lineBreak (level + 1) ++ later) := by
      simp [write, later]
    have hskip : skipSpace (lineBreak (level + 1) ++ later) = later := by
      rw [skipSpace_lineBreak]
      exact skipSpace_cons (by decide) _
    have hhead : later.head? ≠ some '\x7d' := by
      simp [later, writeString]
    rw [write] at hfuel
    simp only [List.length_append, List.length_cons, List.length_nil] at hfuel
    have hv : ReadBack v := h (name, v) List.mem_cons_self
    have hmembers : readMembers? fuel later = some ((name, v) :: members, rest) :=
      readMembers?_write (fun m hm => h m (List.mem_cons_of_mem _ hm)) name hv (level + 1) level
        rest (by omega)
    rw [hwritten, readValue?_object (by rwa [hskip]), hskip, hmembers, Option.map_some]

/-- A value is read back in front of anything that ends it. -/
theorem readValue?_write {v : Json} (h : v.Whole) : ReadBack v := by
  induction h with
  | null => exact ReadBack.of_succ Whole.null fun _ _ _ _ _ => rfl
  | bool b =>
    refine ReadBack.of_succ (Whole.bool b) fun _ _ _ _ _ => ?_
    cases b <;> rfl
  | integer n =>
    exact ReadBack.of_succ (Whole.integer n) fun _ fuel _ hends _ => readValue?_integer n hends fuel
  | string t =>
    exact ReadBack.of_succ (Whole.string t) fun _ fuel rest _ _ => readValue?_string t rest fuel
  | array hwhole ih => exact ReadBack.array hwhole ih
  | object hwhole ih => exact ReadBack.object hwhole ih

/-! ## Documents -/

/-- A document is read back. -/
theorem read?_document {v : Json} (h : v.Whole) : read? v.document = some v := by
  have hread : readValue? (2 * v.document.length + 2) v.document = some (v, []) := by
    have hwritten := readValue?_write h 0 (2 * v.document.length + 2) [] nofun
      (by rw [document]; omega)
    rwa [List.append_nil] at hwritten
  rw [read?, hread]
  rfl

/-- A value that has a document is read back from it. -/
theorem of_document? {v : Json} {t : Text} (hv : v.Whole) (h : v.document? = some t) :
    Ascii t ∧ read? t = some v := by
  obtain ⟨-, rfl⟩ := document?_eq_some_iff.1 h
  exact ⟨ascii_document hv, read?_document hv⟩

/-- Different values have different documents. -/
theorem document?_inj {v w : Json} {t : Text} (hv : v.Whole) (hw : w.Whole)
    (h : v.document? = some t) (h' : w.document? = some t) : v = w :=
  Option.some.inj ((of_document? hv h).2.symm.trans (of_document? hw h').2)

end Json

end CardQuery
