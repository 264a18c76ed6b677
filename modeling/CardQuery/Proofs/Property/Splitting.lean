import CardQuery.Proofs.Property.Expression

/-!
# Where an expression is split

An expression is split at the first character that can stand in a comparator.  There it is compared
with the comparators one after the other, and no comparator comes before a longer one, so the first
that fits is the longest that does.  An exclamation mark by itself is none, and what stands behind
it is not looked at any more.

Main results:

- `read?_eq_findSome?` says that comparators are compared in a fixed order.
- `read?_eq_some_iff` says that the comparator that is read is the longest one.
- `read?_cons_eq_none_iff` says that only an exclamation mark can begin no comparator.
- `split?_leftmost_longest` says where an expression is split, and which expressions are not.
-/

namespace CardQuery

namespace Text

/-- A text has no rest behind a beginning exactly if it does not begin so. -/
theorem after?_eq_none_iff {lead t : Text} : after? lead t = none ↔ ¬lead <+: t := by
  rw [← Option.not_isSome_iff_eq_none, Option.isSome_iff_exists, not_iff_not]
  constructor
  · rintro ⟨rest, h⟩
    exact ⟨rest, (after?_eq_some_iff.1 h).symm⟩
  · rintro ⟨rest, h⟩
    exact ⟨rest, after?_eq_some_iff.2 h.symm⟩

end Text

namespace Comparator

/-! ## The order of the comparators -/

/-- The comparators in the order in which a text is compared with them. -/
def inOrder : List Comparator := [ge, le, ne, eq, gt, lt]

theorem mem_inOrder (k : Comparator) : k ∈ inOrder := by
  cases k <;> decide

/-- No comparator comes before a longer one. -/
theorem pairwise_inOrder :
    inOrder.Pairwise fun k later => later.symbol.length ≤ k.symbol.length := by decide

theorem after?_pair_eq_none {c : Char} {rest : Text} (h : ∀ more, rest ≠ '=' :: more) :
    Text.after? [c, '='] (c :: rest) = none := by
  rw [Text.after?_eq_none_iff]
  rintro ⟨more, hmore⟩
  exact h more (List.cons.inj hmore).2.symm

/-- The first comparator that a text begins with is read. -/
theorem read?_eq_findSome? (t : Text) :
    read? t = inOrder.findSome? fun k => (Text.after? k.symbol t).map fun rest => (k, rest) := by
  fun_cases read? t with
  | case1 | case2 | case3 | case4 => rfl
  -- A longer comparator with the same first character has been compared before.
  | case5 rest hshort =>
    have hge : Text.after? ge.symbol ('>' :: rest) = none := after?_pair_eq_none hshort
    simp only [inOrder, List.findSome?_cons, hge]
    rfl
  | case6 rest hshort =>
    have hle : Text.after? le.symbol ('<' :: rest) = none := after?_pair_eq_none hshort
    simp only [inOrder, List.findSome?_cons, hle]
    rfl
  | case7 t hge hle hne heq hgt hlt =>
    symm
    rw [List.findSome?_eq_none_iff]
    intro k _
    rw [Option.map_eq_none_iff, Text.after?_eq_none_iff]
    rintro ⟨more, rfl⟩
    cases k with
    | ge => exact hge more rfl
    | le => exact hle more rfl
    | ne => exact hne more rfl
    | eq => exact heq more rfl
    | gt => exact hgt more rfl
    | lt => exact hlt more rfl

/-! ## The longest comparator -/

/-- The comparator that is read is one that the text begins with, and no longer one is. -/
theorem longest_of_read? {t rest : Text} {k : Comparator} (h : read? t = some (k, rest)) :
    t = k.symbol ++ rest ∧
      ∀ l : Comparator, k.symbol.length < l.symbol.length → ¬l.symbol <+: t := by
  refine ⟨written_of_read? h, fun l hlonger => ?_⟩
  rw [read?_eq_findSome?] at h
  obtain ⟨before, found, behind, horder, hfound, hbefore⟩ := List.findSome?_eq_some_iff.1 h
  obtain ⟨_, -, heq⟩ := Option.map_eq_some_iff.1 hfound
  obtain rfl : found = k := (Prod.mk.inj heq).1
  have hpairwise := pairwise_inOrder
  have hmem := mem_inOrder l
  rw [horder] at hpairwise hmem
  rcases List.mem_append.1 hmem with hl | hl
  · exact Text.after?_eq_none_iff.1 (Option.map_eq_none_iff.1 (hbefore l hl))
  · rcases List.mem_cons.1 hl with rfl | hl
    · exact absurd hlonger (Nat.lt_irrefl _)
    · -- What comes behind the comparator that is read is not longer.
      have hle := List.rel_of_pairwise_cons (List.pairwise_append.1 hpairwise).2.1 hl
      exact absurd hlonger (Nat.not_lt.2 hle)

theorem read?_eq_none_iff {t : Text} : read? t = none ↔ ∀ k : Comparator, ¬k.symbol <+: t := by
  rw [read?_eq_findSome?, List.findSome?_eq_none_iff]
  simp only [Option.map_eq_none_iff, Text.after?_eq_none_iff, mem_inOrder, forall_const]

/-- A comparator is read exactly if the text begins with it and with no longer one. -/
theorem read?_eq_some_iff {t rest : Text} {k : Comparator} :
    read? t = some (k, rest) ↔ t = k.symbol ++ rest ∧
      ∀ l : Comparator, k.symbol.length < l.symbol.length → ¬l.symbol <+: t := by
  refine ⟨longest_of_read?, ?_⟩
  rintro ⟨hwritten, hlongest⟩
  have hk : k.symbol <+: t := ⟨rest, hwritten.symm⟩
  cases hread : read? t with
  | none => exact absurd hk (read?_eq_none_iff.1 hread k)
  | some found =>
    -- Of two longest comparators neither is longer than the other.
    obtain ⟨l, rest'⟩ := found
    obtain ⟨hwritten', hlongest'⟩ := longest_of_read? hread
    have hl : l.symbol <+: t := ⟨rest', hwritten'.symm⟩
    have hle : k.symbol.length ≤ l.symbol.length := Nat.not_lt.1 fun h => hlongest' k h hk
    have hge : l.symbol.length ≤ k.symbol.length := Nat.not_lt.1 fun h => hlongest l h hl
    obtain ⟨hsymbol, rfl⟩ :=
      List.append_inj (hwritten.symm.trans hwritten') (Nat.le_antisymm hle hge)
    rw [symbol_inj.1 hsymbol]

/-! ## A character that begins no comparator -/

/-- A character of comparators begins one, unless it is an exclamation mark without an equals sign
behind it. -/
theorem read?_cons_eq_none_iff {c : Char} (hc : isMark c = true) (rest : Text) :
    read? (c :: rest) = none ↔ c = '!' ∧ rest.head? ≠ some '=' := by
  rw [read?_eq_none_iff]
  rw [isMark_iff] at hc
  simp only [List.mem_cons, List.not_mem_nil, or_false] at hc
  constructor
  · intro hnone
    rcases hc with rfl | rfl | rfl | rfl
    · exact absurd ⟨rest, rfl⟩ (hnone .eq)
    · refine ⟨rfl, fun hhead => ?_⟩
      obtain ⟨more, rfl⟩ := List.head?_eq_some_iff.1 hhead
      exact hnone .ne ⟨more, rfl⟩
    · exact absurd ⟨rest, rfl⟩ (hnone .lt)
    · exact absurd ⟨rest, rfl⟩ (hnone .gt)
  · rintro ⟨rfl, hhead⟩ k ⟨more, hk⟩
    cases k with
    | ne =>
      obtain rfl : '=' :: more = rest := (List.cons.inj hk).2
      exact hhead rfl
    | ge | le | eq | gt | lt => exact absurd (List.cons.inj hk).1 (by decide)

/-! ## The first character of a comparator -/

/-- An expression is what stands in front of its first character of comparators, and what begins
with that character. -/
theorem exists_lead (expression : Text) :
    ∃ lead t : Text, expression = lead ++ t ∧ (∀ c ∈ lead, isMark c = false) ∧
      ∀ c ∈ t.head?, isMark c = true := by
  refine ⟨_, _, (List.takeWhile_append_dropWhile (p := fun c => !isMark c)).symm, ?_, ?_⟩
  · intro c hc
    simpa using List.mem_takeWhile_imp hc
  · intro c hc
    have hfirst := List.head?_dropWhile_not (fun c => !isMark c) expression
    rw [hc] at hfirst
    simpa using hfirst

/-! ## Where an expression is split -/

/-- An expression in three parts: one without characters of comparators, a comparator, and the rest.
No longer comparator stands in the place of the one that is taken. -/
structure CutAt (expression lead symbol value : Text) : Prop where
  eq_append : expression = lead ++ symbol ++ value
  lead_unmarked : ∀ c ∈ lead, c ∉ ['=', '!', '<', '>']
  symbol_mem : symbol ∈ symbols
  longest : ∀ longer ∈ symbols, symbol.length < longer.length → ¬longer <+: symbol ++ value

/-- An expression is split exactly at the longest comparator in the first place for one. -/
theorem split?_eq_some_iff {expression lead value : Text} {k : Comparator} :
    split? expression = some (lead, k, value) ↔ CutAt expression lead k.symbol value := by
  constructor
  · intro h
    obtain ⟨before, t, rfl, hbefore, ht⟩ := exists_lead expression
    rw [split?_append hbefore ht] at h
    obtain ⟨⟨l, rest⟩, hread, heq⟩ := Option.map_eq_some_iff.1 h
    obtain ⟨rfl, hrest⟩ := Prod.mk.inj heq
    obtain ⟨rfl, rfl⟩ := Prod.mk.inj hrest
    obtain ⟨rfl, hlongest⟩ := read?_eq_some_iff.1 hread
    refine ⟨(List.append_assoc _ _ _).symm, fun c hc => isMark_eq_false_iff.1 (hbefore c hc),
      mem_symbols_iff.2 ⟨l, rfl⟩, ?_⟩
    intro longer hmem hlonger
    obtain ⟨m, rfl⟩ := mem_symbols_iff.1 hmem
    exact hlongest m hlonger
  · rintro ⟨rfl, hunmarked, -, hlongest⟩
    have hlead : ∀ c ∈ lead, isMark c = false := fun c hc =>
      isMark_eq_false_iff.2 (hunmarked c hc)
    have hread : read? (k.symbol ++ value) = some (k, value) :=
      read?_eq_some_iff.2 ⟨rfl, fun l => hlongest l.symbol (mem_symbols_iff.2 ⟨l, rfl⟩)⟩
    rw [List.append_assoc, split?_append hlead (k.isMark_of_head?_symbol value), hread]
    rfl

/-- An expression is not split exactly if it has no character of comparators, or the first one is an
exclamation mark without an equals sign behind it. -/
theorem split?_eq_none_iff {expression : Text} :
    split? expression = none ↔ (∀ c ∈ expression, c ∉ ['=', '!', '<', '>']) ∨
      ∃ lead rest : Text, expression = lead ++ '!' :: rest ∧
        (∀ c ∈ lead, c ∉ ['=', '!', '<', '>']) ∧ rest.head? ≠ some '=' := by
  simp only [← isMark_eq_false_iff]
  constructor
  · intro h
    obtain ⟨lead, t, rfl, hlead, ht⟩ := exists_lead expression
    rw [split?_append hlead ht, Option.map_eq_none_iff] at h
    cases t with
    | nil =>
      rw [List.append_nil]
      exact Or.inl hlead
    | cons c rest =>
      obtain ⟨rfl, hhead⟩ := (read?_cons_eq_none_iff (ht c rfl) rest).1 h
      exact Or.inr ⟨lead, rest, rfl, hlead, hhead⟩
  · rintro (hnone | ⟨lead, rest, rfl, hlead, hhead⟩)
    · have hwhole := split?_append (t := []) hnone nofun
      rw [List.append_nil] at hwhole
      rw [hwhole]
      rfl
    · have hmark : isMark '!' = true := by decide
      have hbegin : ∀ c ∈ ('!' :: rest).head?, isMark c = true := by
        rintro c ⟨⟩
        exact hmark
      rw [split?_append hlead hbegin, (read?_cons_eq_none_iff hmark rest).2 ⟨rfl, hhead⟩]
      rfl

/-- An expression is split at its first character of comparators or not at all.  It is split into
three parts exactly if the first one has no such character, and the second one is the longest
comparator that stands in its place.  It is not split exactly if it has no such character, or the
first one is an exclamation mark without an equals sign behind it, whatever stands behind that. -/
theorem split?_leftmost_longest :
    (∀ expression lead symbol value : Text,
      (∃ k : Comparator, k.symbol = symbol ∧ split? expression = some (lead, k, value)) ↔
        CutAt expression lead symbol value) ∧
    ∀ expression : Text,
      split? expression = none ↔ (∀ c ∈ expression, c ∉ ['=', '!', '<', '>']) ∨
        ∃ lead rest : Text, expression = lead ++ '!' :: rest ∧
          (∀ c ∈ lead, c ∉ ['=', '!', '<', '>']) ∧ rest.head? ≠ some '=' := by
  refine ⟨fun expression lead symbol value => ⟨?_, fun h => ?_⟩, fun _ => split?_eq_none_iff⟩
  · rintro ⟨k, rfl, hsplit⟩
    exact split?_eq_some_iff.1 hsplit
  · obtain ⟨k, rfl⟩ := mem_symbols_iff.1 h.symbol_mem
    exact ⟨k, rfl, split?_eq_some_iff.2 h⟩

example : split? "a!b>=1".toList = none ∧ split? "ivl>==".toList = some ("ivl".toList, ge, ['=']) :=
  ⟨rfl, rfl⟩

end Comparator

end CardQuery
