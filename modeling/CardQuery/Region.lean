import CardQuery.Text

/-!
# Quoted regions

A quoted region is a double quote, its inner text, and the next double quote that no backslash
protects.  In the inner text a backslash stands with the character after it, which must not be a
line break; every other character stands alone.

Main results:

- `close?_eq_some_iff` says that `close?` finds the inner text and the rest exactly as the
  definition of an inner text, `Inner`, lays down; so the closing quote is unique.
- `unescape_escape` says that `unescape` undoes `escape`.
-/

namespace CardQuery

namespace Region

/-! ## The inner text -/

/-- The texts that stand between the two quotes of a region. -/
inductive Inner : Text → Prop
  /-- Nothing may stand between the quotes. -/
  | nil : Inner []
  /-- A backslash protects any character but a line break. -/
  | pair {c : Char} {t : Text} : c ≠ '\n' → Inner t → Inner ('\\' :: c :: t)
  /-- A character other than a quote and a backslash stands alone. -/
  | single {c : Char} {t : Text} : c ≠ '"' → c ≠ '\\' → Inner t → Inner (c :: t)

/-- The inner text of the region whose opening quote has just been read, and the text after its
closing quote; nothing if the region never closes. -/
def close? : Text → Option (Text × Text)
  | [] => none
  | '"' :: rest => some ([], rest)
  | '\\' :: c :: rest =>
    if c = '\n' then none
    else (close? rest).map fun found => ('\\' :: c :: found.1, found.2)
  | c :: rest => (close? rest).map fun found => (c :: found.1, found.2)

/-- A region closes where its inner text ends. -/
theorem close?_of_inner {inner : Text} (h : Inner inner) (rest : Text) :
    close? (inner ++ '"' :: rest) = some (inner, rest) := by
  induction h with
  | nil => rfl
  | pair hc _ ih => simp [close?, hc, ih]
  | single hquote hslash _ ih =>
    rw [List.cons_append, close?]
    · simp [ih]
    · exact hquote
    · rintro _ _ rfl
      exact absurd rfl hslash

/-- What is found when a region closes: its inner text, then a quote, then the rest. -/
theorem inner_of_close? {t inner rest : Text} (h : close? t = some (inner, rest)) :
    Inner inner ∧ t = inner ++ '"' :: rest := by
  fun_induction close? t generalizing inner with
  | case1 => simp at h
  | case2 r =>
    simp only [Option.some.injEq, Prod.mk.injEq] at h
    obtain ⟨rfl, rfl⟩ := h
    exact ⟨.nil, rfl⟩
  | case3 => simp at h
  | case4 c r hc ih =>
    obtain ⟨⟨i, after⟩, hfound, heq⟩ := Option.map_eq_some_iff.1 h
    simp only [Prod.mk.injEq] at heq
    obtain ⟨rfl, rfl⟩ := heq
    obtain ⟨hinner, rfl⟩ := ih hfound
    exact ⟨.pair hc hinner, rfl⟩
  | case5 c r hquote hpair ih =>
    obtain ⟨⟨i, after⟩, hfound, heq⟩ := Option.map_eq_some_iff.1 h
    simp only [Prod.mk.injEq] at heq
    obtain ⟨rfl, rfl⟩ := heq
    obtain ⟨hinner, rfl⟩ := ih hfound
    refine ⟨.single hquote ?_ hinner, rfl⟩
    rintro rfl
    cases i with
    | nil => exact hpair '"' after rfl rfl
    | cons d i => exact hpair d (i ++ '"' :: after) rfl rfl

/-- A region closes after `inner` exactly when `inner` is an inner text and a quote follows. -/
theorem close?_eq_some_iff {t inner rest : Text} :
    close? t = some (inner, rest) ↔ Inner inner ∧ t = inner ++ '"' :: rest := by
  constructor
  · exact inner_of_close?
  · rintro ⟨hinner, rfl⟩
    exact close?_of_inner hinner rest

/-- What follows a region is shorter than the text after its opening quote. -/
theorem length_of_close? {t inner rest : Text} (h : close? t = some (inner, rest)) :
    rest.length < t.length := by
  rw [(inner_of_close? h).2]
  simp only [List.length_append, List.length_cons]
  omega

/-! ## Protected quotes -/

/-- The text that an inner text stands for: a backslash before a quote is left out, and every
other backslash is kept. -/
def unescape : Text → Text
  | '\\' :: '"' :: rest => '"' :: unescape rest
  | c :: rest => c :: unescape rest
  | [] => []

/-- A text with a backslash before each double quote. -/
def escape : Text → Text
  | [] => []
  | c :: rest => if c = '"' then '\\' :: '"' :: escape rest else c :: escape rest

/-- A text written as one quoted region. -/
def quote (t : Text) : Text := '"' :: escape t ++ ['"']

/-- An escaped text never begins with a quote. -/
theorem escape_ne_quote_cons (t rest : Text) : escape t ≠ '"' :: rest := by
  cases t with
  | nil => simp [escape]
  | cons c t => by_cases h : c = '"' <;> simp [escape, h]

/-- Leaving out the backslashes that `escape` puts in gives the text back. -/
theorem unescape_escape (t : Text) : unescape (escape t) = t := by
  induction t with
  | nil => rfl
  | cons c t ih =>
    by_cases h : c = '"'
    · simp [escape, unescape, h, ih]
    · rw [escape, if_neg h, unescape, ih]
      rintro rest rfl hrest
      exact absurd hrest (escape_ne_quote_cons t rest)

end Region

end CardQuery
