import CardQuery.Text.Blank

/-!
# Markup

Messages are written in a markup in which a tag in brackets switches a style on or off and is not
shown.  Backslashes in front of a tag protect it.  This module protects texts that are put into
markup and splits markup into tags and characters.

Main results:

- `escape_of_noBracket` says that a text without brackets needs no protection but for a last
  backslash.
- `shown_read_of_noBracket` and `tags_read_of_noBracket` say that a text without brackets is shown
  as it is and has no tags.
-/

namespace CardQuery

namespace Markup

/-! ## Tags -/

/-- Whether a character can stand first in a tag. -/
def isTagStart (c : Char) : Bool :=
  decide ('a' ≤ c ∧ c ≤ 'z') || c == '#' || c == '/' || c == '@'

/-- Whether a character is not a bracket. -/
def isInside (c : Char) : Bool := c != '[' && c != ']'

/-- The inner text of the tag at the beginning of a text, and the rest after its closing bracket. -/
def tag? : Text → Option (Text × Text)
  | '[' :: c :: rest =>
    if isTagStart c then
      match rest.dropWhile isInside with
      | ']' :: after => some (c :: rest.takeWhile isInside, after)
      | _ => none
    else none
  | _ => none

/-- What follows a tag is shorter than the text that it begins. -/
theorem length_of_tag? {t inner rest : Text} (h : tag? t = some (inner, rest)) :
    rest.length < t.length := by
  unfold tag? at h
  split at h
  next c rest' =>
    split at h
    next =>
      split at h
      next after hdrop =>
        cases h
        have hle := (List.dropWhile_sublist isInside (l := rest')).length_le
        rw [hdrop] at hle
        simp only [List.length_cons] at *
        omega
      next => cases h
    next => cases h
  next => cases h

/-- Whether a text begins with a tag that any number of backslashes stand before. -/
def leadsToTag (t : Text) : Bool := (tag? (t.dropWhile fun c => c == '\\')).isSome

/-! ## Protecting a text -/

/-- A text with one more backslash in front of each tag and of each backslash before a tag. -/
def protect : Text → Text
  | [] => []
  | c :: rest =>
    if leadsToTag (c :: rest) then '\\' :: c :: protect rest else c :: protect rest

/-- Whether the last character of a text is a backslash and the one before it is none. -/
def endsInLoneSlash (t : Text) : Bool :=
  match t.reverse with
  | '\\' :: '\\' :: _ => false
  | '\\' :: _ => true
  | _ => false

/-- A text protected so that it holds no tag and disables no tag after it. -/
def escape (t : Text) : Text :=
  let body := protect t
  if endsInLoneSlash body then body ++ ['\\'] else body

/-- There is no tag without a bracket. -/
theorem tag?_of_noBracket {t : Text} (h : '[' ∉ t) : tag? t = none := by
  unfold tag?
  split
  next c rest => simp at h
  next => rfl

/-- Nothing in a text without brackets is protected. -/
theorem protect_of_noBracket {t : Text} (h : '[' ∉ t) : protect t = t := by
  induction t with
  | nil => rfl
  | cons c rest ih =>
    have hnone : leadsToTag (c :: rest) = false := by
      have hsub := List.dropWhile_sublist (fun c => c == '\\') (l := c :: rest)
      have hmem : '[' ∉ (c :: rest).dropWhile fun c => c == '\\' := fun hm => h (hsub.subset hm)
      simp [leadsToTag, tag?_of_noBracket hmem]
    rw [protect, hnone, ih fun hm => h (List.mem_cons_of_mem _ hm)]
    rfl

/-- A text without brackets needs no protection but for a last backslash. -/
theorem escape_of_noBracket {t : Text} (h : '[' ∉ t) :
    escape t = if endsInLoneSlash t then t ++ ['\\'] else t := by
  simp only [escape, protect_of_noBracket h]

/-! ## Reading markup -/

/-- What markup is made of. -/
inductive Token
  /-- A character that is shown. -/
  | char (c : Char)
  /-- A tag with its inner text. -/
  | tag (inner : Text)
deriving DecidableEq, Repr

/-- The tokens of markup.  Two backslashes that lead to a tag show one, and a single backslash
before an opening bracket shows the bracket, so that it begins no tag. -/
def read : Text → List Token
  | [] => []
  | '\\' :: '[' :: rest => .char '[' :: read rest
  | c :: rest =>
    if c = '\\' ∧ rest.head? = some '\\' ∧ leadsToTag rest then
      .char '\\' :: read rest.tail
    else
      match _h : tag? (c :: rest) with
      | some (inner, after) => .tag inner :: read after
      | none => .char c :: read rest
termination_by t => t.length
decreasing_by
  · simp only [List.length_cons]
    omega
  · simp only [List.length_cons, List.length_tail]
    omega
  · exact length_of_tag? _h
  · simp

/-- The text that tokens show. -/
def shown (tokens : List Token) : Text :=
  tokens.filterMap fun
    | .char c => some c
    | .tag _ => none

/-- The tags among tokens, by their inner texts. -/
def tags (tokens : List Token) : List Text :=
  tokens.filterMap fun
    | .char _ => none
    | .tag inner => some inner

/-- A text without brackets is shown as it is. -/
theorem shown_read_of_noBracket {t : Text} (h : '[' ∉ t) : shown (read t) = t := by
  have hnone : ∀ s : Text, '[' ∉ s → leadsToTag s = false := by
    intro s hs
    have hsub := List.dropWhile_sublist (fun c => c == '\\') (l := s)
    simp [leadsToTag, tag?_of_noBracket fun hm => hs (hsub.subset hm)]
  fun_induction read t with
  | case1 => rfl
  | case2 rest ih => simp at h
  | case3 c rest hne hslash ih =>
    have hlead := hnone rest fun hm => h (List.mem_cons_of_mem _ hm)
    rw [hlead] at hslash
    simp at hslash
  | case4 c rest hne hslash inner after htag ih =>
    rw [tag?_of_noBracket h] at htag
    cases htag
  | case5 c rest hne hslash htag ih =>
    have hrest := ih fun hm => h (List.mem_cons_of_mem _ hm)
    simpa [shown] using hrest

/-- A text without brackets has no tags. -/
theorem tags_read_of_noBracket {t : Text} (h : '[' ∉ t) : tags (read t) = [] := by
  fun_induction read t with
  | case1 => rfl
  | case2 rest ih => simp at h
  | case3 c rest hne hslash ih =>
    have htail := ih fun hm => h (List.mem_cons_of_mem _ (List.mem_of_mem_tail hm))
    simpa [tags] using htail
  | case4 c rest hne hslash inner after htag ih =>
    rw [tag?_of_noBracket h] at htag
    cases htag
  | case5 c rest hne hslash htag ih =>
    have hrest := ih fun hm => h (List.mem_cons_of_mem _ hm)
    simpa [tags] using hrest

end Markup

end CardQuery
