import CardQuery.Text.Blank
import Mathlib.Data.List.DropRight

/-!
# Stripped texts

What is left of a text without the blanks at its ends: the part between the first and the last
character that is no blank.

Main results:

- `exists_strip` says that stripping takes away blanks at the two ends and nothing else.
- `strip_of_trim` says that a text without blanks at its ends is left as it is.
- `strip_surround` says that blanks around a text do not matter.
- `strip_join` says that two texts with blanks between them are stripped each by itself.
-/

namespace CardQuery

namespace Text

/-- A text of blanks. -/
def Blanks (t : Text) : Prop := ∀ c ∈ t, isBlank c = true

instance : DecidablePred Blanks := fun t =>
  decidable_of_iff (t.all isBlank = true) List.all_eq_true

/-- A text of characters that are neither quotes nor blanks. -/
def Plain (t : Text) : Prop := ∀ c ∈ t, c ≠ '"' ∧ isBlank c = false

instance : DecidablePred Plain := fun t =>
  decidable_of_iff ((t.all fun c => c != '"' && !isBlank c) = true) (by simp [Plain])

/-- A text that neither begins nor ends with a blank. -/
structure Trim (t : Text) : Prop where
  head : ∀ c ∈ t.head?, isBlank c = false
  last : ∀ c ∈ t.getLast?, isBlank c = false

theorem blanks_nil : Blanks [] := nofun

theorem Blanks.append {s t : Text} (hs : Blanks s) (ht : Blanks t) : Blanks (s ++ t) := by
  intro c hc
  rcases List.mem_append.1 hc with hc | hc
  · exact hs c hc
  · exact ht c hc

theorem plain_nil : Plain [] := nofun

theorem Plain.append {s t : Text} (hs : Plain s) (ht : Plain t) : Plain (s ++ t) := by
  intro c hc
  rcases List.mem_append.1 hc with hc | hc
  · exact hs c hc
  · exact ht c hc

/-- Texts without blanks at their ends put together have none there either. -/
theorem Trim.append {s t : Text} (hs : Trim s) (ht : Trim t) : Trim (s ++ t) := by
  constructor
  · intro c hc
    cases s with
    | nil => exact ht.head c hc
    | cons d s => exact hs.head c hc
  · intro c hc
    rw [List.getLast?_append] at hc
    cases hlast : t.getLast? with
    | none =>
      rw [hlast] at hc
      exact hs.last c hc
    | some d =>
      rw [hlast] at hc
      exact ht.last c (hlast ▸ hc)

/-- Only the two ends of a text matter, whatever stands between them. -/
theorem Trim.surround {s t : Text} (hs : Trim s) (ht : Trim t) (hsne : s ≠ []) (htne : t ≠ [])
    (between : Text) : Trim (s ++ between ++ t) := by
  constructor
  · intro c hc
    rw [List.append_assoc, List.head?_append_of_ne_nil _ hsne] at hc
    exact hs.head c hc
  · intro c hc
    rw [List.getLast?_append_of_ne_nil _ htne] at hc
    exact ht.last c hc

/-- The beginning of a text without blanks at its ends has none at its ends either, if something
like that is put behind it. -/
theorem Trim.take_append {t s : Text} (ht : Trim t) (hs : Trim s) (hne : s ≠ []) (n : Nat) :
    Trim (t.take n ++ s) := by
  constructor
  · intro c hc
    cases n with
    | zero => exact hs.head c hc
    | succ n =>
      cases t with
      | nil => exact hs.head c hc
      | cons d t => exact ht.head c hc
  · intro c hc
    rw [List.getLast?_append_of_ne_nil _ hne] at hc
    exact hs.last c hc

/-! ## The end of a text -/

/-- No blanks stand at the end of a text that does not end with one. -/
theorem Trim.eq_nil_of_blanks {t lead w : Text} (ht : Trim t) (h : t = lead ++ w)
    (hw : Blanks w) : w = [] := by
  rcases List.eq_nil_or_concat w with hnil | ⟨more, c, rfl⟩
  · exact hnil
  · have hlast : c ∈ t.getLast? := by
      rw [h, List.concat_eq_append, ← List.append_assoc, List.getLast?_concat]
      exact Option.mem_some_self c
    have hblank : isBlank c = true := hw c (by simp)
    rw [ht.last c hlast] at hblank
    cases hblank

/-- A last character is taken away exactly if it is a blank. -/
theorem stripEnd_concat (t : Text) (c : Char) :
    stripEnd (t ++ [c]) = if isBlank c then stripEnd t else t ++ [c] := by
  induction t with
  | nil => rfl
  | cons d t ih =>
    rw [List.cons_append, stripEnd, ih]
    by_cases hc : isBlank c
    · simp only [hc, if_true]
      rfl
    · simp [hc]

/-- The blanks at the end are the longest run of blanks there. -/
theorem stripEnd_eq_rdropWhile (t : Text) : stripEnd t = t.rdropWhile isBlank := by
  induction t using List.reverseRecOn with
  | nil => rfl
  | append_singleton t c ih => rw [stripEnd_concat, List.rdropWhile_concat, ih]

/-- Stripping takes the longest runs of blanks away at both ends. -/
theorem strip_eq_rdropWhile (t : Text) :
    strip t = (t.dropWhile isBlank).rdropWhile isBlank :=
  stripEnd_eq_rdropWhile _

/-! ## What stripping takes away -/

/-- Stripping takes blanks away at the two ends and nothing else. -/
theorem exists_strip (t : Text) :
    ∃ lead trail, Blanks lead ∧ Blanks trail ∧ t = lead ++ strip t ++ trail := by
  refine ⟨t.takeWhile isBlank, (t.dropWhile isBlank).rtakeWhile isBlank, ?_, ?_, ?_⟩
  · intro c hc
    exact List.mem_takeWhile_imp hc
  · intro c hc
    exact List.mem_rtakeWhile_imp hc
  · rw [strip_eq_rdropWhile, List.append_assoc, List.rdropWhile_append_rtakeWhile,
      List.takeWhile_append_dropWhile]

/-- A text without blanks at its ends is left as it is. -/
theorem strip_of_trim {t : Text} (h : Trim t) : strip t = t := by
  cases t with
  | nil => rfl
  | cons c t =>
    have hc : isBlank c = false := h.head c rfl
    have hlead : (c :: t).dropWhile isBlank = c :: t := by simp [hc]
    rw [strip_eq_rdropWhile, hlead, List.rdropWhile_eq_self_iff]
    intro hne
    simp [h.last _ (List.getLast?_eq_some_getLast hne)]

/-- A stripped text has no blanks at its ends. -/
theorem trim_strip (t : Text) : Trim (strip t) := by
  rw [strip_eq_rdropWhile]
  constructor
  · intro c hc
    -- The part that is kept is a beginning of the part behind the leading blanks.
    have hkept : (t.dropWhile isBlank).rdropWhile isBlank ≠ [] := by
      rintro hnil
      rw [hnil] at hc
      cases hc
    have hhead : (t.dropWhile isBlank).head? = some c := by
      rcases List.rdropWhile_prefix isBlank (l := t.dropWhile isBlank) with ⟨rest, hrest⟩
      rw [← hrest, List.head?_append_of_ne_nil _ hkept]
      exact hc
    have hnot := List.head?_dropWhile_not isBlank t
    rw [hhead] at hnot
    simpa using hnot
  · intro c hc
    rcases List.mem_getLast?_eq_getLast hc with ⟨hne, rfl⟩
    simpa using List.rdropWhile_last_not isBlank (t.dropWhile isBlank) hne

/-- Blanks around a text do not matter. -/
theorem strip_surround {lead trail : Text} (hlead : Blanks lead) (htrail : Blanks trail)
    (t : Text) : strip (lead ++ t ++ trail) = strip t := by
  have hdrop : ∀ s : Text, stripEnd (s ++ trail) = stripEnd s := by
    intro s
    induction trail using List.reverseRecOn with
    | nil => rw [List.append_nil]
    | append_singleton trail c ih =>
      have hc : isBlank c = true := htrail c (by simp)
      rw [← List.append_assoc, stripEnd_concat, if_pos hc]
      exact ih fun d hd => htrail d (by simp [hd])
  rw [strip, List.append_assoc, List.dropWhile_append_of_pos hlead, List.dropWhile_append]
  split
  next hblank =>
    have hall : ∀ c ∈ t, isBlank c = true := by
      simpa [List.dropWhile_eq_nil_iff] using hblank
    rw [List.dropWhile_eq_nil_iff.2 htrail, strip_eq_nil_iff.2 hall]
    rfl
  next => exact hdrop _

@[simp] theorem strip_strip (t : Text) : strip (strip t) = strip t :=
  strip_of_trim (trim_strip t)

/-- Two texts with blanks between them are stripped each by itself; what is left of them is
separated by blanks again. -/
theorem strip_join {a w b : Text} (hw : Blanks w) (hne : w ≠ []) (ha : strip a ≠ [])
    (hb : strip b ≠ []) :
    ∃ gap, Blanks gap ∧ gap ≠ [] ∧ strip (a ++ w ++ b) = strip a ++ gap ++ strip b := by
  rcases exists_strip a with ⟨leadA, trailA, hleadA, htrailA, haeq⟩
  rcases exists_strip b with ⟨leadB, trailB, hleadB, htrailB, hbeq⟩
  refine ⟨trailA ++ w ++ leadB, (htrailA.append hw).append hleadB, by simp [hne], ?_⟩
  have hsplit : a ++ w ++ b =
      leadA ++ (strip a ++ (trailA ++ w ++ leadB) ++ strip b) ++ trailB := by
    conv_lhs => rw [haeq, hbeq]
    simp only [List.append_assoc]
  rw [hsplit, strip_surround hleadA htrailB]
  exact strip_of_trim ((trim_strip a).surround (trim_strip b) ha hb _)

end Text

end CardQuery
