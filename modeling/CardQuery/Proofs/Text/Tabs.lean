import CardQuery.Proofs.Path
import CardQuery.Text.Wrap

/-!
# Tabs that are replaced

Spaces take the place of the tabs of a text, and nothing else changes.

Main results:

- `filter_expandTabs` says that the characters other than tabs and spaces stay.
- `noTab_expandTabs` says that no tab is left.
-/

namespace CardQuery

namespace Text

section

variable {p : Char → Bool}

/-- The parts of a text have its characters, except for the ends. -/
theorem filter_flatten_partsBetween {isEnd : Char → Bool} (hend : ∀ c, isEnd c = true → p c = false)
    (t : Text) : (partsBetween isEnd t).flatten.filter p = t.filter p := by
  induction t with
  | nil => rfl
  | cons c t ih =>
    unfold partsBetween
    split
    next h =>
      rw [List.flatten_cons, List.nil_append, ih, List.filter_cons_of_neg (by simp [hend c h])]
    next =>
      cases hparts : partsBetween isEnd t with
      | nil => exact absurd hparts (partsBetween_ne_nil isEnd t)
      | cons part rest =>
        rw [hparts] at ih
        calc List.filter p ([c] ++ (part :: rest).flatten)
            = [c].filter p ++ t.filter p := by rw [List.filter_append, ih]
          _ = ([c] ++ t).filter p := (List.filter_append _ _).symm

/-- The parts between tabs are joined by spaces. -/
theorem filter_joinAtStops (hspace : p ' ' = false) (column : Nat) (parts : List Text) :
    (joinAtStops column parts).filter p = parts.flatten.filter p := by
  have hspaces : ∀ n, (List.replicate n ' ').filter p = [] := by
    intro n
    rw [List.filter_replicate, hspace]
    rfl
  fun_induction joinAtStops column parts with
  | case1 => rfl
  | case2 column last => rw [List.flatten_singleton]
  | case3 column part rest hrest reached stop ih =>
    rw [List.append_assoc, List.filter_append, List.cons_append,
      List.filter_cons_of_neg (by simp [hspace]), List.filter_append, hspaces, ih, List.nil_append,
      List.flatten_cons, List.filter_append]

/-- What is done to the lines of a text is done to the text. -/
theorem filter_intercalate_map {f : Text → Text} (hf : ∀ t, (f t).filter p = t.filter p)
    (sep : Text) (lines : List Text) :
    (List.intercalate sep (lines.map f)).filter p = (List.intercalate sep lines).filter p := by
  induction lines with
  | nil => rfl
  | cons line rest ih =>
    cases rest with
    | nil => simpa [List.intercalate] using hf line
    | cons next rest =>
      rw [List.map_cons, List.map_cons] at *
      rw [List.intercalate_cons_cons, List.intercalate_cons_cons, List.filter_append,
        List.filter_append, List.filter_append, List.filter_append, hf, ih]

/-- The characters of a text other than tabs and spaces stay when its tabs are replaced. -/
theorem filter_expandTabs (hspace : p ' ' = false) (htab : p '\t' = false) (t : Text) :
    (expandTabs t).filter p = t.filter p := by
  have hline : ∀ line, (expandLine line).filter p = line.filter p := by
    intro line
    have hend : ∀ c, (c == '\t') = true → p c = false := by
      intro c hc
      rw [beq_iff_eq.1 hc, htab]
    rw [expandLine, filter_joinAtStops hspace, filter_flatten_partsBetween hend]
  rw [expandTabs, filter_intercalate_map hline, intercalate_partsBetween]

end

theorem not_mem_intercalate {c : Char} {sep : Text} (hsep : c ∉ sep) {lines : List Text}
    (h : ∀ line ∈ lines, c ∉ line) : c ∉ List.intercalate sep lines := by
  induction lines with
  | nil => exact List.not_mem_nil
  | cons line rest ih =>
    have hline := h line List.mem_cons_self
    have hrest := ih fun other hother => h other (List.mem_cons_of_mem line hother)
    cases rest with
    | nil => simpa [List.intercalate] using hline
    | cons next rest =>
      rw [List.intercalate_cons_cons]
      simp only [List.mem_append, hline, hsep, hrest, or_self, not_false_eq_true]

/-- No tab is left of a text whose tabs are replaced. -/
theorem noTab_expandTabs (t : Text) : '\t' ∉ expandTabs t := by
  have hjoin : ∀ column parts, (∀ part ∈ parts, '\t' ∉ part) → '\t' ∉ joinAtStops column parts := by
    intro column parts
    fun_induction joinAtStops column parts with
    | case1 => exact fun _ => List.not_mem_nil
    | case2 column last => exact fun h => h last List.mem_cons_self
    | case3 column part rest hrest reached stop ih =>
      intro h
      have hpart := h part List.mem_cons_self
      have hmore := ih fun other hother => h other (List.mem_cons_of_mem part hother)
      simp [hpart, hmore]
  have hline : ∀ line, '\t' ∉ expandLine line := by
    intro line
    apply hjoin
    intro part hpart htab
    exact absurd (noEnd_of_mem_partsBetween hpart '\t' htab) (by decide)
  apply not_mem_intercalate (by decide)
  intro line hmem
  obtain ⟨part, -, rfl⟩ := List.mem_map.1 hmem
  exact hline part

end Text

end CardQuery
