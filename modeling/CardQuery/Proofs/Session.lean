import CardQuery.Proofs.Notice
import CardQuery.Session
import Mathlib.Data.List.Forall2

/-!
# Steps that give notices

A notice is written to its own stream and changes nothing else in a session.

Main results:

- `say_eq_ok_iff` says what a session is after a notice.
- `exists_say` says that a notice can be given if all of its lines can be printed.
- `exists_write_of_sayAll` says that notices for the stream of errors are written there one after
  the other.
- `exists_sayAll` says when they can be given.
-/

namespace CardQuery

namespace Session

variable {s s' : Session} {channel : Channel}

/-! ## What is written -/

@[simp] theorem write_nil (s : Session) (channel : Channel) : s.write channel [] = s := by
  cases channel <;> simp [write]

@[simp] theorem write_write (s : Session) (channel : Channel) (t u : Text) :
    (s.write channel t).write channel u = s.write channel (t ++ u) := by
  cases channel <;> simp [write]

/-! ## Notices -/

/-- Whether lines of markup come out as the given texts. -/
def PrintedAs : (lines printed : List Text) → Prop :=
  List.Forall₂ fun line t => Console.printed line = .ok t

/-- Lines are printed one after the other. -/
theorem putLines_eq_ok_iff {lines : List Text} :
    s.putLines channel lines = .ok s' ↔
      ∃ printed, PrintedAs lines printed ∧ s' = s.write channel printed.flatten := by
  induction lines generalizing s with
  | nil => simp [putLines, PrintedAs, eq_comm]
  | cons line rest ih =>
    rw [putLines]
    cases hline : Console.printed line with
    | error fault =>
      refine iff_of_false nofun ?_
      rintro ⟨printed, hprinted, -⟩
      obtain ⟨t, later, ht, -⟩ := List.forall₂_cons_left_iff.1 hprinted
      cases hline.symm.trans ht
    | ok t =>
      rw [put, ih]
      constructor
      · rintro ⟨printed, hrest, rfl⟩
        exact ⟨t :: printed, List.Forall₂.cons hline hrest, write_write s channel t _⟩
      · rintro ⟨printed, hprinted, rfl⟩
        obtain ⟨u, later, hu, hrest, rfl⟩ := List.forall₂_cons_left_iff.1 hprinted
        obtain rfl := Except.ok.inj (hline.symm.trans hu)
        exact ⟨later, hrest, (write_write s channel t _).symm⟩

/-- A notice is written to its stream. -/
theorem say_eq_ok_iff {n : Notice} :
    s.say n = .ok s' ↔
      ∃ printed, PrintedAs n.lines printed ∧ s' = s.write n.channel printed.flatten :=
  putLines_eq_ok_iff

/-- A notice whose first line cannot be printed ends the run without a word. -/
theorem say_of_unprintable {n : Notice} {line : Text} {rest : List Text} {unshown : Markup.Fault}
    (hlines : n.lines = line :: rest) (h : Console.printed line = .error unshown) :
    s.say n = .error (s.crash (.markup unshown)) := by
  simp only [say, hlines, putLines, h, put]

/-- A notice can be given if all of its lines can be printed. -/
theorem exists_say {n : Notice} (h : n.Printable) (s : Session) :
    ∃ t, s.say n = .ok (s.write n.channel t) := by
  have hprinted : ∀ lines : List Text, (∀ line ∈ lines, ∃ t, Console.printed line = .ok t) →
      ∃ printed, PrintedAs lines printed := by
    intro lines hlines
    induction lines with
    | nil => exact ⟨[], List.Forall₂.nil⟩
    | cons line rest ih =>
      obtain ⟨t, hline⟩ := hlines line List.mem_cons_self
      obtain ⟨printed, hrest⟩ := ih fun other hother =>
        hlines other (List.mem_cons_of_mem line hother)
      exact ⟨t :: printed, List.Forall₂.cons hline hrest⟩
  obtain ⟨printed, hlines⟩ := hprinted n.lines h
  exact ⟨printed.flatten, say_eq_ok_iff.2 ⟨printed, hlines, rfl⟩⟩

theorem sayAll_singleton (n : Notice) (s : Session) : s.sayAll [n] = s.say n := by
  rw [sayAll]
  cases s.say n <;> rfl

/-- Notices are given one after the other. -/
theorem sayAll_append (ns ms : List Notice) (s : Session) :
    s.sayAll (ns ++ ms) = s.sayAll ns >>= fun s => s.sayAll ms := by
  induction ns generalizing s with
  | nil => rfl
  | cons n ns ih =>
    rw [List.cons_append, sayAll, sayAll]
    cases s.say n with
    | error outcome => rfl
    | ok s => exact ih s

/-- Notices for the stream of errors are written there one after the other. -/
theorem exists_write_of_sayAll {ns : List Notice} (hchannel : ∀ n ∈ ns, n.channel = .errors)
    (h : s.sayAll ns = .ok s') : ∃ t, s' = s.write .errors t := by
  induction ns generalizing s with
  | nil =>
    obtain rfl := Except.ok.inj h
    exact ⟨[], (write_nil _ _).symm⟩
  | cons n ns ih =>
    rw [sayAll] at h
    cases hsay : s.say n with
    | error outcome => simp [hsay] at h
    | ok found =>
      rw [hsay] at h
      obtain ⟨printed, -, rfl⟩ := say_eq_ok_iff.1 hsay
      obtain ⟨t, rfl⟩ := ih (fun m hm => hchannel m (List.mem_cons_of_mem n hm)) h
      rw [hchannel n List.mem_cons_self, write_write]
      exact ⟨_, rfl⟩

/-- Notices for the stream of errors can be given if all of their lines can be printed. -/
theorem exists_sayAll {ns : List Notice} (hchannel : ∀ n ∈ ns, n.channel = .errors)
    (h : ∀ n ∈ ns, n.Printable) (s : Session) : ∃ t, s.sayAll ns = .ok (s.write .errors t) := by
  induction ns generalizing s with
  | nil => exact ⟨[], by rw [write_nil]; rfl⟩
  | cons n ns ih =>
    obtain ⟨t, hsay⟩ := exists_say (h n List.mem_cons_self) s
    obtain ⟨u, hrest⟩ := ih (fun m hm => hchannel m (List.mem_cons_of_mem n hm))
      (fun m hm => h m (List.mem_cons_of_mem n hm)) (s.write n.channel t)
    rw [hchannel n List.mem_cons_self] at hsay hrest
    exact ⟨t ++ u, by rw [sayAll, hsay, ← write_write]; exact hrest⟩

end Session

end CardQuery
