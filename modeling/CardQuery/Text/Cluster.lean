import CardQuery.Text.Width

/-!
# Clusters

A text as the sequence of what is shown as one sign: a visible character with the marks after it and
with what is joined to it.  A text is cut only between two of them.

Main results:

- `flatten_clusters` says that the clusters of a text are the text.
-/

namespace CardQuery

namespace Text

/-- What is shown as one sign. -/
structure Cluster where
  /-- The characters. -/
  text : Text
  /-- How many cells they take. -/
  cells : Nat
deriving DecidableEq, Repr

namespace Cluster

/-- A cluster with one more character that takes no cell. -/
def extend (k : Cluster) (c : Char) : Cluster := { k with text := k.text ++ [c] }

/-- A cluster of one character; a joiner or a selector alone takes no cell. -/
def single (c : Char) : Cluster := ⟨[c], if c = joiner ∨ c = selector then 0 else charWidth c⟩

/-- The text of a cluster with one more character. -/
@[simp] theorem text_extend (k : Cluster) (c : Char) : (k.extend c).text = k.text ++ [c] := rfl

/-- The text of a cluster of one character. -/
@[simp] theorem text_single (c : Char) : (single c).text = [c] := rfl

end Cluster

/-- The clusters of a text that continues the cluster `k`; `last?` is the last visible character. -/
def clustersAfter (k : Cluster) (last? : Option Char) : Text → List Cluster
  | [] => [k]
  | c :: t =>
    if c = joiner then
      match t with
      | [] => [k.extend c]
      | d :: rest => clustersAfter ((k.extend c).extend d) last? rest
    else if c = selector then
      match last?.map emojiGain with
      | some 1 => clustersAfter ⟨k.text ++ [c], k.cells + 1⟩ none t
      | _ => clustersAfter (k.extend c) last? t
    else if charWidth c = 0 then clustersAfter (k.extend c) last? t
    else k :: clustersAfter (Cluster.single c) (some c) t

/-- The clusters of a text. -/
def clusters : Text → List Cluster
  | [] => []
  | c :: t =>
    let first := Cluster.single c
    clustersAfter first (if first.cells = 0 then none else some c) t

/-- The beginning of some clusters that takes `w` cells.  Half of a cluster is a space. -/
def takeCells : (w : Nat) → List Cluster → Text
  | _, [] => []
  | w, k :: rest =>
    if w = 0 then []
    else if k.cells ≤ w then k.text ++ takeCells (w - k.cells) rest
    else [' ']

/-- The beginning of a text that takes `w` cells. -/
def cut (w : Nat) (t : Text) : Text := takeCells w (clusters t)

/-- The clusters of a text that continues a cluster are the cluster and the text. -/
theorem flatten_clustersAfter (k : Cluster) (last? : Option Char) (t : Text) :
    (clustersAfter k last? t).flatMap Cluster.text = k.text ++ t := by
  fun_induction clustersAfter k last? t with
  | case1 k last? => simp
  | case2 k last? => simp
  | case3 k last? d rest ih => simp [ih]
  | case4 k last? t hne heq ih => simp [ih]
  | case5 k last? t hne hgain ih => simp [ih]
  | case6 k last? c t hjoiner hselector hwidth ih => simp [ih]
  | case7 k last? c t hjoiner hselector hwidth ih => simp [ih]

/-- The clusters of a text are the text. -/
theorem flatten_clusters (t : Text) : (clusters t).flatMap Cluster.text = t := by
  cases t with
  | nil => rfl
  | cons c t => simp [clusters, flatten_clustersAfter]

end Text

end CardQuery
