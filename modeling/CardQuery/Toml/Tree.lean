import CardQuery.Toml

/-!
# The tree of a TOML document

A document opens tables one after the other and sets values in them.  The tree remembers how each
table came to be, since that decides what may still be added to it:

- a table named only as the beginning of another name may still be declared;
- a table that was declared, or opened by dotted keys in an earlier section, may be extended by
  sections of its own parts alone;
- a value, and everything inside it, is closed.

Main results:

- `mem_names_of_update` says that an update leaves every other name in place.
-/

namespace CardQuery

namespace Toml

/-- How a table came to be. -/
inductive Origin
  /-- It was named as the beginning of the name of a section. -/
  | implied
  /-- It was opened by a dotted key in the section with the given number. -/
  | dotted (section_ : Nat)
  /-- It is the table of a section. -/
  | declared
deriving DecidableEq, Repr

/-- What a name of a document stands for. -/
inductive Node
  /-- A closed value. -/
  | value (v : Value)
  /-- A table that may be added to. -/
  | table (origin : Origin) (entries : List (Text × Node))
  /-- The tables of an array of tables, of which the last may be added to. -/
  | tables (earlier : List (List (Text × Node))) (last : List (Text × Node))

/-- The named nodes of a table. -/
abbrev Entries := List (Text × Node)

namespace Entries

/-- The entries in which the node of `name` is replaced by what `f` makes of it, or a new entry is
added at the end. -/
def update (name : Text) (f : Option Node → Option Node) : Entries → Option Entries
  | [] => (f none).map fun node => [(name, node)]
  | entry :: rest =>
    if entry.1 = name then (f (some entry.2)).map fun node => (name, node) :: rest
    else (update name f rest).map (entry :: ·)

/-- An update leaves every name in place. -/
theorem mem_names_of_update {name other : Text} {f : Option Node → Option Node}
    {entries updated : Entries} (h : update name f entries = some updated)
    (hmem : other ∈ entries.map Prod.fst) : other ∈ updated.map Prod.fst := by
  induction entries generalizing updated with
  | nil => simp at hmem
  | cons entry rest ih =>
    rw [update] at h
    split at h
    next heq =>
      obtain ⟨node, _, rfl⟩ := Option.map_eq_some_iff.1 h
      simpa [heq] using hmem
    next =>
      obtain ⟨later, hlater, rfl⟩ := Option.map_eq_some_iff.1 h
      rcases List.mem_cons.1 hmem with rfl | hmem
      · simp
      · exact List.mem_cons_of_mem _ (ih hlater hmem)

/-- The entries in which the table at the end of `path` is replaced by what `f` makes of it.  A
missing table on the way is implied, and an array of tables stands for its last table. -/
def within (path : List Text) (f : Entries → Option Entries) (entries : Entries) :
    Option Entries :=
  match path with
  | [] => f entries
  | name :: path =>
    entries.update name fun
      | none => (within path f []).map (.table .implied)
      | some (.table origin inner) => (within path f inner).map (.table origin)
      | some (.tables earlier last) => (within path f last).map (.tables earlier)
      | some (.value _) => none

/-- The entries after the section of the table `name` has begun. -/
def declare (name : Text) (entries : Entries) : Option Entries :=
  entries.update name fun
    | none => some (.table .declared [])
    | some (.table .implied inner) => some (.table .declared inner)
    | some _ => none

/-- The entries after the section of one more table of the array of tables `name` has begun. -/
def append (name : Text) (entries : Entries) : Option Entries :=
  entries.update name fun
    | none => some (.tables [] [])
    | some (.tables earlier last) => some (.tables (earlier ++ [last]) [])
    | some _ => none

/-- Whether a dotted key in a section may go through a table. -/
def opens (section_ : Nat) : Origin → Bool
  | .implied => true
  | .dotted opened => opened == section_
  | .declared => false

/-- The entries after a key, which may be dotted, has been given a value in a section. -/
def define (section_ : Nat) (v : Value) : List Text → Entries → Option Entries
  | [], _ => none
  | [name], entries =>
    entries.update name fun
      | none => some (.value v)
      | some _ => none
  | name :: path, entries =>
    entries.update name fun
      | none => (define section_ v path []).map (.table (.dotted section_))
      | some (.table origin inner) =>
        if opens section_ origin then
          (define section_ v path inner).map (.table (.dotted section_))
        else none
      | some _ => none

end Entries

mutual

/-- The value that a node stands for. -/
def Node.toValue : Node → Value
  | .value v => v
  | .table _ entries => .table (entriesToValues entries)
  | .tables earlier last => .array (tablesToValues earlier ++ [.table (entriesToValues last)])

/-- The values that named nodes stand for. -/
def entriesToValues : List (Text × Node) → List (Text × Value)
  | [] => []
  | (name, node) :: rest => (name, node.toValue) :: entriesToValues rest

/-- The tables that the tables of an array stand for. -/
def tablesToValues : List (List (Text × Node)) → List Value
  | [] => []
  | entries :: rest => .table (entriesToValues entries) :: tablesToValues rest

end

end Toml

end CardQuery
