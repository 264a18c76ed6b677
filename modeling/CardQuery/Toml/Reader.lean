import CardQuery.Toml.Scalars
import CardQuery.Toml.Strings
import CardQuery.Toml.Tree

/-!
# Reading TOML

A reader for TOML documents: values, sections, and the table that a whole document stands for.

Main results:

- `read_nil` says that an empty document is an empty table.
-/

namespace CardQuery

namespace Toml

/-! ## Values -/

mutual

/-- The value at the beginning of a text and the rest, in at most the given number of steps. -/
def readValue : Nat → Text → Reading Value
  | 0, _ => malformed
  | fuel + 1, t =>
    match t with
    | '"' :: _ => (readString t).map fun found => (.string found.1, found.2)
    | '\'' :: _ => (readString t).map fun found => (.string found.1, found.2)
    | '[' :: rest =>
      match skipGap rest with
      | .error fault => .error fault
      | .ok (']' :: rest) => .ok (.array [], rest)
      | .ok rest => (readItems fuel rest).map fun found => (.array found.1, found.2)
    | '\x7b' :: rest =>
      match skipSpace rest with
      | '\x7d' :: rest => .ok (.table [], rest)
      | rest =>
        (readInline fuel [] rest).map fun found => (.table (entriesToValues found.1), found.2)
    | t =>
      match Text.after? "true".toList t, Text.after? "false".toList t with
      | some rest, _ => .ok (.boolean true, rest)
      | _, some rest => .ok (.boolean false, rest)
      | _, _ => readNumber t

/-- The items up to the end of an array, of which there is at least one, and the rest. -/
def readItems : Nat → Text → Reading (List Value)
  | 0, _ => malformed
  | fuel + 1, t =>
    match readValue fuel t with
    | .error fault => .error fault
    | .ok (v, rest) =>
      match skipGap rest with
      | .error fault => .error fault
      | .ok (']' :: rest) => .ok ([v], rest)
      | .ok (',' :: rest) =>
        match skipGap rest with
        | .error fault => .error fault
        | .ok (']' :: rest) => .ok ([v], rest)
        | .ok rest => (readItems fuel rest).map fun found => (v :: found.1, found.2)
      | .ok _ => malformed

/-- A key, an equals sign and a value at the beginning of a text, and the rest. -/
def readPair : Nat → Text → Reading (List Text × Value)
  | 0, _ => malformed
  | fuel + 1, t =>
    match readKey t with
    | .error fault => .error fault
    | .ok (key, '=' :: rest) =>
      (readValue fuel (skipSpace rest)).map fun found => ((key, found.1), found.2)
    | .ok _ => malformed

/-- The entries of an inline table up to its end, added to the ones before, and the rest. -/
def readInline : Nat → Entries → Text → Reading Entries
  | 0, _, _ => malformed
  | fuel + 1, entries, t =>
    match readPair fuel t with
    | .error fault => .error fault
    | .ok ((key, v), rest) =>
      match entries.define 0 v key with
      | none => malformed
      | some entries =>
        match skipSpace rest with
        | '\x7d' :: rest => .ok (entries, rest)
        | ',' :: rest => readInline fuel entries (skipSpace rest)
        | _ => malformed

end

/-! ## Documents -/

/-- What has been read of a document. -/
structure Progress where
  /-- The named nodes so far. -/
  entries : Entries := []
  /-- The name of the section that is being read. -/
  header : List Text := []
  /-- How many sections have begun. -/
  sections : Nat := 0

/-- The progress after the head of a section, `open_` being what it does to the last part of its
name and `close` what has to stand after the name. -/
def readHeader (open_ : Text → Entries → Option Entries) (close : Text) (p : Progress) (t : Text) :
    Reading Progress :=
  match readKey (skipSpace t) with
  | .error fault => .error fault
  | .ok (key, rest) =>
    match key.getLast?, Text.after? close rest with
    | some name, some rest =>
      match p.entries.within key.dropLast (open_ name) with
      | none => malformed
      | some entries => .ok (⟨entries, key, p.sections + 1⟩, rest)
    | _, _ => malformed

/-- The progress after one statement, and the rest of its line. -/
def readStatement (p : Progress) (t : Text) : Reading Progress :=
  match t with
  | [] => .ok (p, t)
  | '\n' :: _ => .ok (p, t)
  | '#' :: _ => .ok (p, t)
  | '[' :: '[' :: rest => readHeader (fun name es => es.append name) [']', ']'] p rest
  | '[' :: rest => readHeader (fun name es => es.declare name) [']'] p rest
  | _ =>
    match readPair (2 * t.length + 3) t with
    | .error fault => .error fault
    | .ok ((key, v), rest) =>
      match p.entries.within p.header (fun es => es.define p.sections v key) with
      | none => malformed
      | some entries => .ok ({ p with entries := entries }, rest)

/-- The progress at the end of a document, in at most the given number of lines. -/
def readLines : Nat → Progress → Text → Except Fault Progress
  | 0, _, _ => malformed
  | fuel + 1, p, t =>
    match readStatement p (skipSpace t) with
    | .error fault => .error fault
    | .ok (p, rest) =>
      match skipComment (skipSpace rest) with
      | .error fault => .error fault
      | .ok [] => .ok p
      | .ok ('\n' :: rest) => readLines fuel p rest
      | .ok _ => malformed

/-- A text in which every line ends with a line feed alone. -/
def joinBreaks : Text → Text
  | '\r' :: '\n' :: rest => '\n' :: joinBreaks rest
  | c :: rest => c :: joinBreaks rest
  | [] => []

/-- The entries of the table that a document stands for. -/
def read (source : Text) : Except Fault (List (Text × Value)) :=
  let t := joinBreaks source
  (readLines (t.length + 1) {} t).map fun p => entriesToValues p.entries

/-- An empty document is an empty table. -/
theorem read_nil : read [] = .ok [] := by
  simp [read, joinBreaks, readLines, readStatement, skipSpace, skipComment, Except.map,
    entriesToValues]

end Toml

end CardQuery
