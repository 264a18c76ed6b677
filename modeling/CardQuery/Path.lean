import CardQuery.Text

/-!
# Paths

A path is the list of the names on the way from the root of the file tree.  A written path is
absolute, begins at a home directory if its first name begins with a tilde, and begins at the
current directory otherwise.

Main results:

- `resolve_absolute` says that an absolute path does not depend on the place.
- `written_cons` says how a path is written.
-/

namespace CardQuery

/-- The names on the way from the root of the file tree. -/
abbrev Path := List Text

/-- Where a program runs. -/
structure Place where
  /-- The home directory. -/
  home : Path
  /-- The current directory. -/
  current : Path
  /-- The home directories of those who are known by a name. -/
  others : List (Text × Path) := []
deriving DecidableEq, Repr

/-- The home directory that a tilde and a name stand for.  Without a name it is the own one. -/
def Place.homeOf? (place : Place) (user : Text) : Option Path :=
  if user.isEmpty then some place.home else place.others.lookup user

/-- Why a written path has no meaning. -/
inductive PathFault
  /-- It begins at the home directory of somebody who is not known. -/
  | unknownUser (name : Text)
deriving DecidableEq, Repr

namespace Path

/-- The names in a written path: an empty name and a single dot are no names. -/
def names (t : Text) : List Text :=
  (Text.partsBetween (· == '/') t).filter fun name => name != [] && name != ['.']

/-- How a path is written. -/
def written : Path → Text
  | [] => ['/']
  | p => p.flatMap ('/' :: ·)

/-- A path is written with a slash in front of each name. -/
theorem written_cons (name : Text) (p : Path) :
    written (name :: p) = (name :: p).flatMap ('/' :: ·) := rfl

/-- The directory that a path stands in. -/
def parent (p : Path) : Path := p.dropLast

/-- The path reached by following names; two dots lead back to the parent. -/
def follow (p : Path) (names : List Text) : Path :=
  names.foldl (fun p name => if name = ['.', '.'] then p.parent else p ++ [name]) p

/-- The path that is written as `t` for a program that runs at `place`. -/
def resolve (place : Place) (t : Text) : Except PathFault Path :=
  if t.head? = some '/' then .ok (follow [] (names t))
  else
    match names t with
    | ('~' :: user) :: rest =>
      match place.homeOf? user with
      | some home => .ok (follow home rest)
      | none => .error (.unknownUser user)
    | all => .ok (follow place.current all)

/-- An absolute path does not depend on the place. -/
theorem resolve_absolute (place : Place) (t : Text) :
    resolve place ('/' :: t) = .ok (follow [] (names ('/' :: t))) := by
  simp [resolve]

end Path

end CardQuery
