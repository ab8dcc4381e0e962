import HttpScript.Text

/-!
# Paths

An absolute path is the list of names that lead from the root to it; no name is empty, `.` or `..`.

    (p.resolve s).text    the path that s names when it is read from p
-/

namespace HttpScript

/-- An absolute path: the names from the root down. -/
structure Path where
  names : List String
  deriving DecidableEq, Repr

namespace Path

def root : Path := ⟨[]⟩

/-- The folder that holds a path; the root holds itself. -/
def parent (p : Path) : Path := ⟨p.names.dropLast⟩

/-- Follows one name: `..` leads to the folder above, `.` and the empty name nowhere. -/
def enter (p : Path) (name : String) : Path :=
  if name == "" || name == "." then p
  else if name == ".." then p.parent
  else ⟨p.names ++ [name]⟩

/-- The names between slashes. -/
def pieces (s : String) : List String := (Text.splitBy (· == '/') s.toList).map String.ofList

/-- Follows a text from `p` on, whether or not it begins with a slash. -/
def join (p : Path) (s : String) : Path := (pieces s).foldl enter p

/-- The path that a text names, read from `p` unless it begins with a slash. -/
def resolve (p : Path) (s : String) : Path := (if Text.startsWith "/" s then root else p).join s

/-- The folder that holds the path a text names. -/
def resolveFolder (p : Path) (s : String) : Path :=
  let named := (pieces s).filter (· != "")
  named.dropLast.foldl enter (if Text.startsWith "/" s then root else p)

def text (p : Path) : String := "/" ++ "/".intercalate p.names

/-- A path followed by its ancestors, up to the root. -/
def chainFrom : Nat → Path → List Path
  | 0, p => [p]
  | n + 1, p => p :: chainFrom n p.parent

/-- A path followed by its ancestors, nearest first; the root comes last. -/
def chain (p : Path) : List Path := chainFrom p.names.length p

end Path

end HttpScript
