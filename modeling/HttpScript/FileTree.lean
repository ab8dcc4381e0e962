import HttpScript.Path

/-!
# File trees

The files that a run can see, as data. A folder exists when it is listed or holds something.
-/

namespace HttpScript

/-- Files with their contents, and further folders. Of two files at one path the first counts. -/
structure FileTree where
  files : List (Path × String)
  folders : List Path

/-- Why a file could not be read. -/
inductive ReadError where
  | missing
  | folder
  deriving DecidableEq, Repr

def ReadError.message : ReadError → String
  | missing => "ENOENT: no such file or directory"
  | folder => "EISDIR: illegal operation on a directory, read"

namespace FileTree

def content? (t : FileTree) (p : Path) : Option String := List.lookup p t.files

def isFolder (t : FileTree) (p : Path) : Bool :=
  t.folders.any (p.names.isPrefixOf ·.names) ||
    t.files.any fun f => p.names.isPrefixOf f.1.names && p.names.length < f.1.names.length

def holds (t : FileTree) (p : Path) : Bool := (t.content? p).isSome || t.isFolder p

/-- Whether there is anything at what a text names below a folder. A text that ends in a slash names
no file. -/
def holdsNamed (t : FileTree) (folder : Path) (name : String) : Bool :=
  if Text.endsWith "/" name then t.isFolder (folder.join name) else t.holds (folder.join name)

def read (t : FileTree) (p : Path) : Except ReadError String :=
  match t.content? p with
  | some s => .ok s
  | none => if t.isFolder p then .error .folder else .error .missing

/-- Reads the file that a text names from a folder. The empty text names nothing, and a text that
ends in a slash names no file. -/
def readNamed (t : FileTree) (base : Path) (name : String) : Except ReadError String :=
  if name.isEmpty then .error .missing
  else match t.read (base.resolve name) with
    | .ok s => if Text.endsWith "/" name then .error .missing else .ok s
    | .error e => .error e

end FileTree

end HttpScript
