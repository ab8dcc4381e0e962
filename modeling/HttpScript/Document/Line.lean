import HttpScript.Text

/-!
# Lines

The kinds of line of a request document, decided from the line alone. Directives come before the
request line, so a line such as `# note` is a comment wherever it stands.

    classify s = request m u s'   u is trimmed and ends in no HTTP version
-/

namespace HttpScript

/-- A line of a document. `raw` is the line as it was written. -/
inductive Line where
  | delimiter
  | name (name : String)
  | variable (name value : String)
  | comment
  | blank (raw : String)
  | request (method url raw : String)
  | text (raw : String)
  deriving DecidableEq, Repr

namespace Line

open Text

/-! ## Directives -/

/-- What follows the two spellings of a comment mark at the start of a line. -/
def afterMark? : List Char → Option (List Char)
  | '#' :: r => some r
  | '/' :: '/' :: r => some r
  | _ => none

/-- The name in a line such as `# @name login`: one word, with nothing but blanks around it. -/
def directiveName? (s : List Char) : Option (List Char) := do
  let r ← afterMark? s
  let r ← dropWord? "@name".toList (trimStart r)
  let word := trim r
  if r.head?.any isBlank && !word.isEmpty && word.all (!isBlank ·) then some word else none

/-- A value that stands on one line, trimmed. -/
def oneLine? (s : List Char) : Option (List Char) :=
  let value := trimStart s
  if value.any isLineTerminator then none else some (trimEnd value)

/-- Name and value in a line such as `@host = example.com`. -/
def declaration? : List Char → Option (List Char × List Char)
  | '@' :: s =>
    let name := s.takeWhile isIdentRest
    if !isIdent name then none
    else match trimStart (s.dropWhile isIdentRest) with
      | '=' :: v => (oneLine? v).map (name, ·)
      | _ => none
  | _ => none

/-! ## Request lines -/

def methods : List String :=
  ["GET", "POST", "PUT", "DELETE", "PATCH", "HEAD", "OPTIONS", "TRACE", "CONNECT"]

/-- `s` without an HTTP version at its end and the blanks in front of that. -/
def dropVersion (s : List Char) : List Char :=
  let isVersionChar (c : Char) : Bool := c.isDigit || c == '.'
  match s.reverse.dropWhile isVersionChar with
  | r =>
    if s.reverse.head?.any isVersionChar then
      match dropWord? "/PTTH".toList r with
      | some (c :: r) => if isBlank c then (r.dropWhile isBlank).reverse else s
      | _ => s
    else s

/-- The target of a request line, given what follows the method: at least one blank, then at least
one character, all on one line. -/
def target? (s : List Char) : Option (List Char) :=
  if !s.head?.any isBlank then none
  else
    let url := trimStart s
    if url.any isLineTerminator then none
    else if !url.isEmpty then some (dropVersion (trimEnd url))
    else if 2 ≤ s.length && !s.getLast?.any isLineTerminator then some []
    else none

def request? (s : List Char) : Option (String × List Char) :=
  methods.findSome? fun m => do
    let r ← dropWord? m.toList s
    let url ← target? r
    some (m, url)

/-! ## Headers -/

/-- The characters of a header name. -/
def isTokenChar (c : Char) : Bool :=
  c.isAlphanum || "!#$%&'*+.^_\x60|~-".toList.contains c

/-- Name and value in a line such as `Accept: text/html`. -/
def header? (s : List Char) : Option (String × String) :=
  let s := trimStart s
  let name := s.takeWhile isTokenChar
  if name.isEmpty then none
  else match trimStart (s.dropWhile isTokenChar) with
    | ':' :: v => (oneLine? v).map fun v => (String.ofList name, String.ofList v)
    | _ => none

/-! ## Classification -/

def classify (line : String) : Line :=
  let s := line.toList
  if "###".toList.isPrefixOf s then delimiter
  else match directiveName? s with
  | some n => name (String.ofList n)
  | none => match declaration? s with
  | some (n, v) => .variable (String.ofList n) (String.ofList v)
  | none =>
    if (afterMark? (trimStart s)).isSome then comment
    else if s.all isBlank then blank line
    else match request? s with
      | some (m, url) => request m (String.ofList url) line
      | none => text line

end Line

end HttpScript
