import HttpScript.Document.Line
import HttpScript.Number.Binary64
import HttpScript.Record

/-!
# Documents

A document holds requests, separated by `###` lines, and variables. A reader walks over the lines:
it seeks a request line, then collects headers up to a blank line, then the body.

    parse s        the requests in order, with the lines on which each begins and ends
    requestAt?     the request whose lines include a given line
    requestNamed?  the request with a given name, ignoring case
-/

namespace HttpScript

/-- A request as written. URL, header values and body are templates. Lines count from 1; the last
line is included. -/
structure Request where
  name : Option String
  method : String
  url : String
  headers : Record String
  body : Option String
  bindings : Record String
  startLine : Nat
  endLine : Nat
  deriving DecidableEq, Repr

/-- A document: its requests, and the variables declared before the first of them. -/
structure Document where
  requests : List Request
  fileVariables : Record String
  deriving DecidableEq, Repr

/-! ## Reader -/

/-- A request that is being read. -/
structure Draft where
  name : Option String
  method : String
  url : String
  headers : Record String
  bindings : Record String
  bodyLines : List String
  startLine : Nat
  deriving DecidableEq, Repr

/-- The body of a list of lines: trailing blank lines are dropped, and no lines are no body. -/
def bodyOfLines (lines : List String) : Option String :=
  match (lines.reverse.dropWhile Text.isBlankText).reverse with
  | [] => none
  | kept => some ("\n".intercalate kept)

/-- The request of a draft that ends on a line; `none` when it has no URL. -/
def Draft.finish? (d : Draft) (endLine : Nat) : Option Request :=
  if d.url.isEmpty then none
  else some {
    name := d.name, method := d.method, url := d.url, headers := d.headers,
    body := bodyOfLines d.bodyLines, bindings := d.bindings,
    startLine := d.startLine, endLine := endLine }

/-- What the reader is looking for. -/
inductive Phase where
  | seeking (pendingName : Option String)
  | headers (draft : Draft)
  | body (draft : Draft)
  deriving DecidableEq, Repr

/-- The phase of the reader and the document read so far. -/
structure Reader where
  phase : Phase
  document : Document
  deriving DecidableEq, Repr

namespace Reader

/-- Nothing read yet. -/
def start : Reader := ⟨.seeking none, ⟨[], []⟩⟩

/-- Ends the current request on a line. -/
def close (r : Reader) (endLine : Nat) : Document :=
  match r.phase with
  | .seeking _ => r.document
  | .headers d | .body d =>
    { r.document with requests := r.document.requests ++ (d.finish? endLine).toList }

/-- Declares a variable: of the file while no request line has come, else of the request. -/
def declare (r : Reader) (name value : String) : Reader :=
  match r.phase with
  | .seeking _ =>
    { r with document :=
      { r.document with fileVariables := r.document.fileVariables.set name value } }
  | .headers d => { r with phase := .headers { d with bindings := d.bindings.set name value } }
  | .body d => { r with phase := .body { d with bindings := d.bindings.set name value } }

/-- Adds the header that a line of the header block holds, if it holds one. -/
def addHeader (d : Draft) (raw : String) : Draft :=
  match Line.header? raw.toList with
  | some (name, value) => { d with headers := d.headers.set name value }
  | none => d

def addBodyLine (d : Draft) (raw : String) : Draft := { d with bodyLines := d.bodyLines ++ [raw] }

def step (r : Reader) (number : Nat) (line : String) : Reader :=
  match Line.classify line with
  | .delimiter => ⟨.seeking none, r.close (number - 1)⟩
  | .name n => match r.phase with
    | .seeking _ => { r with phase := .seeking (some n) }
    | _ => r
  | .variable n v => r.declare n v
  | .comment => r
  | .blank raw => match r.phase with
    | .seeking _ => r
    | .headers d => { r with phase := .body d }
    | .body d => { r with phase := .body (addBodyLine d raw) }
  | .request method url raw => match r.phase with
    | .seeking pending => { r with phase := .headers ⟨pending, method, url, [], [], [], number⟩ }
    | .headers d => { r with phase := .headers (addHeader d raw) }
    | .body d => { r with phase := .body (addBodyLine d raw) }
  | .text raw => match r.phase with
    | .seeking _ => r
    | .headers d => { r with phase := .headers (addHeader d raw) }
    | .body d => { r with phase := .body (addBodyLine d raw) }

/-- Reads lines, the first of which has the given number. -/
def run (r : Reader) (number : Nat) : List String → Reader
  | [] => r
  | l :: ls => run (r.step number l) (number + 1) ls

end Reader

namespace Document

def linesOf (s : String) : List String := (Text.lines s.toList).map String.ofList

def ofLines (ls : List String) : Document := (Reader.start.run 1 ls).close ls.length

/-- Reads a document. Lines that have no meaning where they stand are skipped. -/
def parse (s : String) : Document := ofLines (linesOf s)

end Document

/-! ## Selection -/

def Request.hasLine (r : Request) (line : Binary64) : Bool :=
  Binary64.le (.ofNat r.startLine) line && Binary64.le line (.ofNat r.endLine)

def Request.isNamed (r : Request) (name : String) : Bool :=
  r.name.any fun n => Text.lower n == Text.lower name

namespace Document

/-- The first request whose lines include this one. -/
def requestAt? (d : Document) (line : Binary64) : Option Request :=
  d.requests.find? (·.hasLine line)

def requestNamed? (d : Document) (name : String) : Option Request :=
  d.requests.find? (·.isNamed name)

end Document

end HttpScript
