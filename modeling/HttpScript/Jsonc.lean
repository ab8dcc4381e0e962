import HttpScript.Json.Parse

/-!
# JSON with comments

JSON as editors keep it: with `//` and `/* */` comments and with a comma after the last item of a
container. A text is cleaned first and then read as JSON. Line ends inside comments are kept, so
what is left stands on the line where it stood.

    clean s = s                for every s that is JSON already
-/

namespace HttpScript.Jsonc

/-- Where a reader of the text stands. -/
inductive Region where
  | code
  | quoted
  | lineComment
  | blockComment
  deriving DecidableEq, Repr

/-- Drops comments from a text that starts inside the given region. -/
def stripFrom : Region → List Char → List Char
  | _, [] => []
  | .code, '"' :: s => '"' :: stripFrom .quoted s
  | .code, '/' :: '/' :: s => stripFrom .lineComment s
  | .code, '/' :: '*' :: s => stripFrom .blockComment s
  | .code, c :: s => c :: stripFrom .code s
  | .quoted, ['\\'] => ['\\']
  | .quoted, '\\' :: c :: s => '\\' :: c :: stripFrom .quoted s
  | .quoted, '"' :: s => '"' :: stripFrom .code s
  | .quoted, c :: s => c :: stripFrom .quoted s
  | .lineComment, c :: s =>
    if c == '\n' || c == '\r' then c :: stripFrom .code s else stripFrom .lineComment s
  | .blockComment, '*' :: '/' :: s => stripFrom .code s
  | .blockComment, c :: s =>
    if c == '\n' || c == '\r' then c :: stripFrom .blockComment s else stripFrom .blockComment s

/-- Without comments. -/
def stripComments (s : List Char) : List Char := stripFrom .code s

/-- Whether the next character that is not blank closes a container. -/
def closesNext (s : List Char) : Bool :=
  match Text.trimStart s with
  | c :: _ => c == '}' || c == ']'
  | [] => false

/-- Drops trailing commas; `quoted` tells whether the text starts inside a string. -/
def dropCommasFrom : (quoted : Bool) → List Char → List Char
  | _, [] => []
  | true, ['\\'] => ['\\']
  | true, '\\' :: c :: s => '\\' :: c :: dropCommasFrom true s
  | true, c :: s => c :: dropCommasFrom (c != '"') s
  | false, c :: s =>
    if c == ',' && closesNext s then dropCommasFrom false s
    else c :: dropCommasFrom (c == '"') s

/-- Without commas that stand directly before a closing bracket, blanks aside. -/
def dropTrailingCommas (s : List Char) : List Char := dropCommasFrom false s

/-! ## One character -/

theorem stripFrom_code {c : Char} (quote : c ≠ '"') (slash : c ≠ '/') (s : List Char) :
    stripFrom .code (c :: s) = c :: stripFrom .code s := by
  rw [stripFrom]
  · exact fun h => absurd h quote
  · exact fun _ h => absurd h slash
  · exact fun _ h => absurd h slash

theorem stripFrom_quoted {c : Char} (inner : c ≠ '"') (unescaped : c ≠ '\\') (s : List Char) :
    stripFrom .quoted (c :: s) = c :: stripFrom .quoted s := by
  rw [stripFrom]
  · exact fun h _ => unescaped h
  · exact fun _ _ h => absurd h unescaped
  · exact inner

theorem stripFrom_lineComment (c : Char) (s : List Char) :
    stripFrom .lineComment (c :: s) =
      if c == '\n' || c == '\r' then c :: stripFrom .code s else stripFrom .lineComment s := by
  rw [stripFrom]

/-- Where a comment is not closed, only a line end stays. -/
theorem stripFrom_blockComment {c : Char} {s : List Char}
    (unclosed : ∀ r, c = '*' → s = '/' :: r → False) :
    stripFrom .blockComment (c :: s) =
      if c == '\n' || c == '\r' then c :: stripFrom .blockComment s
      else stripFrom .blockComment s := by
  rw [stripFrom]
  exact unclosed

theorem dropCommasFrom_code (c : Char) (s : List Char) :
    dropCommasFrom false (c :: s) =
      if c == ',' && closesNext s then dropCommasFrom false s
      else c :: dropCommasFrom (c == '"') s := by
  rw [dropCommasFrom]

theorem dropCommasFrom_quoted {c : Char} (unescaped : c ≠ '\\') (s : List Char) :
    dropCommasFrom true (c :: s) = c :: dropCommasFrom (c != '"') s := by
  rw [dropCommasFrom]
  · exact fun h _ => unescaped h
  · exact fun _ _ h => absurd h unescaped

/-! ## Reading -/

/-- The JSON text that remains of a text with comments. -/
def clean (s : List Char) : List Char := dropTrailingCommas (stripComments s)

/-- Reads JSON with comments; repeated names keep their last value. -/
def parse? (s : String) : Option (Json Binary64) :=
  (Json.ofChars? (clean s.toList)).map Json.toDoubles

/-- What is reported when a text is not JSON with comments. -/
def syntaxMessage : String := "Invalid JSONC: the text is not JSON"

end HttpScript.Jsonc
