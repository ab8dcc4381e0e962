import HttpScript.Text
import HttpScript.Text.Scan

/-!
# Templates

A template is text with placeholders. A placeholder is a name between two opening and two closing
braces; the name is not empty and holds no closing brace. Anything else is literal text.

    parts s         literal text and placeholders, in order
    replace s f     each placeholder replaced by f of its trimmed name, or kept where f has none
    names s         the trimmed names, in order of appearance
-/

namespace HttpScript.Template

open Text (Piece flushText)

/-! ## Splitting -/

/-- The pieces of a template from a place on. The first `skip` characters belong to a placeholder
that has been read, and `pending` holds, in reverse, the literal text since then. -/
def piecesFrom : (skip : Nat) → (pending : List Char) → List Char → List (Piece (List Char))
  | _, pending, [] => flushText pending
  | skip + 1, pending, _ :: s => piecesFrom skip pending s
  | 0, pending, c :: s =>
    if c == '{' && s.head? == some '{' then
      let inner := s.tail
      match inner.findIdx? (· == '}') with
      -- without a closing brace ahead, all that is left is literal
      | none => [.text (pending.reverse ++ c :: s)]
      | some close =>
        if close == 0 || inner[close + 1]? != some '}' then piecesFrom 0 (c :: pending) s
        else
          flushText pending ++ .found (inner.take close) (c :: s.take (close + 3)) ::
            piecesFrom (close + 3) [] s
    else piecesFrom 0 (c :: pending) s

/-- The pieces of a template; what is found is the expression of a placeholder. -/
def pieces (s : List Char) : List (Piece (List Char)) := piecesFrom 0 [] s

/-- A part of a template. `raw` is the placeholder as it stands there. -/
inductive Part where
  | text (value : String)
  | placeholder (expression raw : String)
  deriving DecidableEq, Repr

/-- The part that a piece is. -/
def Part.ofPiece : Piece (List Char) → Part
  | .text cs => text (String.ofList cs)
  | .found e raw => placeholder (String.ofList e) (String.ofList raw)

def parts (s : String) : List Part := (pieces s.toList).map Part.ofPiece

/-! ## Replacing -/

def nameOf (expression : List Char) : String := String.ofList (Text.trim expression)

/-- The template with its placeholders replaced in one pass. -/
def replace (s : String) (lookup : String → Option String) : String :=
  String.ofList (Text.replaceFound (fun e => (lookup (nameOf e)).map String.toList)
    (pieces s.toList))

def names (s : String) : List String :=
  (pieces s.toList).filterMap fun
    | .text _ => none
    | .found e _ => some (nameOf e)

end HttpScript.Template
