/-!
# Scanning

A text cut into the successive leftmost occurrences of a pattern and the text between them. The
pattern is a function that looks at what lies ahead; occurrences do not overlap, and what was
found is not scanned again.

    the texts and the found pieces, joined in order, give the text that was scanned
-/

namespace HttpScript.Text

/-- A piece of a scanned text. `raw` is what the pattern covered. -/
inductive Piece (α : Type) where
  | text (chars : List Char)
  | found (value : α) (raw : List Char)

variable {α : Type}

/-- The characters that a piece covers. -/
def Piece.chars : Piece α → List Char
  | text cs => cs
  | found _ raw => raw

/-- A text piece for characters collected in reverse, unless there are none. -/
def flushText (pending : List Char) : List (Piece α) :=
  if pending.isEmpty then [] else [.text pending.reverse]

/-- Scans with `pattern`, which answers a value and how many further characters the occurrence
covers. The first `skip` characters belong to an occurrence already found, and `pending` holds, in
reverse, the text since then. -/
def scanFrom (pattern : List Char → Option (α × Nat)) :
    (skip : Nat) → (pending : List Char) → List Char → List (Piece α)
  | _, pending, [] => flushText pending
  | skip + 1, pending, _ :: s => scanFrom pattern skip pending s
  | 0, pending, c :: s => match pattern (c :: s) with
    | some (value, more) =>
      flushText pending ++ .found value (c :: s.take more) :: scanFrom pattern more [] s
    | none => scanFrom pattern 0 (c :: pending) s

def scan (pattern : List Char → Option (α × Nat)) (s : List Char) : List (Piece α) :=
  scanFrom pattern 0 [] s

/-- The text with each occurrence replaced, or kept where there is no replacement. -/
def replaceFound (replacement : α → Option (List Char)) (pieces : List (Piece α)) : List Char :=
  pieces.flatMap fun
    | .text cs => cs
    | .found value raw => (replacement value).getD raw

/-- Like `replaceFound`, with a state that each replacement is made in and may change. -/
def replaceFoundIn {σ : Type} (replacement : σ → α → Option (List Char) × σ) (state : σ) :
    List (Piece α) → List Char × σ
  | [] => ([], state)
  | .text cs :: r =>
    let (rest, state) := replaceFoundIn replacement state r
    (cs ++ rest, state)
  | .found value raw :: r =>
    let (new, state) := replacement state value
    let (rest, state) := replaceFoundIn replacement state r
    (new.getD raw ++ rest, state)

end HttpScript.Text
