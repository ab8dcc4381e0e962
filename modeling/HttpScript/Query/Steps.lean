import HttpScript.Text
import HttpScript.Text.Scan

/-!
# Steps of a query

A query such as `$.store.book[0]['title']` is cut into its steps. Bracket, quote and point notation
all end up as names; filters, slices and operators stay texts, told apart when they are followed.

    steps "$.a[0].b" = ["$", "a", "0", "b"]
-/

namespace HttpScript.Query

open Text

/-- Replaces the leftmost occurrences of a pattern, which answers the replacement and how many
further characters it covers. -/
def rewrite (pattern : List Char → Option (List Char × Nat)) (s : List Char) : List Char :=
  replaceFound some (scan pattern s)

/-! ## Patterns -/

def typeOperators : List String :=
  ["null", "boolean", "number", "string", "integer", "undefined", "nonFinite", "scalar", "array",
    "object", "function", "other"]

/-- A type operator, set off as a step of its own. -/
def typeOperatorAt? (s : List Char) : Option (List Char × Nat) :=
  (typeOperators.map fun t => '@' :: t.toList ++ ['(', ')']).findSome? fun op =>
    if op.isPrefixOf s then some (';' :: op ++ [';'], op.length - 1) else none

/-- The length up to the first closing parenthesis, in a text that follows the opening one, behind
which the bracket or quote closes; not the one that another bracket follows at a distance. -/
def closingAt? (count : Nat) : List Char → Option Nat
  | [] => none
  | c :: s =>
    let closes := match c, s with
      | ')', q :: r =>
        (q == ']' || q == '\'') &&
          match r with
          | d :: ']' :: _ => isLineTerminator d
          | _ => true
      | _, _ => false
    if closes then some count
    else if isLineTerminator c then none
    else closingAt? (count + 1) s

/-- A parenthesis, perhaps a filter, directly within brackets or quotes: its text, and how many
characters follow the opening bracket. -/
def parenthesisAt? : List Char → Option (List Char × Nat)
  | q :: s =>
    if q == '[' || q == '\'' then
      let (mark, s) := match s with
        | '?' :: r => (['?'], r)
        | r => ([], r)
      match s with
      | '(' :: r => (closingAt? 0 r).map fun n =>
        (mark ++ '(' :: r.take n ++ [')'], mark.length + n + 3)
      | _ => none
    else none
  | [] => none

/-- A point inside a quoted name, while the query is cut. -/
def pointMark : List Char := ['%', '@', '%']

/-- A tilde inside a quoted name, while the query is cut. -/
def tildeMark : List Char := ['%', '%', '@', '@', '%', '%']

def isQuote (c : Char) : Bool := c == '\'' || c == '"'

/-- A name in brackets and quotes, with its points and tildes marked. -/
def quotedNameAt? : List Char → Option (List Char × Nat)
  | '[' :: q :: s =>
    if isQuote q then
      let body := s.takeWhile fun c => !(c == '\'' || c == ']')
      -- a double quote may belong to the name; the last one before the bracket closes it
      let closed := match s.drop body.length with
        | '\'' :: ']' :: _ => some (body, body.length + 3)
        | ']' :: _ =>
          if body.getLast? == some '"' then some (body.dropLast, body.length + 2) else none
        | _ => none
      closed.map fun (name, more) =>
        (['[', '\''] ++ (name.flatMap fun c =>
          if c == '.' then pointMark else if c == '~' then tildeMark else [c]) ++ ['\'', ']'], more)
    else none
  | _ => none

/-- A single character set off as a step of its own. -/
def setOff (c : Char) : List Char → Option (List Char × Nat)
  | d :: _ => if d == c then some ([';', c, ';'], 0) else none
  | [] => none

/-- Whether a text leads to a closing bracket without an opening one. -/
def insideBrackets (s : List Char) : Bool := (s.find? fun c => c == '[' || c == ']') == some ']'

/-- The boundary between two steps: a point outside brackets or an opening bracket, with the quotes
beside it. -/
def boundaryAt? (s : List Char) : Option (List Char × Nat) :=
  match s with
  | '[' :: q :: _ => some ([';'], if isQuote q then 1 else 0)
  | ['['] => some ([';'], 0)
  | '.' :: r => pointed 0 r
  | q :: '.' :: r => if isQuote q then pointed 1 r else none
  | _ => none
where
  /-- A point with what follows it. -/
  pointed (before : Nat) (r : List Char) : Option (List Char × Nat) :=
    if insideBrackets r then none
    else some ([';'], before + (if r.head?.any isQuote then 1 else 0))

/-- A mark, turned back into what it stands for. -/
def markAt? (mark : List Char) (c : Char) (s : List Char) : Option (List Char × Nat) :=
  if mark.isPrefixOf s then some ([c], mark.length - 1) else none

/-- Carets, each set off as a step of its own. -/
def caretsAt? (s : List Char) : Option (List Char × Nat) :=
  let (before, r) := match s with
    | ';' :: r => (1, r)
    | r => (0, r)
  let ups := r.takeWhile (· == '^')
  if ups.isEmpty then none
  else
    let after := if (r.drop ups.length).head? == some ';' then 1 else 0
    some (';' :: ups.flatMap (fun c => [c, ';']), before + ups.length + after - 1)

/-- An empty step, which stands for all descendants. -/
def descendantsAt? : List Char → Option (List Char × Nat)
  | ';' :: ';' :: ';' :: _ => some ([';', '.', '.', ';'], 2)
  | ';' :: ';' :: _ => some ([';', '.', '.', ';'], 1)
  | _ => none

/-- What is left over at the end of steps: closing brackets with their quotes, and a last quote or
boundary. -/
def leftoverAt? : List Char → Option (List Char × Nat)
  | [';'] => some ([], 0)
  | ['\''] => some ([], 0)
  | '\'' :: ']' :: _ => some ([], 1)
  | ']' :: _ => some ([], 0)
  | _ => none

/-! ## Cutting -/

/-- Replaces the parentheses of a query by numbered references, and lists them. -/
def setAside : List (Piece (List Char)) → Nat → List Char × List (List Char)
  | [], _ => ([], [])
  | .text cs :: r, n =>
    let (s, subs) := setAside r n
    (cs ++ s, subs)
  | .found sub _ :: r, n =>
    let (s, subs) := setAside r (n + 1)
    ('[' :: '#' :: Nat.toDigits 10 n ++ ']' :: s, sub :: subs)

def reference? : List Char → Option (List Char)
  | [] => none
  | c :: s =>
    let ds := s.takeWhile Char.isDigit
    if c == '#' && !ds.isEmpty then some ds else reference? s

/-- The step of a piece; `none` for a reference to a parenthesis that is not there. A number with
leading zeros refers to none. -/
def stepOf (subs : List (List Char)) (piece : List Char) : Option (List Char) :=
  match reference? piece with
  | none => some piece
  | some ds =>
    let n := digitsValue ds
    if ds == Nat.toDigits 10 n then subs[n]? else none

def steps (query : String) : List (Option (List Char)) :=
  let s := rewrite typeOperatorAt? query.toList
  let (s, subs) := setAside (scan parenthesisAt? s) 0
  let s := rewrite quotedNameAt? s
  let s := rewrite (setOff '~') s
  let s := rewrite boundaryAt? s
  let s := rewrite (markAt? pointMark '.') s
  let s := rewrite (markAt? tildeMark '~') s
  let s := rewrite caretsAt? s
  let s := rewrite descendantsAt? s
  let s := rewrite leftoverAt? s
  (splitBy (· == ';') s).map (stepOf subs)

end HttpScript.Query
