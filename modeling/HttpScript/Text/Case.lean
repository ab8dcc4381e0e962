import HttpScript.Text
import HttpScript.Text.CaseData

/-!
# Letter case

Lower and upper case by the full Unicode mappings. All characters map on their own but capital
sigma, whose lower-case form is final sigma where a word ends. Two names are the same ignoring case
when their lower-case forms are equal.
-/

namespace HttpScript.Text

/-- The form of a code point that the first run to list it gives. -/
def runForm? (runs : List (Nat × Nat × Nat × Int)) (n : Nat) : Option Nat :=
  (runs.find? fun (first, last, stride, _) =>
    first ≤ n && n ≤ last && (n - first) % stride == 0).map fun (_, _, _, shift) =>
      Int.toNat (n + shift)

/-! ## Lower case -/

/-- Lower-case form of a character outside any context. -/
def lowerChar (c : Char) : List Char :=
  let n := c.toNat
  if n < 0x80 then [c.toLower]
  else if n == 0x130 then ['i', '\u0307']
  else [((runForm? lowerRuns n).map Char.ofNat).getD c]

/-- Whether the nearest character that counts for case is cased. -/
def nextToCased (s : List Char) : Bool :=
  match s.dropWhile fun c => inRanges caseIgnorableRanges c.toNat with
  | [] => false
  | c :: _ => inRanges casedRanges c.toNat

/-- Lower-case form of `s` when the characters `before` (nearest first) stand in front of it. A
capital sigma is final when a cased character precedes it and none follows. -/
def lowerAfter (before : List Char) : List Char → List Char
  | [] => []
  | c :: r =>
    (if c == 'Σ' && nextToCased before && !nextToCased r then ['ς'] else lowerChar c) ++
      lowerAfter (c :: before) r

def lower (s : String) : String := String.ofList (lowerAfter [] s.toList)

def sameIgnoringCase (a b : String) : Bool := lower a == lower b

/-! ## Upper case -/

def upperChar (c : Char) : List Char :=
  let n := c.toNat
  if n < 0x80 then [c.toUpper]
  else match upperSequences.lookup n with
    | some ns => ns.map Char.ofNat
    | none => [((runForm? upperRuns n).map Char.ofNat).getD c]

def upper (s : String) : String := String.ofList (s.toList.flatMap upperChar)

end HttpScript.Text
