import Std.Data.HashMap
import HttpScript.Text
import HttpScript.Text.NormalData

/-!
# Normal forms

The four Unicode normal forms of a list of code points: characters are decomposed, marks are put
into the order of their combining classes, and in the composed forms what can be composed is.
-/

namespace HttpScript.Text

/-! ## Tables -/

def tableEntries (table : String) : List (List Nat) :=
  let number (s : List Char) : Nat := s.foldl (fun n c => 16 * n + (hexValue? c).getD 0) 0
  let entries := splitBy (· == ';') (table.toList.filter (· != '\n'))
  (entries.filter (!·.isEmpty)).map fun e => (splitBy (· == ' ') e).map number

def decompositions (table : String) : Std.HashMap Nat (List Nat) :=
  (tableEntries table).foldl (fun m e => match e with
    | n :: ns => m.insert n ns
    | [] => m) ∅

def canonicalForms : Std.HashMap Nat (List Nat) := decompositions canonicalTable

/-- The compatibility decompositions that differ from the canonical ones. -/
def compatibilityForms : Std.HashMap Nat (List Nat) := decompositions compatibilityTable

def combiningClasses : List (List Nat) := tableEntries combiningTable

/-- The compositions of two characters. -/
def compositions : Std.HashMap (Nat × Nat) Nat :=
  (tableEntries compositionTable).foldl (fun m e => match e with
    | [a, b, n] => m.insert (a, b) n
    | _ => m) ∅

def combiningClass (n : Nat) : Nat :=
  if n < 0x300 then 0
  else (combiningClasses.findSome? fun
    | [first, last, value] => if first ≤ n && n ≤ last then some value else none
    | _ => none).getD 0

/-! ## Decomposing -/

/-- Whether a character is a Hangul syllable. -/
def isSyllable (n : Nat) : Bool := 0xAC00 ≤ n && n < 0xAC00 + 11172

/-- The letters of a Hangul syllable. -/
def syllableLetters (n : Nat) : List Nat :=
  let i := n - 0xAC00
  [0x1100 + i / 588, 0x1161 + i % 588 / 28] ++ if i % 28 == 0 then [] else [0x11A7 + i % 28]

def decomposed (compatibly : Bool) (n : Nat) : List Nat :=
  if isSyllable n then syllableLetters n
  else
    let further := if compatibly then compatibilityForms[n]? else none
    (further.or canonicalForms[n]?).getD [n]

/-- Puts a character in front of others that are in order: a mark goes behind those of lower
class. -/
def insertMark (n : Nat) : List Nat → List Nat
  | [] => [n]
  | m :: r =>
    if combiningClass n != 0 && combiningClass m != 0 && combiningClass m < combiningClass n then
      m :: insertMark n r
    else n :: m :: r

def orderMarks (ns : List Nat) : List Nat := ns.foldr insertMark []

/-! ## Composing -/

/-- What two characters are composed into. -/
def composed? (a b : Nat) : Option Nat :=
  if 0x1100 ≤ a && a < 0x1113 && 0x1161 ≤ b && b < 0x1176 then
    some (0xAC00 + ((a - 0x1100) * 21 + (b - 0x1161)) * 28)
  else if isSyllable a && (a - 0xAC00) % 28 == 0 && 0x11A7 < b && b < 0x11C3 then
    some (a + (b - 0x11A7))
  else compositions[(a, b)]?

/-- Composes characters with the last one of class zero, `starter`. The marks `passed` (last one
first) stand between and were not composed. -/
def composeFrom (starter : Option Nat) (passed : List Nat) : List Nat → List Nat
  | [] => starter.toList ++ passed.reverse
  | c :: r =>
    let blocked := match passed with
      | [] => false
      | m :: _ => combiningClass c ≤ combiningClass m
    match starter.bind fun s => if blocked then none else composed? s c with
    | some n => composeFrom (some n) passed r
    | none =>
      if combiningClass c == 0 then
        starter.toList ++ passed.reverse ++ composeFrom (some c) [] r
      else composeFrom starter (c :: passed) r

/-! ## Normal forms -/

/-- A normal form. -/
structure NormalForm where
  compatibly : Bool
  composing : Bool
  deriving DecidableEq, Repr

def NormalForm.ofName? (name : String) : Option NormalForm :=
  match name with
  | "NFC" => some ⟨false, true⟩
  | "NFD" => some ⟨false, false⟩
  | "NFKC" => some ⟨true, true⟩
  | "NFKD" => some ⟨true, false⟩
  | _ => none

def normalize (form : NormalForm) (ns : List Nat) : List Nat :=
  let ordered := orderMarks (ns.flatMap (decomposed form.compatibly))
  if form.composing then composeFrom none [] ordered else ordered

end HttpScript.Text
