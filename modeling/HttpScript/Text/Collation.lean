import HttpScript.Text.Case
import HttpScript.Text.Normal

/-!
# Collation

The order in which texts are listed for people: first by letters and signs, then by the marks upon
them, then by case, lower case first. Blanks stand before punctuation, that before symbols, digits
and letters.
-/

namespace HttpScript.Text

/-- The ASCII characters other than letters, in their order. -/
def collationOrder : List Char :=
  "\t\n\x0b\x0c\r _-,;:!?.'\"()[]\x7b\x7d@*/\\&#%`^+<=>|~$0123456789".toList

/-- The first weight of a character; zero for a mark or a control character. -/
def primaryWeight (n : Nat) : Nat :=
  if combiningClass n != 0 then 0
  else
    let c := Char.ofNat n
    let lower := ((lowerChar c).head?.map Char.toNat).getD n
    if c.isAlpha then 100 + lower
    else match collationOrder.idxOf? c with
      | some i => i + 1
      | none => if n < 128 then 0 else 1000 + lower

def orderWeights : List Nat → List Nat → Ordering
  | [], [] => .eq
  | [], _ :: _ => .lt
  | _ :: _, [] => .gt
  | a :: r, b :: s => (compare a b).then (orderWeights r s)

/-- Order of two lists of code points. -/
def collate (a b : List Nat) : Ordering :=
  let split (ns : List Nat) : List Nat := normalize ⟨false, false⟩ ns
  let letters (ns : List Nat) : List Nat := (split ns).filter fun n => primaryWeight n != 0
  let first (ns : List Nat) : List Nat := (letters ns).map primaryWeight
  -- the marks with the number of letters in front of them
  let marks (ns : List Nat) : List Nat := ((split ns).foldl (fun (count, out) n =>
    if primaryWeight n != 0 then (count + 1, out)
    else if combiningClass n != 0 then (count, out ++ [count * 0x110000 + n])
    else (count, out)) (0, [])).2
  let upper (ns : List Nat) : List Nat := (letters ns).map fun n =>
    if lowerChar (Char.ofNat n) == [Char.ofNat n] then 0 else 1
  ((orderWeights (first a) (first b)).then (orderWeights (marks a) (marks b))).then
    (orderWeights (upper a) (upper b))

end HttpScript.Text
