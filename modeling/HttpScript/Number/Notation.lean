import HttpScript.Number.Text

/-!
# Notations of numbers

Doubles in scientific notation, with a number of significant digits, in another base, and with their
digits in groups. Exact values are rounded once, a tie away from zero.
-/

namespace HttpScript.Binary64

/-! ## Significant digits -/

/-- The first `count` digits of a positive ratio, rounded, and the exponent of the first one. -/
def significant (num den count : Nat) : List Char × Int :=
  let point := pointOf num den
  let shift := (count : Int) - point
  let n := num * Nat.pow 10 shift.toNat
  let d := den * Nat.pow 10 (-shift).toNat
  let rounded := (2 * n + d) / (2 * d)
  if rounded == Nat.pow 10 count then (Nat.toDigits 10 (rounded / 10), point)
  else (Nat.toDigits 10 rounded, point - 1)

def scientificText (digits : List Char) (exponent : Int) : List Char :=
  let mark := if exponent < 0 then '-' else '+'
  let tail := 'e' :: mark :: Nat.toDigits 10 exponent.natAbs
  match digits with
  | [] => tail
  | [d] => d :: tail
  | d :: r => d :: '.' :: r ++ tail

def signed (negative : Bool) (s : List Char) : String :=
  String.ofList (if negative then '-' :: s else s)

/-- Scientific notation with the given number of places, or with as many as it takes. -/
def scientific (places : Option Nat) : Binary64 → String
  | finite s m e =>
    if m == 0 then
      scientificText (List.replicate (places.getD 0 + 1) '0') 0 |> signed false
    else match places with
      | some places =>
        let (num, den) := ratio m e
        let (digits, exponent) := significant num den (places + 1)
        signed s (scientificText digits exponent)
      | none =>
        let (digits, point) := shortest m e
        signed s (scientificText digits (point - 1))
  | x => text x

/-- The given number of significant digits: scientific when the exponent is below -6 or is not less
than that number. -/
def precise (count : Nat) : Binary64 → String
  | finite s m e =>
    if m == 0 then
      let zeros := List.replicate (count - 1) '0'
      String.ofList (if zeros.isEmpty then ['0'] else '0' :: '.' :: zeros)
    else
      let (num, den) := ratio m e
      let (digits, exponent) := significant num den count
      if exponent < -6 || (count : Int) ≤ exponent then signed s (scientificText digits exponent)
      else if exponent < 0 then
        signed s ('0' :: '.' :: List.replicate (-exponent - 1).toNat '0' ++ digits)
      else
        let whole := exponent.toNat + 1
        if whole == count then signed s digits
        else signed s (digits.take whole ++ '.' :: digits.drop whole)
  | x => text x

/-! ## Other bases -/

/-- The digit of a value below 36. -/
def digitChar (n : Nat) : Char := if n < 10 then Char.ofNat (48 + n) else Char.ofNat (87 + n)

/-- The digits of a natural number in a base, put in front of others, for `fuel` digits at most. -/
def digitsBefore (base : Nat) : (fuel n : Nat) → List Char → List Char
  | 0, _, done => done
  | fuel + 1, n, done =>
    if n < base then digitChar n :: done
    else digitsBefore base fuel (n / base) (digitChar (n % base) :: done)

def natDigits (base n : Nat) : List Char := digitsBefore base (Nat.log2 n + 2) n []

/-- An integer in a base. -/
def intText (base : Nat) (i : Int) : String := signed (decide (i < 0)) (natDigits base i.natAbs)

/-- The distance to the next greater double. -/
def gap : Binary64 → Binary64
  | finite _ _ e => finite false 1 e
  | x => x

/-- Adds one to the last of reversed digits; digits that overflow are dropped. The second answer
tells that all did. -/
def carryDigits (base : Nat) : List Nat → List Nat × Bool
  | [] => ([], true)
  | d :: r => if d + 1 < base then ((d + 1) :: r, false) else carryDigits base r

/-- The digits of a fraction, the last one first, until what is left is less than `delta`; the
second answer tells that they round up to one. -/
def fractionDigits (base : Nat) : (fuel : Nat) → (fraction delta : Binary64) → List Nat →
    List Nat × Bool
  | 0, _, _, done => (done, false)
  | fuel + 1, fraction, delta, done =>
    if fraction.lt delta then (done, false)
    else
      let fraction := fraction.mul (ofNat base)
      let delta := delta.mul (ofNat base)
      let digit := ((fraction.floor?).getD 0).toNat
      let fraction := fraction.sub (ofNat digit)
      let half : Binary64 := ofRatio false 1 2
      let up := half.lt fraction || (fraction.eqv half && digit % 2 == 1)
      if up && lt 1 (fraction.add delta) then carryDigits base (digit :: done)
      else fractionDigits base fuel fraction delta (digit :: done)

/-- The digits of a whole double: those that it does not determine are zeros. -/
def wholeDigits (base : Nat) : (fuel : Nat) → Binary64 → List Char → List Char
  | 0, _, done => done
  | fuel + 1, x, done => match x with
    | finite _ _ e =>
      if 0 < e then wholeDigits base fuel (x.div (ofNat base)) ('0' :: done)
      else natDigits base ((x.floor?).getD 0).toNat ++ done
    | _ => done

/-- A number in a base other than ten, with the fewest digits that tell it from its neighbours. -/
def baseText (base : Nat) : Binary64 → String
  | finite s m e =>
    if m == 0 then "0"
    else
      let x := finite false m e
      let whole := ofInt ((x.floor?).getD 0)
      let fraction := x.sub whole
      let half := (gap x).mul (ofRatio false 1 2)
      let delta := if half.isZero then finite false 1 (-1074) else half
      let (ds, carried) :=
        if fraction.lt delta then ([], false) else fractionDigits base 1100 fraction delta []
      let whole := if carried then whole.add 1 else whole
      let places := ds.reverse.map digitChar
      signed s (wholeDigits base 1100 whole [] ++ if places.isEmpty then [] else '.' :: places)
  | x => text x

/-! ## Groups -/

/-- Digits in groups of three, counted from the end. -/
def grouped (digits : List Char) : List Char :=
  let count := digits.length
  digits.zipIdx.flatMap fun (d, i) =>
    if i != 0 && (count - i) % 3 == 0 then [',', d] else [d]

/-- A number as it is shown to people: the whole part in groups and at most three places. The
shortest decimal is rounded, a tie away from zero. -/
def shown : Binary64 → String
  | nan => "NaN"
  | infinity s => if s then "-∞" else "∞"
  | finite s m e =>
    let (digits, point) := if m == 0 then (['0'], 1) else shortest m e
    let shift := point - digits.length + 3
    let n := Text.digitsValue digits * Nat.pow 10 shift.toNat
    let d := Nat.pow 10 (-shift).toNat
    let thousandths := (2 * n + d) / (2 * d)
    let places := ((Text.natText 10 3 (thousandths % 1000)).reverse.dropWhile (· == '0')).reverse
    signed s (grouped (Nat.toDigits 10 (thousandths / 1000)) ++
      if places.isEmpty then [] else '.' :: places)

end HttpScript.Binary64
