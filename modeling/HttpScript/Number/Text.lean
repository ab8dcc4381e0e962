import HttpScript.Number.Binary64
import HttpScript.Text

/-!
# Numbers as text

`shortest` gives the fewest significant digits that read back as the same double, the nearest such
decimal if there are several. `text` writes a double with them, positionally from `1e-6` up to
`1e21`; `fixed` writes a given number of places, a tie going up. `ofLiteral` reads a decimal and
`ofText` any text.
-/

namespace HttpScript.Binary64

/-! ## Shortest digits -/

/-- Counts up from `p` while `num / den` is at least `10 ^ p`, for `fuel` steps. -/
def climbPoint (num den : Nat) : Nat → Int → Int
  | 0, p => p
  | fuel + 1, p =>
    let reached :=
      if 0 ≤ p then den * Nat.pow 10 p.toNat ≤ num else den ≤ num * Nat.pow 10 (-p).toNat
    if reached then climbPoint num den fuel (p + 1) else p

/-- The place of the decimal point: the least `p` with `num / den < 10 ^ p`. -/
def pointOf (num den : Nat) : Int :=
  climbPoint num den 6 (((Nat.log2 num : Int) - (Nat.log2 den : Int)) * 30103 / 100000 - 1)

/-- Four times the bounds of the reals that round to the mantissa. The gap below a power of two is
half as wide. -/
def roundingBounds (mantissa : Nat) (exponent : Int) : Nat × Nat :=
  if mantissa == Nat.pow 2 52 && exponent != -1074 then (4 * mantissa - 1, 4 * mantissa + 2)
  else (4 * mantissa - 2, 4 * mantissa + 2)

/-- The multiple of `10 ^ (point - count)` nearest to the number, of those that read back as it;
`none` if none does. -/
def nearestOnGrid? (mantissa : Nat) (exponent point : Int) (count : Nat) : Option Nat :=
  let shift := point - count
  let num := Nat.pow 2 exponent.toNat * Nat.pow 10 (-shift).toNat
  let den := 4 * Nat.pow 2 (-exponent).toNat * Nat.pow 10 shift.toNat
  let (low, high) := roundingBounds mantissa exponent
  let readsBack (d : Nat) : Bool :=
    if mantissa % 2 == 0 then low * num ≤ d * den && d * den ≤ high * num
    else low * num < d * den && d * den < high * num
  let below := 4 * mantissa * num / den
  let nearest := divideEven (4 * mantissa * num) den
  if readsBack nearest then some nearest
  else if readsBack below then some below
  else if readsBack (below + 1) then some (below + 1)
  else none

/-- The first digit count from `count` on with a decimal that reads back, and that decimal. -/
def shortestFrom (mantissa : Nat) (exponent point : Int) : Nat → Nat → Nat × Nat
  | 0, count => (count, 0)
  | fuel + 1, count => match nearestOnGrid? mantissa exponent point count with
    | some d => (count, d)
    | none => shortestFrom mantissa exponent point fuel (count + 1)

/-- Digits and place of the point of a positive number: it is written `0.d₁d₂… · 10 ^ point`. -/
def shortest (mantissa : Nat) (exponent : Int) : List Char × Int :=
  let (num, den) := ratio mantissa exponent
  let point := pointOf num den
  let (count, d) := shortestFrom mantissa exponent point 17 1
  let digits := Nat.toDigits 10 d
  ((digits.reverse.dropWhile (· == '0')).reverse, point + digits.length - count)

/-! ## Printing -/

/-- Digits with a point: positional when the point stands from five places before the first digit
to 21 places after it, with an exponent otherwise. -/
def layout (digits : List Char) (point : Int) : List Char :=
  let count : Int := digits.length
  if count ≤ point && point ≤ 21 then digits ++ List.replicate (point - count).toNat '0'
  else if 0 < point && point ≤ 21 then digits.take point.toNat ++ '.' :: digits.drop point.toNat
  else if -6 < point && point ≤ 0 then
    '0' :: '.' :: List.replicate (-point).toNat '0' ++ digits
  else
    let exponent := point - 1
    let mark := if exponent < 0 then '-' else '+'
    let tail := 'e' :: mark :: Nat.toDigits 10 exponent.natAbs
    match digits with
    | [] => tail
    | [d] => d :: tail
    | d :: r => d :: '.' :: r ++ tail

/-- Text of a number. Both zeros are written `0`. -/
def text : Binary64 → String
  | nan => "NaN"
  | infinity s => if s then "-Infinity" else "Infinity"
  | finite s m e =>
    if m == 0 then "0"
    else
      let (digits, point) := shortest m e
      let body := layout digits point
      String.ofList (if s then '-' :: body else body)

/-- Text with exactly `places` digits after the point. The exact value is rounded, a tie away from
zero; from `1e21` on the shortest text is written. -/
def fixed (places : Nat) : Binary64 → String
  | finite s m e =>
    let (n, d) := ratio m e
    if n ≥ d * Nat.pow 10 21 then text (finite s m e)
    else
      let scaled := (2 * n * Nat.pow 10 places + d) / (2 * d)
      let digits := Text.natText 10 (places + 1) scaled
      let whole := digits.take (digits.length - places)
      let body := if places == 0 then whole
        else whole ++ '.' :: digits.drop (digits.length - places)
      String.ofList (if s && m != 0 then '-' :: body else body)
  | x => text x

/-! ## Reading -/

/-- The double that a decimal literal denotes: an optional sign, digits with an optional point,
and an optional exponent. The form is not checked. -/
def ofLiteral (literal : String) : Binary64 :=
  let (negative, s) := match literal.toList with
    | '-' :: r => (true, r)
    | '+' :: r => (false, r)
    | s => (false, s)
  let isMark (c : Char) : Bool := c == 'e' || c == 'E'
  let significand := s.takeWhile (!isMark ·)
  let exponent : Int := match (s.dropWhile (!isMark ·)).drop 1 with
    | '-' :: r => -(Text.digitsValue r : Int)
    | '+' :: r => Text.digitsValue r
    | r => Text.digitsValue r
  let whole := significand.takeWhile (· != '.')
  let places := (significand.dropWhile (· != '.')).drop 1
  ofDecimal negative (Text.digitsValue (whole ++ places)) (exponent - places.length)

/-- Whether a text is a decimal without its sign: digits, perhaps with a point among or around them,
and perhaps an exponent. -/
def isDecimal (s : List Char) : Bool :=
  let isMark (c : Char) : Bool := c == 'e' || c == 'E'
  let significand := s.takeWhile (!isMark ·)
  let exponent := match (s.dropWhile (!isMark ·)).drop 1 with
    | '-' :: r => r
    | '+' :: r => r
    | r => r
  significand.any Char.isDigit && significand.all (fun c => c.isDigit || c == '.') &&
    (significand.filter (· == '.')).length ≤ 1 &&
    (!s.any isMark || (!exponent.isEmpty && exponent.all Char.isDigit))

/-- The base that a letter behind a leading zero stands for. -/
def baseOf? (mark : Char) : Option Nat :=
  match mark.toLower with
  | 'x' => some 16
  | 'o' => some 8
  | 'b' => some 2
  | _ => none

/-- The whole number of a text such as `0x1f`. -/
def ofMarked? : List Char → Option Binary64
  | '0' :: mark :: ds => do
    let base ← baseOf? mark
    let values ← ds.mapM Text.hexValue?
    if values.isEmpty || values.any (base ≤ ·) then none
    else some (ofNat (values.foldl (fun n d => base * n + d) 0))
  | _ => none

/-- The number that a text denotes, blanks aside; nothing denotes zero, and NaN stands for texts
that denote none. -/
def ofText (s : String) : Binary64 :=
  let t := Text.trim s.toList
  let (negative, body) := match t with
    | '-' :: r => (true, r)
    | '+' :: r => (false, r)
    | r => (false, r)
  if t.isEmpty then 0
  else if body == "Infinity".toList then infinity negative
  else if isDecimal body then ofLiteral (String.ofList t)
  else (ofMarked? t).getD nan

end HttpScript.Binary64
