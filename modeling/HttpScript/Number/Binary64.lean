/-!
# Binary64 numbers

Double-precision numbers as exact values. A finite number is `± mantissa · 2 ^ exponent` in the one
form that the format stores; every operation computes its exact result as a ratio of natural
numbers and rounds once, to the nearest representable number, ties to the even mantissa.

    ofRatio n d      the double nearest to n / d
    order? x y       `none` exactly when one side is not a number
-/

namespace HttpScript

/-- A double-precision number. A finite one has `mantissa < 2 ^ 53` and an exponent from -1074 to
971; the mantissa is at least `2 ^ 52` unless the exponent is -1074. -/
inductive Binary64 where
  | nan
  | infinity (negative : Bool)
  | finite (negative : Bool) (mantissa : Nat) (exponent : Int)
  deriving DecidableEq, Repr

namespace Binary64

/-- Zero, with a sign. -/
def zero (negative : Bool) : Binary64 := .finite negative 0 (-1074)

instance : Inhabited Binary64 := ⟨zero false⟩

/-! ## Rounding -/

/-- The integer nearest to `num / den`, ties to even. -/
def divideEven (num den : Nat) : Nat :=
  let q := num / den
  let r := num % den
  if 2 * r < den then q
  else if 2 * r > den then q + 1
  else if q % 2 == 0 then q else q + 1

/-- Numerator and denominator of `num / den` divided by `2 ^ exponent`. -/
def scaleRatio (num den : Nat) (exponent : Int) : Nat × Nat :=
  if 0 ≤ exponent then (num, den * Nat.pow 2 exponent.toNat)
  else (num * Nat.pow 2 (-exponent).toNat, den)

/-- The exponent that gives `num / den` a mantissa of 53 bits, or the least exponent. -/
def ratioExponent (num den : Nat) : Int :=
  let guess : Int := (Nat.log2 num : Int) - (Nat.log2 den : Int) - 53
  let (n, d) := scaleRatio num den guess
  let e := if n < d * Nat.pow 2 53 then guess else guess + 1
  max e (-1074)

/-- The double with this sign nearest to `num / den`. -/
def ofRatio (negative : Bool) (num den : Nat) : Binary64 :=
  if num == 0 then zero negative
  else
    let e := ratioExponent num den
    let (n, d) := scaleRatio num den e
    let m := divideEven n d
    let (m, e) := if m == Nat.pow 2 53 then (Nat.pow 2 52, e + 1) else (m, e)
    if e > 971 then .infinity negative else .finite negative m e

/-- The double nearest to a natural number. -/
def ofNat (n : Nat) : Binary64 := ofRatio false n 1

/-- The double nearest to an integer. -/
def ofInt (i : Int) : Binary64 := ofRatio (decide (i < 0)) i.natAbs 1

instance (n : Nat) : OfNat Binary64 n := ⟨ofNat n⟩

/-- The double nearest to `± digits · 10 ^ exponent`. -/
def ofDecimal (negative : Bool) (digits : Nat) (exponent : Int) : Binary64 :=
  if digits == 0 then zero negative
  else
    let magnitude : Int := ((Nat.toDigits 10 digits).length : Int) + exponent
    if magnitude > 310 then .infinity negative
    else if magnitude < -330 then zero negative
    else if 0 ≤ exponent then ofRatio negative (digits * Nat.pow 10 exponent.toNat) 1
    else ofRatio negative digits (Nat.pow 10 (-exponent).toNat)

/-! ## Reading the value -/

def isFinite : Binary64 → Bool
  | finite .. => true
  | _ => false

def isZero : Binary64 → Bool
  | finite _ 0 _ => true
  | _ => false

/-- Magnitude of a finite number as a ratio. -/
def ratio (mantissa : Nat) (exponent : Int) : Nat × Nat :=
  if 0 ≤ exponent then (mantissa * Nat.pow 2 exponent.toNat, 1)
  else (mantissa, Nat.pow 2 (-exponent).toNat)

/-- The number as a signed ratio; `none` when it is not finite. -/
def toRatio? : Binary64 → Option (Int × Nat)
  | finite s m e =>
    let (n, d) := ratio m e
    some (if s then -(n : Int) else n, d)
  | _ => none

/-- The greatest integer that is not above a finite number. -/
def floor? (x : Binary64) : Option Int := x.toRatio?.map fun (n, d) => Int.fdiv n d

/-- The integer nearest to zero between a finite number and zero. -/
def truncate? (x : Binary64) : Option Int := x.toRatio?.map fun (n, d) => Int.tdiv n d

def isInteger (x : Binary64) : Bool :=
  match x.toRatio? with
  | some (n, d) => n % d == 0
  | none => false

def toNat? (x : Binary64) : Option Nat :=
  match x.toRatio? with
  | some (n, d) => if 0 ≤ n && n % d == 0 then some (n / d).toNat else none
  | none => none

/-! ## Arithmetic -/

def neg : Binary64 → Binary64
  | nan => nan
  | infinity s => infinity !s
  | finite s m e => finite (!s) m e

/-- The double nearest to a signed ratio that is not zero; zero otherwise, with the sign given. -/
def ofSigned (negativeZero : Bool) (num : Int) (den : Nat) : Binary64 :=
  if num == 0 then zero negativeZero else ofRatio (decide (num < 0)) num.natAbs den

/-- Sum. Opposite infinities have none; a sum that cancels is positive zero. -/
def add : Binary64 → Binary64 → Binary64
  | nan, _ | _, nan => nan
  | infinity s, infinity t => if s == t then infinity s else nan
  | infinity s, _ | _, infinity s => infinity s
  | finite s m e, finite t n f =>
    let (a, b) := ratio m e
    let (c, d) := ratio n f
    let signed (neg : Bool) (k : Nat) : Int := if neg then -(k : Int) else k
    ofSigned (s && t) (signed s a * d + signed t c * b) (b * d)

def sub (x y : Binary64) : Binary64 := add x (neg y)

/-- Product. Zero times an infinity has none. -/
def mul : Binary64 → Binary64 → Binary64
  | nan, _ | _, nan => nan
  | infinity s, infinity t => infinity (s != t)
  | infinity s, finite t m _ => if m == 0 then nan else infinity (s != t)
  | finite s m _, infinity t => if m == 0 then nan else infinity (s != t)
  | finite s m e, finite t n f =>
    let (a, b) := ratio m e
    let (c, d) := ratio n f
    ofRatio (s != t) (a * c) (b * d)

/-- Quotient. Zero by zero and infinity by infinity have none; a division by zero is infinite. -/
def div : Binary64 → Binary64 → Binary64
  | nan, _ | _, nan => nan
  | infinity _, infinity _ => nan
  | infinity s, finite t _ _ => infinity (s != t)
  | finite s _ _, infinity t => zero (s != t)
  | finite s m e, finite t n f =>
    if n == 0 then if m == 0 then nan else infinity (s != t)
    else
      let (a, b) := ratio m e
      let (c, d) := ratio n f
      ofRatio (s != t) (a * d) (b * c)

/-- Remainder of the division that rounds toward zero; it has the sign of the dividend. -/
def rem : Binary64 → Binary64 → Binary64
  | nan, _ | _, nan => nan
  | infinity _, _ => nan
  | x, infinity _ => x
  | finite s m e, finite _ n f =>
    if n == 0 then nan
    else
      let (a, b) := ratio m e
      let (c, d) := ratio n f
      ofRatio s (a * d % (c * b)) (b * d)

/-- The nearest integer, a half going up. -/
def round : Binary64 → Binary64
  | finite s m e =>
    let (n, d) := ratio m e
    let signed : Int := if s then -(n : Int) else n
    ofSigned s (Int.fdiv (2 * signed + d) (2 * d)) 1
  | x => x

/-! ## Order -/

/-- Order of two numbers; `none` when one of them is not a number. The zeros are equal. -/
def order? : Binary64 → Binary64 → Option Ordering
  | nan, _ | _, nan => none
  | infinity s, infinity t =>
    some (if s == t then .eq else if s then .lt else .gt)
  | infinity s, _ => some (if s then .lt else .gt)
  | _, infinity s => some (if s then .gt else .lt)
  | finite s m e, finite t n f =>
    let (a, b) := ratio m e
    let (c, d) := ratio n f
    let x : Int := (if s then -(a : Int) else a) * d
    let y : Int := (if t then -(c : Int) else c) * b
    some (compare x y)

/-- Strictly below; false when one side is not a number. -/
def lt (x y : Binary64) : Bool := order? x y == some .lt

/-- At most; false when one side is not a number. -/
def le (x y : Binary64) : Bool := order? x y == some .lt || order? x y == some .eq

/-- Equal as numbers; false when one side is not a number. -/
def eqv (x y : Binary64) : Bool := order? x y == some .eq

/-- The greater of zero and the number. -/
def atLeastZero (x : Binary64) : Binary64 := if x == nan || lt 0 x then x else 0

end Binary64

end HttpScript
