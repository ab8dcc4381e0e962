import HttpScript.Query.Conversion

/-!
# Operators of query expressions

Arithmetic, bits, order and equality of values. Doubles and exact integers are never mixed in
arithmetic, but they can be compared. Two objects are equal when they are one object.
-/

namespace HttpScript.Query

/-- An operator with two operands. The last two can be written but never applied. -/
inductive BinaryOp where
  | or
  | and
  | bitOr
  | bitXor
  | bitAnd
  | equal
  | unequal
  | identical
  | distinct
  | less
  | greater
  | atMost
  | atLeast
  | shiftLeft
  | shiftRight
  | shiftUnsigned
  | plus
  | minus
  | times
  | over
  | modulo
  | power
  | orElse
  deriving DecidableEq, Repr

/-- An operator with one operand. -/
inductive UnaryOp where
  | negate
  | positive
  | not
  | complement
  | typeOf
  | void
  deriving DecidableEq, Repr

namespace Eval

/-! ## Order and equality -/

/-- The integer that a text spells, blanks aside. -/
def wholeOfText? (us : List Nat) : Option Int :=
  let t := Text.trim (Text.ofUnits us).toList
  let digits? (ds : List Char) : Option Nat :=
    if !ds.isEmpty && ds.all Char.isDigit then some (Text.digitsValue ds) else none
  match t with
  | [] => some 0
  | '-' :: r => (digits? r).map fun n => -(n : Int)
  | '+' :: r => (digits? r).map Int.ofNat
  | '0' :: mark :: ds => match Binary64.baseOf? mark with
    | none => (digits? t).map Int.ofNat
    | some base => do
      let values ← ds.mapM Text.hexValue?
      if values.isEmpty || values.any (base ≤ ·) then none
      else some (values.foldl (fun n d => base * n + d) 0 : Nat)
  | t => (digits? t).map Int.ofNat

/-- Order of an exact integer and a double. -/
def orderWhole? (i : Int) : Binary64 → Option Ordering
  | .nan => none
  | .infinity negative => some (if negative then .gt else .lt)
  | d => d.toRatio?.map fun (n, den) => compare (i * den) n

def orderUnits : List Nat → List Nat → Ordering
  | [], [] => .eq
  | [], _ :: _ => .lt
  | _ :: _, [] => .gt
  | a :: r, b :: s => if a < b then .lt else if b < a then .gt else orderUnits r s

/-- Order of two values without identity: texts by their units, all else as numbers; `none` when one
of them is not a number. -/
def orderPlain? : Value → Value → Option Ordering
  | .text a, .text b => some (orderUnits a b)
  | .whole i, .text b => (wholeOfText? b).map (compare i)
  | .text a, .whole j => (wholeOfText? a).map (compare · j)
  | a, b => match plainNumber a, plainNumber b with
    | .number x, .number y => x.order? y
    | .whole i, .number d => orderWhole? i d
    | .number d, .whole i => (orderWhole? i d).map Ordering.swap
    | .whole i, .whole j => some (compare i j)
    | _, _ => none

def order? (a b : Value) : Eval (Option Ordering) := do
  pure (orderPlain? (← plain a) (← plain b))

/-- Equality that converts: absent and null are equal to each other only, and objects are equal to
values that they stand for. -/
def equal (a b : Value) : Eval Bool :=
  if !a.isPresent || !b.isPresent then pure (!a.isPresent && !b.isPresent)
  else if a.isObject && b.isObject then pure (a.sameObject b)
  else do
    match ← plain a, ← plain b with
    | .text x, .text y => pure (x == y)
    | .bool x, .bool y => pure (x == y)
    | x, y => pure (orderPlain? x y == some .eq)

/-! ## Arithmetic -/

/-- Sum of numbers, or texts joined when one side is a text. -/
def add (a b : Value) : Eval Value := do
  match ← plain a, ← plain b with
  | .text x, y => pure (.text (x ++ (← text y)))
  | x, .text y => pure (.text ((← text x) ++ y))
  | x, y => match plainNumber x, plainNumber y with
    | .number x, .number y => pure (.number (x.add y))
    | .whole i, .whole j => pure (.whole (i + j))
    | _, _ => failure

/-- An operation on two numbers of one kind. -/
def arithmetic (onDoubles : Binary64 → Binary64 → Binary64) (onWholes : Int → Int → Option Int)
    (a b : Value) : Eval Value := do
  match ← numeric a, ← numeric b with
  | .number x, .number y => pure (.number (onDoubles x y))
  | .whole i, .whole j => (Value.whole ·) <$> given (onWholes i j)
  | _, _ => failure

/-! ## Bits -/

/-- An operation on the bits of two integers: on their naturals where they are not negative, on the
complements of the others. -/
def onBits (op : Bool → Bool → Bool) (i j : Int) : Int :=
  let bits := max (Nat.log2 i.natAbs) (Nat.log2 j.natAbs) + 2
  let bit (i : Int) (k : Nat) : Bool := (Int.shiftRight i k) % 2 == 1
  let magnitude := (List.range bits).foldl (fun n k =>
    if op (bit i k) (bit j k) then n + Nat.pow 2 k else n) 0
  if op (decide (i < 0)) (decide (j < 0)) then (magnitude : Int) - Nat.pow 2 bits else magnitude

/-- The greatest number of places by which an exact integer is shifted to the left. -/
def shiftLimit : Nat := 4194304

/-- An exact integer shifted to the left, or to the right by a negative number of places. -/
def shiftWhole (i places : Int) : Option Int :=
  if i == 0 then some 0
  else if places < 0 then
    if (Nat.log2 i.natAbs : Int) + 1 < -places then some (if i < 0 then -1 else 0)
    else some (Int.shiftRight i (-places).toNat)
  else if (shiftLimit : Int) < places then none
  else some (i * Nat.pow 2 places.toNat)

/-- An operation on integers of 32 bits, or on exact ones. -/
def bitwise (onWords : Int → Nat → Int) (onWholes : Int → Int → Option Int) (a b : Value) :
    Eval Value := do
  match ← numeric a, ← numeric b with
  | .number x, .number y => pure (.ofInt (Int.bmod (onWords (int32 x) (uint32 y)) 4294967296))
  | .whole i, .whole j => (Value.whole ·) <$> given (onWholes i j)
  | _, _ => failure

/-- An operation on the bits of words or exact integers. -/
def bitByBit (op : Bool → Bool → Bool) : Value → Value → Eval Value :=
  bitwise (fun x y => onBits op x (Int.bmod y 4294967296)) fun i j => some (onBits op i j)

/-- A word shifted to the right as one without a sign. -/
def shiftUnsigned (a b : Value) : Eval Value := do
  match ← numeric a, ← numeric b with
  | .number x, .number y => pure (.ofNat (uint32 x / Nat.pow 2 (uint32 y % 32)))
  | _, _ => failure

/-! ## Operators -/

/-- Applies an operator to two values. Those that do not always need the second are not among
them. -/
def binary (op : BinaryOp) (a b : Value) : Eval Value :=
  let ordered (accept : Ordering → Bool) : Eval Value := do
    pure (.bool ((← order? a b).any accept))
  let unlessZero (f : Int → Int → Int) (i j : Int) : Option Int :=
    if j == 0 then none else some (f i j)
  match op with
  | .equal => do pure (.bool (← equal a b))
  | .unequal => do pure (.bool !(← equal a b))
  | .identical => pure (.bool (a.identical b))
  | .distinct => pure (.bool !(a.identical b))
  | .less => ordered (· == .lt)
  | .greater => ordered (· == .gt)
  | .atMost => ordered (· != .gt)
  | .atLeast => ordered (· != .lt)
  | .plus => add a b
  | .minus => arithmetic Binary64.sub (fun i j => some (i - j)) a b
  | .times => arithmetic Binary64.mul (fun i j => some (i * j)) a b
  | .over => arithmetic Binary64.div (unlessZero Int.tdiv) a b
  | .modulo => arithmetic Binary64.rem (unlessZero Int.tmod) a b
  | .bitOr => bitByBit (· || ·) a b
  | .bitXor => bitByBit (· != ·) a b
  | .bitAnd => bitByBit (· && ·) a b
  | .shiftLeft => bitwise (fun x y => x * Nat.pow 2 (y % 32)) shiftWhole a b
  | .shiftRight => bitwise (fun x y => Int.shiftRight x (y % 32)) (fun i j => shiftWhole i (-j)) a b
  | .shiftUnsigned => shiftUnsigned a b
  | .or | .and | .power | .orElse => failure

def unary (op : UnaryOp) (a : Value) : Eval Value :=
  match op with
  | .not => pure (.bool !a.truthy)
  | .typeOf => do pure (.ofString ((← memory).typeName a))
  | .void => pure .undefined
  | .positive => do pure (.number (← double a))
  | .negate => do
    match ← numeric a with
    | .number d => pure (.number d.neg)
    | .whole i => pure (.whole (-i))
    | _ => failure
  | .complement => do
    match ← numeric a with
    | .number d => pure (.ofInt (-(int32 d) - 1))
    | .whole i => pure (.whole (-i - 1))
    | _ => failure

end Eval

end HttpScript.Query
