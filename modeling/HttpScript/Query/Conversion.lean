import HttpScript.Number.Text
import HttpScript.Query.Memory

/-!
# Conversions of values

How values become texts, numbers and truth values when an operator or a method asks for them. A list
is written as its items between commas, an object without its members; a literal number counts as an
exact integer where a double could not hold it. A member of an object named `toString` hides the
conversion, which then fails.
-/

namespace HttpScript.Query

/-! ## Texts -/

/-- The number of a literal: an integer beyond the exact range of doubles stays exact; none when a
double would be infinite or would vanish. -/
def literalValue? (source : String) : Option Value :=
  let ds := match source.toList with
    | '-' :: r => r
    | r => r
  let d := Binary64.ofLiteral source
  if ds.all Char.isDigit then
    let n : Int := Text.digitsValue ds
    if 9007199254740991 < n then some (.whole (if source.toList.head? == some '-' then -n else n))
    else some (.number d)
  else if !d.isFinite then none
  else if d.isZero && (ds.takeWhile fun c => !(c == 'e' || c == 'E')).any
      fun c => c.isDigit && c != '0' then none
  else some (.number d)

def methodText : String := "function () \x7b [native code] \x7d"

/-- The source of a pattern as it is written: nothing stands for nothing, and slashes outside
classes and line ends are escaped. -/
def sourceText (source : List Nat) : List Nat :=
  if source.isEmpty then Text.units "(?:)" else written false source
where
  /-- The rest of a source; `inClass` tells that a class is open. -/
  written : (inClass : Bool) → List Nat → List Nat
    | _, [] => []
    | inClass, 92 :: u :: r => match lineEnd? u with
      | some e => 92 :: e ++ written inClass r
      | none => 92 :: u :: written inClass r
    | inClass, u :: r => match lineEnd? u with
      | some e => 92 :: e ++ written inClass r
      | none =>
        if u == 47 && !inClass then 92 :: 47 :: written inClass r
        else u :: written (if u == 91 then true else if u == 93 then false else inClass) r
  /-- The letters of the escape for the end of a line. -/
  lineEnd? (u : Nat) : Option (List Nat) :=
    if u == 10 then some [110]
    else if u == 13 then some [114]
    else if u == 0x2028 then some (Text.units "u2028")
    else if u == 0x2029 then some (Text.units "u2029")
    else none

/-- Text of a pattern: its source between slashes, and its flags. -/
def patternText (r : Regex.Compiled) : List Nat :=
  47 :: sourceText r.source ++ 47 :: Text.units r.flags.text

def joinUnits (between : List Nat) (parts : List (List Nat)) : List Nat := between.intercalate parts

namespace Eval

/-- Text of a value. The lists in `above` are being written already; where one of them occurs again
it is empty. -/
def textWithin : (fuel : Nat) → (above : List Value) → Value → Eval (List Nat)
  | 0, _, _ => failure
  | fuel + 1, above, v => match v with
    | .undefined => pure (Text.units "undefined")
    | .null => pure (Text.units "null")
    | .bool b => pure (Text.units (if b then "true" else "false"))
    | .number d => pure (Text.units d.text)
    | .whole i => pure (Text.units (toString i))
    | .text us => pure us
    | .node _ (.number n) => pure (Text.units n.text)
    | .node _ (.object ms) =>
      if Record.has ms "toString" then failure else pure (Text.units "[object Object]")
    | v => do
      let m ← memory
      match m.items? v with
      | some items =>
        if above.any v.sameObject then pure []
        else
          let parts ← items.mapM fun x =>
            if x.isPresent then textWithin fuel (v :: above) x else pure []
          pure (joinUnits [44] parts)
      | none => match m.pattern? v with
        | some p => pure (patternText p.regex)
        | none => match m.cell? v with
          | some (.method ..) => pure (Text.units methodText)
          | some (.walk kind _) => pure (Text.units ("[object " ++ kind ++ "]"))
          | some (.record _ bare) =>
            if bare then failure else pure (Text.units "[object Object]")
          | _ => failure

/-- The number of conversions that may stand one inside the other. -/
def conversionDepth : Nat := 5000

def text (v : Value) : Eval (List Nat) := textWithin conversionDepth [] v

/-- Text of a value as the name of a member. -/
def key (v : Value) : Eval Wide := do pure (.ofUnits (← text v))

def name (v : Value) : Eval String := do pure (Text.ofUnits (← text v))

/-! ## Numbers -/

/-- The value without an identity that stands for a value: the number of a literal, the text of
another object. -/
def plain (v : Value) : Eval Value :=
  match v with
  | .node _ (.number (.literal s)) => given (literalValue? s)
  | v => if v.isObject then do pure (.text (← text v)) else pure v

/-- The number of a value without an identity, exact for exact integers. -/
def plainNumber : Value → Value
  | .undefined => .number .nan
  | .null => .number 0
  | .bool b => .number (if b then 1 else 0)
  | .text us => .number (.ofText (Text.ofUnits us))
  | v => v

/-- The number of a value, exact for exact integers. -/
def numeric (v : Value) : Eval Value := do pure (plainNumber (← plain v))

/-- The double of a value; an exact integer has none. -/
def double (v : Value) : Eval Binary64 := do
  match ← numeric v with
  | .number d => pure d
  | _ => failure

/-- A number that stands for infinity among positions and counts. -/
def endless : Int := 1152921504606846976

/-- The whole part of a double, zero for one that is not a number. -/
def wholePart : Binary64 → Int
  | .nan => 0
  | .infinity s => if s then -endless else endless
  | d => (d.truncate?).getD 0

def integer (v : Value) : Eval Int := do pure (wholePart (← double v))

/-- The whole part of a value, or another number if the value is absent. -/
def integerOr (other : Int) (v : Value) : Eval Int :=
  if v.isGiven then integer v else pure other

/-- A position counted from the start, or from the end if it is negative, within a length. -/
def positionIn (length : Nat) (i : Int) : Nat :=
  if i < 0 then (i + length).toNat else min i.toNat length

/-- A value as a position within a length, counted from the end if it is negative. -/
def position (length : Nat) (other : Int) (v : Value) : Eval Nat := do
  pure (positionIn length (← integerOr other v))

/-- A value as a position within a length; a negative one is the start. -/
def boundedPosition (length : Nat) (other : Int) (v : Value) : Eval Nat := do
  pure (min (← integerOr other v).toNat length)

/-- A double as a signed integer of 32 bits. -/
def int32 (d : Binary64) : Int :=
  if d.isFinite then Int.bmod ((d.truncate?).getD 0) 4294967296 else 0

/-- A double as an unsigned integer of 32 bits. -/
def uint32 (d : Binary64) : Nat :=
  if d.isFinite then (Int.emod ((d.truncate?).getD 0) 4294967296).toNat else 0

end Eval

end HttpScript.Query
