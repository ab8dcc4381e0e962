import HttpScript.Calendar
import HttpScript.Number.Text
import HttpScript.Record

/-!
# Generators

Expressions that begin with `$` make up a value: a date, a time stamp, a random integer, a unique
identifier, or an entry of the process environment.

    IntRange.pick r share = r.low                               when the range is empty
    r.low ≤ IntRange.pick r share < r.high                      otherwise, for a share of its width
-/

namespace HttpScript

/-- Where generators take their values from: the clock in milliseconds, one random draw from 0 to
1, one unique identifier, and the process environment. -/
structure Ambient where
  now : Int
  draw : Binary64
  identifier : String
  processEnv : Record String

namespace Generator

/-- The sign in front of every generator. -/
def sigil : Char := '$'

/-! ## Random integers -/

/-- A half-open range of integers. -/
structure IntRange where
  low : Int
  high : Int
  deriving DecidableEq, Repr

/-- Greatest magnitude of a bound. -/
def boundLimit : Int := 9007199254740991

/-- An integer with an optional sign, if it is one and its magnitude is a possible bound. -/
def bound? (s : List Char) : Option Int :=
  let (negative, ds) := match s with
    | '-' :: r => (true, r)
    | '+' :: r => (false, r)
    | s => (false, s)
  if ds.isEmpty || !ds.all Char.isDigit then none
  else
    let n : Int := Text.digitsValue ds
    if boundLimit < n then none else some (if negative then -n else n)

/-- The range that an argument names: its first two words, between commas or blanks. A bound that
is missing or malformed is 0 or 2147483647. -/
def IntRange.ofText (arg : String) : IntRange :=
  let words := (Text.splitBy (fun c => Text.isBlank c || c == ',') arg.toList).filter (!·.isEmpty)
  { low := (words[0]?.bind bound?).getD 0
    high := (words[1]?.bind bound?).getD 2147483647 }

/-- An integer of the range, given the share of a width that the draw selects. -/
def IntRange.pick (r : IntRange) (share : Int → Int) : Int :=
  if r.high ≤ r.low then r.low else r.low + share (r.high - r.low)

/-- The share of a width that an exact draw `num / den` selects. -/
def exactShare (num den : Nat) (width : Int) : Int := num * width / den

/-- The share of a width that a draw selects in double precision. -/
def doubleShare (draw : Binary64) (width : Int) : Int :=
  ((Binary64.mul draw (.ofInt width)).floor?).getD 0

/-! ## Expressions -/

/-- Name and argument of an expression without its sign: a word, then nothing or a blank and any
text. -/
def call? (s : List Char) : Option (String × String) :=
  let name := s.takeWhile Text.isIdentRest
  let rest := s.dropWhile Text.isIdentRest
  if name.isEmpty then none
  else if rest.isEmpty || rest.head?.any Text.isBlank then
    some (String.ofList name, String.ofList (Text.trim rest))
  else none

/-- Value of a generator; `none` when there is none of that name. -/
def evaluate? (ambient : Ambient) (name arg : String) : Option String :=
  if name == "datetime" then some (Calendar.format (.ofText arg) ambient.now)
  else if name == "guid" then some ambient.identifier
  else if name == "randomInt" then
    some (toString ((IntRange.ofText arg).pick (doubleShare ambient.draw)))
  else if name == "timestamp" then some (toString (ambient.now / 1000))
  else if name == "processEnv" then some ((ambient.processEnv.textOf? arg).getD "")
  else if name == "dotenv" then some ""
  else none

/-- Value of an expression; `none` unless it begins with the sign and names a generator. -/
def resolve? (ambient : Ambient) (expression : String) : Option String :=
  match expression.toList with
  | c :: s =>
    if c == sigil then (call? s).bind fun (name, arg) => evaluate? ambient name arg else none
  | [] => none

end Generator

end HttpScript
