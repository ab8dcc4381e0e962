import HttpScript.Calendar
import HttpScript.Text.Case

/-!
# Cookies

Reading a `Set-Cookie` value: a name and a value, then attributes between semicolons. Unknown
attributes are passed over, and so are dates that cannot be read. Of repeated attributes the last
counts; a path that is not absolute and an unknown same-site mode leave theirs unset.
-/

namespace HttpScript

/-- A cookie. `expires` is an instant in milliseconds; `raw` is the whole header value. -/
structure Cookie where
  name : String
  value : String
  domain : Option String
  path : Option String
  expires : Option Int
  httpOnly : Bool
  secure : Bool
  sameSite : Option String
  raw : String
  deriving DecidableEq, Repr

namespace Cookie

open Text

/-! ## Dates -/

def isDateDelimiter (c : Char) : Bool :=
  let n := c.toNat
  n == 9 || (0x20 ≤ n && n ≤ 0x2F) || (0x3B ≤ n && n ≤ 0x40) || (0x5B ≤ n && n ≤ 0x60) ||
    (0x7B ≤ n && n ≤ 0x7E)

/-- The number at the start of a token, if it has from `least` to `most` digits. -/
def leadingNumber? (least most : Nat) (s : List Char) : Option Nat :=
  let ds := s.takeWhile Char.isDigit
  if least ≤ ds.length && ds.length ≤ most then some (digitsValue ds) else none

/-- A number of one or two digits and nothing else. -/
def twoDigits? (s : List Char) : Option Nat :=
  if s.all Char.isDigit then leadingNumber? 1 2 s else none

/-- A time of day: three numbers between colons, the last of which may be followed by anything. -/
def timeOf? (s : List Char) : Option (Nat × Nat × Nat) :=
  match splitBy (· == ':') s with
  | [h, m, sec] => do
    let h ← twoDigits? h
    let m ← twoDigits? m
    let sec ← leadingNumber? 1 2 sec
    pure (h, m, sec)
  | _ => none

/-- The month that a token begins with, counted from 1. -/
def monthOf? (s : List Char) : Option Nat :=
  let word := lower (String.ofList (s.take 3))
  (Calendar.monthNames.findIdx? (fun m => lower m == word)).map (· + 1)

structure DateParts where
  time : Option (Nat × Nat × Nat)
  day : Option Nat
  month : Option Nat
  year : Option Nat

/-- A year of two digits lies from 1970 to 2069. -/
def fullYear (year : Nat) : Nat :=
  if year ≤ 69 then year + 2000 else if year ≤ 99 then year + 1900 else year

/-- Takes a token as the first part that is still missing and that it can be. -/
def DateParts.add (p : DateParts) (token : List Char) : DateParts :=
  let time := if p.time.isNone then timeOf? token else none
  let day := if p.day.isNone then leadingNumber? 1 2 token else none
  let month := if p.month.isNone then monthOf? token else none
  let year := if p.year.isNone then leadingNumber? 2 4 token else none
  if time.isSome then { p with time }
  else if day.isSome then { p with day }
  else if month.isSome then { p with month }
  else if year.isSome then { p with year := year.map fullYear }
  else p

/-- The instant that a date names, if all its parts are there and in range. -/
def dateOf? (s : List Char) : Option Int :=
  let tokens := ((splitBy isDateDelimiter s).map trim).filter (!·.isEmpty)
  match tokens.foldl DateParts.add ⟨none, none, none, none⟩ with
  | ⟨some (h, m, sec), some day, some month, some year⟩ =>
    if 1 ≤ day && day ≤ 31 && 1601 ≤ year && h ≤ 23 && m ≤ 59 && sec ≤ 59 then
      some (Calendar.instantOf year month day h m sec)
    else none
  | _ => none

/-! ## Attributes -/

/-- Key and value of an attribute, or of the pair in front; `none` for the value when there is no
equals sign. -/
def keyAndValue (s : List Char) : List Char × Option (List Char) :=
  match cutAt? (· == '=') s with
  | some (k, v) => (trim k, some (trim v))
  | none => (trim s, none)

def withAttribute (c : Cookie) (source : List Char) : Cookie :=
  let (key, value) := keyAndValue source
  let value := value.getD []
  match lower (String.ofList key) with
  | "expires" => { c with expires := (dateOf? value).or c.expires }
  | "domain" =>
    let domain := if value.head? == some '.' then value.drop 1 else value
    if domain.isEmpty then c else { c with domain := some (lower (String.ofList domain)) }
  | "path" =>
    { c with path := if value.head? == some '/' then some (String.ofList value) else none }
  | "secure" => { c with secure := true }
  | "httponly" => { c with httpOnly := true }
  | "samesite" =>
    let mode := lower (String.ofList value)
    { c with sameSite := if ["strict", "lax", "none"].contains mode then some mode else none }
  | _ => c

/-! ## Reading -/

/-- Name and value of a cookie. What follows a line end or NUL is cut off; other control
characters are refused. -/
def pairOf? (s : List Char) : Option (List Char × List Char) :=
  let line := s.takeWhile fun c => !(c == '\n' || c == '\r' || c.toNat == 0)
  match keyAndValue line with
  | (name, some value) =>
    if line.head? == some '=' then none
    else if (name ++ value).any fun c => c.toNat < 32 then none
    else some (name, value)
  | (_, none) => none

/-- Reads a header value; `none` when it does not begin with a name and a value. -/
def parse? (header : String) : Option Cookie :=
  match splitBy (· == ';') (trim header.toList) with
  | [] => none
  | pair :: attributes => (pairOf? pair).map fun (name, value) =>
    ((attributes.map trim).filter (!·.isEmpty)).foldl withAttribute
      { name := String.ofList name, value := String.ofList value, domain := none, path := none,
        expires := none, httpOnly := false, secure := false, sameSite := none, raw := header }

end Cookie

end HttpScript
