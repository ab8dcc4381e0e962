import HttpScript.Text
import HttpScript.Text.Scan
import HttpScript.Text.Case

/-!
# Calendar

Instants in milliseconds since 1970-01-01 UTC, in the proleptic Gregorian calendar, and their
texts. An instant is representable up to 100,000,000 days from the epoch.

    daysFromCivil (civilFromDays n) = n
    isoText, httpText      the two standard forms
    format                 a standard form, or a pattern of two- to four-letter fields
-/

namespace HttpScript.Calendar

/-! ## Dates -/

/-- Milliseconds of a day. -/
def dayLength : Int := 86400000

/-- Distance from the epoch of the last representable instants. -/
def timeLimit : Int := 8640000000000000

def isRepresentable (ms : Int) : Bool := -timeLimit ≤ ms && ms ≤ timeLimit

/-- A date: month and day count from 1. -/
structure Date where
  year : Int
  month : Nat
  day : Nat
  deriving DecidableEq, Repr

/-- The date that is `days` after 1970-01-01. Years are counted from March in eras of 400. -/
def civilFromDays (days : Int) : Date :=
  let shifted := days + 719468
  let era := shifted / 146097
  let dayOfEra := (shifted % 146097).toNat
  let yearOfEra :=
    (dayOfEra - dayOfEra / 1460 + dayOfEra / 36524 - dayOfEra / 146096) / 365
  let dayOfYear := dayOfEra - (365 * yearOfEra + yearOfEra / 4 - yearOfEra / 100)
  let shiftedMonth := (5 * dayOfYear + 2) / 153
  let day := dayOfYear - (153 * shiftedMonth + 2) / 5 + 1
  let month := if shiftedMonth < 10 then shiftedMonth + 3 else shiftedMonth - 9
  { year := era * 400 + yearOfEra + (if month ≤ 2 then 1 else 0), month, day }

/-- Days from 1970-01-01 to a date. A day past the end of its month runs into the next one. -/
def daysFromCivil (year : Int) (month day : Nat) : Int :=
  let y := if month ≤ 2 then year - 1 else year
  let era := y / 400
  let yearOfEra := (y % 400).toNat
  let shiftedMonth := if month > 2 then month - 3 else month + 9
  let dayOfYear := (153 * shiftedMonth + 2) / 5 + day
  let dayOfEra := yearOfEra * 365 + yearOfEra / 4 - yearOfEra / 100 + dayOfYear
  era * 146097 + (dayOfEra : Int) - 719469

/-- The fields of an instant. Weekdays count from Sunday. -/
structure Moment where
  date : Date
  hour : Nat
  minute : Nat
  second : Nat
  milli : Nat
  weekday : Nat
  deriving DecidableEq, Repr

def momentOf (ms : Int) : Moment :=
  let days := ms / dayLength
  let rest := (ms % dayLength).toNat
  { date := civilFromDays days
    hour := rest / 3600000
    minute := rest / 60000 % 60
    second := rest / 1000 % 60
    milli := rest % 1000
    weekday := ((days + 4) % 7).toNat }

def instantOf (year : Int) (month day hour minute second : Nat) : Int :=
  daysFromCivil year month day * dayLength + hour * 3600000 + minute * 60000 + second * 1000

/-! ## Texts -/

/-- A natural number with at least `width` digits. -/
def digits (width n : Nat) : String := String.ofList (Text.natText 10 width n)

/-- A year with four digits, or with a sign and six outside 0 to 9999. -/
def isoYear (year : Int) : String :=
  if 0 ≤ year && year ≤ 9999 then digits 4 year.toNat
  else (if year < 0 then "-" else "+") ++ digits 6 year.natAbs

/-- Text such as `2024-01-02T03:04:05.006Z`. -/
def isoText (ms : Int) : String :=
  let m := momentOf ms
  isoYear m.date.year ++ "-" ++ digits 2 m.date.month ++ "-" ++ digits 2 m.date.day ++ "T" ++
    digits 2 m.hour ++ ":" ++ digits 2 m.minute ++ ":" ++ digits 2 m.second ++ "." ++
    digits 3 m.milli ++ "Z"

def weekdayNames : List String := ["Sun", "Mon", "Tue", "Wed", "Thu", "Fri", "Sat"]

def monthNames : List String :=
  ["Jan", "Feb", "Mar", "Apr", "May", "Jun", "Jul", "Aug", "Sep", "Oct", "Nov", "Dec"]

/-- Text such as `Tue, 02 Jan 2024 03:04:05 GMT`. -/
def httpText (ms : Int) : String :=
  let m := momentOf ms
  let year := (if m.date.year < 0 then "-" else "") ++ digits 4 m.date.year.natAbs
  weekdayNames.getD m.weekday "" ++ ", " ++ digits 2 m.date.day ++ " " ++
    monthNames.getD (m.date.month - 1) "" ++ " " ++ year ++ " " ++
    digits 2 m.hour ++ ":" ++ digits 2 m.minute ++ ":" ++ digits 2 m.second ++ " GMT"

/-! ## Patterns -/

/-- The fields of a pattern. -/
inductive Field where
  | year
  | shortYear
  | month
  | day
  | hour
  | minute
  | second
  | milli
  deriving DecidableEq, Repr

/-- The spellings of the fields, longer ones first. -/
def fieldSpellings : List (String × Field) :=
  [("YYYY", .year), ("yyyy", .year), ("YY", .shortYear), ("yy", .shortYear), ("MM", .month),
    ("DD", .day), ("dd", .day), ("HH", .hour), ("mm", .minute), ("ss", .second),
    ("SSS", .milli), ("fff", .milli)]

/-- The field at the start of a text, and the number of its letters after the first. -/
def fieldAt? (s : List Char) : Option (Field × Nat) :=
  (fieldSpellings.find? fun f => f.1.toList.isPrefixOf s).map fun f => (f.2, f.1.length - 1)

/-- Text of a field. The last two digits of a year keep its sign. -/
def Field.text (m : Moment) : Field → String
  | year => toString m.date.year
  | shortYear => Text.padLeft 2 '0' (toString (Int.tmod m.date.year 100))
  | month => digits 2 m.date.month
  | day => digits 2 m.date.day
  | hour => digits 2 m.hour
  | minute => digits 2 m.minute
  | second => digits 2 m.second
  | milli => digits 3 m.milli

/-- The pattern with its fields filled in by `text`. -/
def fillPattern (text : Field → String) (pattern : List Char) : String :=
  String.ofList (Text.replaceFound (fun f => some (text f).toList) (Text.scan fieldAt? pattern))

/-- The pattern without quotes around it. -/
def unquote (s : List Char) : List Char :=
  match s with
  | q :: r =>
    if (q == '"' || q == '\'') && r.getLast?.any (· == q) &&
        !r.dropLast.any Text.isLineTerminator then r.dropLast
    else s
  | [] => []

/-- What a format asks for. -/
inductive Format where
  | iso
  | http
  | pattern (fields : List Char)

/-- Reads a format: nothing or `iso8601`, `rfc1123`, or a pattern, perhaps in quotes. -/
def Format.ofText (s : String) : Format :=
  let pattern := unquote (Text.trim s.toList)
  let word := Text.lower (String.ofList pattern)
  if pattern.isEmpty || word == "iso8601" then .iso
  else if word == "rfc1123" then .http
  else .pattern pattern

def format (f : Format) (ms : Int) : String :=
  match f with
  | .iso => isoText ms
  | .http => httpText ms
  | .pattern fields => fillPattern (Field.text (momentOf ms)) fields

/-- Text of an instant that may be missing: then the standard form has none. -/
def format? (f : Format) : Option Int → Option String
  | some ms => some (format f ms)
  | none => match f with
    | .iso => none
    | .http => some "Invalid Date"
    | .pattern fields => some (fillPattern (fun _ => "NaN") fields)

end HttpScript.Calendar
