import HttpScript.Number.Text
import HttpScript.Text.Case

/-!
# Display

Durations, sizes and the kind of a body, as they are shown to a reader.

    duration 1250 = "1.3s"       size 1536 = "1.5 KB"
-/

namespace HttpScript.Display

/-- The number of places is not from 0 to 100. -/
structure PlacesError where
  deriving DecidableEq, Repr

def PlacesError.message (_ : PlacesError) : String :=
  "toFixed() digits argument must be between 0 and 100"

/-- The number of places that a precision asks for: its integer part, and none for NaN. -/
def placesOf? (precision : Binary64) : Option Nat :=
  match precision with
  | .nan => some 0
  | p => match p.truncate? with
    | some n => if 0 ≤ n && n ≤ 100 then some n.toNat else none
    | none => none

/-- A duration: whole milliseconds below a second, else seconds with the given places. -/
def duration (ms precision : Binary64) : Except PlacesError String :=
  if ms.lt 1000 then .ok (ms.round.text ++ "ms")
  else match placesOf? precision with
    | some places => .ok ((ms.div 1000).fixed places ++ "s")
    | none => .error ⟨⟩

/-- A duration with one place. -/
def briefDuration (ms : Binary64) : String :=
  if ms.lt 1000 then ms.round.text ++ "ms" else (ms.div 1000).fixed 1 ++ "s"

/-- A size in the first of the units in which it is below 1024, or in the last one. -/
def scaled (value : Binary64) : List String → String
  | [] => value.fixed 1
  | [unit] => value.fixed 1 ++ " " ++ unit
  | unit :: larger =>
    if Binary64.le 1024 value then scaled (value.div 1024) larger else value.fixed 1 ++ " " ++ unit

def size (bytes : Binary64) : String :=
  if bytes.lt 1024 then bytes.text ++ " B" else scaled (bytes.div 1024) ["KB", "MB", "GB"]

/-- Whether a status says that a request succeeded. -/
def isSuccess (status : Binary64) : Bool := Binary64.le 200 status && status.lt 300

/-- What a body holds. -/
inductive BodyKind where
  | json
  | xml
  | html
  | text
  deriving DecidableEq, Repr

def BodyKind.ofBody (body : String) : BodyKind :=
  let s := Text.trimStart body.toList
  if s.head? == some '{' || s.head? == some '[' then json
  else if (Text.dropWord? "<!doctype html".toList s).isSome ||
      (Text.dropWord? "<html".toList s).isSome then html
  else if s.head? == some '<' then xml
  else text

/-- The kind of a body: by its content type, or by its look where there is none. -/
def BodyKind.of (contentType : Option String) (body : String) : BodyKind :=
  let head := ((contentType.getD "").toList.takeWhile (· != ';'))
  let type := Text.lower (String.ofList (Text.trim head))
  if type == "application/json" || Text.endsWith "+json" type then json
  else if type == "text/html" then html
  else if type == "application/xml" || type == "text/xml" || Text.endsWith "+xml" type then xml
  else if !type.isEmpty then text
  else ofBody body

end HttpScript.Display
