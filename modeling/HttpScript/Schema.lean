import HttpScript.Json

/-!
# Shapes of decoded data

Checks that decoded JSON has the shape a file format asks for. A mismatch names the place where the
data departs from the shape; the first one found is reported.
-/

namespace HttpScript.Schema

/-- How a value departs from its shape. -/
inductive Cause where
  | wrongType (expected received : String)
  | emptyText
  | notPositive
  | negative
  | unknownNames (names : List String)
  deriving DecidableEq, Repr

/-- A mismatch and the names that lead to it. -/
structure Mismatch where
  path : List String
  cause : Cause
  deriving DecidableEq, Repr

def Cause.message : Cause → String
  | wrongType expected received => "Expected " ++ expected ++ ", received " ++ received
  | emptyText => "String must contain at least 1 character(s)"
  | notPositive => "Number must be greater than 0"
  | negative => "Number must be greater than or equal to 0"
  | unknownNames names =>
    "Unrecognized key(s) in object: " ++ ", ".intercalate (names.map fun n => "'" ++ n ++ "'")

/-- The place of a mismatch, its names joined by points. -/
def Mismatch.place (m : Mismatch) : String := ".".intercalate m.path

/-- A value or the first mismatch. -/
abbrev Checked (α : Type) := Except Mismatch α

def typeName : Json Binary64 → String
  | .null => "null"
  | .bool _ => "boolean"
  | .number .nan => "nan"
  | .number _ => "number"
  | .text _ => "string"
  | .list _ => "array"
  | .object _ => "object"

def mistyped {α : Type} (expected : String) (v : Json Binary64) : Checked α :=
  .error ⟨[], .wrongType expected (typeName v)⟩

def below {α : Type} (name : String) : Checked α → Checked α
  | .ok a => .ok a
  | .error m => .error { m with path := name :: m.path }

def text : Json Binary64 → Checked String
  | .text s => .ok s.text
  | v => mistyped "string" v

def nonemptyText (v : Json Binary64) : Checked String := do
  let s ← text v
  if s.isEmpty then .error ⟨[], .emptyText⟩ else pure s

def bool : Json Binary64 → Checked Bool
  | .bool b => .ok b
  | v => mistyped "boolean" v

def integer (condition : Binary64 → Bool) (otherwise : Cause) : Json Binary64 → Checked Binary64
  | .number n =>
    if !n.isInteger then .error ⟨[], .wrongType "integer" "float"⟩
    else if condition n then .ok n
    else .error ⟨[], otherwise⟩
  | v => mistyped "number" v

/-- The members of an object, under their names as strings. -/
def object : Json Binary64 → Checked (Record (Json Binary64))
  | .object ms => .ok (ms.map fun e => (e.1.text, e.2))
  | v => mistyped "object" v

/-- Checks every member of a record, in order. -/
def members {α : Type} (check : Json Binary64 → Checked α) :
    Record (Json Binary64) → Checked (List (String × α))
  | [] => .ok []
  | (k, v) :: r => do
    let a ← below k (check v)
    let rest ← members check r
    pure ((k, a) :: rest)

def record {α : Type} (check : Json Binary64 → Checked α) (v : Json Binary64) :
    Checked (Record α) := do
  let ms ← object v
  let entries ← members check ms
  pure (entries.foldl (fun r e => Record.assign r e.1 e.2) [])

/-- A member that may be missing. -/
def optional {α : Type} (check : Json Binary64 → Checked α) (r : Record (Json Binary64))
    (name : String) : Checked (Option α) :=
  match r.get? name with
  | none => .ok none
  | some v => (below name (check v)).map some

/-- Reports names that are not known. -/
def onlyNames (known : List String) (r : Record (Json Binary64)) : Checked Unit :=
  match r.names.filter (!known.contains ·) with
  | [] => .ok ()
  | unknown => .error ⟨[], .unknownNames unknown⟩

end HttpScript.Schema
