import HttpScript.Text.Case
import HttpScript.Text.Wide

/-!
# Records

A record is an ordered map from names to values. Names that are array indexes stand first, in
ascending order; all other names follow in the order in which they were first written.

    (r.put k v).get? k = some v
    find? and set compare names exactly first and then ignoring case
-/

namespace HttpScript

/-- An ordered map from names to values. -/
abbrev Record (α : Type) (κ : Type := String) := List (κ × α)

namespace Record

/-- What can be a name: it shows as a string. -/
class Key (κ : Type) where
  text : κ → String

instance : Key String := ⟨id⟩

@[simp] theorem Key.text_string (s : String) : Key.text s = s := rfl

instance : Key Wide := ⟨Wide.text⟩

variable {α : Type}

/-! ## Order -/

/-- The number that a name denotes when it is an array index written in canonical decimal. -/
def index? (name : String) : Option Nat :=
  match name.toList with
  | ['0'] => some 0
  | c :: r =>
    if c.isDigit && c != '0' && r.all Char.isDigit then
      let n := Text.digitsValue (c :: r)
      if n < 4294967295 then some n else none
    else none
  | [] => none

/-- Whether a new name is written in front of an existing one. -/
def precedes (new old : String) : Bool :=
  match index? new, index? old with
  | some i, some j => i < j
  | some _, none => true
  | none, _ => false

/-! ## Exact names -/

section Exact

variable {κ : Type} [DecidableEq κ] [Key κ]

/-- Adds a name that the record does not have yet, at its place. -/
def insert (name : κ) (value : α) : Record α κ → Record α κ
  | [] => [(name, value)]
  | e :: r =>
    if precedes (Key.text name) (Key.text e.1) then (name, value) :: e :: r
    else e :: insert name value r

/-- Value of the name in exactly this spelling. -/
def get? (r : Record α κ) (name : κ) : Option α := List.lookup name r

/-- Whether the record has the name in exactly this spelling. -/
def has (r : Record α κ) (name : κ) : Bool := r.any (·.1 == name)

def names (r : Record α κ) : List κ := r.map (·.1)

/-- Replaces the value of the entry with this name, if there is one. -/
def replace (name : κ) (value : α) (r : Record α κ) : Record α κ :=
  r.map fun e => if e.1 == name then (e.1, value) else e

/-- Writes a value: in place when the name is there, else at the place of a new name. -/
def put (r : Record α κ) (name : κ) (value : α) : Record α κ :=
  if r.has name then r.replace name value else r.insert name value

/-- The record that results from writing the entries one after the other. -/
def ofList (entries : List (κ × α)) : Record α κ := entries.foldl (fun r e => r.put e.1 e.2) []

end Exact

/-- The one name that an assignment does not store anew. -/
def reservedName : String := "__proto__"

/-- Writes a value unless the name is reserved and not there yet. -/
def assign (r : Record α) (name : String) (value : α) : Record α :=
  if name == reservedName && !r.has name then r else r.put name value

/-- Without the entry of this name. -/
def erase (r : Record α) (name : String) : Record α := r.filter (·.1 != name)

/-- `r` with every entry of `s` written over it. -/
def merge (r s : Record α) : Record α := s.foldl (fun r e => r.put e.1 e.2) r

/-- Writes the values that are there. -/
def assignGiven (r : Record α) (entries : List (String × Option α)) : Record α :=
  entries.foldl (fun r e => match e.2 with
    | some value => r.assign e.1 value
    | none => r) r

/-! ## Names ignoring case -/

/-- The spelling under which the record holds a name: the exact one first, then the first one that
is equal ignoring case. -/
def findName? (r : Record α) (name : String) : Option String :=
  if r.has name then some name
  else r.names.find? (Text.sameIgnoringCase · name)

/-- Value of a name ignoring case. -/
def find? (r : Record α) (name : String) : Option α :=
  (r.findName? name).bind r.get?

/-- Writes a value ignoring case: the spelling that is there is kept. -/
def set (r : Record α) (name : String) (value : α) : Record α :=
  r.assign ((r.findName? name).getD name) value

/-- Writes a value unless the name is there ignoring case. -/
def setIfAbsent (r : Record α) (name : String) (value : α) : Record α :=
  if (r.findName? name).isSome then r else r.assign name value

/-- No two names are equal ignoring case. -/
def CaseUnique (r : Record α) : Prop := (r.names.map Text.lower).Nodup

/-! ## Standard members -/

/-- The text of a name that every record answers to without storing it. -/
def standardMember? (name : String) : Option String :=
  if name == reservedName then some "[object Object]"
  else if name == "constructor" then some "function Object() \x7b [native code] \x7d"
  else if ["toString", "valueOf", "hasOwnProperty", "isPrototypeOf", "propertyIsEnumerable",
      "toLocaleString", "__defineGetter__", "__defineSetter__", "__lookupGetter__",
      "__lookupSetter__"].contains name then
    some ("function " ++ name ++ "() \x7b [native code] \x7d")
  else none

/-- Text under a name, standard members included. -/
def textOf? (r : Record String) (name : String) : Option String :=
  (r.get? name).orElse fun _ => standardMember? name

end Record

end HttpScript
