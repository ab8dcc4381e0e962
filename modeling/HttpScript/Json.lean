import HttpScript.Number.Text
import HttpScript.Record

/-!
# JSON trees

A tree is generic in what stands at its number leaves: the source text of a literal, a double, or
either of them. A tree just read keeps every member of an object, repeated names included;
`toDoubles` and `keepLiterals?` say which value such a tree denotes.
-/

namespace HttpScript

/-- A JSON tree with number leaves of type `ν`. -/
inductive Json (ν : Type) where
  | null
  | bool (b : Bool)
  | number (n : ν)
  | text (s : Wide)
  | list (items : List (Json ν))
  | object (members : List (Wide × Json ν))
  deriving BEq, Inhabited

/-- A number as a body holds it: the literal that the body spells, or a double. -/
inductive Numeral where
  | literal (source : String)
  | double (value : Binary64)
  deriving DecidableEq

instance : Inhabited Numeral := ⟨.literal "0"⟩

namespace Numeral

/-- The double that a number stands for. -/
def value : Numeral → Binary64
  | literal s => Binary64.ofLiteral s
  | double d => d

/-- Text of the number: the literal as it was spelled, or the shortest text of a double. -/
def text : Numeral → String
  | literal s => s
  | double d => d.text

end Numeral

namespace Json

variable {ν μ : Type}

/-- An object whose names are strings. -/
def record (ms : Record (Json ν)) : Json ν := object (ms.map fun e => (↑e.1, e.2))

/-! ## The value of a tree -/

mutual

/-- The value with doubles for numbers. Of members with one name the last counts, at the place of
the first. -/
def toDoubles : Json String → Json Binary64
  | null => null
  | bool b => bool b
  | number s => number (Binary64.ofLiteral s)
  | text s => text s
  | list xs => list (toDoublesItems xs)
  | object ms => object (Record.ofList (toDoublesMembers ms))

def toDoublesItems : List (Json String) → List (Json Binary64)
  | [] => []
  | x :: r => toDoubles x :: toDoublesItems r

def toDoublesMembers : List (Wide × Json String) → List (Wide × Json Binary64)
  | [] => []
  | (k, v) :: r => (k, toDoubles v) :: toDoublesMembers r

end

mutual

/-- The tree with each number marked as a double. -/
def ofDoubles : Json Binary64 → Json Numeral
  | null => null
  | bool b => bool b
  | number d => number (.double d)
  | text s => text s
  | list xs => list (ofDoublesItems xs)
  | object ms => object (ofDoublesMembers ms)

def ofDoublesItems : List (Json Binary64) → List (Json Numeral)
  | [] => []
  | x :: r => ofDoubles x :: ofDoublesItems r

def ofDoublesMembers : List (Wide × Json Binary64) → List (Wide × Json Numeral)
  | [] => []
  | (k, v) :: r => (k, ofDoubles v) :: ofDoublesMembers r

end

/-! ## Literals kept -/

/-- What a node shows when it is looked at as a record: lists by index, and a literal number by the
two members of its representation. -/
def entries? : Json Numeral → Option (List (Wide × Json Numeral))
  | list xs => some (xs.zipIdx.map fun (x, i) => (↑(toString i), x))
  | object ms => some ms
  | number (.literal s) => some [("value", text s), ("isLosslessNumber", bool true)]
  | _ => none

/-- The one name under which every container shows a member that it does not hold. -/
def hiddenName : Wide := "__proto__"

/-- Whether a tree is the same as the hidden member of an object: an empty container, or an object
whose only member is a hidden one that is null. -/
def isBare : Json Numeral → Bool
  | list xs => xs.isEmpty
  | object ms => ms.all fun e => e.1 == hiddenName && match e.2 with | null => true | _ => false
  | _ => false

/-- Whether a tree is the same as the hidden member of a container. That of a list or a literal
hides that of an object in turn. -/
def isHiddenIn (holder : Json Numeral) (v : Json Numeral) : Bool :=
  match holder, v with
  | object _, v => isBare v
  | _, list xs => xs.isEmpty
  | _, object ms => ms.all fun e => e.1 == hiddenName && isBare e.2
  | _, _ => false

/-- Whether a container has a member with this value that it does not hold. -/
def shows (holder : Json Numeral) (name : Wide) (v : Json Numeral) : Bool :=
  name == hiddenName && isHiddenIn holder v

mutual

/-- Whether two trees are the same: equal leaves, and containers with the same entries, hidden ones
included. Numbers are compared by their text. -/
def sameTree : Json Numeral → Json Numeral → Bool
  | null, null => true
  | bool a, bool b => a == b
  | text a, text b => a == b
  | number (.double a), number (.double b) => a.eqv b
  | number (.literal a), b => match entries? b with
    | some es =>
      (match Record.get? es "value" with | some (text t) => ↑a == t | _ => false) &&
        (match Record.get? es "isLosslessNumber" with | some (bool t) => t | _ => false) &&
        es.all fun e =>
          e.1 == "value" || e.1 == "isLosslessNumber" || shows (number (.literal a)) e.1 e.2
    | none => false
  | list xs, list ys => xs.length == ys.length &&
      sameItems 0 xs (ys.zipIdx.map fun (y, i) => (↑(toString i), y))
  | list xs, b => match entries? b with
    | some es => sameItems 0 xs es && es.all fun e =>
        (Record.index? e.1.text).any (· < xs.length) || shows (list xs) e.1 e.2
    | none => false
  | object ms, b => match entries? b with
    | some es => sameMembers b ms es && es.all fun e =>
        Record.has ms e.1 || shows (object ms) e.1 e.2
    | none => false
  | _, _ => false

/-- Whether the items from index `i` on are the same as the entries of those indexes. -/
def sameItems (i : Nat) : List (Json Numeral) → List (Wide × Json Numeral) → Bool
  | [], _ => true
  | x :: r, es =>
    (match Record.get? es (toString i) with | some y => sameTree x y | none => false) &&
      sameItems (i + 1) r es

/-- Whether each member is the same as the entry of its name in a container. -/
def sameMembers (holder : Json Numeral) : List (Wide × Json Numeral) →
    List (Wide × Json Numeral) → Bool
  | [], _ => true
  | (k, v) :: r, es =>
    (match Record.get? es k with | some y => sameTree v y | none => shows holder k v) &&
      sameMembers holder r es

end

/-- Writes a member unless the object has the name with another value. -/
def addMember? (r : Record (Json Numeral) Wide) (name : Wide) (value : Json Numeral) :
    Option (Record (Json Numeral) Wide) :=
  match r.get? name with
  | some old => if sameTree value old then some (r.put name value) else none
  | none => some (r.put name value)

mutual

/-- The value with every number literal kept; `none` when an object repeats a name with another
value. -/
def keepLiterals? : Json String → Option (Json Numeral)
  | null => some null
  | bool b => some (bool b)
  | number s => some (number (.literal s))
  | text s => some (text s)
  | list xs => (keepLiteralsItems? xs).map list
  | object ms => (keepLiteralsMembers? [] ms).map object

def keepLiteralsItems? : List (Json String) → Option (List (Json Numeral))
  | [] => some []
  | x :: r => match keepLiterals? x with
    | some y => (keepLiteralsItems? r).map (y :: ·)
    | none => none

/-- `keepLiterals?` on the members of an object, added to those already read. -/
def keepLiteralsMembers? (done : Record (Json Numeral) Wide) :
    List (Wide × Json String) → Option (Record (Json Numeral) Wide)
  | [] => some done
  | (k, v) :: r => match keepLiterals? v with
    | some y => match addMember? done k y with
      | some done => keepLiteralsMembers? done r
      | none => none
    | none => none

end

end Json

end HttpScript
