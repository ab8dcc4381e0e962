import HttpScript.Body

/-!
# Values of query expressions

Expressions compute with the nodes of a body, with texts, doubles, exact integers and truth values,
with the absence of a value, with patterns, and with objects that they make on the way. Texts are
held by their units, since members and methods count in units.

    ofBody way b     a leaf as a plain value; a container or a literal with its way from the root
-/

namespace HttpScript.Query

/-- A value. Two containers of a body are the same object when their ways from the root are equal,
two patterns when they stand at the same place of a code, two made ones when their numbers are. -/
inductive Value where
  | undefined
  | null
  | bool (b : Bool)
  | number (d : Binary64)
  | whole (i : Int)
  | text (units : List Nat)
  | node (way : List Nat) (tree : Body)
  | pattern (code : List Char) (position : Nat)
  | made (id : Nat)

instance : Inhabited Value := ⟨.undefined⟩

namespace Value

def ofString (s : String) : Value := .text (Text.units s)

def ofNat (n : Nat) : Value := .number (.ofNat n)

def ofInt (i : Int) : Value := .number (.ofInt i)

/-- A node of a body that stands at the end of a way, the last step first. -/
def ofBody (way : List Nat) : Body → Value
  | .null => null
  | .bool b => bool b
  | .number (.double d) => number d
  | .text s => .text s.toUnits
  | tree => node way tree

/-- Whether a condition with this value holds. -/
def truthy : Value → Bool
  | undefined | null => false
  | bool b => b
  | number d => !(d == .nan || d.isZero)
  | whole i => i != 0
  | text us => !us.isEmpty
  | node .. | pattern .. | made _ => true

/-- Whether a value is an object, with members and an identity. -/
def isObject : Value → Bool
  | node .. | pattern .. | made _ => true
  | _ => false

def sameObject : Value → Value → Bool
  | node a _, node b _ => a == b
  | pattern a i, pattern b j => a == b && i == j
  | made a, made b => a == b
  | _, _ => false

def isGiven : Value → Bool
  | undefined => false
  | _ => true

/-- Whether a value is neither absent nor null. -/
def isPresent : Value → Bool
  | undefined | null => false
  | _ => true

/-! ## Comparing without conversion -/

/-- Equality of values of one type: numbers by value, texts by units, objects by identity. -/
def identical : Value → Value → Bool
  | undefined, undefined => true
  | null, null => true
  | bool a, bool b => a == b
  | number a, number b => a.eqv b
  | whole a, whole b => a == b
  | text a, text b => a == b
  | a, b => a.sameObject b

/-- Like `identical`, but a value that is not a number equals itself. -/
def sameOrNaN : Value → Value → Bool
  | number .nan, number .nan => true
  | a, b => a.identical b

end Value

end HttpScript.Query
