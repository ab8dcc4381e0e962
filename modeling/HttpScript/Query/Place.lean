import HttpScript.Query.Evaluation
import HttpScript.Query.Steps
import HttpScript.Regex.Match

/-!
# Places of a query

Where a query stands while it is followed: a value, the way to it, and what it is part of; and the
questions that a step asks there about slices, types and expressions.
-/

namespace HttpScript.Query

/-! ## Places -/

/-- A value and the way to it: the keys from the root, the last one first, and the value above. -/
structure Place where
  value : Value
  path : List Value
  parent : Value
  key : Value

/-- The place where a query starts. -/
def Place.root (v : Value) : Place := ⟨v, [.ofString "$"], .null, .null⟩

def Place.child (p : Place) (key value : Value) : Place := ⟨value, key :: p.path, p.value, key⟩

/-- A member of a value of its own, unless the value counts as false. -/
def Place.own? (p : Place) (m : Memory) (name : Wide) : Option Value :=
  if p.value.truthy then m.own? p.value name else none

/-- A child as it is now: lists of the body may have changed since they were walked through. -/
def current (v key value : Value) : Eval Value := do
  let m ← Eval.memory
  if m.changed.isEmpty then pure value
  else match key with
    | .number d => match d.toNat? with
      | some i => pure ((m.own? v (toString i)).getD .undefined)
      | none => pure value
    | _ => pure value

/-- Whether the descendants of a value are searched: it is an object, or null. -/
def isSearched (m : Memory) (v : Value) : Bool := m.typeName v == "object"

/-! ## Slices -/

/-- Whether a text is an optional sign and digits. -/
def isSignedDigits (s : List Char) : Bool :=
  match s with
  | '-' :: r => r.all Char.isDigit
  | r => r.all Char.isDigit

/-- The bounds and the step of a slice, where they are given and not zero. -/
def sliceOf? (s : List Char) : Option (Option Int × Option Int × Option Nat) :=
  let number (t : List Char) : Option Int :=
    let n : Int := match t with
      | '-' :: r => -(Text.digitsValue r : Int)
      | r => Text.digitsValue r
    if n == 0 then none else some n
  match Text.splitBy (· == ':') s with
  | [a, b] =>
    if isSignedDigits a && isSignedDigits b then some (number a, number b, none) else none
  | [a, b, c] =>
    if isSignedDigits a && isSignedDigits b && c.all Char.isDigit then
      some (number a, number b, (number c).map Int.toNat)
    else none
  | _ => none

/-- The indexes that a slice selects in a list of the given length. -/
def sliceIndexes (length : Nat) : Option Int × Option Int × Option Nat → List Nat
  | (start, stop, step) =>
    let bound (i : Int) : Nat := if i < 0 then (i + length).toNat else min length i.toNat
    let first := bound (start.getD 0)
    let last := bound (stop.getD length)
    (List.range last).filter fun i => first ≤ i && (i - first) % step.getD 1 == 0

/-! ## Types -/

/-- Whether a value has the type that a type operator names; `none` for an unknown one. -/
def hasType? (m : Memory) (v : Value) (type : String) : Option Bool :=
  match type with
  | "scalar" => some (!v.truthy || !(["object", "function"].contains (m.typeName v)))
  | "boolean" | "string" | "undefined" | "function" => some (m.typeName v == type)
  | "integer" => some (match v with | .number d => d.isInteger | _ => false)
  | "number" => some (match v with | .number d => d.isFinite | _ => false)
  | "nonFinite" => some (match v with | .number d => !d.isFinite | _ => false)
  | "object" => some (v.truthy && m.typeName v == "object")
  | "array" => some (m.isList v)
  | "null" => some (match v with | .null => true | _ => false)
  | _ => none

/-! ## Expressions -/

/-- Whether a key is left out where a way is written: it looks like an operator. -/
def isOperatorKey (s : List Char) : Bool :=
  s == ['~'] || s == ['^'] ||
    (s.head? == some '@' && 3 ≤ s.length && ['(', ')'].isSuffixOf s &&
      !s.any Text.isLineTerminator)

/-- A way written as a query. Its first key, the root, is not looked at. -/
def pathText (way : List Value) : Eval Value := do
  let parts ← (way.drop 1).mapM fun k => do
    let s := (Text.ofUnits (← Eval.text k)).toList
    if isOperatorKey s then pure []
    else if !s.isEmpty && s.all (fun c => c.isDigit || c == '*') then pure ('[' :: s ++ [']'])
    else pure ('[' :: '\'' :: s ++ ['\'', ']'])
  pure (.ofString (String.ofList ('$' :: parts.flatten)))

/-- Value of an expression at a value that stands under a key, at a place with the given way. The
way stays known to the expressions that follow. -/
def evaluate (root : Value) (code : List Char) (e : Option Expression) (v key : Value)
    (way : List Value) (p : Place) : Eval Value := do
  if Text.occursIn "@path".toList code then
    let t ← pathText way
    modify fun m => { m with place := some t }
  modify fun m => { m with scope :=
    [("_$_v", v), ("_$_property", key), ("_$_parent", p.parent), ("_$_parentProperty", p.key),
      ("_$_root", root)] ++ (m.place.map fun t => ("_$_path", t)).toList }
  (← Eval.given e).eval code true

/-- The code of a filter without its mark and parentheses. -/
def filterCode (s : List Char) : List Char :=
  let inner := s.drop 2
  if inner.getLast? == some ')' && !inner.dropLast.any Text.isLineTerminator then inner.dropLast
  else s

/-- The form of a filter inside another one: what stands between `@` and a bracket or quote, and a
parenthesis, perhaps with a question mark, that the bracket or quote closes. -/
def nestedForm : Option Regex.Compiled :=
  Regex.compile? (Text.units "@.?([^?]*)[['](\\??\\(.*?\\))(?!.\\)\\])[\\]']") "u"

/-- The filter or expression inside the code of a filter, and the name of the member that it is
applied to. -/
def nested? (code : List Char) : Option (String × List Char) := do
  let units := Text.units (String.ofList code)
  let found ← (← nestedForm).search? units.toArray 0
  let part (i : Nat) : Option String :=
    (found.captures[i]?).join.map fun (a, b) => Text.ofUnits (Eval.between units a b)
  some ((← part 0), (← part 1).toList)

end HttpScript.Query
