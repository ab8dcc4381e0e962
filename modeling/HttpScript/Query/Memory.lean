import HttpScript.Query.Value
import HttpScript.Regex

/-!
# Memory of a query

The objects that expressions make, the lists of the body that they have changed, and what else is
remembered while a query is followed. Values that are read from a body need no memory.

    Eval α     a computation that reads and changes the memory, and may fail
    own?       the members that a value has of its own

When a query is done, what it made and changed stays with the tree that it was asked of, and its
patterns stay with the program, where they serve every tree.
-/

namespace HttpScript.Query

/-! ## What stays after a query -/

/-- An object made by an expression: a list, perhaps with named members beside its items; a record;
a method of a value with the arguments given so far; or a walk through the items that are left. A
bare record has no standard members. -/
inductive Cell where
  | list (items : List Value) (more : List (String × Value))
  | record (members : List (String × Value)) (bare : Bool)
  | method (owner : Value) (name : String) (given : List Value) (label : String) (arity : Nat)
  | walk (kind : String) (rest : List Value)

/-- A pattern in a code, and the position at which its next search starts. -/
structure Pattern where
  code : List Char
  position : Nat
  regex : Regex.Compiled
  next : Nat

/-- The patterns of all codes that have been run. A code is compiled once in a program, and each of
its patterns is one object from then on, whatever tree the code is run for. -/
abbrev Patterns := List Pattern

/-- A tree as it stands: the body that it was read from, the objects that queries have made for it,
and the items of its changed lists by their way. -/
structure Tree where
  root : Body
  cells : Array Cell
  changed : List (List Nat × List Value)

/-- A tree that no query has been asked of yet. -/
def Tree.fresh (root : Body) : Tree := ⟨root, #[], []⟩

/-! ## While a query is followed -/

/-- What is remembered: the objects made, the items of changed lists by their way, the patterns, the
names in scope, and the way that was asked for last. -/
structure Memory where
  cells : Array Cell
  changed : List (List Nat × List Value)
  patterns : Patterns
  scope : List (String × Value)
  place : Option Value

def Tree.memory (t : Tree) (ps : Patterns) : Memory := ⟨t.cells, t.changed, ps, [], none⟩

/-- What a query leaves of the tree that it was asked of. -/
def Tree.after (t : Tree) (m : Memory) : Tree := { t with cells := m.cells, changed := m.changed }

/-- A computation with a memory. What it remembered before it failed stays. -/
abbrev Eval := OptionT (StateM Memory)

namespace Memory

/-! ## Reading -/

def cell? (m : Memory) : Value → Option Cell
  | .made id => m.cells[id]?
  | _ => none

def pattern? (m : Memory) : Value → Option Pattern
  | .pattern code position => m.patterns.find? fun p => p.code == code && p.position == position
  | _ => none

/-- The items of a list of the body as they are in the body. -/
def bodyItems (way : List Nat) (xs : List Body) : List Value :=
  xs.zipIdx.map fun (x, i) => .ofBody (i :: way) x

def items? (m : Memory) : Value → Option (List Value)
  | .node way (.list xs) => some ((m.changed.lookup way).getD (bodyItems way xs))
  | .made id => match m.cells[id]? with
    | some (.list items _) => some items
    | _ => none
  | _ => none

def isList (m : Memory) : Value → Bool
  | .node _ (.list _) => true
  | v => (m.items? v).isSome

def isMethod (m : Memory) (v : Value) : Bool :=
  match m.cell? v with
  | some (.method ..) => true
  | _ => false

/-- The word for the type of a value. -/
def typeName (m : Memory) (v : Value) : String :=
  match v with
  | .undefined => "undefined"
  | .bool _ => "boolean"
  | .number _ => "number"
  | .whole _ => "bigint"
  | .text _ => "string"
  | v => if m.isMethod v then "function" else "object"

/-! ## Members -/

/-- The member of a name among members of the body, with its position. -/
def memberAt? (name : Wide) : (i : Nat) → List (Wide × Body) → Option (Nat × Body)
  | _, [] => none
  | i, (k, v) :: r => if k == name then some (i, v) else memberAt? name (i + 1) r

/-- The position that a name denotes in canonical decimal. -/
def position? (name : Wide) : Option Nat :=
  let s := name.text.toList
  let n := Text.digitsValue s
  if s == Nat.toDigits 10 n then some n else none

/-- The length or an item of a list. -/
def listMember? (items : List Value) (name : Wide) : Option Value :=
  if name == "length" then some (.ofNat items.length)
  else (position? name).bind (items[·]?)

/-- The members that a value has of its own: those of an object, the items and the length of a list,
the units and the length of a text, the two entries of a literal, and where the next search of a
pattern starts. -/
def own? (m : Memory) (v : Value) (name : Wide) : Option Value :=
  match v with
  | .node way (.object ms) => (memberAt? name 0 ms).map fun (i, x) => .ofBody (i :: way) x
  | .node way (.list xs) => match m.changed.lookup way with
    | some items => listMember? items name
    | none =>
      if name == "length" then some (.ofNat xs.length)
      else (position? name).bind fun i => (xs[i]?).map (.ofBody (i :: way))
  | .node _ (.number (.literal s)) =>
    if name == "value" then some (.ofString s)
    else if name == "isLosslessNumber" then some (.bool true)
    else none
  | .text us =>
    if name == "length" then some (.ofNat us.length)
    else (position? name).bind fun i => (us[i]?).map fun u => .text [u]
  | .pattern .. =>
    if name == "lastIndex" then (m.pattern? v).map fun p => .ofNat p.next else none
  | .made _ => match m.cell? v with
    | some (.list items more) => (listMember? items name).or (more.lookup name.text)
    | some (.record ms _) => ms.lookup name.text
    | some (.method _ _ _ label arity) =>
      if name == "name" then some (.ofString label)
      else if name == "length" then some (.ofNat arity)
      else none
    | _ => none
  | _ => none

/-- The members that are listed when an object is walked through: items, members, or the two entries
of a literal, with their keys. -/
def children (m : Memory) (v : Value) : List (Value × Value) :=
  match v with
  | .node way (.object ms) =>
    ms.zipIdx.map fun ((k, x), i) => (.text k.toUnits, .ofBody (i :: way) x)
  | .node _ (.number (.literal s)) =>
    [(.ofString "value", .ofString s), (.ofString "isLosslessNumber", .bool true)]
  | v => match m.items? v with
    | some items => items.zipIdx.map fun (x, i) => (.ofNat i, x)
    | none => match m.cell? v with
      | some (.record ms _) => ms.map fun (k, x) => (.ofString k, x)
      | _ => []

/-! ## Back to bodies -/

/-- A value as a node of a body; what has no form there is null. A changed list has the items that
it has now. -/
def toBody (m : Memory) : (fuel : Nat) → Value → Body
  | 0, _ => .null
  | fuel + 1, v => match v with
    | .undefined | .null => .null
    | .bool b => .bool b
    | .number d => if d.isFinite then .number (.double d) else .null
    | .whole i => .number (.literal (toString i))
    | .text us => .text (.ofUnits us)
    | .node _ (.number n) => .number n
    | v =>
      if m.isMethod v then .null
      else match m.items? v with
        | some items => .list (items.map (m.toBody fuel))
        | none => .object ((m.children v).filterMap fun (k, x) => match k with
          | .text us =>
            if x.isGiven && !m.isMethod x then some (.ofUnits us, m.toBody fuel x) else none
          | _ => none)

/-- The node of a body that a value is or stands for; `none` for the absence of a value. A method
leaves nothing but an empty text. -/
def node? (m : Memory) (v : Value) : Option Body :=
  match v with
  | .undefined => none
  | .number d => some (.number (.double d))
  | .node _ tree => if m.changed.isEmpty then some tree else some (m.toBody 10000 v)
  | v => if m.isMethod v then some (.text "") else some (m.toBody 10000 v)

end Memory

/-! ## Changing -/

namespace Eval

def memory : Eval Memory := get

def make (c : Cell) : Eval Value := do
  let m ← get
  set { m with cells := m.cells.push c }
  pure (.made m.cells.size)

def makeList (items : List Value) : Eval Value := make (.list items [])

def setCell (v : Value) (c : Cell) : Eval Unit :=
  match v with
  | .made id => modify fun m => { m with cells := m.cells.setIfInBounds id c }
  | _ => pure ()

/-- Replaces what a pattern compiles to and where its next search starts. -/
def setPattern (v : Value) (regex : Regex.Compiled) (next : Nat) : Eval Unit :=
  match v with
  | .pattern code position => modify fun m => { m with patterns := m.patterns.map fun p =>
      if p.code == code && p.position == position then { p with regex, next } else p }
  | _ => pure ()

def items (v : Value) : Eval (List Value) := do
  pure ((← memory).items? v |>.getD [])

def setItems (v : Value) (items : List Value) : Eval Unit := do
  match v with
  | .node way (.list _) => modify fun m =>
    { m with changed := (way, items) :: m.changed.filter fun e => e.1 != way }
  | v => match (← memory).cell? v with
    | some (.list _ more) => setCell v (.list items more)
    | _ => pure ()

/-- A value that has to be there. -/
def given {α : Type} : Option α → Eval α
  | some a => pure a
  | none => failure

end Eval

end HttpScript.Query
