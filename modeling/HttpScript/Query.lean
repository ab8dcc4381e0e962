import HttpScript.Query.Place

/-!
# Queries

A query follows its steps through the tree of a body, from each node to all the nodes that a step
selects, in order; the answer is the first node that the last step reaches. A step selects a member
or an item, all of them, all descendants, a slice, the nodes for which an expression holds, the
parent, the name under which a node stands, or the node itself if it has a given type.

    (ask t ps "$.a[0]").node = navigate? t.root "a[0]"    whenever the latter leads somewhere and
                                                          no list of the tree has changed

Expressions can change lists of the tree and move their patterns on; both are part of the answer.
-/

namespace HttpScript.Query

/-! ## Steps -/

/-- A step: a text, or what an expression gave in place of one. -/
inductive Step where
  | text (s : List Char)
  | value (v : Value)

def Step.ofValue : Value → Step
  | .text us => text (Text.ofUnits us).toList
  | v => value v

/-- What steps have found: a value, that the steps which are left go on from the parent, or the mark
of a search that came to nothing. -/
inductive Found where
  | value (v : Value)
  | up (rest : List Step) (path : List Value)
  | nothing

/-- The outcome of following steps: a list, or a single find that a list of steps cannot end in at
the root. -/
inductive Outcome where
  | many (found : List Found)
  | single (found : Found)

/-- What an outcome holds. -/
def Outcome.found : Outcome → List Found
  | many fs => fs
  | single f => [f]

/-- Whether an outcome is a list with anything in it. -/
def Outcome.isSome : Outcome → Bool
  | many fs => !fs.isEmpty
  | single _ => false

/-! ## Following -/

/-- What a step that is a list selects where it names no member: nothing, unless it looks like a
step of another kind, which it cannot be. The answer is a member and its key, or what was found. -/
def followList (p : Place) (v : Value) (items : List Value) :
    Eval ((Value × Value) ⊕ List Found) := do
  let s := (Text.ofUnits (← Eval.text v)).toList
  let m ← Eval.memory
  let first (t : String) : Bool := items.head?.any fun x => x.identical (.ofString t)
  if (sliceOf? s).isSome then if m.isList p.value then failure else pure (.inr [.nothing])
  else if first "?(" || first "(" || first "@" then failure
  else
    let rest ← Eval.makeList (items.drop 1)
    let own ← if first "\x60" then do pure (p.own? m (← Eval.key rest)) else pure none
    match own with
    | some x => pure (.inl (rest, x))
    | none =>
      if items.any fun x => x.identical (.ofString ",") then failure else pure (.inr [])

/-- Follows steps from a place; `literal` tells that a member with the name of the first step goes
before any other meaning of it. -/
abbrev Next := List Step → Place → (literal : Bool) → Eval Outcome

section Branches

variable (next : Next) (p : Place)

/-- What was found below a place, where steps that are left go on from its parent. -/
def settle (found : List Found) : Eval Outcome := do
  let parts ← found.mapM fun
    | .up rest path => do
      match ← next rest { p with path } false with
      | .many [] => pure [.nothing]
      | o => pure o.found
    | f => pure [f]
  pure (.many parts.flatten)

/-- What one branch finds. -/
def one (branch : Eval Outcome) : Eval Outcome := do settle next p (← branch).found

def each {α : Type} (xs : List α) (branch : α → Eval (List Found)) : Eval Outcome := do
  settle next p (← xs.mapM branch).flatten

variable (rest : List Step) (m : Memory)

/-- Follows the steps that are left from all members or items. -/
def followChildren : Eval Outcome :=
  each next p (m.children p.value) fun (k, x) => do
    pure (← next rest (p.child k (← current p.value k x)) true).found

/-- Follows the steps that are left from a place and from all that is below it. -/
def followBelow (step : Step) : Eval Outcome := do
  let here ← next rest p false
  let below ← (m.children p.value).mapM fun (k, x) => do
    let x ← current p.value k x
    if isSearched (← Eval.memory) x then pure (← next (step :: rest) (p.child k x) false).found
    else pure []
  settle next p (here.found ++ below.flatten)

/-- Follows the steps that are left from the items of a slice. -/
def followSlice (slice : Option Int × Option Int × Option Nat) : Eval Outcome :=
  match m.items? p.value with
  | some items =>
    each next p (sliceIndexes items.length slice) fun i => do
      -- an expression in a later step may have made the list shorter by now
      match ((← Eval.memory).items? p.value).bind (·[i]?) with
      | some x => pure (← one next p (next rest (p.child (.ofNat i) x) false)).found
      | none => pure (← next (.value (.ofNat i) :: rest) p false).found
  | none => settle next p [.nothing]

/-- Follows the steps that are left from the members or items for which a filter holds. -/
def followFilter (root : Value) (s : List Char) : Eval Outcome :=
  let code := filterCode s
  match nested? code with
  | some (name, inner) =>
    each next p (m.children p.value) fun (k, x) => do
      let x ← current p.value k x
      let start ← if name.isEmpty then pure x
        else if !x.isPresent then failure
        else match (← Eval.memory).own? x name with
          | some y => pure y
          | none => Eval.inherited x name
      if (← next [.text inner] { p with value := start } false).isSome then
        pure (← next rest (p.child k x) false).found
      else pure []
  | none =>
    let e := Expression.parse? code
    each next p (m.children p.value) fun (k, x) => do
      let x ← current p.value k x
      let verdict ← evaluate root code e x k (k :: p.path).reverse p
      if verdict.truthy then pure (← next rest (p.child k x) false).found else pure []

/-- Follows the steps that are left from where the value of an expression leads. -/
def followExpression (root : Value) (s : List Char) : Eval Outcome := do
  let key := p.path.head?.getD .undefined
  let v ← evaluate root s (Expression.parse? s) p.value key p.path.reverse p
  one next p (next (.ofValue v :: rest) p false)

/-- The place itself, if it has a type; an unknown type is a failure. -/
def followType (type : String) : Eval Outcome :=
  match hasType? m p.value type with
  | none => failure
  | some true => pure (.single (.value p.value))
  | some false => pure (.many [])

/-- Follows the steps that are left from a member that is named behind a backquote, from the members
named between commas, or from the member of a name, which is `own`. -/
def followNames (s : List Char) (own : Option Value) : Eval Outcome :=
  let escaped := match s with
    | '\x60' :: r => (p.own? m (String.ofList r)).map fun x => (String.ofList r, x)
    | _ => none
  match escaped with
  | some (n, x) => one next p (next rest (p.child (.ofString n) x) true)
  | none =>
    if s.contains ',' then
      each next p (Text.splitBy (· == ',') s) fun part => do
        pure (← next (.text part :: rest) p false).found
    else match own with
      | some x => one next p (next rest (p.child (.ofString (String.ofList s)) x) true)
      | none => pure (.many [])

/-- Follows a step that is a value, to the member whose name the value is. -/
def followValue (v : Value) : Eval Outcome := do
  let own ← if p.value.truthy then do pure (m.own? p.value (← Eval.key v)) else pure none
  match own, m.items? v with
  | some x, _ => one next p (next rest (p.child v x) false)
  | none, some items => match ← followList p v items with
    | .inl (key, x) => one next p (next rest (p.child key x) true)
    | .inr found => settle next p found
  | none, none => failure

/-- Follows a step that is a text and no literal name. -/
def followText (root : Value) (s : List Char) (own : Option Value) : Eval Outcome :=
  let name := String.ofList s
  if name == "*" then followChildren next p rest m
  else if name == ".." then followBelow next p rest m (.text s)
  else if name == "^" then pure (.single (.up rest (p.path.drop 1)))
  else if name == "~" then pure (.single (.value p.key))
  else if name == "$" then one next p (next rest { p with parent := .null, key := .null } false)
  else match sliceOf? s with
  | some slice => followSlice next p rest m slice
  | none => match s with
    | '?' :: '(' :: _ => followFilter next p rest m root s
    | '(' :: _ => followExpression next p rest root s
    | '@' :: r => followType p m (String.ofList (r.take (r.length - 2)))
    | _ => followNames next p rest m s own

end Branches

def follow (root : Value) : (fuel : Nat) → Next
  | 0, _, _, _ => failure
  | _ + 1, [], p, _ => pure (.single (.value p.value))
  | fuel + 1, step :: rest, p, literal => do
    let next := follow root fuel
    let m ← Eval.memory
    match step with
    | .value v => followValue next p rest m v
    | .text s =>
      let name := String.ofList s
      match literal, p.own? m name with
      | true, some x => one next p (next rest (p.child (.ofString name) x) false)
      | true, none => followText next p rest m root s none
      | false, own => followText next p rest m root s own

mutual

/-- The greatest number of containers one inside the other, a literal being one too. -/
def depth : Body → Nat
  | .list xs => depthItems xs + 1
  | .object ms => depthMembers ms + 1
  | .number _ => 1
  | _ => 0

def depthItems : List Body → Nat
  | [] => 0
  | x :: r => max (depth x) (depthItems r)

def depthMembers : List (Wide × Body) → Nat
  | [] => 0
  | (_, v) :: r => max (depth v) (depthMembers r)

end

/-! ## Answers -/

def stepsOf (query : String) : List Step :=
  let all : List Step := (steps query).map fun
    | some s => .text s
    | none => .value .undefined
  match all with
  | .text ['$'] :: s :: r => s :: r
  | all => all

/-- What is enough to follow steps through a tree none of whose lists holds itself. -/
def Tree.fuel (t : Tree) (ss : List Step) : Nat :=
  (ss.length + 4) * ((depth t.root + 8) * (t.changed.length + t.cells.size + 1)) + 100

def Outcome.first? : Outcome → Option Value
  | many fs => fs.findSome? fun
    | .value v => some v
    | _ => none
  | single _ => none

/-- A node that was selected, if any, and the tree and the patterns then. -/
structure Answer where
  node : Option Body
  tree : Tree
  patterns : Patterns

/-- The first node that a query selects. The root must not count as false, and the name of a
standard member is no query. What a query changed before it failed stays changed. -/
def ask (t : Tree) (ps : Patterns) (query : String) : Answer :=
  let v := Value.ofBody [] t.root
  if !v.truthy || (Record.standardMember? query).isSome then ⟨none, t, ps⟩
  else
    let ss := stepsOf query
    let (outcome, m) := (follow v (t.fuel ss) ss (.root v) false).run (t.memory ps)
    ⟨(outcome.bind (·.first?)).bind m.node?, t.after m, m.patterns⟩

end HttpScript.Query
