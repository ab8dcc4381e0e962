import HttpScript.Number.Notation
import HttpScript.Query.Method.Pattern
import HttpScript.Query.Operator

/-!
# Methods of lists

What lists answer when one of their methods is called: items looked for, lists made from others, and
lists changed in place, those of the body among them. A method that is called for each item sees the
list as it is by then.
-/

namespace HttpScript.Query.Eval

abbrev Caller := Value → List Value → Eval Value

/-! ## Visiting items -/

/-- A method that is to be called for items. -/
def callable (v : Value) : Eval Unit := do
  if !(← memory).isMethod v then failure

/-- The first answer that a function gives at one of the indexes, with the item that stands there by
then. Where there is none any more, `sparse` tells whether it is asked about the absence of one. -/
def firstAnswer? {α : Type} (v : Value) (sparse : Bool) (f : Nat → Value → Eval (Option α)) :
    List Nat → Eval (Option α)
  | [] => pure none
  | i :: r => do
    match (← items v)[i]? with
    | some x => match ← f i x with
      | some a => pure (some a)
      | none => firstAnswer? v sparse f r
    | none =>
      if sparse then match ← f i .undefined with
        | some a => pure (some a)
        | none => firstAnswer? v sparse f r
      else firstAnswer? v sparse f r

def answers {α : Type} (v : Value) (f : Nat → Value → Eval (List α)) : List Nat → Eval (List α)
  | [] => pure []
  | i :: r => do
    let new ← match (← items v)[i]? with
      | some x => f i x
      | none => pure []
    pure (new ++ (← answers v f r))

/-- The value that remains when a method joins each item to what it has joined before. -/
def joined (call : Caller) (v f : Value) : (done : Value) → List Nat → Eval Value
  | done, [] => pure done
  | done, i :: r => do
    match (← items v)[i]? with
    | some x => do
      let done ← call f [done, x, .ofNat i, v]
      joined call v f done r
    | none => joined call v f done r

/-- Calls a method that asks another one about each item. -/
def callEach (call : Caller) (v : Value) (name : String) (args : List Value) : Eval Value := do
  let f := args.getD 0 .undefined
  callable f
  let indexes := List.range (← items v).length
  let ask (i : Nat) (x : Value) : Eval Value := call f [x, .ofNat i, v]
  let holds (i : Nat) (x : Value) : Eval Bool := do pure (← ask i x).truthy
  let found {α : Type} (answer : Nat → Value → α) (i : Nat) (x : Value) : Eval (Option α) := do
    pure (if ← holds i x then some (answer i x) else none)
  let item (_ : Nat) (x : Value) : Value := x
  let index (i : Nat) (_ : Value) : Value := .ofNat i
  match name with
  | "some" => do pure (.bool (← firstAnswer? v false (found index) indexes).isSome)
  | "every" => do
    let no (i : Nat) (x : Value) : Eval (Option Unit) := do
      pure (if ← holds i x then none else some ())
    pure (.bool (← firstAnswer? v false no indexes).isNone)
  | "find" => do pure ((← firstAnswer? v true (found item) indexes).getD .undefined)
  | "findIndex" => do pure ((← firstAnswer? v true (found index) indexes).getD (.ofInt (-1)))
  | "findLast" => do
    pure ((← firstAnswer? v true (found item) indexes.reverse).getD .undefined)
  | "findLastIndex" => do
    pure ((← firstAnswer? v true (found index) indexes.reverse).getD (.ofInt (-1)))
  | "filter" => do
    makeList (← answers v (fun i x => do pure (if ← holds i x then [x] else [])) indexes)
  | "map" => do makeList (← answers v (fun i x => do pure [← ask i x]) indexes)
  | "flatMap" => do
    makeList (← answers v (fun i x => do
      let y ← ask i x
      pure (((← memory).items? y).getD [y])) indexes)
  | "forEach" => do
    let _ ← answers v (fun i x => do pure [← ask i x]) indexes
    pure .undefined
  | "reduce" | "reduceRight" => do
    let order := if name == "reduce" then indexes else indexes.reverse
    match args, order with
    | _ :: first :: _, order => joined call v f first order
    | _, i :: r => do
      let first := ((← items v)[i]?).getD .undefined
      joined call v f first r
    | _, [] => failure
  | _ => failure

/-! ## Order -/

/-- Puts a value behind those that are not after it. -/
def insertSorted (before : Value → Value → Eval Bool) (x : Value) : List Value → Eval (List Value)
  | [] => pure [x]
  | y :: r => do
    if ← before x y then pure (x :: y :: r)
    else pure (y :: (← insertSorted before x r))

/-- Values in order; of two that are alike the first stays first, and absent ones stand last. -/
def sorted (call : Caller) (f : Value) (xs : List Value) : Eval (List Value) := do
  if f.isGiven then callable f
  let before (x y : Value) : Eval Bool :=
    if f.isGiven then do
      let order ← double (← call f [x, y])
      pure (order.lt 0)
    else do pure (orderUnits (← text x) (← text y) == .lt)
  let given := xs.filter Value.isGiven
  let order ← given.foldlM (fun done x => insertSorted before x done) []
  pure (order ++ List.replicate (xs.length - given.length) .undefined)

/-! ## Changes -/

/-- The values with some of them taken out and others put in their place, and those taken out. -/
def spliced (xs args : List Value) : Eval (List Value × List Value) := do
  let start ← position xs.length 0 (args.getD 0 .undefined)
  let count ← match args with
    | [] => pure 0
    | [_] => pure (xs.length - start)
    | _ :: c :: _ => do pure (min (← integer c).toNat (xs.length - start))
  pure (xs.take start ++ args.drop 2 ++ xs.drop (start + count), (xs.drop start).take count)

def callChange (call : Caller) (v : Value) (name : String) (args : List Value) : Eval Value := do
  let xs ← items v
  let length := xs.length
  let first := args.getD 0 .undefined
  match name with
  | "push" => do
    setItems v (xs ++ args)
    pure (.ofNat (length + args.length))
  | "unshift" => do
    setItems v (args ++ xs)
    pure (.ofNat (length + args.length))
  | "pop" => do
    setItems v xs.dropLast
    pure (xs.getLast?.getD .undefined)
  | "shift" => do
    setItems v (xs.drop 1)
    pure (xs.head?.getD .undefined)
  | "reverse" => do
    setItems v xs.reverse
    pure v
  | "sort" => do
    setItems v (← sorted call first xs)
    pure v
  | "splice" => do
    let (left, taken) ← spliced xs args
    setItems v left
    makeList taken
  | "fill" => do
    let i ← position length 0 (args.getD 1 .undefined)
    let j ← position length length (args.getD 2 .undefined)
    setItems v (xs.zipIdx.map fun (x, k) => if i ≤ k && k < j then first else x)
    pure v
  | "copyWithin" => do
    let target ← position length 0 first
    let i ← position length 0 (args.getD 1 .undefined)
    let j ← position length length (args.getD 2 .undefined)
    let copied := ((xs.drop i).take (j - i)).take (length - target)
    setItems v (xs.take target ++ copied ++ xs.drop (target + copied.length))
    pure v
  | _ => failure

/-! ## Texts of lists -/

/-- A value as it is shown to people. -/
def shownWithin : (fuel : Nat) → (above : List Value) → Value → Eval (List Nat)
  | 0, _, _ => failure
  | fuel + 1, above, v => match v with
    | .number d => pure (Text.units d.shown)
    | .whole i => pure (Text.units (Binary64.signed (decide (i < 0))
        (Binary64.grouped (Nat.toDigits 10 i.natAbs))))
    | v => do
      match (← memory).items? v with
      | some items =>
        if above.any v.sameObject then pure []
        else
          let parts ← items.mapM fun x =>
            if x.isPresent then shownWithin fuel (v :: above) x else pure []
          pure (joinUnits [44] parts)
      | none => text v

/-! ## Methods of lists -/

def flattened : (depth : Nat) → List Value → Eval (List Value)
  | 0, xs => pure xs
  | depth + 1, xs => do
    let m ← memory
    let parts ← xs.mapM fun x => match m.items? x with
      | some ys => flattened depth ys
      | none => pure [x]
    pure parts.flatten

/-- Calls a method that answers something about a list and leaves it as it is. -/
def callView (call : Caller) (v : Value) (name : String) (args : List Value) : Eval Value := do
  let xs ← items v
  let length := xs.length
  let first := args.getD 0 .undefined
  let second := args.getD 1 .undefined
  match name with
  | "at" => do
    let i ← integer first
    let i := if i < 0 then i + length else i
    pure (if i < 0 then .undefined else xs.getD i.toNat .undefined)
  | "concat" => do
    let m ← memory
    makeList (xs ++ args.flatMap fun x => (m.items? x).getD [x])
  | "slice" => do
    let i ← position length 0 first
    let j ← position length length second
    makeList ((xs.drop i).take (j - i))
  | "includes" => do
    let i ← position length 0 second
    pure (.bool ((xs.drop i).any first.sameOrNaN))
  | "indexOf" => do
    let i ← position length 0 second
    pure (match (xs.drop i).findIdx? first.identical with
      | some j => .ofNat (i + j)
      | none => .ofInt (-1))
  | "lastIndexOf" => do
    let last ← if args.length ≤ 1 then pure ((length : Int) - 1) else integer second
    let stop := if last < 0 then last + length else min last (length - 1)
    let front := xs.take (stop + 1).toNat
    pure (match front.reverse.findIdx? first.identical with
      | some j => .ofNat (front.length - 1 - j)
      | none => .ofInt (-1))
  | "join" => do
    let separator ← if first.isGiven then text first else pure [44]
    let parts ← xs.mapM fun x =>
      if x.isPresent then textWithin conversionDepth [v] x else pure []
    pure (.text (joinUnits separator parts))
  | "toString" => do pure (.text (← text v))
  | "toLocaleString" => do pure (.text (← shownWithin conversionDepth [] v))
  | "flat" => do
    let depth ← integerOr 1 first
    makeList (← flattened (min depth.toNat 1000) xs)
  | "toReversed" => makeList xs.reverse
  | "toSorted" => do makeList (← sorted call first xs)
  | "toSpliced" => do makeList (← spliced xs args).1
  | "with" => do
    let i ← integer first
    let i := if i < 0 then i + length else i
    if i < 0 || (length : Int) ≤ i then failure
    makeList (xs.set i.toNat second)
  | "values" => make (.walk "Array Iterator" xs)
  | "keys" => make (.walk "Array Iterator" ((List.range length).map .ofNat))
  | "entries" => do
    make (.walk "Array Iterator" (← xs.zipIdx.mapM fun (x, i) => makeList [.ofNat i, x]))
  | _ => failure

def callList (call : Caller) (v : Value) (name : String) (args : List Value) : Eval Value :=
  if ["every", "filter", "find", "findIndex", "findLast", "findLastIndex", "flatMap", "forEach",
      "map", "reduce", "reduceRight", "some"].contains name then callEach call v name args
  else if ["push", "pop", "shift", "unshift", "reverse", "sort", "splice", "fill",
      "copyWithin"].contains name then callChange call v name args
  else callView call v name args

/-! ## Walks -/

def callWalk (call : Caller) (v : Value) (kind : String) (rest : List Value) (name : String)
    (args : List Value) : Eval Value := do
  let first := args.getD 0 .undefined
  match name with
  | "next" => match rest with
    | x :: r => do
      setCell v (.walk kind r)
      make (.record [("value", x), ("done", .bool false)] false)
    | [] => make (.record [("value", .undefined), ("done", .bool true)] false)
  | "toArray" => do
    setCell v (.walk kind [])
    makeList rest
  | "take" | "drop" => do
    let count ← double first
    if count == .nan then failure
    let count := wholePart count
    if count < 0 then failure
    setCell v (.walk kind [])
    make (.walk "Iterator Helper"
      (if name == "take" then rest.take count.toNat else rest.drop count.toNat))
  | name => do
    callable first
    setCell v (.walk kind [])
    let all ← makeList rest
    let answer ← callEach (fun f xs => call f (xs.take (if name == "reduce" then 3 else 2))) all
      name args
    match (← memory).items? answer with
    | some ys =>
      if ["map", "filter", "flatMap"].contains name then make (.walk "Iterator Helper" ys)
      else pure answer
    | none => pure answer

end HttpScript.Query.Eval
