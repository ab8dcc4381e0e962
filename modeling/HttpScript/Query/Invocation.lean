import HttpScript.Query.Method.List
import HttpScript.Query.Method.Text

/-!
# Calling methods

A method is called on the value that it was read from, whatever it is given; the arguments that it
was bound with come first.
-/

namespace HttpScript.Query.Eval

def callObject (v : Value) (name : String) (args : List Value) : Eval Value := do
  let first := args.getD 0 .undefined
  match name with
  | "hasOwnProperty" => do
    let key ← Eval.key first
    pure (.bool ((← memory).own? v key).isSome)
  | "propertyIsEnumerable" => do
    let key ← Eval.key first
    let m ← memory
    let hidden := match v with
      | .text _ => key == "length"
      | .node _ (.object _) => false
      | v => (m.isList v && key == "length") || m.isMethod v || (m.pattern? v).isSome
    pure (.bool ((m.own? v key).isSome && !hidden))
  | "isPrototypeOf" => pure (.bool false)
  | "toString" => do
    match (← memory).cell? v with
    | some (.walk kind _) => pure (.ofString ("[object " ++ kind ++ "]"))
    | _ => pure (.ofString "[object Object]")
  | "toLocaleString" => do pure (.text (← text v))
  | "valueOf" => pure v
  | _ => failure

/-- The values of a list, or of an object by their indexes. -/
def argumentsOf (v : Value) : Eval (List Value) := do
  let m ← memory
  match m.items? v with
  | some xs => pure xs
  | none =>
    if !v.isPresent then pure []
    else if !v.isObject then failure
    else
      let length ← integer ((m.own? v "length").getD .undefined)
      if 65536 < length then failure
      pure ((List.range length.toNat).map fun i => (m.own? v (toString i)).getD .undefined)

def callMethod (call : Caller) (f : Value) (name : String) (args : List Value) : Eval Value := do
  match name with
  | "call" => call f (args.drop 1)
  | "apply" => do call f (← argumentsOf (args.getD 1 .undefined))
  | "bind" => do
    match (← memory).cell? f with
    | some (.method owner name given label arity) =>
      let more := args.drop 1
      make (.method owner name (given ++ more) ("bound " ++ label) (arity - more.length))
    | _ => failure
  | "toString" => pure (.ofString methodText)
  | _ => failure

/-- Calls a method of a value. -/
def callOn (call : Caller) (v : Value) (name : String) (args : List Value) : Eval Value := do
  let m ← memory
  if (arityOf? (m.methodsOf v) name).isNone then callObject v name args
  else match v with
    | .text us => callText call us name args
    | .number d => callNumber d name args
    | .whole i => callWhole i name args
    | .bool b =>
      if name == "valueOf" then pure v else pure (.ofString (if b then "true" else "false"))
    | .node _ (.number (.literal s)) =>
      if name == "valueOf" then given (literalValue? s) else pure (.ofString s)
    | .pattern .. => do callPattern v (← given (m.pattern? v)).regex name args
    | v => match m.cell? v with
      | some (.method ..) => callMethod call v name args
      | some (.walk kind rest) => callWalk call v kind rest name args
      | _ => callList call v name args

/-- Calls a method value; one of `fuel` calls inside one another. -/
def callWithin : (fuel : Nat) → Caller
  | 0, _, _ => failure
  | fuel + 1, f, args => do
    match (← memory).cell? f with
    | some (.method owner name given _ _) => callOn (callWithin fuel) owner name (given ++ args)
    | _ => failure

/-- The number of calls that may stand one inside another. -/
def callDepth : Nat := 1000

def call (f : Value) (args : List Value) : Eval Value := callWithin callDepth f args

end HttpScript.Query.Eval
