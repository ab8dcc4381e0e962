import HttpScript.Query.Expression.Reader
import HttpScript.Query.Invocation

/-!
# Evaluation of query expressions

The value of an expression at a place. Names are those of the place and what the same code has
assigned; inside the brackets of a member there are none. Without a value for a part there is none
for the whole.
-/

namespace HttpScript.Query

namespace Eval

/-- The pattern at a position of a code: one object, however often it is evaluated. -/
def patternAt (code : List Char) (position : Nat) (r : Regex.Compiled) : Eval Value := do
  let v : Value := .pattern code position
  if ((← memory).pattern? v).isNone then
    modify fun m => { m with patterns := ⟨code, position, r, 0⟩ :: m.patterns }
  pure v

def valueOf (name : String) : Eval Value := do given ((← memory).scope.lookup name)

def assign (name : String) (v : Value) : Eval Value := do
  modify fun m => { m with scope := (name, v) :: m.scope.filter fun e => e.1 != name }
  pure v

end Eval

namespace Expression

/-- Whether an expression is a word that may stand in front of an assignment. -/
def isDeclaration : Expression → Bool
  | name n => n == "var" || n == "let" || n == "const"
  | _ => false

def startsWithAssign : List Expression → Bool
  | assign .. :: _ => true
  | _ => false

mutual

/-- Value of an expression of a code. `withNames` tells that there are names. -/
def eval (code : List Char) (withNames : Bool) : Expression → Eval Value
  | literal v => pure v
  | pattern position r => Eval.patternAt code position r
  | name n => if withNames then Eval.valueOf n else failure
  | member object n => do Eval.member (← object.eval code withNames) n
  | index object key => do
    let n ← Eval.key (← key.eval code false)
    Eval.member (← object.eval code withNames) n
  | call callee args => do
    let xs ← evalAll code withNames args
    Eval.call (← callee.eval code withNames) xs
  | array items => do Eval.makeList (← evalAll code withNames items)
  | unary op e => do Eval.unary op (← e.eval code withNames)
  | binary op a b => do
    let x ← a.eval code withNames
    match op with
    | .or => if x.truthy then pure x else b.eval code withNames
    | .and => if x.truthy then b.eval code withNames else pure x
    | op => do Eval.binary op x (← b.eval code withNames)
  | choice test a b => do
    if (← test.eval code withNames).truthy then a.eval code withNames else b.eval code withNames
  | assign target value => match target with
    | name n => do
      let v ← value.eval code withNames
      if withNames then Eval.assign n v else failure
    | _ => failure
  | program parts => evalParts code withNames .undefined parts
  | senseless => failure

def evalAll (code : List Char) (withNames : Bool) : List Expression → Eval (List Value)
  | [] => pure []
  | e :: r => do
    let v ← e.eval code withNames
    pure (v :: (← evalAll code withNames r))

/-- Value of the last of expressions that follow each other. -/
def evalParts (code : List Char) (withNames : Bool) (last : Value) : List Expression → Eval Value
  | [] => pure last
  | e :: r => do
    if e.isDeclaration && startsWithAssign r then evalParts code withNames last r
    else evalParts code withNames (← e.eval code withNames) r

end

end Expression

end HttpScript.Query
