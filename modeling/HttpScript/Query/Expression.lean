import HttpScript.Query.Operator

/-!
# Query expressions

The language inside the parentheses of a query: the node `@` and what stands around it, literals and
patterns, members and calls, operators, choices and assignments.
-/

namespace HttpScript.Query

/-- An expression. A pattern knows its position in the code, and `senseless` is what can be written
but has no value. -/
inductive Expression where
  | literal (value : Value)
  | pattern (position : Nat) (regex : Regex.Compiled)
  | name (name : String)
  | member (object : Expression) (name : String)
  | index (object key : Expression)
  | call (callee : Expression) (args : List Expression)
  | array (items : List Expression)
  | unary (op : UnaryOp) (operand : Expression)
  | binary (op : BinaryOp) (left right : Expression)
  | choice (test whenTrue whenFalse : Expression)
  | assign (target value : Expression)
  | program (parts : List Expression)
  | senseless

namespace Expression

instance : Inhabited Expression := ⟨.senseless⟩

/-- Whether an expression names a place that could be counted up or down. -/
def isPlace : Expression → Bool
  | name _ | member .. | index .. => true
  | _ => false

/-- A choice. The test of a choice that is assigned is what would have been assigned. -/
def choose (whenTrue whenFalse : Expression) : (test : Expression) → Expression
  | assign target value => assign target (choose whenTrue whenFalse value)
  | test => choice test whenTrue whenFalse

/-! ## Operators -/

/-- An operator between two operands: one that computes, or an assignment. -/
inductive Infix where
  | compute (op : BinaryOp)
  | assign
  deriving DecidableEq, Repr

/-- An operator with how tightly it binds. Of two that bind from the right, one that binds less
tightly waits for the other. -/
structure Joint where
  op : Infix
  level : Nat
  fromRight : Bool
  deriving DecidableEq, Repr

/-- The operators that compute, by how tightly they bind. -/
def computing : List (String × Nat × BinaryOp) :=
  [("||", 2, .or), ("??", 2, .orElse), ("&&", 3, .and), ("|", 4, .bitOr), ("^", 5, .bitXor),
    ("&", 6, .bitAnd), ("==", 7, .equal), ("!=", 7, .unequal), ("===", 7, .identical),
    ("!==", 7, .distinct), ("<", 8, .less), (">", 8, .greater), ("<=", 8, .atMost),
    (">=", 8, .atLeast), ("<<", 9, .shiftLeft), (">>", 9, .shiftRight), (">>>", 9, .shiftUnsigned),
    ("+", 10, .plus), ("-", 10, .minus), ("*", 11, .times), ("/", 11, .over), ("%", 11, .modulo),
    ("**", 12, .power)]

def assigning : List String :=
  ["=", "*=", "**=", "/=", "%=", "+=", "-=", "<<=", ">>=", ">>>=", "&=", "^=", "|=", "||=", "&&=",
    "??="]

/-- The operator that a text is. -/
def joint? (s : String) : Option Joint :=
  if assigning.contains s then some ⟨.assign, 1, true⟩
  else (computing.lookup s).map fun (level, op) => ⟨.compute op, level, op == .power⟩

/-- The operator at the start of a text, the longest one, and what follows it. -/
def jointAt? (s : List Char) : Option (Joint × List Char) :=
  [4, 3, 2, 1].findSome? fun n =>
    if s.length < n then none
    else (joint? (String.ofList (s.take n))).map fun j => (j, s.drop n)

def join (j : Joint) (left right : Expression) : Expression :=
  match j.op with
  | .compute op => binary op left right
  | .assign => assign left right

/-- Whether an operator in front is applied before another one that follows. -/
def Joint.goesFirst (before after : Joint) : Bool :=
  if after.fromRight && before.fromRight then before.level < after.level
  else after.level ≤ before.level

/-- Applies the operators that go before another one to the operand that follows them. Operands that
wait are listed with their operators, the last one first. -/
def settle (after : Joint) : (waiting : List (Expression × Joint)) → Expression →
    List (Expression × Joint) × Expression
  | [], right => ([], right)
  | (left, j) :: r, right =>
    if j.goesFirst after then settle after r (join j left right) else ((left, j) :: r, right)

/-- The expression of operands and the operators between them. -/
def ofOperands : (waiting : List (Expression × Joint)) → Expression →
    List (Joint × Expression) → Expression
  | waiting, last, [] => waiting.foldl (fun right (left, j) => join j left right) last
  | waiting, last, (j, next) :: r =>
    let (waiting, left) := settle j waiting last
    ofOperands ((left, j) :: waiting) next r

end Expression

end HttpScript.Query
