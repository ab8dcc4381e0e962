import HttpScript.Query.Expression
import HttpScript.Regex.Parse
import HttpScript.Text.Scan

/-!
# Reading query expressions

Expressions follow each other, between semicolons, commas or nothing. Each reader answers what it
has read and what is left; where it may find nothing, it answers that too.
-/

namespace HttpScript.Query.Expression

/-- What was read from the front of a text, and the rest; none if the text is malformed. -/
abbrev Reading (α : Type) := Option (α × List Char)

/-! ## Characters -/

def isSpace (c : Char) : Bool := c == ' ' || c == '\t' || c == '\n' || c == '\r'

def skip (s : List Char) : List Char := s.dropWhile isSpace

/-- Whether a name may begin with this character. -/
def startsName (c : Char) : Bool := c.isAlpha || c == '$' || c == '_' || c.toNat ≥ 128

/-- Whether a name may go on with this character. -/
def continuesName (c : Char) : Bool := startsName c || c.isDigit

/-! ## Tokens -/

def readName (s : List Char) : Reading String :=
  if s.head?.any startsName then
    some (String.ofList (s.takeWhile continuesName), s.dropWhile continuesName)
  else none

/-- The fraction behind a whole number: a point and digits. -/
def fractionOf (s : List Char) : List Char :=
  match s with
  | '.' :: r => '.' :: r.takeWhile Char.isDigit
  | _ => []

/-- The exponent behind a number: a letter, perhaps a sign, and digits, if there are any. -/
def exponentOf (s : List Char) : List Char :=
  match s with
  | e :: r =>
    if e == 'e' || e == 'E' then match r with
      | sign :: r' =>
        if sign == '+' || sign == '-' then e :: sign :: r'.takeWhile Char.isDigit
        else e :: r.takeWhile Char.isDigit
      | [] => [e]
    else []
  | [] => []

def readNumber (s : List Char) : Reading Expression :=
  let whole := s.takeWhile Char.isDigit
  let fraction := fractionOf (s.drop whole.length)
  let significand := whole ++ fraction
  let exponent := exponentOf (s.drop significand.length)
  let rest := s.drop (significand.length + exponent.length)
  if !exponent.isEmpty && !exponent.getLast?.any Char.isDigit then none
  else if rest.head?.any fun c => startsName c || c == '.' then none
  else if significand == ['.'] && exponent.isEmpty then none
  else if significand == ['.'] then some (literal (.number .nan), rest)
  else some (literal (.number (.ofLiteral (String.ofList (significand ++ exponent)))), rest)

/-- The character that stands for one behind a backslash. -/
def escaped (c : Char) : Char :=
  match c with
  | 'n' => '\n'
  | 'r' => '\r'
  | 't' => '\t'
  | 'b' => '\x08'
  | 'f' => '\x0c'
  | 'v' => '\x0b'
  | c => c

def readQuoted (quote : Char) (read : List Char) : List Char → Reading String
  | [] => none
  | '\\' :: c :: r => readQuoted quote (escaped c :: read) r
  | c :: r =>
    if c == quote then some (String.ofList read.reverse, r) else readQuoted quote (c :: read) r

/-- Reads a pattern up to the slash that ends it; slashes in classes do not. -/
def readSource (inClass : Bool) (read : List Char) : List Char → Reading (List Char)
  | [] => none
  | '\\' :: c :: r => readSource inClass (c :: '\\' :: read) r
  | c :: r =>
    if c == '/' && !inClass then some (read.reverse, r)
    else readSource (if c == '[' then true else if c == ']' then false else inClass) (c :: read) r

def readPattern (s : List Char) : Reading Expression :=
  match readSource false [] s with
  | some (source, r) =>
    let flags := r.takeWhile Char.isAlphanum
    (Regex.compile? (Text.units (String.ofList source)) (String.ofList flags)).map fun regex =>
      (pattern s.length regex, r.drop flags.length)
  | none => none

def ofWord (s : String) : Expression :=
  match s with
  | "true" => literal (.bool true)
  | "false" => literal (.bool false)
  | "null" => literal .null
  | "undefined" => literal .undefined
  | "this" => senseless
  | s => name s

def prefixes : List (String × UnaryOp) :=
  [("typeof", .typeOf), ("void", .void), ("-", .negate), ("!", .not), ("~", .complement),
    ("+", .positive)]

/-- The operator in front of an operand, and what follows it. One that is a word ends where no name
could go on. -/
def prefixAt? (s : List Char) : Option (UnaryOp × List Char) :=
  prefixes.findSome? fun (word, op) =>
    let rest := s.drop word.length
    let ends := match word.toList, rest with
      | w :: _, c :: _ => !(startsName w && continuesName c)
      | w :: _, [] => !startsName w
      | [], _ => false
    if word.toList.isPrefixOf s && ends then some (op, rest) else none

/-- What counts up or down at the start of a text; what follows it. -/
def stepAt? (s : List Char) : Option (List Char) :=
  match s with
  | '+' :: '+' :: r => some r
  | '-' :: '-' :: r => some r
  | _ => none

/-- An operand with what counts it up or down behind it, which only a place can have. -/
def readStep (e : Expression) (s : List Char) : Reading (Option Expression) :=
  match stepAt? s with
  | some r => if e.isPlace then some (some senseless, r) else none
  | none => some (some e, s)

/-! ## Expressions -/

mutual

/-- Reads expressions up to the end, or to a closing character. -/
def readAll : (fuel : Nat) → (closing : Option Char) → List Char → Reading (List Expression)
  | 0, _, _ => none
  | _ + 1, _, [] => some ([], [])
  | fuel + 1, closing, c :: s =>
    if c == ';' || c == ',' then readAll fuel closing s
    else match readOne fuel (c :: s) with
      | none => none
      | some (some e, r) => (readAll fuel closing r).map fun (es, r) => (e :: es, r)
      | some (none, r) => if r.isEmpty || some c == closing then some ([], r) else none

/-- Reads one expression: operators and their operands, then perhaps a choice. -/
def readOne : (fuel : Nat) → List Char → Reading (Option Expression)
  | 0, _ => none
  | fuel + 1, s => match readOperand fuel s with
    | some (some first, r) => match readJoints fuel r with
      | some (more, r) => match ofOperands [] first more, skip r with
        | test, '?' :: r => match readOne fuel r with
          | some (some whenTrue, ':' :: r) => match readOne fuel r with
            | some (some whenFalse, r) => some (some (choose whenTrue whenFalse test), r)
            | _ => none
          | _ => none
        | e, r => some (some e, r)
      | none => none
    | some (none, r) => some (none, skip r)
    | none => none

/-- Reads the operators and operands that follow a first operand. -/
def readJoints : (fuel : Nat) → List Char → Reading (List (Joint × Expression))
  | 0, _ => none
  | fuel + 1, s => match jointAt? (skip s) with
    | none => some ([], skip s)
    | some (j, r) => match readOperand fuel r with
      | some (some e, r) => (readJoints fuel r).map fun (more, r) => ((j, e) :: more, r)
      | _ => none

/-- Reads an operand with the operators in front of it and the members behind it. -/
def readOperand : (fuel : Nat) → List Char → Reading (Option Expression)
  | 0, _ => none
  | fuel + 1, s =>
    let more (found : Reading Expression) : Reading (Option Expression) :=
      match found with
      | some (e, r) => match readMembers fuel e r with
        | some (e, r) => readStep e r
        | none => none
      | none => none
    match skip s with
    | [] => some (none, [])
    | c :: r =>
      if c == '/' then more (readPattern r)
      else match stepAt? (c :: r) with
      | some r => match (readName r).bind fun (n, r) => readMembers fuel (name n) r with
        | some (e, r) => if e.isPlace then readStep senseless r else none
        | none => none
      | none =>
        if c.isDigit || c == '.' then (readNumber (c :: r)).map fun (e, r) => (some e, r)
        else if c == '\'' || c == '"' then
          more ((readQuoted c [] r).map fun (t, r) => (literal (.ofString t), r))
        else if c == '[' then
          more ((readArguments fuel ']' [] 0 r).map fun (es, r) => (array es, r))
        else match prefixAt? (c :: r) with
        | some (op, r) => match readOperand fuel r with
          | some (some e, r) => readStep (unary op e) r
          | _ => none
        | none =>
          if startsName c then more ((readName (c :: r)).map fun (n, r) => (ofWord n, r))
          else if c == '(' then match readAll fuel (some ')') r with
            | some ([], ')' :: r) => some (none, r)
            | some ([e], ')' :: r) => more (some (e, r))
            | some (_, ')' :: r) => more (some (senseless, r))
            | _ => none
          else some (none, c :: r)

/-- Reads the members and calls that follow an operand. A question mark in front of a point changes
nothing. -/
def readMembers : (fuel : Nat) → Expression → List Char → Reading Expression
  | 0, _, _ => none
  | fuel + 1, e, s =>
    let named (r : List Char) : Reading Expression :=
      match readName (skip r) with
      | some (n, r) => readMembers fuel (member e n) r
      | none => none
    let indexed (r : List Char) : Reading Expression :=
      match readOne fuel r with
      | some (some key, r) => match skip r with
        | ']' :: r => readMembers fuel (index e key) r
        | _ => none
      | _ => none
    let called (r : List Char) : Reading Expression :=
      match readArguments fuel ')' [] 0 r with
      | some (args, r) => readMembers fuel (call e args) r
      | none => none
    match skip s with
    | '.' :: r => named r
    | '[' :: r => indexed r
    | '(' :: r => called r
    | '?' :: '.' :: r => match skip r with
      | '[' :: r => indexed r
      | '(' :: r => called r
      | r => named r
    | r => some (e, r)

/-- Reads what stands in brackets: expressions between commas, or with nothing between them. A list
may lack items, a call may not. `commas` have been read so far. -/
def readArguments : (fuel : Nat) → (closing : Char) → (read : List Expression) →
    (commas : Nat) → List Char → Reading (List Expression)
  | 0, _, _, _, _ => none
  | fuel + 1, closing, read, commas, s =>
    match skip s with
    | [] => none
    | c :: r =>
      if c == closing then
        if closing == ')' && commas != 0 && read.length ≤ commas then none
        else some (read.reverse, r)
      else if c == ',' then
        let commas := commas + 1
        if commas == read.length then readArguments fuel closing read commas r
        else if closing == ')' then none
        else
          let missing := List.replicate (commas - read.length) senseless
          readArguments fuel closing (missing ++ read) commas r
      else if read.length != commas && commas != 0 then none
      else match readOne fuel (c :: r) with
        | some (some e, r) => readArguments fuel closing (e :: read) commas r
        | _ => none

end

/-! ## References to the place -/

/-- The words for parts of the place, with the names that stand for them; longer ones first. -/
def placeWords : List (String × String) :=
  [("@parentProperty", "_$_parentProperty"), ("@parent", "_$_parent"),
    ("@property", "_$_property"), ("@root", "_$_root"), ("@path", "_$_path")]

/-- A word for a part of the place, or `@` in front of a member, a blank or a bracket. -/
def placeWordAt? (s : List Char) : Option (List Char × Nat) :=
  match placeWords.find? fun w => w.1.toList.isPrefixOf s with
  | some (w, n) => some (n.toList, w.length - 1)
  | none => match s with
    | '@' :: c :: _ =>
      if c == '.' || c == ')' || c == '[' || Text.isBlank c then some ("_$_v".toList, 0) else none
    | _ => none

/-- The code of an expression, with names for the parts of the place. -/
def named (s : List Char) : List Char :=
  Text.replaceFound some (Text.scan placeWordAt? s)

/-- Reads the code of a query as an expression, or as a program of several. -/
def parse? (code : List Char) : Option Expression :=
  let s := named code
  match readAll (8 * s.length + 16) none s with
  | some ([e], _) => some e
  | some (es, _) => some (program es)
  | none => none

end HttpScript.Query.Expression
