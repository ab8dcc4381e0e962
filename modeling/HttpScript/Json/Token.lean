import HttpScript.Text.Wide

/-!
# JSON tokens

The lexical level of JSON: `tokenize` reads a text into tokens, one character at a time, and
`Token.spelling` writes a token. Only space, tab, LF and CR may stand between tokens.
-/

namespace HttpScript.Json

/-- A token of JSON text. A number keeps its spelling; a string is held unescaped. -/
inductive Token where
  | openList
  | closeList
  | openObject
  | closeObject
  | colon
  | comma
  | null
  | true
  | false
  | number (source : String)
  | text (s : Wide)
  deriving DecidableEq, Repr

/-! ## Writing -/

/-- A character as it stands inside quotes. -/
def escapeChar (c : Char) : List Char :=
  if c == '"' then ['\\', '"']
  else if c == '\\' then ['\\', '\\']
  else if c == '\n' then ['\\', 'n']
  else if c == '\r' then ['\\', 'r']
  else if c == '\t' then ['\\', 't']
  else if c.toNat == 8 then ['\\', 'b']
  else if c.toNat == 12 then ['\\', 'f']
  else if c.toNat < 32 then '\\' :: 'u' :: Text.natText 16 4 c.toNat
  else [c]

/-- A code point as it stands inside quotes. -/
def escapePoint (n : Nat) : List Char :=
  if Text.isHalf n then '\\' :: 'u' :: Text.natText 16 4 n else escapeChar (Char.ofNat n)

def quote (s : Wide) : List Char := '"' :: s.points.flatMap escapePoint ++ ['"']

def Token.spelling : Token → List Char
  | openList => ['[']
  | closeList => [']']
  | openObject => ['{']
  | closeObject => ['}']
  | colon => [':']
  | comma => [',']
  | null => ['n', 'u', 'l', 'l']
  | true => ['t', 'r', 'u', 'e']
  | false => ['f', 'a', 'l', 's', 'e']
  | number s => s.toList
  | text s => quote s

/-! ## Numbers -/

/-- How far a number has been read. -/
inductive NumberPart where
  | minus
  | zero
  | whole
  | point
  | places
  | mark
  | markSign
  | exponent
  deriving DecidableEq, Repr

/-- What a further character makes of a number; `none` when it does not belong to it. -/
def NumberPart.next? : NumberPart → Char → Option NumberPart
  | minus, c => if c == '0' then some zero else if c.isDigit then some whole else none
  | zero, c => afterWhole c
  | whole, c => if c.isDigit then some whole else afterWhole c
  | point, c => if c.isDigit then some places else none
  | places, c =>
    if c.isDigit then some places else if c == 'e' || c == 'E' then some mark else none
  | mark, c =>
    if c == '+' || c == '-' then some markSign else if c.isDigit then some exponent else none
  | markSign, c => if c.isDigit then some exponent else none
  | exponent, c => if c.isDigit then some exponent else none
where
  /-- The parts that may follow the digits before the point. -/
  afterWhole (c : Char) : Option NumberPart :=
    if c == '.' then some point else if c == 'e' || c == 'E' then some mark else none

def NumberPart.complete : NumberPart → Bool
  | zero | whole | places | exponent => Bool.true
  | _ => Bool.false

/-! ## Strings -/

/-- The character that a one-letter escape stands for. -/
def unescape? (c : Char) : Option Char :=
  if c == '"' || c == '\\' || c == '/' then some c
  else if c == 'b' then some '\x08'
  else if c == 'f' then some '\x0c'
  else if c == 'n' then some '\n'
  else if c == 'r' then some '\r'
  else if c == 't' then some '\t'
  else none

/-! ## Reading -/

/-- Where the reader stands. Characters and units read so far are kept in reverse. -/
inductive Mode where
  | between
  | word (token : Token) (missing : List Char)
  | number (part : NumberPart) (read : List Char)
  | text (read : List Nat)
  | escape (read : List Nat)
  | unicode (read : List Nat) (digits value : Nat)
  deriving DecidableEq, Repr

/-- The tokens read so far, in reverse, and the place in the current one. -/
structure Lexer where
  tokens : List Token
  mode : Mode
  deriving DecidableEq, Repr

namespace Lexer

def start : Lexer := ⟨[], .between⟩

def emit (l : Lexer) (t : Token) : Lexer := ⟨t :: l.tokens, .between⟩

def begin? (tokens : List Token) (c : Char) : Option Lexer :=
  if c == ' ' || c == '\t' || c == '\n' || c == '\r' then some ⟨tokens, .between⟩
  else if c == '[' then some ⟨.openList :: tokens, .between⟩
  else if c == ']' then some ⟨.closeList :: tokens, .between⟩
  else if c == '{' then some ⟨.openObject :: tokens, .between⟩
  else if c == '}' then some ⟨.closeObject :: tokens, .between⟩
  else if c == ':' then some ⟨.colon :: tokens, .between⟩
  else if c == ',' then some ⟨.comma :: tokens, .between⟩
  else if c == '"' then some ⟨tokens, .text []⟩
  else if c == 'n' then some ⟨tokens, .word .null ['u', 'l', 'l']⟩
  else if c == 't' then some ⟨tokens, .word .true ['r', 'u', 'e']⟩
  else if c == 'f' then some ⟨tokens, .word .false ['a', 'l', 's', 'e']⟩
  else if c == '-' then some ⟨tokens, .number .minus ['-']⟩
  else if c == '0' then some ⟨tokens, .number .zero ['0']⟩
  else if c.isDigit then some ⟨tokens, .number .whole [c]⟩
  else none

def step? (l : Lexer) (c : Char) : Option Lexer :=
  match l.mode with
  | .between => begin? l.tokens c
  | .word token missing => match missing with
    | [d] => if c == d then some (l.emit token) else none
    | d :: r => if c == d then some ⟨l.tokens, .word token r⟩ else none
    | [] => none
  | .number part read => match part.next? c with
    | some part => some ⟨l.tokens, .number part (c :: read)⟩
    | none =>
      if part.complete then begin? (.number (String.ofList read.reverse) :: l.tokens) c else none
  | .text read =>
    if c == '"' then some (l.emit (.text (.ofPoints read.reverse)))
    else if c == '\\' then some ⟨l.tokens, .escape read⟩
    else if c.toNat < 32 then none
    else some ⟨l.tokens, .text (c.toNat :: read)⟩
  | .escape read =>
    if c == 'u' then some ⟨l.tokens, .unicode read 0 0⟩
    else (unescape? c).map fun d => ⟨l.tokens, .text (d.toNat :: read)⟩
  | .unicode read digits value => (Text.hexValue? c).map fun h =>
    if digits == 3 then ⟨l.tokens, .text ((16 * value + h) :: read)⟩
    else ⟨l.tokens, .unicode read (digits + 1) (16 * value + h)⟩

/-- The tokens when the text ends here; `none` inside a token. -/
def finish? (l : Lexer) : Option (List Token) :=
  match l.mode with
  | .between => some l.tokens.reverse
  | .number part read =>
    if part.complete then some (.number (String.ofList read.reverse) :: l.tokens).reverse else none
  | _ => none

end Lexer

/-- The tokens of a text; `none` when it is not a sequence of tokens. -/
def tokenize (s : List Char) : Option (List Token) :=
  (s.foldlM Lexer.step? Lexer.start).bind Lexer.finish?

end HttpScript.Json
