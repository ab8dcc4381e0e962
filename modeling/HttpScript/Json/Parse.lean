import HttpScript.Json
import HttpScript.Json.Token

/-!
# Reading and writing JSON

`tokens` lists the tokens of a tree and `ofTokens?` reads them back; a text is read by way of its
tokens and written as their spellings.

    ofTokens? (tokens v) = some v
    compact v  = the spellings of tokens v, with nothing between them
    indented v = the same tokens, laid out two spaces to a level
-/

namespace HttpScript.Json

variable {ν : Type}

/-! ## Tokens of a tree -/

mutual

def tokens (num : ν → Token) : Json ν → List Token
  | null => [.null]
  | bool true => [.true]
  | bool false => [.false]
  | number n => [num n]
  | text s => [.text s]
  | list [] => [.openList, .closeList]
  | list (x :: r) => .openList :: (tokens num x ++ itemTokens num r)
  | object [] => [.openObject, .closeObject]
  | object ((k, v) :: r) =>
    .openObject :: .text k :: .colon :: (tokens num v ++ memberTokens num r)

/-- The tokens of the later items of a list, up to its end. -/
def itemTokens (num : ν → Token) : List (Json ν) → List Token
  | [] => [.closeList]
  | x :: r => .comma :: (tokens num x ++ itemTokens num r)

/-- The tokens of the later members of an object, up to its end. -/
def memberTokens (num : ν → Token) : List (Wide × Json ν) → List Token
  | [] => [.closeObject]
  | (k, v) :: r => .comma :: .text k :: .colon :: (tokens num v ++ memberTokens num r)

end

/-! ## Trees of tokens -/

/-- A container that is still open, with what it holds so far in reverse. -/
inductive Frame where
  | list (before : List (Json String))
  | member (before : List (Wide × Json String)) (name : Wide)

/-- What may come next. -/
inductive Expect where
  | value
  | firstItem
  | firstName
  | name (before : List (Wide × Json String))
  | colon (before : List (Wide × Json String)) (name : Wide)
  | separator (done : Json String)

/-- A reader of tokens: what may come next, inside which containers. -/
structure Builder where
  expect : Expect
  frames : List Frame

namespace Builder

/-- Nothing read yet: a value must come. -/
def start : Builder := ⟨.value, []⟩

/-- Reads the first token of a value. -/
def open? (frames : List Frame) : Token → Option Builder
  | .null => some ⟨.separator .null, frames⟩
  | .true => some ⟨.separator (.bool true), frames⟩
  | .false => some ⟨.separator (.bool false), frames⟩
  | .number s => some ⟨.separator (.number s), frames⟩
  | .text s => some ⟨.separator (.text s), frames⟩
  | .openList => some ⟨.firstItem, frames⟩
  | .openObject => some ⟨.firstName, frames⟩
  | _ => none

/-- Reads the token behind a finished value. -/
def close? (done : Json String) : List Frame → Token → Option Builder
  | .list before :: r, .comma => some ⟨.value, .list (done :: before) :: r⟩
  | .list before :: r, .closeList => some ⟨.separator (.list (done :: before).reverse), r⟩
  | .member before k :: r, .comma => some ⟨.name ((k, done) :: before), r⟩
  | .member before k :: r, .closeObject =>
    some ⟨.separator (.object ((k, done) :: before).reverse), r⟩
  | _, _ => none

def step? (b : Builder) (t : Token) : Option Builder :=
  match b.expect with
  | .value => open? b.frames t
  | .firstItem => match t with
    | .closeList => some ⟨.separator (.list []), b.frames⟩
    | t => open? (.list [] :: b.frames) t
  | .firstName => match t with
    | .closeObject => some ⟨.separator (.object []), b.frames⟩
    | .text k => some ⟨.colon [] k, b.frames⟩
    | _ => none
  | .name before => match t with
    | .text k => some ⟨.colon before k, b.frames⟩
    | _ => none
  | .colon before k => match t with
    | .colon => some ⟨.value, .member before k :: b.frames⟩
    | _ => none
  | .separator done => close? done b.frames t

/-- The tree when the tokens end here. -/
def finish? (b : Builder) : Option (Json String) :=
  match b.expect, b.frames with
  | .separator done, [] => some done
  | _, _ => none

end Builder

/-- The tree whose tokens these are. -/
def ofTokens? (ts : List Token) : Option (Json String) :=
  (ts.foldlM Builder.step? Builder.start).bind Builder.finish?

def ofChars? (s : List Char) : Option (Json String) := (tokenize s).bind ofTokens?

def parse? (s : String) : Option (Json String) := ofChars? s.toList

/-- The value of a JSON text with doubles for numbers. -/
def parseDoubles? (s : String) : Option (Json Binary64) := (parse? s).map toDoubles

/-! ## Layout -/

/-- A line end and the indentation of a level. -/
def newLine (depth : Nat) : List Char := '\n' :: List.replicate (2 * depth) ' '

/-- Tokens laid out one item to a line. Empty containers stand on one line. -/
def layOut (depth : Nat) : List Token → List Char
  | [] => []
  | .openList :: .closeList :: r => '[' :: ']' :: layOut depth r
  | .openObject :: .closeObject :: r => '{' :: '}' :: layOut depth r
  | .openList :: r => '[' :: newLine (depth + 1) ++ layOut (depth + 1) r
  | .openObject :: r => '{' :: newLine (depth + 1) ++ layOut (depth + 1) r
  | .closeList :: r => newLine (depth - 1) ++ ']' :: layOut (depth - 1) r
  | .closeObject :: r => newLine (depth - 1) ++ '}' :: layOut (depth - 1) r
  | .comma :: r => ',' :: newLine depth ++ layOut depth r
  | .colon :: r => ':' :: ' ' :: layOut depth r
  | t :: r => t.spelling ++ layOut depth r

/-- Tokens with nothing between them. -/
def concatenate (ts : List Token) : String := String.ofList (ts.flatMap Token.spelling)

/-! ## Writing -/

/-- Token of a double. What is not finite has no literal and is written `null`. -/
def doubleToken (d : Binary64) : Token := if d.isFinite then .number d.text else .null

def numeralToken : Numeral → Token
  | .literal s => .number s
  | .double d => doubleToken d

def compact (v : Json Binary64) : String := concatenate (tokens doubleToken v)

def indented (v : Json Binary64) : String := String.ofList (layOut 0 (tokens doubleToken v))

/-- Compact text of a body's tree, literals as they were spelled. -/
def compactNumerals (v : Json Numeral) : String := concatenate (tokens numeralToken v)

end HttpScript.Json
