import HttpScript.Text

/-!
# Regular expressions

Regular expressions as trees, over code points in Unicode mode and over UTF-16 units otherwise.
-/

namespace HttpScript

/-- A kind of character that an escape names. -/
inductive CharKind where
  | digit
  | word
  | space
  | ranges (list : List (Nat × Nat))
  deriving DecidableEq, Repr

/-- An item of a character class. -/
inductive ClassItem where
  | range (first last : Nat)
  | kind (kind : CharKind) (negated : Bool)
  deriving DecidableEq, Repr

/-- A regular expression. Groups that capture are numbered from 1; a repetition knows the first
group inside it and how many there are. -/
inductive Regex where
  | empty
  | point (n : Nat)
  | any
  | set (items : List ClassItem) (negated : Bool)
  | start
  | finish
  | boundary (negated : Bool)
  | both (first second : Regex)
  | either (first second : Regex)
  | group (index : Nat) (body : Regex)
  | look (behind negated : Bool) (body : Regex)
  | back (index : Nat)
  | repeated (least : Nat) (most : Option Nat) (reluctant : Bool) (firstGroup groups : Nat)
      (body : Regex)
  deriving Repr

namespace Regex

/-- How a regular expression is applied. -/
structure Flags where
  indices : Bool
  global : Bool
  ignoreCase : Bool
  multiline : Bool
  dotAll : Bool
  unicode : Bool
  sticky : Bool
  deriving DecidableEq, Repr

/-- The letters of flags with what they set, in the order in which flags are written. -/
def Flags.letters (f : Flags) : List (Char × Bool) :=
  [('d', f.indices), ('g', f.global), ('i', f.ignoreCase), ('m', f.multiline), ('s', f.dotAll),
    ('u', f.unicode), ('y', f.sticky)]

def Flags.text (f : Flags) : String :=
  String.ofList ((f.letters.filter (·.2)).map (·.1))

/-- Flags of letters, each of which may be there once. -/
def Flags.ofText? (s : String) : Option Flags :=
  let cs := s.toList
  let has (c : Char) : Bool := cs.contains c
  let f : Flags := ⟨has 'd', has 'g', has 'i', has 'm', has 's', has 'u', has 'y'⟩
  if cs.all (fun c => f.letters.any fun l => l.1 == c && l.2) && cs.length == f.text.length then
    some f
  else none

/-- A regular expression with its flags, the number of its groups, the names that some of them
have, and the units it was written with. -/
structure Compiled where
  source : List Nat
  flags : Flags
  tree : Regex
  groups : Nat
  names : List (String × Nat)
  deriving Repr

end Regex

end HttpScript
