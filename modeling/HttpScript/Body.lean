import HttpScript.Json.Parse

/-!
# Bodies and body paths

A body that is JSON is held as a tree that keeps every number literal as it was spelled. A body
path such as `items[2].id` addresses a node of it.

    parse? s              the tree of a body; numbers become doubles only where an object repeats
                          a name with another value
    BodyPath.parse?       names between points, each followed by any number of indexes
    navigate? lib root p  follows own members of objects and items of lists
    leafText lib v        the text of a node, read back as v unless v is a text

A number of a body is an object of the JSON library's own. Which objects the library takes for such
numbers is up to it, and one that it takes is a leaf.
-/

namespace HttpScript

/-- The JSON tree of a body. -/
abbrev Body := Json Numeral

namespace Body

/-- The tree of a body; `none` when the body is not JSON. -/
def parse? (s : String) : Option Body :=
  if Text.isBlankText s then none
  else match Json.parse? s with
    | none => none
    | some tree => match Json.keepLiterals? tree with
      | some v => some v
      | none => some (Json.ofDoubles (Json.toDoubles tree))

end Body

/-- A JSON library: the objects of a body that it takes for numbers of its own, which it may do with
those that have the member of such numbers, and what it then makes of them, as a node and inside the
text of another. -/
structure JsonLibrary where
  takes : Record Body Wide → Bool
  text? : Record Body Wide → Option String
  inner : Record Body Wide → String
  marked : ∀ ms, takes ms = true → Record.has ms "isLosslessNumber" = true

/-- A library that tells its numbers by their class takes no object of a body for one. -/
def JsonLibrary.byClass : JsonLibrary := ⟨fun _ => false, fun _ => none, fun _ => "", nofun⟩

namespace Body

variable (lib : JsonLibrary)

mutual

/-- The tree as it is written: what is taken for a number is one. -/
def written : Body → Body
  | .list xs => .list (writtenItems xs)
  | .object ms =>
    if lib.takes ms then .number (.literal (lib.inner ms)) else .object (writtenMembers ms)
  | v => v

def writtenItems : List Body → List Body
  | [] => []
  | x :: r => written x :: writtenItems r

def writtenMembers : List (Wide × Body) → List (Wide × Body)
  | [] => []
  | (k, v) :: r => (k, written v) :: writtenMembers r

end

/-- Text of a node: texts and numbers as they are, containers as compact JSON. -/
def leafText : Body → Option String
  | .null => some "null"
  | .bool b => some (if b then "true" else "false")
  | .number n => some n.text
  | .text s => some s.text
  | .list xs => some (Json.compactNumerals (written lib (.list xs)))
  | .object ms =>
    if lib.takes ms then lib.text? ms
    else some (Json.compactNumerals (written lib (.object ms)))

end Body

/-- A step of a body path: a member, if one is named, and then items. -/
structure Segment where
  property : Option String
  indexes : List Nat
  deriving DecidableEq, Repr

/-- A body path. -/
abbrev BodyPath := List Segment

namespace BodyPath

/-! ## Reading paths -/

/-- The numbers in brackets that make up a text. `inside` holds the digits since an opening
bracket, in reverse. -/
def indexesFrom : (inside : Option (List Char)) → List Char → Option (List Nat)
  | none, [] => some []
  | none, c :: s => if c == '[' then indexesFrom (some []) s else none
  | some _, [] => none
  | some ds, c :: s =>
    if c.isDigit then indexesFrom (some (c :: ds)) s
    else if c == ']' && !ds.isEmpty then
      (indexesFrom none s).map (Text.digitsValue ds.reverse :: ·)
    else none

/-- Whether a character opens or closes an index. -/
def isBracket (c : Char) : Bool := c == '[' || c == ']'

def segment? (s : List Char) : Option Segment :=
  let name := s.takeWhile (!isBracket ·)
  match indexesFrom none (s.dropWhile (!isBracket ·)) with
  | none => none
  | some indexes =>
    if name.isEmpty then if indexes.isEmpty then none else some ⟨none, indexes⟩
    else some ⟨some (String.ofList name), indexes⟩

/-- Reads all the segments of a list; one that is malformed spoils it. -/
def segments? : List (List Char) → Option BodyPath
  | [] => some []
  | s :: r => match segment? s with
    | none => none
    | some g => (segments? r).map (g :: ·)

def parse? (s : String) : Option BodyPath := segments? (Text.splitBy (· == '.') s.toList)

/-! ## Writing paths -/

def segmentText (g : Segment) : List Char :=
  (g.property.getD "").toList ++
    g.indexes.flatMap fun i => '[' :: Nat.toDigits 10 i ++ [']']

def text (p : BodyPath) : String :=
  String.ofList (['.'].intercalate (p.map segmentText))

/-! ## Following paths -/

section Follow

variable {α : Type} (member? : α → Wide → Option α) (item? : α → Nat → Option α)

/-- The node that indexes lead to. -/
def followItems? (v : α) : List Nat → Option α
  | [] => some v
  | i :: r => (item? v i).bind (followItems? · r)

def followSegment? (v : α) (g : Segment) : Option α :=
  match g.property with
  | some name => (member? v name).bind (followItems? item? · g.indexes)
  | none => followItems? item? v g.indexes

/-- The node that a path leads to, given the members and the items of nodes. -/
def follow? (v : α) : BodyPath → Option α
  | [] => some v
  | g :: r => (followSegment? member? item? v g).bind (follow? · r)

end Follow

/-- The member of this name, of an object that is not taken for a number. -/
def member? (lib : JsonLibrary) (v : Body) (name : Wide) : Option Body :=
  match v with
  | .object ms => if lib.takes ms then none else Record.get? ms name
  | _ => none

def item? (v : Body) (index : Nat) : Option Body :=
  match v with
  | .list xs => xs[index]?
  | _ => none

/-- The node that the text of a path leads to; `none` when the path is malformed or leads
nowhere. -/
def navigate? (lib : JsonLibrary) (root : Body) (path : String) : Option Body :=
  (parse? path).bind (follow? (member? lib) item? root)

end BodyPath

end HttpScript
