import HttpScript.Query.Method
import HttpScript.Regex.Match
import HttpScript.Regex.Parse

/-!
# Searching with patterns

Matches of a pattern in a text, as lists of what its groups captured; texts with matches replaced;
texts split at matches. A global or sticky pattern goes on where its last match ended.
-/

namespace HttpScript.Query.Eval

open Regex (Compiled Match)

/-! ## Parts of a text -/

def between (us : List Nat) (i j : Nat) : List Nat := (us.drop i).take (j - i)

/-- What a group captured; nothing if it took no part. -/
def captured (us : List Nat) (c : Option (Nat × Nat)) : Value :=
  match c with
  | some (i, j) => .text (between us i j)
  | none => .undefined

/-- The first position from `at` on where a part occurs in a text. -/
def occurrence? (part : List Nat) : (start : Nat) → List Nat → Option Nat
  | start, [] => if part.isEmpty then some start else none
  | start, u :: r => if part.isPrefixOf (u :: r) then some start else occurrence? part (start + 1) r

/-- The first position, not before a given one, where a part occurs in a text. -/
def occurrenceFrom? (us part : List Nat) (start : Nat) : Option Nat :=
  occurrence? part start (us.drop start)

/-! ## Patterns -/

def compiled (source : List Nat) (flags : String) : Eval Compiled :=
  given (Regex.compile? source flags)

/-- The pattern of an argument: itself, or the one that its text spells. -/
def patternOf (v : Value) (flags : String) : Eval Compiled := do
  match (← memory).pattern? v with
  | some p => pure p.regex
  | none => compiled (← if v.isGiven then text v else pure []) flags

/-- Searches once with a pattern, which remembers where to go on. -/
def searchOnce (p : Value) (us : List Nat) : Eval (Option (Compiled × Match)) := do
  let ⟨_, _, r, next⟩ ← given ((← memory).pattern? p)
  let remembers := r.flags.global || r.flags.sticky
  let start := if remembers then next else 0
  let found := if us.length < start then none else r.search? us.toArray start
  if remembers then setPattern p r ((found.map (·.last)).getD 0)
  pure (found.map fun f => (r, f))

/-- The position behind the character at a position. -/
def behind (r : Compiled) (us : Array Nat) (i : Nat) : Nat :=
  match (Regex.Subject.mk us r.flags).after? i with
  | some (_, j) => j
  | none => i + 1

/-- The matches of a pattern one after the other, `fuel` at most. -/
def matchesFrom (r : Compiled) (us : Array Nat) : (fuel i : Nat) → List Match
  | 0, _ => []
  | fuel + 1, i =>
    if us.size < i then []
    else match r.search? us i with
      | none => []
      | some f =>
        f :: matchesFrom r us fuel (if f.first == f.last then behind r us f.last else f.last)

/-- All matches of a global pattern, which starts afresh then. -/
def allMatches (p : Value) (r : Compiled) (us : List Nat) : Eval (List Match) := do
  setPattern p r 0
  pure (matchesFrom r us.toArray (us.length + 2) 0)

/-- What the groups of a match captured, by their names. -/
def namedGroups (r : Compiled) (value : Option (Nat × Nat) → Eval Value) (f : Match) :
    Eval Value := do
  if r.names.isEmpty then pure .undefined
  else
    let members ← r.names.mapM fun (name, i) => do
      pure (name, ← value (f.captures[i - 1]?).join)
    make (.record members true)

/-- A match as a list: the match, what the groups captured, and where it was found. -/
def matchList (r : Compiled) (us : List Nat) (f : Match) : Eval Value := do
  let parts := some (f.first, f.last) :: f.captures
  let groups ← namedGroups r (fun c => pure (captured us c)) f
  let place (c : Option (Nat × Nat)) : Eval Value :=
    match c with
    | some (i, j) => makeList [.ofNat i, .ofNat j]
    | none => pure .undefined
  let indices ← if r.flags.indices then do
      let places ← parts.mapM place
      let groups ← namedGroups r place f
      pure [("indices", ← make (.list places [("groups", groups)]))]
    else pure []
  make (.list (parts.map (captured us))
    ([("index", .ofNat f.first), ("input", .text us), ("groups", groups)] ++ indices))

/-! ## Replacing -/

/-- The text that a template stands for: `$` with another one, with `&` for the match, with a
backquote or an apostrophe for what stands before and behind it, with a number for a group, or with
a name in angle brackets. -/
def expand (us : List Nat) (f : Match) (names : List (String × Nat)) :
    (fuel : Nat) → List Nat → List Nat
  | 0, _ => []
  | fuel + 1, 36 :: c :: r =>
    let group (i : Nat) : List Nat := match (f.captures[i - 1]?).join with
      | some (i, j) => between us i j
      | none => []
    let isGroup (i : Nat) : Bool := 1 ≤ i && i ≤ f.captures.length
    let next := expand us f names fuel
    if c == 36 then 36 :: next r
    else if c == 38 then between us f.first f.last ++ next r
    else if c == 96 then us.take f.first ++ next r
    else if c == 39 then us.drop f.last ++ next r
    else if Regex.isDigitPoint c then match r with
      | d :: r' =>
        if Regex.isDigitPoint d && 10 * (c - 48) + (d - 48) ≤ f.captures.length then
          if isGroup (10 * (c - 48) + (d - 48)) then
            group (10 * (c - 48) + (d - 48)) ++ next r'
          else 36 :: c :: d :: next r'
        else if isGroup (c - 48) then group (c - 48) ++ next r
        else 36 :: c :: next r
      | [] => if isGroup (c - 48) then group (c - 48) else [36, c]
    else if c == 60 && !names.isEmpty then
      let name := r.takeWhile (· != 62)
      match r.drop name.length with
      | _ :: r' => ((names.lookup (Text.ofUnits name)).map group).getD [] ++ next r'
      | [] => 36 :: c :: next r
    else 36 :: next (c :: r)
  | fuel + 1, u :: r => u :: expand us f names fuel r
  | _ + 1, [] => []

/-- What replaces a match: the text of a template, or what a method answers. -/
def replacement (call : Value → List Value → Eval Value) (replacer : Value) (us : List Nat)
    (r : Option Compiled) (f : Match) : Eval (List Nat) := do
  let names := (r.map (·.names)).getD []
  if (← memory).isMethod replacer then
    let groups ← match r with
      | some r => if r.names.isEmpty then pure [] else do
          pure [← namedGroups r (fun c => pure (captured us c)) f]
      | none => pure []
    text (← call replacer (captured us (some (f.first, f.last)) :: f.captures.map (captured us) ++
      [.ofNat f.first, .text us] ++ groups))
  else match replacer with
    | .text template => pure (expand us f names (template.length + 1) template)
    | _ => failure

def replaceMatches (call : Value → List Value → Eval Value) (replacer : Value) (us : List Nat)
    (r : Option Compiled) : (start : Nat) → List Match → Eval (List Nat)
  | start, [] => pure (us.drop start)
  | start, f :: fs => do
    let new ← replacement call replacer us r f
    let rest ← replaceMatches call replacer us r (max start f.last) fs
    pure (if f.first < start then rest else between us start f.first ++ new ++ rest)

/-- The occurrences of a part in a text, as matches without groups. -/
def occurrences (us part : List Nat) : (fuel i : Nat) → List Match
  | 0, _ => []
  | fuel + 1, i =>
    if us.length < i then []
    else match occurrenceFrom? us part i with
      | none => []
      | some j =>
        ⟨j, j + part.length, []⟩ :: occurrences us part fuel (j + max 1 part.length)

/-- Replaces the first match of a pattern or occurrence of a text, or all of them. -/
def replace (call : Value → List Value → Eval Value) (us : List Nat) (what replacer : Value)
    (all : Bool) : Eval Value := do
  let prepared : Eval Value := do
    if (← memory).isMethod replacer then pure replacer else pure (.text (← text replacer))
  match (← memory).pattern? what with
  | some ⟨_, _, r, _⟩ =>
    if all && !r.flags.global then failure
    let replacer ← prepared
    let found ← if r.flags.global then allMatches what r us else do
      pure ((← searchOnce what us).map (·.2)).toList
    pure (.text (← replaceMatches call replacer us (some r) 0 found))
  | none =>
    let part ← text what
    let replacer ← prepared
    let found := occurrences us part (if all then us.length + 2 else 1) 0
    pure (.text (← replaceMatches call replacer us none 0 found))

/-! ## Splitting -/

/-- The parts of a text between the matches of a pattern, with what the groups captured, from a
position on; `start` is where the part begins. -/
def splitFrom (r : Compiled) (us : List Nat) (points : Array Nat) :
    (fuel start i : Nat) → List Value
  | 0, _, _ => []
  | fuel + 1, start, i =>
    if us.length ≤ i then [.text (us.drop start)]
    else match r.matchAt? points i with
      | none => splitFrom r us points fuel start (behind r points i)
      | some (j, cs) =>
        if j == start then splitFrom r us points fuel start (behind r points i)
        else .text (between us start i) :: cs.map (captured us) ++ splitFrom r us points fuel j j

/-- The parts of a text between the matches of a pattern. -/
def splitAtPattern (r : Compiled) (us : List Nat) : List Value :=
  if us.isEmpty then if (r.matchAt? #[] 0).isSome then [] else [.text []]
  else splitFrom r us us.toArray (2 * us.length + 2) 0 0

/-- The parts of a text between the occurrences of another one. -/
def splitAtText (us part : List Nat) : List Value :=
  if part.isEmpty then us.map fun u => .text [u]
  else
    let cuts := occurrences us part (us.length + 2) 0
    let starts := 0 :: cuts.map (·.last)
    let ends := cuts.map (·.first) ++ [us.length]
    (starts.zip ends).map fun (i, j) => .text (between us i j)

/-- Splits a text at a pattern or another text; at most `limit` parts. -/
def split (us : List Nat) (what limit : Value) : Eval Value := do
  let most ← if limit.isGiven then do pure (uint32 (← double limit)) else pure 4294967295
  match (← memory).pattern? what with
  | some p => makeList ((splitAtPattern p.regex us).take most)
  | none =>
    let part ← text what
    if what.isGiven then makeList ((splitAtText us part).take most)
    else makeList ([Value.text us].take most)

/-! ## Methods of patterns -/

def callPattern (p : Value) (r : Compiled) (name : String) (args : List Value) : Eval Value := do
  let arg := args.getD 0 .undefined
  match name with
  | "exec" => do
    let us ← text arg
    match ← searchOnce p us with
    | some (r, f) => matchList r us f
    | none => pure .null
  | "test" => do pure (.bool (← searchOnce p (← text arg)).isSome)
  | "toString" => pure (.text (patternText r))
  | "compile" => do
    let flags := args.getD 1 .undefined
    match (← memory).pattern? arg with
    | some other =>
      if flags.isGiven then failure
      setPattern p other.regex 0
    | none =>
      let source ← if arg.isGiven then text arg else pure []
      let flags ← if flags.isGiven then Eval.name flags else pure ""
      setPattern p (← compiled source flags) 0
    pure p
  | _ => failure

end HttpScript.Query.Eval
