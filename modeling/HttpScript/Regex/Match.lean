import HttpScript.Regex
import HttpScript.Text.Case

/-!
# Matching regular expressions

Matching by backtracking: an expression is matched in front of whatever has to follow it, forwards
or, when it looks behind, backwards. Alternatives are tried from left to right.
-/

namespace HttpScript.Regex

/-! ## Case -/

/-- The character that stands for all those that are the same ignoring case: by upper-case forms of
one unit or, in Unicode mode, by folded forms. -/
def caseForm (unicode : Bool) (n : Nat) : Nat :=
  if unicode then
    if n < 128 then ((Char.ofNat n).toLower).toNat
    else ((Text.foldedForms.lookup n).or (Text.runForm? Text.lowerRuns n)).getD n
  else if n < 128 then ((Char.ofNat n).toUpper).toNat
  else if (Text.upperSequences.lookup n).isSome then n
  else match Text.runForm? Text.upperRuns n with
    | some m => if m < 128 then n else m
    | none => n

def runSources (runs : List (Nat × Nat × Nat × Int)) (n : Nat) : List Nat :=
  runs.filterMap fun (first, last, stride, shift) =>
    let m := Int.toNat (n - shift)
    if first ≤ m && m ≤ last && (m - first) % stride == 0 then some m else none

/-- The characters that are the same as a given one ignoring case. -/
def sameCase (unicode : Bool) (n : Nat) : List Nat :=
  let form := caseForm unicode n
  let ascii := if form < 128 then
      [((Char.ofNat form).toLower).toNat, ((Char.ofNat form).toUpper).toNat]
    else []
  let sources := if unicode then
      runSources Text.lowerRuns form ++
        (Text.foldedForms.filter (·.2 == form)).map (·.1)
    else runSources Text.upperRuns form
  (n :: form :: ascii ++ sources).filter fun m => caseForm unicode m == form

/-! ## Characters -/

def isLineEnd (n : Nat) : Bool := n == 10 || n == 13 || n == 0x2028 || n == 0x2029

/-- Whether a character belongs to a word. In Unicode mode ignoring case, so do those that are the
same as one that does. -/
def isWord (f : Flags) (n : Nat) : Bool :=
  let isPlain (n : Nat) : Bool := n < 128 && Text.isIdentRest (Char.ofNat n)
  isPlain n || (f.unicode && f.ignoreCase && isPlain (caseForm true n))

def CharKind.has (f : Flags) (n : Nat) : CharKind → Bool
  | .digit => 48 ≤ n && n ≤ 57
  | .word => isWord f n
  | .space => n < 0x10000 && !Text.isHalf n && Text.isBlank (Char.ofNat n)
  | .ranges rs => rs.any fun r => r.1 ≤ n && n ≤ r.2

def ClassItem.has (f : Flags) (n : Nat) : ClassItem → Bool
  | .range first last => first ≤ n && n ≤ last
  | .kind k negated => CharKind.has f n k != negated

def inClass (f : Flags) (items : List ClassItem) (negated : Bool) (n : Nat) : Bool :=
  let ns := if f.ignoreCase then sameCase f.unicode n else [n]
  (ns.any fun m => items.any (ClassItem.has f m)) != negated

/-! ## Matching -/

/-- What the groups have captured, the first one first: from where to where. -/
abbrev Captures := List (Option (Nat × Nat))

/-- A text that is searched, as units, and the flags. -/
structure Subject where
  units : Array Nat
  flags : Flags

namespace Subject

def unit? (x : Subject) (i : Nat) : Option Nat := x.units[i]?

/-- The character that begins at a place, and where it ends. -/
def after? (x : Subject) (i : Nat) : Option (Nat × Nat) :=
  match x.unit? i with
  | none => none
  | some u => match x.unit? (i + 1) with
    | some v => if x.flags.unicode && Text.isHighUnit u && Text.isLowUnit v then
        some (Text.joinUnits u v, i + 2)
      else some (u, i + 1)
    | none => some (u, i + 1)

/-- The character that ends at a place, and where it begins. -/
def before? (x : Subject) (i : Nat) : Option (Nat × Nat) :=
  if i == 0 then none
  else match x.unit? (i - 1) with
    | none => none
    | some v =>
      if i == 1 then some (v, 0)
      else match x.unit? (i - 2) with
        | some u => if x.flags.unicode && Text.isHighUnit u && Text.isLowUnit v then
            some (Text.joinUnits u v, i - 2)
          else some (v, i - 1)
        | none => some (v, i - 1)

/-- The next character in a direction, and the place behind it. -/
def next? (x : Subject) (forward : Bool) (i : Nat) : Option (Nat × Nat) :=
  if forward then x.after? i else x.before? i

/-- Whether the unit at a place belongs to a word. -/
def wordAt (x : Subject) (i : Nat) : Bool := (x.unit? i).any (isWord x.flags)

/-- Whether two characters match. -/
def same (x : Subject) (m n : Nat) : Bool :=
  m == n || (x.flags.ignoreCase && caseForm x.flags.unicode m == caseForm x.flags.unicode n)

def slice (x : Subject) (i j : Nat) : List Nat := (x.units.extract i j).toList

/-- Whether the units from one place on match those between two others. -/
def repeats (x : Subject) (i j start : Nat) : Bool :=
  let split (us : List Nat) : List Nat := if x.flags.unicode then Text.points us else us
  let a := split (x.slice i j)
  let b := split (x.slice start (start + (j - i)))
  a.length == b.length && (a.zip b).all fun (m, n) => x.same m n

end Subject

/-- What has to follow: from a place and captures on, to the end of the match. -/
abbrev Rest := Nat → Captures → Option (Nat × Captures)

/-- Captures without those of `count` groups from `first` on. -/
def forget (first count : Nat) (cs : Captures) : Captures :=
  cs.zipIdx.map fun (c, i) => if first ≤ i + 1 && i + 1 < first + count then none else c

/-- Matches a body repeatedly, at least `least` times, and then the rest. Beyond that an empty
repetition ends the attempt. -/
def repeatFrom (body : Rest → Rest) (reluctant : Bool) (first count : Nat) (rest : Rest) :
    (fuel least : Nat) → (most : Option Nat) → Rest
  | 0, _, _, _, _ => none
  | fuel + 1, least, most, i, cs =>
    if most == some 0 then rest i cs
    else
      let again (_ : Unit) : Option (Nat × Captures) :=
        body (fun j cs' =>
          if least == 0 && j == i then none
          else repeatFrom body reluctant first count rest fuel (least - 1) (most.map (· - 1)) j cs')
          i (forget first count cs)
      if least != 0 then again ()
      else if reluctant then match rest i cs with
        | some found => some found
        | none => again ()
      else match again () with
        | some found => some found
        | none => rest i cs

/-- Matches an expression in a direction, and then the rest. -/
def matchThen (x : Subject) : Regex → (forward : Bool) → Rest → Rest
  | empty, _, rest, i, cs => rest i cs
  | point n, forward, rest, i, cs => match x.next? forward i with
    | some (m, j) => if x.same n m then rest j cs else none
    | none => none
  | any, forward, rest, i, cs => match x.next? forward i with
    | some (m, j) => if x.flags.dotAll || !isLineEnd m then rest j cs else none
    | none => none
  | set items negated, forward, rest, i, cs => match x.next? forward i with
    | some (m, j) => if inClass x.flags items negated m then rest j cs else none
    | none => none
  | start, _, rest, i, cs =>
    if i == 0 || (x.flags.multiline && (x.unit? (i - 1)).any isLineEnd) then rest i cs else none
  | finish, _, rest, i, cs =>
    if i == x.units.size || (x.flags.multiline && (x.unit? i).any isLineEnd) then rest i cs
    else none
  | boundary negated, _, rest, i, cs =>
    if ((i != 0 && x.wordAt (i - 1)) != x.wordAt i) != negated then rest i cs else none
  | both a b, forward, rest, i, cs =>
    if forward then matchThen x a forward (matchThen x b forward rest) i cs
    else matchThen x b forward (matchThen x a forward rest) i cs
  | either a b, forward, rest, i, cs =>
    match matchThen x a forward rest i cs with
    | some found => some found
    | none => matchThen x b forward rest i cs
  | group index body, forward, rest, i, cs =>
    matchThen x body forward (fun j cs' =>
      rest j (cs'.set (index - 1) (some (if forward then (i, j) else (j, i))))) i cs
  | look behind negated body, _, rest, i, cs =>
    match matchThen x body (!behind) (fun j cs' => some (j, cs')) i cs with
    | some (_, cs') => if negated then none else rest i cs'
    | none => if negated then rest i cs else none
  | back index, forward, rest, i, cs => match (cs[index - 1]?).join with
    | none => rest i cs
    | some (a, b) =>
      let length := b - a
      if forward then
        if i + length ≤ x.units.size && x.repeats a b i then rest (i + length) cs else none
      else if length ≤ i && x.repeats a b (i - length) then rest (i - length) cs else none
  | repeated least most reluctant first count body, forward, rest, i, cs =>
    let needed := min least (x.units.size + 1)
    repeatFrom (matchThen x body forward) reluctant first count rest (needed + x.units.size + 2)
      needed most i cs

/-- The end of a match that begins at a place, and its captures. -/
def Compiled.matchAt? (r : Compiled) (units : Array Nat) (i : Nat) : Option (Nat × Captures) :=
  matchThen ⟨units, r.flags⟩ r.tree true (fun j cs => some (j, cs)) i
    (List.replicate r.groups none)

/-- A match: where it begins and ends, and what the groups captured. -/
structure Match where
  first : Nat
  last : Nat
  captures : Captures

/-- The first match that begins at a place or, unless it has to begin just there, at one of the
next `fuel` characters. -/
def Compiled.searchFrom? (r : Compiled) (units : Array Nat) : (fuel : Nat) → Nat → Option Match
  | 0, _ => none
  | fuel + 1, i =>
    if units.size < i then none
    else match r.matchAt? units i with
      | some (j, cs) => some ⟨i, j, cs⟩
      | none =>
        if r.flags.sticky then none
        else match (Subject.mk units r.flags).after? i with
          | some (_, j) => r.searchFrom? units fuel j
          | none => none

def Compiled.search? (r : Compiled) (units : Array Nat) (i : Nat) : Option Match :=
  r.searchFrom? units (units.size + 2) i

end HttpScript.Regex
