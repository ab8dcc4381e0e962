import HttpScript.Regex

/-!
# Reading regular expressions

The notation of regular expressions. In Unicode mode it is strict; otherwise brackets and braces
that stand alone, and escapes without a meaning, are taken as they are.
-/

namespace HttpScript.Regex

/-- What the reader knows of the whole expression. -/
structure Setting where
  unicode : Bool
  groups : Nat
  names : List (String × Nat)

/-- The ASCII character of a code point; any other one for the rest. -/
def ascii (n : Nat) : Char := if n < 128 then Char.ofNat n else '\ufffd'

def isDigitPoint (n : Nat) : Bool := (ascii n).isDigit

/-! ## Numbers -/

def decimal? (s : List Nat) : Option (Nat × List Nat) :=
  let ds := s.takeWhile isDigitPoint
  if ds.isEmpty then none
  else some (ds.foldl (fun n d => 10 * n + (d - 48)) 0, s.dropWhile isDigitPoint)

/-- The number of exactly `count` hexadecimal digits at the start of a text. -/
def hex? (count : Nat) (s : List Nat) : Option (Nat × List Nat) :=
  let ds := s.take count
  if ds.length < count then none
  else (ds.foldl (fun n d => n.bind fun n => (Text.hexValue? (ascii d)).map (16 * n + ·))
    (some 0)).map (·, s.drop count)

/-- The octal number at the start of a text, which begins with an octal digit: at most 255. -/
def octal (s : List Nat) : Nat × List Nat :=
  let isOctal (n : Nat) : Bool := 48 ≤ n && n ≤ 55
  let most := match s with
    | d :: _ => if d ≤ 51 then 3 else 2
    | [] => 0
  let ds := (s.take most).takeWhile isOctal
  (ds.foldl (fun n d => 8 * n + (d - 48)) 0, s.drop ds.length)

/-! ## Quantifiers -/

/-- How often something is repeated. -/
structure Quantifier where
  least : Nat
  most : Option Nat
  reluctant : Bool

/-- The bounds in braces, behind the opening one. -/
def bounds? (s : List Nat) : Option ((Nat × Option Nat) × List Nat) := do
  let (least, s) ← decimal? s
  match s with
  | c :: s =>
    if ascii c == '}' then some ((least, some least), s)
    else if ascii c != ',' then none
    else match decimal? s with
      | some (most, c :: r) => if ascii c == '}' then some ((least, some most), r) else none
      | some (_, []) => none
      | none => match s with
        | c :: r => if ascii c == '}' then some ((least, none), r) else none
        | [] => none
  | [] => none

/-- The quantifier at the start of a text, if one stands there; none at all when its bounds are in
the wrong order or, in Unicode mode, a brace begins none. -/
def quantifier? (x : Setting) (s : List Nat) : Option (Option Quantifier × List Nat) :=
  let finish (least : Nat) (most : Option Nat) (r : List Nat) : Option Quantifier × List Nat :=
    match r with
    | c :: r' => if ascii c == '?' then (some ⟨least, most, true⟩, r') else
      (some ⟨least, most, false⟩, r)
    | [] => (some ⟨least, most, false⟩, r)
  match s with
  | c :: r => match ascii c with
    | '*' => some (finish 0 none r)
    | '+' => some (finish 1 none r)
    | '?' => some (finish 0 (some 1) r)
    | '{' => match bounds? r with
      | some ((least, most), r) =>
        if most.any (· < least) then none else some (finish least most r)
      | none => if x.unicode then none else some (none, s)
    | _ => some (none, s)
  | [] => some (none, s)

/-- The expression repeated as a quantifier says. -/
def quantified (q : Option Quantifier) (before after : Nat) (r : Regex) : Regex :=
  match q with
  | some q => .repeated q.least q.most q.reluctant (before + 1) (after - before) r
  | none => r

/-! ## Escapes -/

/-- The kind of character that a letter names, and whether the others are meant. -/
def kindOf? (c : Char) : Option (CharKind × Bool) :=
  match c with
  | 'd' => some (.digit, false)
  | 'D' => some (.digit, true)
  | 'w' => some (.word, false)
  | 'W' => some (.word, true)
  | 's' => some (.space, false)
  | 'S' => some (.space, true)
  | _ => none

/-- The characters that have a meaning of their own. -/
def syntaxCharacters : List Char := "^$\\.*+?()[]\x7b\x7d|/".toList

/-- The code point in braces behind `u`. -/
def bracedPoint? (s : List Nat) : Option (Nat × List Nat) :=
  let ds := s.takeWhile fun n => (Text.hexValue? (ascii n)).isSome
  let n := ds.foldl (fun n d => 16 * n + (Text.hexValue? (ascii d)).getD 0) 0
  match s.drop ds.length with
  | c :: r => if ascii c == '}' && !ds.isEmpty && n ≤ 0x10FFFF then some (n, r) else none
  | [] => none

/-- The code point of an escape that begins with `u`, behind that letter. -/
def unicodePoint? (x : Setting) (s : List Nat) : Option (Nat × List Nat) :=
  match hex? 4 s with
  | some (n, r) =>
    if x.unicode && Text.isHighUnit n then
      match r with
      | 92 :: 117 :: r' => match hex? 4 r' with
        | some (m, r'') =>
          if Text.isLowUnit m then some (Text.joinUnits n m, r'') else some (n, r)
        | none => some (n, r)
      | _ => some (n, r)
    else some (n, r)
  | none => match s with
    | 123 :: r => if x.unicode then bracedPoint? r else none
    | _ => none

/-- The code point that an escape stands for, behind the backslash. Digits are not looked at. -/
def pointEscape? (x : Setting) (s : List Nat) : Option (Nat × List Nat) :=
  match s with
  | [] => none
  | n :: r =>
    let loose (found : Option (Nat × List Nat)) : Option (Nat × List Nat) :=
      if x.unicode then found else some (found.getD (n, r))
    match ascii n with
    | 'f' => some (12, r)
    | 'n' => some (10, r)
    | 'r' => some (13, r)
    | 't' => some (9, r)
    | 'v' => some (11, r)
    | 'c' => match r with
      | m :: r' => if (ascii m).isAlpha then some (m % 32, r')
        else if x.unicode then none else some (92, s)
      | [] => if x.unicode then none else some (92, s)
    | 'x' => loose (hex? 2 r)
    | 'u' => loose (unicodePoint? x r)
    | 'k' => if x.unicode || !x.names.isEmpty then none else some (n, r)
    | c => if x.unicode && !(n < 128 && syntaxCharacters.contains c) then none else some (n, r)

def groupName? (s : List Nat) : Option (String × List Nat) :=
  let isStart (n : Nat) : Bool := n ≥ 128 || (ascii n).isAlpha || n == 36 || n == 95
  let name := s.takeWhile fun n => isStart n || isDigitPoint n
  match s.drop name.length with
  | 62 :: r => if name.head?.any isStart then
      some (String.ofList ((Text.points name).map Char.ofNat), r)
    else none
  | _ => none

/-- What an escape outside a class stands for, behind the backslash. -/
def escape? (x : Setting) (s : List Nat) : Option (Regex × List Nat) :=
  match s with
  | [] => none
  | n :: r =>
    let c := ascii n
    match kindOf? c with
    | some (kind, negated) => some (.set [.kind kind negated] false, r)
    | none =>
      if c == '0' then
        if x.unicode then if r.head?.any isDigitPoint then none else some (.point 0, r)
        else
          let (n, r) := octal s
          some (.point n, r)
      else if c.isDigit then match decimal? s with
        | some (n', r') =>
          if n' ≤ x.groups then some (.back n', r')
          else if x.unicode then none
          else if c == '8' || c == '9' then some (.point n, r)
          else
            let (n, r) := octal s
            some (.point n, r)
        | none => none
      else if c == 'k' && (x.unicode || !x.names.isEmpty) then match r with
        | 60 :: r => do
          let (name, r) ← groupName? r
          let index ← x.names.lookup name
          some (.back index, r)
        | _ => none
      else (pointEscape? x s).map fun (n, r) => (.point n, r)

/-! ## Classes -/

/-- One code point or one item of a class. -/
inductive ClassAtom where
  | point (n : Nat)
  | item (i : ClassItem)

def ClassAtom.toItem : ClassAtom → ClassItem
  | point n => .range n n
  | item i => i

/-- What an escape in a class stands for, behind the backslash. -/
def classEscape? (x : Setting) (s : List Nat) : Option (ClassAtom × List Nat) :=
  match s with
  | [] => none
  | n :: r =>
    let c := ascii n
    match kindOf? c with
    | some (kind, negated) => some (.item (.kind kind negated), r)
    | none =>
      if c == 'b' then some (.point 8, r)
      else if c == '-' && x.unicode then some (.point n, r)
      else if c.isDigit then
        if x.unicode then
          if c == '0' && !r.head?.any isDigitPoint then some (.point 0, r) else none
        else if c == '8' || c == '9' then some (.point n, r)
        else
          let (n, r) := octal s
          some (.point n, r)
      else if c == 'c' && !x.unicode && r.head?.any (fun m => isDigitPoint m || m == 95) then
        some (.point (r.headD 0 % 32), r.drop 1)
      else (pointEscape? x s).map fun (n, r) => (.point n, r)

def classAtom? (x : Setting) : List Nat → Option (ClassAtom × List Nat)
  | [] => none
  | 92 :: s => classEscape? x s
  | n :: s => some (.point n, s)

def classItems? (x : Setting) : Nat → List Nat → Option (List ClassItem × List Nat)
  | 0, _ => none
  | _ + 1, 93 :: s => some ([], s)
  | fuel + 1, s => do
    let (a, s) ← classAtom? x s
    let (items, s) ← match s with
      | 45 :: c :: r =>
        if c == 93 then some ([a.toItem], s)
        else match classAtom? x (c :: r) with
          | none => none
          | some (b, r) => match a, b with
            | .point m, .point n => if n < m then none else some ([.range m n], r)
            | a, b => if x.unicode then none else some ([a.toItem, .range 45 45, b.toItem], r)
      | s => some ([a.toItem], s)
    let (more, s) ← classItems? x fuel s
    some (items ++ more, s)

def class? (x : Setting) (s : List Nat) : Option (Regex × List Nat) :=
  match s with
  | 94 :: s => (classItems? x (s.length + 1) s).map fun (is, r) => (.set is true, r)
  | s => (classItems? x (s.length + 1) s).map fun (is, r) => (.set is false, r)

/-! ## Expressions -/

/-- The beginnings of a parenthesis. -/
inductive Opening where
  | plain
  | group (name : Option String)
  | look (behind negated : Bool)

/-- How a parenthesis begins, behind its opening. -/
def opening? (s : List Nat) : Option (Opening × List Nat) :=
  match s with
  | 63 :: n :: r => match ascii n with
    | ':' => some (.plain, r)
    | '=' => some (.look false false, r)
    | '!' => some (.look false true, r)
    | '<' => match r with
      | 61 :: r => some (.look true false, r)
      | 33 :: r => some (.look true true, r)
      | r => (groupName? r).map fun (name, r) => (.group (some name), r)
    | _ => none
  | [63] => none
  | s => some (.group none, s)

mutual

/-- Reads alternatives. `before` groups have been read already; the number read so far is answered
too. -/
def readEither (x : Setting) : Nat → (before : Nat) → List Nat →
    Option (Regex × Nat × List Nat)
  | 0, _, _ => none
  | fuel + 1, before, s => match readTerms x fuel before s with
    | some (r, n, 124 :: s) => (readEither x fuel n s).map fun (r', m, s) => (.either r r', m, s)
    | other => other

/-- Reads terms up to the end, a bar or a closing parenthesis. -/
def readTerms (x : Setting) : Nat → (before : Nat) → List Nat → Option (Regex × Nat × List Nat)
  | 0, _, _ => none
  | _ + 1, before, [] => some (.empty, before, [])
  | fuel + 1, before, c :: s =>
    if ascii c == '|' || ascii c == ')' then some (.empty, before, c :: s)
    else match readTerm x fuel before (c :: s) with
      | some (r, n, s) => (readTerms x fuel n s).map fun (r', m, s) => (.both r r', m, s)
      | none => none

def readTerm (x : Setting) : Nat → (before : Nat) → List Nat → Option (Regex × Nat × List Nat)
  | 0, _, _ => none
  | _ + 1, _, [] => none
  | fuel + 1, before, c :: s =>
    let quantify (r : Regex) (after : Nat) (s : List Nat) : Option (Regex × Nat × List Nat) :=
      (quantifier? x s).map fun (q, s) => (quantified q before after r, after, s)
    match ascii c with
    | '^' => some (.start, before, s)
    | '$' => some (.finish, before, s)
    | '(' => match opening? s with
      | none => none
      | some (o, s) =>
        let inner := match o with
          | .group _ => before + 1
          | _ => before
        match readEither x fuel inner s with
        | some (r, n, 41 :: s) => match o with
          | .plain => quantify r n s
          | .group _ => quantify (.group (before + 1) r) n s
          | .look behind negated =>
            if x.unicode || behind then some (.look behind negated r, n, s)
            else quantify (.look behind negated r) n s
        | _ => none
    | '.' => quantify .any before s
    | '[' => (class? x s).bind fun (r, s) => quantify r before s
    | '\\' => match s.head?.map ascii with
      | some 'b' => some (.boundary false, before, s.drop 1)
      | some 'B' => some (.boundary true, before, s.drop 1)
      | _ => (escape? x s).bind fun (r, s) => quantify r before s
    | '*' | '+' | '?' => none
    | '{' => if x.unicode || (bounds? s).isSome then none else quantify (.point c) before s
    | '}' | ']' => if x.unicode then none else quantify (.point c) before s
    | _ => quantify (.point c) before s

end

/-! ## Groups -/

/-- The groups of an expression, by their names if they have any. `inClass` tells that a class is
open. -/
def groupsOf : (inClass : Bool) → List Nat → List (Option String)
  | _, [] => []
  | inClass, 92 :: _ :: s => groupsOf inClass s
  | true, c :: s => groupsOf (c != 93) s
  | false, 91 :: s => groupsOf true s
  | false, 40 :: s => match opening? s with
    | some (.group name, _) => name :: groupsOf false s
    | _ => groupsOf false s
  | false, _ :: s => groupsOf false s

def groupNames (groups : List (Option String)) : List (String × Nat) :=
  (groups.zipIdx 1).filterMap fun (name, i) => name.map (·, i)

/-- Reads an expression with its flags; `none` when one of them is malformed. -/
def compile? (source : List Nat) (flags : String) : Option Compiled := do
  let flags ← Flags.ofText? flags
  let s := if flags.unicode then Text.points source else source
  let groups := groupsOf false s
  let names := groupNames groups
  if !decide (names.map (·.1)).Nodup then none
  else match readEither ⟨flags.unicode, groups.length, names⟩ (4 * s.length + 4) 0 s with
    | some (tree, n, []) => some ⟨source, flags, tree, n, names⟩
    | _ => none

end HttpScript.Regex
