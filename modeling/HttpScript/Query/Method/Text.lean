import HttpScript.Number.Notation
import HttpScript.Query.Method.Pattern
import HttpScript.Text.Collation

/-!
# Methods of texts and numbers

What texts, doubles, exact integers, truth values and literals answer when one of their methods is
called. Positions count units.
-/

namespace HttpScript.Query.Eval

/-! ## Parts of texts -/

/-- The greatest length of a text that is made. -/
def longestText : Nat := 4194304

def repeated (us : List Nat) (count : Int) : Eval (List Nat) :=
  if count < 0 || count == endless then failure
  else if us.isEmpty then pure []
  else if (longestText : Int) < count * us.length then failure
  else pure (List.replicate count.toNat us).flatten

/-- What has to be added to a text to give it a length. -/
def padding (us : List Nat) (length fill : Value) : Eval (List Nat) := do
  let length ← integer length
  let missing := (length - us.length).toNat
  if missing == 0 then pure []
  else
    let fill ← if fill.isGiven then text fill else pure [32]
    if fill.isEmpty then pure []
    else if longestText < missing then failure
    else pure ((← repeated fill (missing / fill.length + 1)).take missing)

/-- The last position, not behind a given one, where a part occurs in a text. -/
def lastOccurrence? (us part : List Nat) : (start : Nat) → Option Nat
  | 0 => if part.isPrefixOf us then some 0 else none
  | start + 1 =>
    if part.isPrefixOf (us.drop (start + 1)) then some (start + 1)
    else lastOccurrence? us part start

def positionValue (i : Option Nat) : Value :=
  match i with
  | some i => .ofNat i
  | none => .number (.ofInt (-1))

/-- The text of an argument, which must not be a pattern. -/
def partArgument (v : Value) : Eval (List Nat) := do
  if ((← memory).pattern? v).isSome then failure
  text v

def isBlankUnit (u : Nat) : Bool := !Text.isHalf u && Text.isBlank (Char.ofNat u)

def trimStart (us : List Nat) : List Nat := us.dropWhile isBlankUnit

def trimEnd (us : List Nat) : List Nat := (us.reverse.dropWhile isBlankUnit).reverse

/-- A text changed by a function on texts; halves that stand alone are kept. -/
def onText (f : String → String) (us : List Nat) : List Nat :=
  if (Text.points us).any Text.isHalf then
    (Text.points us).flatMap fun n =>
      if Text.isHalf n then [n] else Text.units (f (String.singleton (Char.ofNat n)))
  else Text.units (f (Text.ofUnits us))

/-- A text between an opening and a closing tag, perhaps with an attribute. -/
def tagged (tag : String) (property : Option (String × List Nat)) (us : List Nat) : Value :=
  let quoted (value : List Nat) : List Nat :=
    value.flatMap fun u => if u == 34 then Text.units "&quot;" else [u]
  let more := match property with
    | some (name, value) => Text.units (" " ++ name ++ "=\"") ++ quoted value ++ [34]
    | none => []
  .text (Text.units ("<" ++ tag) ++ more ++ 62 :: us ++ Text.units ("</" ++ tag ++ ">"))

/-- The tags that methods put around a text. -/
def tags : List (String × String) :=
  [("big", "big"), ("blink", "blink"), ("bold", "b"), ("fixed", "tt"), ("italics", "i"),
    ("small", "small"), ("strike", "strike"), ("sub", "sub"), ("sup", "sup")]

/-- The tags with an attribute that methods put around a text. -/
def attributeTags : List (String × String × String) :=
  [("anchor", "a", "name"), ("fontcolor", "font", "color"), ("fontsize", "font", "size"),
    ("link", "a", "href")]

/-! ## Methods that take parts -/

/-- Calls a method of a text that answers a part or a unit of it. -/
def callPart (us : List Nat) (name : String) (args : List Value) : Eval Value := do
  let length := us.length
  let first := args.getD 0 .undefined
  let second := args.getD 1 .undefined
  match name with
  | "at" => do
    let i ← integer first
    let i := if i < 0 then i + length else i
    pure (if i < 0 then .undefined else match us[i.toNat]? with
      | some u => .text [u]
      | none => .undefined)
  | "charAt" => do
    let i ← integer first
    pure (.text (if i < 0 then [] else (us[i.toNat]?).toList))
  | "charCodeAt" => do
    let i ← integer first
    pure (.number (if i < 0 then .nan else ((us[i.toNat]?).map Binary64.ofNat).getD .nan))
  | "codePointAt" => do
    let i ← integer first
    pure (if i < 0 then .undefined else match (Text.points (between us i.toNat (i.toNat + 2))) with
      | n :: _ => .ofNat n
      | [] => .undefined)
  | "slice" => do
    let i ← position length 0 first
    let j ← position length length second
    pure (.text (between us i j))
  | "substring" => do
    let i ← boundedPosition length 0 first
    let j ← boundedPosition length length second
    pure (.text (between us (min i j) (max i j)))
  | "substr" => do
    let i ← position length 0 first
    let count ← boundedPosition (length - i) (length - i : Nat) second
    pure (.text (between us i (i + count)))
  | "trim" => pure (.text (trimEnd (trimStart us)))
  | "trimStart" => pure (.text (trimStart us))
  | "trimEnd" => pure (.text (trimEnd us))
  | _ => failure

/-! ## Methods that look for something -/

/-- Calls a method of a text that looks for something in it. -/
def callFind (us : List Nat) (name : String) (args : List Value) : Eval Value := do
  let length := us.length
  let first := args.getD 0 .undefined
  let second := args.getD 1 .undefined
  match name with
  | "includes" => do
    let part ← partArgument first
    let start ← boundedPosition length 0 second
    pure (.bool (occurrenceFrom? us part start).isSome)
  | "startsWith" => do
    let part ← partArgument first
    let start ← boundedPosition length 0 second
    pure (.bool (part.isPrefixOf (us.drop start)))
  | "endsWith" => do
    let part ← partArgument first
    let stop ← boundedPosition length length second
    pure (.bool (part.isSuffixOf (us.take stop)))
  | "indexOf" => do
    let part ← text first
    let start ← boundedPosition length 0 second
    pure (positionValue (occurrenceFrom? us part start))
  | "lastIndexOf" => do
    let part ← text first
    let last ← double second
    let last := if last == .nan then endless else wholePart last
    pure (positionValue (if length < part.length then none
      else lastOccurrence? us part (min last.toNat (length - part.length))))
  | "search" => do
    let r ← patternOf first ""
    pure (positionValue ((r.search? us.toArray 0).map (·.first)))
  | "match" => do
    match (← memory).pattern? first with
    | some ⟨_, _, r, _⟩ =>
      if r.flags.global then
        match ← allMatches first r us with
        | [] => pure .null
        | fs => makeList (fs.map fun f => .text (between us f.first f.last))
      else match ← searchOnce first us with
        | some (r, f) => matchList r us f
        | none => pure .null
    | none =>
      let r ← patternOf first ""
      match r.search? us.toArray 0 with
      | some f => matchList r us f
      | none => pure .null
  | "matchAll" => do
    let r ← patternOf first "g"
    if !r.flags.global then failure
    let start := (((← memory).pattern? first).map (·.next)).getD 0
    let found := matchesFrom r us.toArray (us.length + 2) start
    make (.walk "RegExp String Iterator" (← found.mapM (matchList r us)))
  | "localeCompare" => do
    let other ← text first
    pure (.ofInt (match Text.collate (Text.points us) (Text.points other) with
      | .lt => -1
      | .eq => 0
      | .gt => 1))
  | _ => failure

/-! ## Methods of texts -/

def callText (call : Value → List Value → Eval Value) (us : List Nat) (name : String)
    (args : List Value) : Eval Value := do
  let first := args.getD 0 .undefined
  let second := args.getD 1 .undefined
  match name with
  | "toString" | "valueOf" => pure (.text us)
  | "concat" => do pure (.text (us ++ (← args.mapM text).flatten))
  | "repeat" => do pure (.text (← repeated us (← integer first)))
  | "padStart" => do pure (.text ((← padding us first second) ++ us))
  | "padEnd" => do pure (.text (us ++ (← padding us first second)))
  | "toLowerCase" | "toLocaleLowerCase" => pure (.text (onText Text.lower us))
  | "toUpperCase" | "toLocaleUpperCase" => pure (.text (onText Text.upper us))
  | "normalize" => do
    let form ← if first.isGiven then Eval.name first else pure "NFC"
    let form ← given (Text.NormalForm.ofName? form)
    pure (.text ((Text.normalize form (Text.points us)).flatMap Text.pointUnits))
  | "isWellFormed" => pure (.bool (!(Text.points us).any Text.isHalf))
  | "toWellFormed" => pure (.ofString (Text.ofUnits us))
  | "replace" => replace call us first second false
  | "replaceAll" => replace call us first second true
  | "split" => split us first second
  | name => match tags.lookup name, attributeTags.lookup name with
    | some tag, _ => pure (tagged tag none us)
    | none, some (tag, property) => do pure (tagged tag (some (property, ← text first)) us)
    | none, none =>
      if ["at", "charAt", "charCodeAt", "codePointAt", "slice", "substring", "substr", "trim",
          "trimStart", "trimEnd"].contains name then callPart us name args
      else callFind us name args

/-! ## Methods of numbers -/

def baseArgument (v : Value) : Eval Nat := do
  let base ← integerOr 10 v
  if base < 2 || 36 < base then failure else pure base.toNat

def callNumber (d : Binary64) (name : String) (args : List Value) : Eval Value := do
  let first := args.getD 0 .undefined
  match name with
  | "valueOf" => pure (.number d)
  | "toString" => do
    let base ← baseArgument first
    pure (.ofString (if base == 10 then d.text else d.baseText base))
  | "toLocaleString" => pure (.ofString d.shown)
  | "toFixed" => do
    let places ← integer first
    if places < 0 || 100 < places then failure
    pure (.ofString (d.fixed places.toNat))
  | "toExponential" => do
    let places ← integer first
    if d.isFinite && (places < 0 || 100 < places) then failure
    pure (.ofString (d.scientific (if first.isGiven then some places.toNat else none)))
  | "toPrecision" => do
    if !first.isGiven then pure (.ofString d.text)
    else
      let count ← integer first
      if d.isFinite && (count < 1 || 100 < count) then failure
      pure (.ofString (d.precise count.toNat))
  | _ => failure

def callWhole (i : Int) (name : String) (args : List Value) : Eval Value := do
  match name with
  | "valueOf" => pure (.whole i)
  | "toString" => do pure (.ofString (Binary64.intText (← baseArgument (args.getD 0 .undefined)) i))
  | "toLocaleString" => pure (.ofString
      (Binary64.signed (decide (i < 0)) (Binary64.grouped (Nat.toDigits 10 i.natAbs))))
  | _ => failure

end HttpScript.Query.Eval
