import HttpScript.Number.Text
import HttpScript.Record

/-!
# Arguments

Reads the arguments of a command line as words and options:

    --name value   --name=value   --name   --no-name
    -n value   -nvalue   -n=value   -abc   -- words

Flags take no value other than `true` and `false`; options for several texts take everything up to
the next option. An option that is given again keeps all its values, a flag the last one. Options
that are not known are read all the same.
-/

namespace HttpScript.Command

/-! ## Options -/

/-- What an option holds. -/
inductive OptionKind where
  | flag
  | text
  | number
  | texts
  deriving DecidableEq, Repr

/-- An option and its spellings, without dashes. -/
structure OptionForm where
  kind : OptionKind
  spellings : List String
  deriving DecidableEq, Repr

/-- A value of an option. A number that was not given is missing. -/
inductive ArgumentValue where
  | missing
  | flag (b : Bool)
  | text (s : String)
  | number (d : Binary64)
  | list (items : List ArgumentValue)

/-- What has been read: words, words behind a double dash, and the values under every spelling of
their options. -/
structure Arguments where
  words : List String
  behind : List String
  values : Record ArgumentValue

namespace Arguments

/-- Nothing read yet. -/
def empty : Arguments := ⟨[], [], []⟩

def kindOf? (forms : List OptionForm) (name : String) : Option OptionKind :=
  (forms.find? (·.spellings.contains name)).map (·.kind)

/-! ## Spellings -/

/-- Upper case for every letter behind a dash or an underscore, both of which are dropped. -/
def raiseBehindDashes : (raise : Bool) → List Char → List Char
  | _, [] => []
  | raise, c :: r =>
    if c == '-' || c == '_' then raiseBehindDashes true r
    else (if raise then c.toUpper else c) :: raiseBehindDashes false r

/-- The spelling of a name with dashes as one word. A name that does not mix upper and lower case is
first put in lower case. -/
def joinedName (name : String) : String :=
  let mixed := name != Text.lower name && name != Text.upper name
  let s := if mixed then name else Text.lower name
  String.ofList (raiseBehindDashes false (s.toList.dropWhile (· == '-')))

/-- The spellings under which a value is kept, the one that was used first. -/
def spellingsOf (forms : List OptionForm) (name : String) : List String :=
  match forms.find? (·.spellings.contains name) with
  | some form => name :: form.spellings.filter (· != name)
  | none => if name.toList.contains '-' then [name, joinedName name] else [name]

/-- Whether an option may be given: it is known, or known as one word. -/
def isKnown (forms : List OptionForm) (name : String) : Bool :=
  (spellingsOf forms name).any fun s => (kindOf? forms s).isSome

/-! ## Values -/

/-- A value added to those that an option has. -/
def combine (kind : Option OptionKind) (old : Option ArgumentValue) (new : ArgumentValue) :
    ArgumentValue :=
  let items := match new with
    | .list xs => xs
    | x => [x]
  match old with
  | none | some .missing => if kind == some .texts then .list items else new
  | some (.list xs) => if kind == some .texts then .list (xs ++ items) else .list (xs ++ [new])
  | some old => if kind == some .flag then new else .list [old, new]

/-- Keeps a value under every spelling of an option; of a name with points the first part counts. -/
def put (forms : List OptionForm) (a : Arguments) (name : String) (v : ArgumentValue) :
    Arguments :=
  let values := (spellingsOf forms name).foldl (fun r s =>
    let key := String.ofList (s.toList.takeWhile (· != '.'))
    r.put key (combine (kindOf? forms s) (r.get? key) v)) a.values
  { a with values }

/-- The value that a text stands for. -/
def valueOf (kind : Option OptionKind) (s : String) : ArgumentValue :=
  match kind with
  | some .flag => .flag (s == "true")
  | some .number => .number (.ofText s)
  | _ => .text s

def bareValue : Option OptionKind → ArgumentValue
  | some .number => .missing
  | some .text | some .texts => .text ""
  | _ => .flag true

/-- The value of an option that is given with `no-` in front. -/
def negatedValue : Option OptionKind → ArgumentValue
  | some .number => .number 0
  | some .texts => .list [.flag false]
  | _ => .flag false

/-- Without a pair of equal quotes around it. -/
def unquoted (s : String) : String :=
  match s.toList with
  | q :: r =>
    if (q == '\'' || q == '"') && r.getLast? == some q then String.ofList r.dropLast else s
  | [] => s

/-! ## Following arguments -/

/-- Digits, then perhaps a point and digits. -/
def isPlainDecimal (s : List Char) : Bool :=
  match Text.splitBy (· == '.') s with
  | [whole] => !whole.isEmpty && whole.all Char.isDigit
  | [whole, places] => whole.all Char.isDigit && !places.isEmpty && places.all Char.isDigit
  | _ => false

def isNegative (s : String) : Bool :=
  match s.toList with
  | '-' :: r => isPlainDecimal r
  | _ => false

/-- Whether an argument ends the values of a long option. -/
def endsValues (s : String) : Bool := Text.startsWith "-" s && !isNegative s

/-- Whether an argument cannot be the value of a short option. -/
def endsShort (s : String) : Bool :=
  let dashed := match s.toList with
    | '-' :: '-' :: c :: _ => c != '-'
    | '-' :: c :: _ => c != '-'
    | _ => false
  dashed && !isNegative s

/-- The value that an option takes from the arguments behind it, and the number of arguments
taken. -/
def nextValue (kind : Option OptionKind) (ends : String → Bool) :
    List String → ArgumentValue × Nat
  | next :: _ =>
    if (kind != some .flag && !ends next) || next == "true" || next == "false" then
      (valueOf kind next, 1)
    else (bareValue kind, 0)
  | [] => (bareValue kind, 0)

/-- The texts that an option takes: one that is attached, and all up to the next option. -/
def nextTexts (attached : Option String) (rest : List String) : ArgumentValue × Nat :=
  if attached == some "" && rest.isEmpty then (.list [], 0)
  else
    let taken := rest.takeWhile (!endsValues ·)
    (.list ((attached.toList.map unquoted ++ taken).map .text), taken.length)

def readApart (forms : List OptionForm) (a : Arguments) (name : String) (ends : String → Bool)
    (rest : List String) : Arguments × Nat :=
  let kind := kindOf? forms name
  let (value, taken) :=
    if kind == some .texts then nextTexts none rest else nextValue kind ends rest
  (put forms a name value, taken)

/-- Reads an option with a value attached to it. Of texts the quotes are dropped, of other values
only where they are asked to be. -/
def readAttached (forms : List OptionForm) (a : Arguments) (name value : String)
    (dropQuotes : Bool) (rest : List String) : Arguments × Nat :=
  let kind := kindOf? forms name
  if kind == some .texts then
    let (v, taken) := nextTexts (some value) rest
    (put forms a name v, taken)
  else (put forms a name (valueOf kind (if dropQuotes then unquoted value else value)), 0)

/-! ## Short options -/

/-- Whether a text is a number that may follow a letter directly. -/
def isAttachedNumber (s : List Char) : Bool :=
  let unsigned (s : List Char) : List Char := if s.head? == some '-' then s.drop 1 else s
  match Text.splitBy (· == 'e') (unsigned s) with
  | [n] => n.head? != some '.' && isPlainDecimal n
  | [n, e] => n.head? != some '.' && isPlainDecimal n && !(unsigned e).isEmpty &&
      (unsigned e).all Char.isDigit
  | _ => false

/-- Reads letters behind one dash, each of them an option. -/
def readLetters (forms : List OptionForm) (rest : List String) (a : Arguments) :
    List Char → Arguments × Nat
  | [] => (a, 0)
  | [c] => if c == '-' then (a, 0) else readApart forms a (String.singleton c) endsShort rest
  | c :: d :: more =>
    let name := String.singleton c
    let attached := valueOf (kindOf? forms name) (String.ofList (d :: more))
    if d == '=' && !more.isEmpty then readAttached forms a name (String.ofList more) false rest
    else if d == '-' && more.isEmpty then (put forms a name attached, 0)
    else if (c.isAlpha && isAttachedNumber (d :: more)) || (!Text.isIdentRest d && !more.isEmpty)
    then (put forms a name attached, 0)
    else readLetters forms rest (put forms a name (bareValue (kindOf? forms name))) (d :: more)

/-! ## Reading -/

/-- Reads what follows two dashes. -/
def readLong (forms : List OptionForm) (a : Arguments) (s : List Char) (rest : List String) :
    Arguments × Nat :=
  let noText := "no-".toList
  if (s.drop 1).contains '=' then
    let name := s.takeWhile (· != '=')
    let name := if name.isEmpty then ['-'] else name
    readAttached forms a (String.ofList name) (String.ofList ((s.dropWhile (· != '=')).drop 1)) true
      rest
  else if noText.isPrefixOf s && s.length > noText.length then
    let name := String.ofList (s.drop noText.length)
    (put forms a name (negatedValue (kindOf? forms name)), 0)
  else readApart forms a (String.ofList s) endsValues rest

def readShort (forms : List OptionForm) (a : Arguments) (s : List Char) (rest : List String) :
    Arguments × Nat :=
  match s with
  | c :: '.' :: d :: more =>
    match Text.cutAt? (· == '=') more with
    | some (name, value) =>
      (put forms a (String.ofList (c :: '.' :: d :: name)) (.text (String.ofList value)), 0)
    | none => readApart forms a (String.ofList s) endsValues rest
  | _ => readLetters forms rest a s

/-- Reads one argument, and perhaps values for it from those that follow. -/
def readOne (forms : List OptionForm) (a : Arguments) (arg : String) (rest : List String) :
    Arguments × Nat :=
  let word := ({ a with words := a.words ++ [arg] }, 0)
  match arg.toList with
  | '-' :: '-' :: s =>
    let tail := s.dropWhile (· == '-')
    if s.isEmpty || (s.head? == some '-' && (tail.isEmpty || tail.head? == some '=')) then word
    else readLong forms a s rest
  | '-' :: s => if s.isEmpty || isNegative arg then word else readShort forms a s rest
  | _ => word

/-- Reads arguments. What stands behind a double dash is not looked at. -/
def readAll (forms : List OptionForm) (a : Arguments) : List String → Arguments
  | [] => a
  | arg :: rest =>
    if arg == "--" then { a with behind := rest }
    else
      let (a, taken) := readOne forms a arg rest
      readAll forms a (rest.drop taken)
  termination_by args => args.length
  decreasing_by simp only [List.length_drop, List.length_cons]; omega

def read (forms : List OptionForm) (args : List String) : Arguments := readAll forms empty args

def unknownNames (forms : List OptionForm) (a : Arguments) : List String :=
  a.values.names.filter (!isKnown forms ·)

end Arguments

/-! ## Looking up -/

mutual

def ArgumentValue.asText : ArgumentValue → String
  | .missing => ""
  | .flag b => if b then "true" else "false"
  | .text s => s
  | .number d => d.text
  | .list items => ",".intercalate (asTexts items)

def ArgumentValue.asTexts : List ArgumentValue → List String
  | [] => []
  | v :: r => v.asText :: asTexts r

end

namespace Arguments

/-- Whether a value was given under a name. -/
def gives (a : Arguments) (name : String) : Bool :=
  match a.values.get? name with
  | none | some .missing => false
  | some _ => true

def text? (a : Arguments) (name : String) : Option String :=
  if a.gives name then (a.values.get? name).map (·.asText) else none

/-- The number under a name; one that was given more than once is none. -/
def number? (a : Arguments) (name : String) : Option Binary64 :=
  match a.values.get? name with
  | none | some .missing => none
  | some (.number d) => some d
  | some _ => some .nan

def isSet (a : Arguments) (name : String) : Bool :=
  match a.values.get? name with
  | some (.flag b) => b
  | _ => false

def texts (a : Arguments) (name : String) : List String :=
  match a.values.get? name with
  | some (.list items) => items.map (·.asText)
  | _ => []

end Arguments

end HttpScript.Command
