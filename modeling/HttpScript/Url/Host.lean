import HttpScript.Charset

/-!
# Hosts

The host of a URL is a domain, an IPv4 address in any of its spellings, an IPv6 address in brackets,
or, in URLs of other schemes, a text as it stands. Domains are ASCII.
-/

namespace HttpScript

/-- A host. -/
inductive Host where
  | none
  | domain (name : String)
  | ipv4 (address : Nat)
  | ipv6 (pieces : List Nat)
  | verbatim (text : String)
  deriving DecidableEq, Repr

namespace Url

/-! ## Percent encoding -/

/-- A byte as a percent sign and two digits. -/
def percentByte (b : UInt8) : List Char :=
  '%' :: (Text.natText 16 2 b.toNat).map Char.toUpper

/-- A text in which each character of a set is replaced by its bytes in UTF-8. -/
def encode (set : Char → Bool) (s : List Char) : String :=
  String.ofList (s.flatMap fun c =>
    if set c then (String.singleton c).toUTF8.toList.flatMap percentByte else [c])

/-- Control characters and all that is not ASCII. -/
def inControlSet (c : Char) : Bool := c.toNat ≤ 0x1F || c.toNat > 0x7E

def inFragmentSet (c : Char) : Bool :=
  inControlSet c || c == ' ' || c == '"' || c == '<' || c == '>' || c == '\x60'

def inQuerySet (c : Char) : Bool :=
  inControlSet c || c == ' ' || c == '"' || c == '#' || c == '<' || c == '>'

def inSpecialQuerySet (c : Char) : Bool := inQuerySet c || c == '\''

def inPathSet (c : Char) : Bool :=
  inQuerySet c || c == '?' || c == '\x60' || c == '{' || c == '}'

/-- The characters that are encoded in a user name and a password. -/
def inUserSet (c : Char) : Bool :=
  inPathSet c || "/:;=@[\\]^|".toList.contains c

/-- The bytes of a text, with percent encoding undone; what is no encoding is kept. -/
def decodeBytes : List Char → Bytes
  | [] => []
  | '%' :: a :: b :: r => match Text.hexValue? a, Text.hexValue? b with
    | some x, some y => UInt8.ofNat (16 * x + y) :: decodeBytes r
    | _, _ => 37 :: decodeBytes (a :: b :: r)
  | c :: r => (String.singleton c).toUTF8.toList ++ decodeBytes r

/-! ## IPv4 -/

/-- A number in decimal, in octal after a zero, or in hexadecimal after `0x`. -/
def ipv4Number? (s : List Char) : Option Nat :=
  let inBase (base : Nat) (ds : List Char) : Option Nat :=
    ds.foldl (fun n c => n.bind fun n => ((Text.hexValue? c).filter (· < base)).map (base * n + ·))
      (some 0)
  match s with
  | [] => none
  | '0' :: x :: ds =>
    if x == 'x' || x == 'X' then inBase 16 ds else inBase 8 (x :: ds)
  | ds => inBase 10 ds

/-- The parts between points; one empty part at the end does not count. -/
def domainParts (s : List Char) : List (List Char) :=
  let parts := Text.splitBy (· == '.') s
  if 1 < parts.length && parts.getLast? == some [] then parts.dropLast else parts

/-- Whether the last part of a domain is a number, so that the domain has to be an address. -/
def endsInNumber (s : List Char) : Bool :=
  match (domainParts s).getLast? with
  | some p => !p.isEmpty && (p.all Char.isDigit || (ipv4Number? p).isSome)
  | none => false

/-- The address of a text: up to four numbers, of which the last fills what is left. -/
def ipv4? (s : List Char) : Option Nat := do
  let numbers ← (domainParts s).foldr (fun p r => do
    let n ← ipv4Number? p
    let ns ← r
    pure (n :: ns)) (some [])
  let last ← numbers.getLast?
  let leading := numbers.dropLast
  if 4 < numbers.length || leading.any (255 < ·) ||
      Nat.pow 256 (5 - numbers.length) ≤ last then none
  else some (leading.zipIdx.foldl (fun sum (n, i) => sum + n * Nat.pow 256 (3 - i)) last)

def ipv4Text (n : Nat) : String :=
  ".".intercalate ([3, 2, 1, 0].map fun i => toString (n / Nat.pow 256 i % 256))

/-! ## IPv6 -/

/-- One decimal number of an IPv4 address inside an IPv6 address. -/
def byteNumber? (s : List Char) : Option Nat :=
  if s.isEmpty || !s.all Char.isDigit || (1 < s.length && s.head? == some '0') then none
  else
    let n := Text.digitsValue s
    if n ≤ 255 then some n else none

/-- The pieces of a group between colons: one of up to four digits, or two for an IPv4 address. -/
def ipv6Group? (isLast : Bool) (s : List Char) : Option (List Nat) :=
  if !s.isEmpty && s.length ≤ 4 && s.all (fun c => (Text.hexValue? c).isSome) then
    some [s.foldl (fun n c => 16 * n + (Text.hexValue? c).getD 0) 0]
  else if isLast then
    match (Text.splitBy (· == '.') s).map byteNumber? with
    | [some a, some b, some c, some d] => some [256 * a + b, 256 * c + d]
    | _ => none
  else none

def ipv6Groups? (isLast : Bool) : List (List Char) → Option (List Nat)
  | [] => some []
  | [g] => ipv6Group? isLast g
  | g :: r => do
    let ps ← ipv6Group? false g
    let rest ← ipv6Groups? isLast r
    pure (ps ++ rest)

/-- The text before and after the first two colons that stand together. -/
def splitCompressed? : List Char → Option (List Char × List Char)
  | [] => none
  | ':' :: ':' :: r => some ([], r)
  | c :: r => (splitCompressed? r).map fun (a, b) => (c :: a, b)

/-- The eight pieces of an address. Two colons together stand for at least one zero. -/
def ipv6? (s : List Char) : Option (List Nat) :=
  let groups (t : List Char) : List (List Char) :=
    if t.isEmpty then [] else Text.splitBy (· == ':') t
  match splitCompressed? s with
  | none => do
    let ps ← ipv6Groups? true (groups s)
    if ps.length == 8 then some ps else none
  | some (a, b) => do
    let ps ← ipv6Groups? false (groups a)
    let qs ← ipv6Groups? true (groups b)
    if ps.length + qs.length < 8 then
      some (ps ++ List.replicate (8 - ps.length - qs.length) 0 ++ qs)
    else none

/-- The number of zeros at the start of pieces. -/
def zeroRun (pieces : List Nat) : Nat := (pieces.takeWhile (· == 0)).length

/-- Start and length of the first longest run of zeros. -/
def longestZeroRun (pieces : List Nat) : Nat × Nat :=
  (List.range 8).foldl (fun best i =>
    let n := zeroRun (pieces.drop i)
    if best.2 < n then (i, n) else best) (0, 0)

/-- Text of an IPv6 address: the first longest run of zeros, if there are at least two, is left
out. -/
def ipv6Text (pieces : List Nat) : String :=
  let hex (ps : List Nat) : String :=
    ":".intercalate (ps.map fun p => String.ofList (Text.natText 16 1 p))
  let (start, length) := longestZeroRun pieces
  if length < 2 then hex pieces
  else hex (pieces.take start) ++ "::" ++ hex (pieces.drop (start + length))

/-! ## Reading and writing -/

def isForbidden (c : Char) : Bool :=
  c.toNat == 0 || "\t\n\r #/:<>?@[\\]^|".toList.contains c

def isForbiddenInDomain (c : Char) : Bool :=
  isForbidden c || c.toNat ≤ 0x1F || c == '%' || c.toNat ≥ 0x7F

/-- The host of a text; `special` tells that it is a domain or an address. -/
def host? (special : Bool) (s : List Char) : Option Host :=
  match s with
  | '[' :: r =>
    if r.getLast? == some ']' then (ipv6? r.dropLast).map .ipv6 else none
  | _ =>
    if !special then
      if s.any isForbidden then none else some (.verbatim (encode inControlSet s))
    else
      let domain := (Charset.utf8From none ((decodeBytes s).map UInt8.toNat)).map Char.toLower
      if domain.isEmpty || domain.any isForbiddenInDomain then none
      else if endsInNumber domain then (ipv4? domain).map .ipv4
      else some (.domain (String.ofList domain))

end Url

def Host.text : Host → String
  | none => ""
  | domain s => s
  | ipv4 n => Url.ipv4Text n
  | ipv6 ps => "[" ++ Url.ipv6Text ps ++ "]"
  | verbatim s => s

end HttpScript
