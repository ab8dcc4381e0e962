import HttpScript.Url.Host

/-!
# URLs

URLs by the living standard: read on their own or against a base, written back, and compared by
origin. Special schemes are those of the web and of files; URLs of other schemes may have a path
without structure.

    parse? base s      the URL that s names, perhaps relative to base
    text u             the normal spelling of u
    sameOrigin u v     equal scheme, host and port, or both without an origin
-/

namespace HttpScript

/-- The path of a URL: segments, or a text without structure. -/
inductive UrlPath where
  | segments (names : List String)
  | bare (text : String)
  deriving DecidableEq, Repr

/-- A URL. A port that is the default of its scheme is not kept; `host` is `none` when the URL has
no authority. -/
structure Url where
  scheme : String
  username : String
  password : String
  host : Option Host
  port : Option Nat
  path : UrlPath
  query : Option String
  fragment : Option String
  deriving DecidableEq, Repr

namespace Url

/-! ## Schemes -/

/-- The special schemes and their default ports. -/
def specialSchemes : List (String × Option Nat) :=
  [("http", some 80), ("https", some 443), ("ws", some 80), ("wss", some 443), ("ftp", some 21),
    ("file", none)]

def isSpecial (scheme : String) : Bool := (specialSchemes.lookup scheme).isSome

def defaultPort? (scheme : String) : Option Nat := (specialSchemes.lookup scheme).join

/-- The scheme at the start of a text, in lower case, and what follows its colon. -/
def scheme? (s : List Char) : Option (String × List Char) :=
  let isPart (c : Char) : Bool := c.isAlphanum || c == '+' || c == '-' || c == '.'
  if !s.head?.any Char.isAlpha then none
  else match s.dropWhile isPart with
    | ':' :: r => some (String.ofList ((s.takeWhile isPart).map Char.toLower), r)
    | _ => none

/-! ## Paths -/

/-- Whether a character separates segments. -/
def isSlash (special : Bool) (c : Char) : Bool := c == '/' || (special && c == '\\')

/-- Whether two characters are a drive letter and its mark. -/
def isDrive (s : List Char) : Bool :=
  match s with
  | [a, b] => a.isAlpha && (b == ':' || b == '|')
  | _ => false

def startsWithDrive (s : List Char) : Bool :=
  isDrive (s.take 2) && match s.drop 2 with
    | [] => true
    | c :: _ => c == '/' || c == '\\' || c == '?' || c == '#'

/-- Whether a segment is a drive in its normal spelling. -/
def isNormalDrive (s : String) : Bool := isDrive s.toList && s.toList.getLast? == some ':'

def isDoubleDot (s : List Char) : Bool :=
  ["..", ".%2e", "%2e.", "%2e%2e"].contains (String.ofList (s.map Char.toLower))

def isSingleDot (s : List Char) : Bool :=
  [".", "%2e"].contains (String.ofList (s.map Char.toLower))

/-- Drops the last segment; the drive of a file stays. -/
def shorten (scheme : String) (path : List String) : List String :=
  match path with
  | [d] => if scheme == "file" && isNormalDrive d then path else []
  | path => path.dropLast

/-- Adds a segment to a path; the last one leaves a trailing slash behind dots. -/
def addSegment (scheme : String) (path : List String) (isLast : Bool) (s : List Char) :
    List String :=
  if isDoubleDot s then
    let shorter := shorten scheme path
    if isLast then shorter ++ [""] else shorter
  else if isSingleDot s then if isLast then path ++ [""] else path
  else
    let s := match s with
      | [a, b] => if scheme == "file" && path.isEmpty && isDrive [a, b] then [a, ':'] else s
      | s => s
    path ++ [encode inPathSet s]

def addSegments (scheme : String) (path : List String) : List (List Char) → List String
  | [] => path
  | [s] => addSegment scheme path true s
  | s :: r => addSegments scheme (addSegment scheme path false s) r

/-! ## Tails -/

/-- A text cut at the first character of a kind, which is kept at the front of the second part. -/
def cutBefore (stop : Char → Bool) (s : List Char) : List Char × List Char :=
  (s.takeWhile (!stop ·), s.dropWhile (!stop ·))

def endsPath (c : Char) : Bool := c == '?' || c == '#'

def withFragment (u : Url) : List Char → Url
  | '#' :: r => { u with fragment := some (encode inFragmentSet r) }
  | _ => u

/-- Reads a query and a fragment, as far as they are there. -/
def withTail (u : Url) (s : List Char) : Url :=
  match s with
  | '?' :: r =>
    let (q, rest) := cutBefore (· == '#') r
    let set := if isSpecial u.scheme then inSpecialQuerySet else inQuerySet
    withFragment { u with query := some (encode set q) } rest
  | s => withFragment u s

/-- Reads a path, to be added to the segments `before`, and what follows it. -/
def withPath (u : Url) (before : List String) (s : List Char) : Url :=
  let (p, tail) := cutBefore endsPath s
  let names := Text.splitBy (isSlash (isSpecial u.scheme)) p
  withTail { u with path := .segments (addSegments u.scheme before names) } tail

/-- Reads what follows an authority: one slash belongs to the path. -/
def withPathStart (u : Url) (s : List Char) : Url :=
  let special := isSpecial u.scheme
  match s with
  | c :: r =>
    if isSlash special c then withPath u [] r
    else if !special && endsPath c then withTail u s
    else withPath u [] s
  | [] => if special then withPath u [] [] else u

/-! ## Authorities -/

/-- User name, password and the rest of an authority; `none` for the first two when it names no
user. -/
def splitUser (s : List Char) : Option (List Char × List Char) × List Char :=
  match s.reverse.dropWhile (· != '@') with
  | [] => (none, s)
  | _ :: before =>
    let user := before.reverse
    let (name, rest) := cutBefore (· == ':') user
    (some (name, rest.drop 1), (s.reverse.takeWhile (· != '@')).reverse)

/-- Host and port of an authority: the first colon outside brackets separates them. -/
def splitPort (inside : Bool) : List Char → List Char × Option (List Char)
  | [] => ([], none)
  | c :: r =>
    if c == ':' && !inside then ([], some r)
    else
      let (h, p) := splitPort (if c == '[' then true else if c == ']' then false else inside) r
      (c :: h, p)

/-- The port that digits name: none of them, or the default of the scheme, is no port. -/
def port? (scheme : String) (ds : List Char) : Option (Option Nat) :=
  if !ds.all Char.isDigit then none
  else if ds.isEmpty then some none
  else
    let n := Text.digitsValue ds
    if 65535 < n then none
    else some (if defaultPort? scheme == some n then none else some n)

/-- Reads an authority and what follows it. -/
def withAuthority? (u : Url) (s : List Char) : Option Url := do
  let special := isSpecial u.scheme
  let (authority, rest) := cutBefore (fun c => isSlash special c || endsPath c) s
  let (user, place) := splitUser authority
  let (name, portText) := splitPort false place
  if name.isEmpty && (special || user.isSome || portText.isSome) then none
  let host ← if name.isEmpty then some .none else host? special name
  let port ← port? u.scheme (portText.getD [])
  let (username, password) := user.getD ([], [])
  some (withPathStart { u with
    username := encode inUserSet username, password := encode inUserSet password,
    host := some host, port := port } rest)

/-! ## Files -/

/-- Reads what follows the two slashes of a file URL: a host, unless a drive stands there. -/
def withFileHost? (u : Url) (s : List Char) : Option Url :=
  let (name, rest) := cutBefore (fun c => c == '/' || c == '\\' || endsPath c) s
  if isDrive name then some (withPath { u with host := some .none } [] s)
  else if name.isEmpty then some (withPathStart { u with host := some .none } rest)
  else (host? true name).map fun h =>
    withPathStart { u with host := some (if h == .domain "localhost" then .none else h) } rest

def names (u : Url) : List String :=
  match u.path with
  | .segments ns => ns
  | .bare _ => []

/-- Reads what follows the scheme of a file URL, or the whole of a relative one. -/
def fileUrl? (u : Url) (base : Option Url) (s : List Char) : Option Url :=
  let base := base.filter (·.scheme == "file")
  let u := { u with host := some .none }
  match s with
  | c :: r =>
    if isSlash true c then
      match r with
      | d :: r' => if isSlash true d then withFileHost? u r' else some (rooted u base r)
      | [] => some (rooted u base r)
    else match base with
      | some b => some (relative { u with host := b.host, path := b.path, query := b.query } b s)
      | none => some (withPath u [] s)
  | [] => match base with
    | some b => some { u with host := b.host, path := b.path, query := b.query }
    | none => some (withPath u [] [])
where
  /-- A path behind one slash: host and drive come from the base. -/
  rooted (u : Url) (base : Option Url) (s : List Char) : Url :=
    match base with
    | none => withPath u [] s
    | some b =>
      let drive := if startsWithDrive s then [] else (names b).take 1 |>.filter isNormalDrive
      withPath { u with host := b.host } drive s
  /-- A path, query or fragment on top of the base. -/
  relative (u : Url) (b : Url) (s : List Char) : Url :=
    match s with
    | '?' :: _ => withTail { u with query := none } s
    | '#' :: _ => withTail u s
    | _ =>
      if startsWithDrive s then withPath { u with query := none } [] s
      else withPath { u with query := none } (shorten "file" (names b)) s

/-! ## Reading -/

def ofScheme (scheme : String) : Url :=
  ⟨scheme, "", "", none, none, .segments [], none, none⟩

/-- Reads a text without a scheme against a base with segments. -/
def relative? (base : Url) (s : List Char) : Option Url :=
  let special := isSpecial base.scheme
  let u := { base with fragment := none }
  match s with
  | [] => some u
  | '?' :: _ => some (withTail { u with query := none } s)
  | '#' :: _ => some (withTail u s)
  | c :: r =>
    if isSlash special c then
      match r with
      | d :: r' =>
        if isSlash special d && (special || c == '/') then
          withAuthority? (ofScheme base.scheme)
            (if special then r'.dropWhile (isSlash true) else r')
        else some (withPath { u with query := none } [] r)
      | [] => some (withPath { u with query := none } [] r)
    else some (withPath { u with query := none } (shorten base.scheme (names base)) s)

/-- Reads what follows a scheme. -/
def afterScheme? (base : Option Url) (scheme : String) (s : List Char) : Option Url :=
  let u := ofScheme scheme
  if scheme == "file" then fileUrl? u base s
  else if isSpecial scheme then
    match base.filter (·.scheme == scheme), s with
    | some b, '/' :: '/' :: r => withAuthority? (ofScheme b.scheme) (r.dropWhile (isSlash true))
    | some b, s => relative? b s
    | none, s => withAuthority? u (s.dropWhile (isSlash true))
  else match s with
    | '/' :: '/' :: r => withAuthority? u r
    | '/' :: r => some (withPath u [] r)
    | s =>
      let (p, tail) := cutBefore endsPath s
      some (withTail { u with path := .bare (encode inControlSet p) } tail)

def cleaned (s : String) : List Char :=
  let isPad (c : Char) : Bool := c.toNat ≤ 0x20
  ((s.toList.dropWhile isPad).reverse.dropWhile isPad).reverse.filter fun c =>
    !(c == '\t' || c == '\n' || c == '\r')

def parse? (base : Option Url) (s : String) : Option Url :=
  let s := cleaned s
  match scheme? s with
  | some (scheme, r) => afterScheme? base scheme r
  | none => match base with
    | none => none
    | some b => match b.path, s with
      | .bare _, '#' :: _ => some (withFragment { b with fragment := none } s)
      | .bare _, _ => none
      | .segments _, s =>
        if b.scheme == "file" then fileUrl? (ofScheme "file") (some b) s else relative? b s

/-! ## Writing -/

def pathText (u : Url) : String :=
  match u.path with
  | .bare s => s
  | .segments ns => String.join (ns.map ("/" ++ ·))

/-- User name and password in front of a host. -/
def userText (u : Url) : String :=
  if u.username.isEmpty && u.password.isEmpty then ""
  else u.username ++ (if u.password.isEmpty then "" else ":" ++ u.password) ++ "@"

/-- Text of the authority, with its slashes. A path that begins with an empty segment is kept apart
from where an authority would stand. -/
def authorityText (u : Url) : String :=
  match u.host with
  | some h =>
    "//" ++ u.userText ++ h.text ++ (match u.port with | some p => ":" ++ toString p | none => "")
  | none => match u.path with
    | .segments ("" :: _ :: _) => "/."
    | _ => ""

def text (u : Url) : String :=
  u.scheme ++ ":" ++ u.authorityText ++ u.pathText ++
    (match u.query with | some q => "?" ++ q | none => "") ++
    (match u.fragment with | some f => "#" ++ f | none => "")

/-! ## Origins -/

/-- Scheme, host and port of a URL of the web; `none` for all others. -/
def ownOrigin? (u : Url) : Option (String × Option Host × Option Nat) :=
  if isSpecial u.scheme && u.scheme != "file" then some (u.scheme, u.host, u.port) else none

/-- The origin of a URL; a `blob:` URL has that of the web address inside it. -/
def origin? (u : Url) : Option (String × Option Host × Option Nat) :=
  if u.scheme == "blob" then
    match parse? none u.pathText with
    | some inner =>
      if inner.scheme == "http" || inner.scheme == "https" then inner.ownOrigin? else none
    | none => none
  else u.ownOrigin?

def sameOrigin (u v : Url) : Bool := u.origin? == v.origin?

end Url

end HttpScript
