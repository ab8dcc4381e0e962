import HttpScript.Query.Navigation
import HttpScript.Text.Scan

/-!
# Sessions

A session keeps the last response under each name, so that later requests can refer to it:

    {{login.response.body}}   {{login.response.body.user.id}}   {{login.response.headers.ETag}}

Names are compared ignoring case, and the path of a body is a body path or, when it begins with `$`,
a query. A reference that leads nowhere stays as it was written. Queries are asked of the tree that
is kept, and what they change in it the next reference finds changed.

    get? (store s n r) m = r       when m equals n ignoring case
    names                          in the order in which they were first stored
    resolve s t                    the text, and the state in which it leaves the session
-/

namespace HttpScript

/-- A response that is kept, and the instant at which it was stored. -/
structure StoredResponse where
  status : Nat
  headers : Record String
  body : String
  storedAt : Int
  deriving DecidableEq, Repr

/-- The tree of the body, read anew; `none` when the body is not JSON. -/
def StoredResponse.tree (r : StoredResponse) : Option Body := Body.parse? r.body

/-- The response of a name: the name in lower case, its spelling, the response, and the tree of its
body as references have left it. -/
structure SessionEntry where
  key : String
  name : String
  response : StoredResponse
  tree : Option Query.Tree

/-- The entry of a response that has just come. -/
def SessionEntry.fresh (name : String) (response : StoredResponse) : SessionEntry :=
  ⟨Text.lower name, name, response, response.tree.map .fresh⟩

/-- The responses kept, by the order in which their names were first stored. -/
abbrev Session := List SessionEntry

namespace Session

/-! ## The map -/

def held? (s : Session) (name : String) : Option SessionEntry :=
  s.find? fun e => e.key == Text.lower name

def get? (s : Session) (name : String) : Option StoredResponse := (s.held? name).map (·.response)

/-- Puts an entry at the place of the one with its key, or last. -/
def put (entry : SessionEntry) : Session → Session
  | [] => [entry]
  | e :: r => if e.key == entry.key then entry :: r else e :: put entry r

/-- Keeps a response under a name; the empty name keeps nothing. -/
def store (s : Session) (name : String) (response : StoredResponse) : Session :=
  if name.isEmpty then s else s.put (.fresh name response)

/-- The names in the spelling in which they were last stored. -/
def names (s : Session) : List String := s.map (·.name)

/-! ## References -/

/-- What a reference asks for. -/
inductive ResponsePart where
  | body
  | headers
  deriving DecidableEq, Repr

/-- A reference to a response. -/
structure Reference where
  name : String
  part : ResponsePart
  path : Option String
  deriving DecidableEq, Repr

/-- The end of a reference: closing braces, or a point, a path without a closing brace, and then
closing braces. The path and the number of characters. -/
def referenceEnd? : List Char → Option (Option String × Nat)
  | '}' :: '}' :: _ => some (none, 2)
  | '.' :: s =>
    let path := s.takeWhile (· != '}')
    match s.dropWhile (· != '}') with
    | '}' :: '}' :: _ =>
      if path.isEmpty then none else some (some (String.ofList path), path.length + 3)
    | _ => none
  | _ => none

/-- Drops a text from the front. -/
def afterText? (front s : List Char) : Option (List Char) :=
  if front.isPrefixOf s then some (s.drop front.length) else none

/-- The reference at the start of a text, and how many characters it has after its first. -/
def referenceAt? : List Char → Option (Reference × Nat)
  | '{' :: '{' :: s => do
    let name := s.takeWhile Text.isIdentRest
    if !Text.isIdent name then none
    let s ← afterText? ".response.".toList (s.dropWhile Text.isIdentRest)
    let (part, length, s) ← ((afterText? "body".toList s).map fun s => (ResponsePart.body, 4, s)).or
      ((afterText? "headers".toList s).map fun s => (ResponsePart.headers, 7, s))
    let (path, rest) ← referenceEnd? s
    some (⟨String.ofList name, part, path⟩, 1 + name.length + 10 + length + rest)
  | _ => none

end Session

/-! ## Resolving -/

/-- A session in a running program: the responses it keeps, the patterns of the codes that the
program has run for any of its sessions, and the JSON library it runs with. -/
structure SessionState where
  session : Session
  patterns : Query.Patterns
  library : JsonLibrary

open Session (ResponsePart Reference referenceAt?)

/-- The text that a part of a response gives, with the tree and the patterns then. -/
def SessionEntry.answer (e : SessionEntry) (ps : Query.Patterns) (lib : JsonLibrary) :
    ResponsePart → Option String → Option String × SessionEntry × Query.Patterns
  | .headers, path => (path.bind fun p => e.response.headers.find? p, e, ps)
  | .body, none => (some e.response.body, e, ps)
  | .body, some path => match e.tree with
    | none => (none, e, ps)
    | some tree =>
      let a := tree.select lib ps path
      (a.node.bind (Body.leafText lib), { e with tree := some a.tree }, a.patterns)

namespace SessionState

/-- No response is kept, and no code has been run. -/
def start : SessionState := ⟨[], [], .byClass⟩

/-- The text that a reference stands for, and the state then. -/
def answer (s : SessionState) (r : Reference) : Option String × SessionState :=
  match s.session.held? r.name with
  | none => (none, s)
  | some e =>
    let (text, e, patterns) := e.answer s.patterns s.library r.part r.path
    (text, { s with session := s.session.put e, patterns })

/-- A text with its references replaced in one pass, one after the other, and the state then. -/
def replaceReferences (s : SessionState) (text : String) : String × SessionState :=
  let replacement (s : SessionState) (r : Reference) : Option (List Char) × SessionState :=
    let (value, s) := s.answer r
    (value.map String.toList, s)
  let (chars, s) := Text.replaceFoundIn replacement s (Text.scan referenceAt? text.toList)
  (String.ofList chars, s)

/-- A text with its references resolved. An empty text has none, and to an empty session nothing
refers; neither is looked through. -/
def resolve (s : SessionState) (text : String) : String × SessionState :=
  if text.isEmpty || s.session.isEmpty then (text, s) else s.replaceReferences text

/-! ## Operations -/

/-- What can be done with a session. A response that is stored carries the time that the clock
shows then. -/
inductive Operation where
  | store (name : String) (response : StoredResponse)
  | clear
  | resolve (text : String)
  | get (name : String)
  | names
  | size

/-- The state after an operation. Asking for responses, names or the size leaves it as it is. -/
def apply (s : SessionState) : Operation → SessionState
  | .store name response => { s with session := s.session.store name response }
  | .clear => { s with session := [] }
  | .resolve text => (s.resolve text).2
  | .get _ | .names | .size => s

/-- The state after operations, one after the other. -/
def run (s : SessionState) (ops : List Operation) : SessionState := ops.foldl apply s

end SessionState

end HttpScript
