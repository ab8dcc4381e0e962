import HttpScript.Record

/-!
# Headers

Headers of requests are records; those of responses are lists in the order of arrival. Headers that
describe a body travel with it and are dropped when there is none.

    outgoing h false   has no content header
    mergeDefaults d h  a header of h replaces a default of the same name ignoring case
    collect hs         one entry to a name in lower case, values joined by a comma
-/

namespace HttpScript.Header

/-! ## Requests -/

/-- The headers that describe a body. -/
def contentNames : List String :=
  ["content-type", "content-length", "content-encoding", "content-language", "content-location",
    "content-disposition", "content-md5", "content-range", "expires", "last-modified", "allow"]

def isContent (name : String) : Bool := contentNames.contains (Text.lower name)

def select (keep : String → Bool) (h : Record String) : Record String :=
  h.foldl (fun r e => if keep e.1 then r.assign e.1 e.2 else r) []

/-- The headers that do not describe a body. -/
def message (h : Record String) : Record String := select (!isContent ·) h

/-- The headers that describe a body. -/
def content (h : Record String) : Record String := select isContent h

/-- The headers that are sent. The length of a body is left to the transport. -/
def outgoing (h : Record String) (withBody : Bool) : Record String :=
  if withBody then
    (content h).foldl (fun r e =>
      if Text.lower e.1 == "content-length" then r else r.assign e.1 e.2) (message h)
  else message h

/-- Defaults first, without those that the request names ignoring case, then its own headers. -/
def mergeDefaults (defaults h : Record String) : Record String :=
  Record.merge
    (defaults.foldl (fun r e => if (h.findName? e.1).isSome then r else r.assign e.1 e.2) []) h

/-! ## Responses -/

/-- A value without spaces, tabs and line ends around it. -/
def trimValue (s : String) : String :=
  let isPad (c : Char) : Bool := c == ' ' || c == '\t' || c == '\n' || c == '\r'
  String.ofList ((s.toList.dropWhile isPad).reverse.dropWhile isPad).reverse

/-- Values with this name, compared by ASCII case, in order. -/
def values (hs : List (String × String)) (name : String) : List String :=
  hs.filterMap fun h => if Text.asciiLower h.1 == name then some (trimValue h.2) else none

/-- All values with this name joined by a comma, if there are any. -/
def joined? (hs : List (String × String)) (name : String) : Option String :=
  match values hs name with
  | [] => none
  | vs => some (", ".intercalate vs)

/-- Adds a name to an ascending list of names, unless it is there. -/
def insertName (name : String) : List String → List String
  | [] => [name]
  | n :: r => if name == n then n :: r else if name < n then name :: n :: r
    else n :: insertName name r

/-- The different names in lower case, ascending. -/
def sortedNames (hs : List (String × String)) : List String :=
  hs.foldl (fun ns h => insertName (Text.asciiLower h.1) ns) []

/-- The headers as a list by ascending name: equal names are joined, but each cookie stands on its
own. -/
def normalized (hs : List (String × String)) : List (String × String) :=
  (sortedNames hs).flatMap fun n =>
    if n == "set-cookie" then (values hs n).map (n, ·)
    else (joined? hs n).toList.map (n, ·)

/-- Adds a header to a record: a value that is there is kept in front. -/
def addValue (r : Record String) (name value : String) : Record String :=
  match r.textOf? name with
  | none => r.assign name value
  | some old => r.assign name (old ++ ", " ++ value)

/-- The headers of a response as a record, by name in lower case. -/
def collect (hs : List (String × String)) : Record String :=
  (normalized hs).foldl (fun r h => addValue r (Text.lower h.1) h.2) []

end HttpScript.Header
