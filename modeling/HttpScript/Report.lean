import HttpScript.Display
import HttpScript.Execution
import HttpScript.Json.Parse

/-!
# Reports

Requests, events and results as a reader sees them, as text or as JSON.

    summary      GET https://host/ -> 200 OK (12ms, 1.5 KB)
    requestLine    [0] login: POST https://host/ (lines 2-6)
    eventLine    [responseStored] followed by the details as JSON
-/

namespace HttpScript.Report

/-! ## Text -/

def headersText (h : Record String) : String :=
  "\n".intercalate (h.map fun e => "  " ++ e.1 ++ ": " ++ e.2)

def tree? (contentType : Option String) (body : String) : Option (Json Binary64) :=
  if Display.BodyKind.of contentType body == .json then Json.parseDoubles? body else none

/-- A body as it is shown: JSON is indented, everything else stays as it is. -/
def bodyText (contentType : Option String) (body : String) : String :=
  match tree? contentType body with
  | some v => v.indented
  | none => body

def statusText (r : Response) : String :=
  if r.statusText.isEmpty then toString r.status else toString r.status ++ " " ++ r.statusText

def summary (r : ExecutionResult) : String :=
  let target := r.request.method ++ " " ++ r.request.url ++ " -> "
  let duration := Display.briefDuration r.timing.total
  match r.response with
  | none => target ++ "failed after " ++ duration
  | some response => target ++ statusText response ++ " (" ++ duration ++ ", " ++
      Display.size (.ofNat response.sizeBytes) ++ ")"

def failureText : Option Failure → String
  | some f => "Request failed [" ++ f.kind.text ++ "]: " ++ f.message
  | none => "Request failed"

/-- A response: its status, its headers, an empty line and its body. -/
def responseText (r : Response) : String :=
  let status := String.ofList (Text.trimEnd ("HTTP " ++ statusText r).toList)
  let headers := headersText r.headers
  let body := bodyText r.contentType r.body
  "\n".intercalate (status :: (if headers.isEmpty then [] else [headers]) ++ "" ::
    if body.isEmpty then [] else [body])

/-- A result with everything that a reader wants to see. -/
def resultText (r : ExecutionResult) : String :=
  match r.response with
  | some response => responseText response
  | none => failureText r.failure

def requestLine (index : Nat) (r : Request) : String :=
  "  [" ++ toString index ++ "] " ++ r.name.getD "(unnamed)" ++ ": " ++ r.method ++ " " ++ r.url ++
    " (lines " ++ toString r.startLine ++ "-" ++ toString r.endLine ++ ")"

def detailsLine (kind : String) (details : List (String × Json Binary64)) : String :=
  "[" ++ kind ++ "] " ++ (Json.record details).compact

def eventLine (e : Event) : String := detailsLine e.kind e.details

/-! ## JSON -/

def ofNat (n : Nat) : Json Binary64 := .number (.ofNat n)

def ofRecord (r : Record String) : Json Binary64 := .record (r.map fun e => (e.1, .text e.2))

/-- A member that is left out when it has no value. -/
def optionalText (name : String) (value : Option String) : List (String × Json Binary64) :=
  (value.map fun s => (name, Json.text s)).toList

def ofRequest (r : Request) : Json Binary64 :=
  .record ([("method", .text r.method), ("url", .text r.url), ("headers", ofRecord r.headers),
    ("variables", ofRecord r.bindings), ("startLine", ofNat r.startLine),
    ("endLine", ofNat r.endLine)] ++ optionalText "name" r.name ++ optionalText "body" r.body)

def ofDocument (d : Document) : Json Binary64 :=
  .record [("requests", .list (d.requests.map ofRequest)),
    ("fileVariables", ofRecord d.fileVariables)]

/-- A request as it was sent. -/
def ofResolved (r : ResolvedRequest) : Json Binary64 :=
  .record ([("method", .text r.method), ("url", .text r.url), ("headers", ofRecord r.headers)] ++
    optionalText "body" r.body)

def ofTiming (t : Timing) : Json Binary64 :=
  .record [("total", .number t.total), ("ttfb", .number t.ttfb), ("download", .number t.download),
    ("dns", .number t.dns), ("connect", .number t.connect), ("tls", .number t.tls)]

def ofCookie (c : Cookie) : Json Binary64 :=
  .record ([("name", .text c.name), ("value", .text c.value), ("httpOnly", .bool c.httpOnly),
    ("secure", .bool c.secure), ("raw", .text c.raw)] ++ optionalText "domain" c.domain ++
    optionalText "path" c.path ++ optionalText "expires" (c.expires.map Calendar.isoText) ++
    optionalText "sameSite" c.sameSite)

/-- A body: JSON as a value, everything else as a text. -/
def ofBody (contentType : Option String) (body : String) : Json Binary64 :=
  (tree? contentType body).getD (.text body)

/-- A response. The bytes of its body are left out. -/
def ofResponse (r : Response) : Json Binary64 :=
  .record ([("status", ofNat r.status), ("statusText", .text r.statusText),
    ("headers", ofRecord r.headers), ("cookies", .list (r.cookies.map ofCookie))] ++
    optionalText "contentType" r.contentType ++
    [("sizeBytes", ofNat r.sizeBytes), ("body", ofBody r.contentType r.body)])

def ofFailure (f : Failure) : Json Binary64 :=
  .record [("kind", .text f.kind.text), ("message", .text f.message)]

def ofResult (r : ExecutionResult) : Json Binary64 :=
  .record ([("success", .bool r.success), ("executedAt", .text (Calendar.isoText r.executedAt)),
    ("request", ofResolved r.request), ("timing", ofTiming r.timing)] ++
    (r.response.map fun response => ("response", ofResponse response)).toList ++
    (r.failure.map fun f => ("error", ofFailure f)).toList)

end HttpScript.Report
