import HttpScript.Cookie
import HttpScript.Dispatch
import HttpScript.Document
import HttpScript.Event
import HttpScript.Resolver
import HttpScript.Session

/-!
# Execution

One request is resolved, sent and timed, and its response is read and kept for later requests. A
failure is part of the result. A document is executed request by request.

    execute          the result, with the events and calls that led to it and the session after it
    executeDocument  runs the selected requests in order, up to the first failure if so asked
-/

namespace HttpScript

/-! ## Responses -/

/-- A response that has been read. `sizeBytes` is the number of bytes of its body. -/
structure Response where
  status : Nat
  statusText : String
  headers : Record String
  cookies : List Cookie
  body : String
  bytes : Bytes
  sizeBytes : Nat
  contentType : Option String

/-- Reads a response, unless its body cannot be read. -/
def Response.read (reply : Reply) : Except Fault Response :=
  match reply.body with
  | .error fault => .error fault
  | .ok bytes =>
    let headers := Header.collect reply.headers
    let contentType := headers.get? "content-type"
    .ok {
      status := reply.status
      statusText := reply.statusText
      headers
      cookies := (Header.values reply.headers "set-cookie").filterMap Cookie.parse?
      body := Charset.decodeBody bytes contentType
      bytes
      sizeBytes := bytes.length
      contentType }

/-! ## Results -/

/-- A request with all placeholders and references resolved. -/
structure ResolvedRequest where
  method : String
  url : String
  headers : Record String
  body : Option String
  deriving DecidableEq, Repr

/-- Durations in milliseconds. Phases that cannot be observed are zero. -/
structure Timing where
  total : Binary64
  ttfb : Binary64
  download : Binary64
  dns : Binary64
  connect : Binary64
  tls : Binary64
  deriving DecidableEq, Repr

/-- A timing of which only the whole and the wait for the response are known. -/
def Timing.brief (total ttfb : Binary64) : Timing := ⟨total, ttfb, 0, 0, 0, 0⟩

/-- The outcome of one request. -/
structure ExecutionResult where
  success : Bool
  request : ResolvedRequest
  response : Option Response
  timing : Timing
  executedAt : Int
  failure : Option Failure

/-! ## Conditions -/

/-- What surrounds a run: the values that generators draw on, the stopwatch by the number of
earlier readings, and the transport. -/
structure Surroundings where
  ambient : Ambient
  stopwatch : Nat → Binary64
  transport : Transport

/-- The settings of a run. -/
structure ExecutorSettings where
  policy : Dispatch.Policy
  headerDefaults : Record String

/-- What changes during a run: the session with the patterns of the program, the resolver, the
number of readings and calls made so far, and whether the caller's signal has been aborted. -/
structure ExecutorState extends SessionState where
  resolver : Resolver
  readings : Nat
  calls : Nat
  aborted : Bool

/-- What one execution did. It is broken off when what it failed with cannot even be described. -/
structure Execution where
  result : ExecutionResult
  events : List Event
  trace : List DispatchStep
  state : ExecutorState
  broken : Option Fault

namespace Execution

/-! ## Resolving -/

/-- A field with its references to responses replaced first and its placeholders then, and the state
that the references leave. -/
def resolveField (ambient : Ambient) (resolver : Resolver) (own file : Record String)
    (s : SessionState) (template : String) : String × SessionState :=
  let (text, s) := s.resolve template
  (resolver.resolve ambient own file text, s)

/-- Header values resolved from the first to the last. -/
def resolveHeaders (field : SessionState → String → String × SessionState) (s : SessionState)
    (headers : Record String) : Record String × SessionState :=
  headers.foldl (fun (done, s) e =>
    let (value, s) := field s e.2
    (done.assign e.1 value, s)) ([], s)

/-- A field that need not be there. -/
def resolveOptional (field : SessionState → String → String × SessionState) (s : SessionState) :
    Option String → Option String × SessionState
  | none => (none, s)
  | some template =>
    let (text, s) := field s template
    (some text, s)

/-- The request that is sent for a request as written: the headers are resolved first, then the URL
and the body. -/
def resolveRequest (ambient : Ambient) (resolver : Resolver) (headerDefaults file : Record String)
    (s : SessionState) (r : Request) : ResolvedRequest × SessionState :=
  let field := resolveField ambient resolver r.bindings file
  let (headers, s) := resolveHeaders field s (Header.mergeDefaults headerDefaults r.headers)
  let (url, s) := field s r.url
  let (body, s) := resolveOptional field s r.body
  (⟨r.method, url, headers, body⟩, s)

def outgoing (r : ResolvedRequest) : SentRequest :=
  let withBody := SentRequest.carriesBody r.method r.body
  { method := r.method
    url := r.url
    headers := some (Header.outgoing r.headers withBody)
    body := if withBody then r.body else none }

/-! ## Timing -/

/-- A duration rounded to two places. -/
def roundTwo (d : Binary64) : Binary64 := ((d.mul 100).round).div 100

/-- The time between two readings. -/
def elapsed (s : Surroundings) (first later : Nat) : Binary64 :=
  roundTwo ((s.stopwatch later).sub (s.stopwatch first))

/-- The time that is left of the whole after the wait for the response. -/
def download (total ttfb : Binary64) : Binary64 := (roundTwo (total.sub ttfb)).atLeastZero

/-! ## Executing -/

def hopEvent (h : Hop) : Event := .redirectFollowed h.status h.source h.target

/-- The watch over a request that went through the steps of a trace. -/
def watchAfter (signal : Option Bool) (trace : List DispatchStep) : Watch :=
  (Watch.start signal).run (Dispatch.signals trace)

/-- What a run got: a response that was read, or a fault, perhaps after waiting for a response. -/
inductive Fetched where
  | read (response : Response)
  | unreadable (reply : Reply) (fault : Fault)
  | failed (fault : Fault)

/-- Sends a resolved request, unless its URL is none. -/
def fetch (s : Surroundings) (p : Dispatch.Policy) (earlier : Nat) (r : ResolvedRequest) :
    List DispatchStep × Fetched :=
  if (Url.parse? none r.url).isNone then ([], .failed .invalidUrl)
  else match Dispatch.dispatch s.transport p true earlier (outgoing r) with
    | (trace, .error fault) => (trace, .failed fault)
    | (trace, .ok reply) => match Response.read reply with
      | .ok response => (trace, .read response)
      | .error fault => (trace, .unreadable reply fault)

/-- Keeps a response under the name of a request, if it has one. -/
def keep (session : Session) (name : Option String) (now : Int) (r : Response) : Session :=
  session.store (name.getD "") ⟨r.status, r.headers, r.body, now⟩

/-- A request that has been sent: as written and as resolved, where the run stood by then, and the
steps that were taken. -/
structure Attempt where
  request : Request
  resolved : ResolvedRequest
  before : ExecutorState
  trace : List DispatchStep

namespace Attempt

def time (a : Attempt) (s : Surroundings) (readings : Nat) : Binary64 :=
  elapsed s a.before.readings (a.before.readings + readings)

/-- The state after an attempt, with the session and the number of readings that it leaves. -/
def after (a : Attempt) (session : Session) (readings : Nat) : ExecutorState :=
  { a.before with
    session
    readings := a.before.readings + readings
    calls := a.before.calls + (Dispatch.calls a.trace).length
    aborted := a.before.aborted || (Dispatch.signals a.trace).contains .callerAbort }

/-- The events up to the last redirect. Nothing is fetched from what is no URL. -/
def opening (a : Attempt) : List Event :=
  [.resolveStarted a.request.method a.request.url,
    .resolveFinished a.resolved.method a.resolved.url] ++
    (if (Url.parse? none a.resolved.url).isSome then
      [.fetchStarted a.resolved.method a.resolved.url] else []) ++
    (Dispatch.hops a.trace).map hopEvent

def arrived (a : Attempt) (s : Surroundings) (status : Nat) : Event :=
  .fetchFinished a.resolved.method a.resolved.url status (a.time s 1)

def stored (a : Attempt) (status : Nat) : List Event :=
  match a.request.name with
  | some name => if name.isEmpty then [] else [.responseStored name status]
  | none => []

def succeed (a : Attempt) (s : Surroundings) (response : Response) : Execution :=
  let total := a.time s 2
  let ttfb := a.time s 1
  { result := {
      success := true, request := a.resolved, response := some response,
      timing := { Timing.brief total ttfb with download := download total ttfb },
      executedAt := s.ambient.now, failure := none }
    events := a.opening ++ a.arrived s response.status :: a.stored response.status
    trace := a.trace
    state := a.after (keep a.before.session a.request.name s.ambient.now response) 3
    broken := none }

/-- The execution of a request that failed after some readings, perhaps with a response that had
arrived. It is broken off where the fault cannot be described. -/
def fail (a : Attempt) (s : Surroundings) (p : Dispatch.Policy) (signal : Option Bool)
    (arrival : List Event) (ttfb : Binary64) (readings : Nat) (fault : Fault) : Execution :=
  let watch := watchAfter signal a.trace
  let failure := Failure.classify fault watch.cancelled watch.timedOut p.timeoutMs
  let described := fault.isClassified watch.cancelled watch.timedOut
  { result := {
      success := false, request := a.resolved, response := none,
      timing := .brief (a.time s readings) ttfb,
      executedAt := s.ambient.now, failure := some failure }
    events :=
      a.opening ++ arrival ++ (if described then [.error "execute" failure.message] else [])
    trace := a.trace
    state := a.after a.before.session (if described then readings + 1 else readings)
    broken := if described then none else some fault.asError }

/-- The execution that comes of what was fetched. -/
def conclude (a : Attempt) (s : Surroundings) (p : Dispatch.Policy) (signal : Option Bool) :
    Fetched → Execution
  | .read response => a.succeed s response
  | .unreadable reply fault => a.fail s p signal [a.arrived s reply.status] (a.time s 1) 2 fault
  | .failed fault => a.fail s p signal [] 0 1 fault

end Attempt

/-- Executes one request. `signal` is the caller's signal: whether it has been aborted, if there is
one. -/
def execute (s : Surroundings) (settings : ExecutorSettings) (state : ExecutorState)
    (signal : Option Bool) (file : Record String) (r : Request) : Execution :=
  let (resolved, left) := resolveRequest s.ambient state.resolver settings.headerDefaults file
    state.toSessionState r
  let fetched := fetch s settings.policy state.calls resolved
  Attempt.conclude ⟨r, resolved, { state with toSessionState := left }, fetched.1⟩ s
    settings.policy signal fetched.2

/-! ## Documents -/

/-- Which requests of a document are executed. A name goes before a line. -/
structure Selection where
  name : Option String
  line : Option Binary64

def Selection.requests (sel : Selection) (d : Document) : List Request :=
  match sel.name, sel.line with
  | some name, _ => (d.requestNamed? name).toList
  | none, some line => d.requests.filter (·.hasLine line)
  | none, none => d.requests

def signalIn (hasSignal : Bool) (state : ExecutorState) : Option Bool :=
  if hasSignal then some state.aborted else none

/-- Whether no further request is executed after this one: it was broken off, or it failed and a
failure is to stop the run. -/
def endsRun (stopOnFailure : Bool) (e : Execution) : Bool :=
  e.broken.isSome || (stopOnFailure && !e.result.success)

/-- Executes requests in order, up to the first that ends the run. -/
def executeAll (s : Surroundings) (settings : ExecutorSettings) (hasSignal stopOnFailure : Bool)
    (file : Record String) : ExecutorState → List Request → List Execution
  | _, [] => []
  | state, r :: rest =>
    let e := execute s settings state (signalIn hasSignal state) file r
    if e.endsRun stopOnFailure then [e]
    else e :: executeAll s settings hasSignal stopOnFailure file e.state rest

def stateAfter (state : ExecutorState) (es : List Execution) : ExecutorState :=
  (es.getLast?.map (·.state)).getD state

/-- What executions report together: their results, unless one of them was broken off. -/
def report (es : List Execution) : Except Fault (List ExecutionResult) :=
  match es.findSome? (·.broken) with
  | some fault => .error fault
  | none => .ok (es.map (·.result))

def executeDocument (s : Surroundings) (settings : ExecutorSettings)
    (hasSignal stopOnFailure : Bool) (sel : Selection) (state : ExecutorState) (content : String) :
    List Execution :=
  let d := Document.parse content
  executeAll s settings hasSignal stopOnFailure d.fileVariables state (sel.requests d)

end Execution

end HttpScript
