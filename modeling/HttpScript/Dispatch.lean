import HttpScript.Header
import HttpScript.Transport
import HttpScript.Url

/-!
# Dispatch

A request is sent, and redirects are followed up to a limit. Each hop resolves the location against
the current URL, may change the method, and keeps credentials from other origins.

    dispatch       at most limit + 1 calls; one when redirects are not followed
    redirectedTo   GET without a body after 303, and after 301 and 302 to a POST
-/

namespace HttpScript

namespace SentRequest

/-! ## Bodies -/

/-- Whether a body is sent: one that is not empty, with a method other than GET and HEAD. -/
def carriesBody (method : String) (body : Option String) : Bool :=
  body.any (!·.isEmpty) && !(["GET", "HEAD"].contains (Text.upper method))

/-- The request as it is handed to the transport. -/
def forTransport (r : SentRequest) : SentRequest :=
  { r with body := if carriesBody r.method r.body then r.body else none }

/-! ## Redirects -/

def redirectStatuses : List Nat := [301, 302, 303, 307, 308]

/-- Whether a redirect turns a request into a GET without a body. -/
def switchesToGet (method : String) (status : Nat) : Bool :=
  let m := Text.upper method
  (status == 303 && m != "GET" && m != "HEAD") || ((status == 301 || status == 302) && m == "POST")

/-- Headers without one entry for each of the names, compared ignoring case. -/
def withoutHeaders (h : Record String) (names : List String) : Record String :=
  names.foldl (fun h n => match h.findName? n with
    | some key => h.erase key
    | none => h) h

def bodyHeaders : List String :=
  ["content-type", "content-length", "content-encoding", "content-language", "content-location"]

/-- The headers that are for one origin only. -/
def credentialHeaders : List String := ["authorization", "cookie"]

/-- The request that follows a redirect from one URL to another. -/
def redirectedTo (r : SentRequest) (status : Nat) (source target : Url) (location : String) :
    SentRequest :=
  let switches := switchesToGet r.method status
  let headers := r.headers.getD []
  let headers := if switches then withoutHeaders headers bodyHeaders else headers
  let headers :=
    if source.sameOrigin target then headers else withoutHeaders headers credentialHeaders
  { method := if switches then "GET" else r.method
    url := location
    headers := some headers
    body := if switches then none else r.body }

/-- The request that follows a redirect to an absolute location; `none` when one of the two is no
URL. -/
def redirected? (r : SentRequest) (status : Nat) (location : String) : Option SentRequest := do
  let target ← Url.parse? none location
  let source ← Url.parse? none r.url
  pure (r.redirectedTo status source target location)

end SentRequest

/-! ## Runs -/

/-- A redirect that is followed. -/
structure Hop where
  status : Nat
  source : String
  target : String
  deriving DecidableEq, Repr

/-- What a run does, step by step. The body of the response that came last is given up, if it has
one, and then its location is resolved against the URL of the call. -/
inductive DispatchStep where
  | call (request : SentRequest)
  | signal (event : SignalEvent)
  | discardBody
  | locate (location base : String)
  | hop (hop : Hop)

namespace Dispatch

def calls (trace : List DispatchStep) : List SentRequest := trace.filterMap fun
  | .call r => some r
  | _ => none

def signals (trace : List DispatchStep) : List SignalEvent := trace.filterMap fun
  | .signal e => some e
  | _ => none

def hops (trace : List DispatchStep) : List Hop := trace.filterMap fun
  | .hop h => some h
  | _ => none

def location? (reply : Reply) : Option String :=
  if SentRequest.redirectStatuses.contains reply.status then
    (Header.joined? reply.headers "location").filter (!·.isEmpty)
  else none

/-- The hop and the request that follow a redirect to a location, relative to the current URL. -/
def next? (r : SentRequest) (status : Nat) (location : String) : Option (Hop × SentRequest) := do
  let base ← Url.parse? none r.url
  let target ← Url.parse? (some base) location
  let next ← r.redirected? status target.text
  pure (⟨status, r.url, target.text⟩, next)

/-- Sends a request and follows up to `left` redirects. `earlier` calls have been made before. -/
def run (transport : Transport) : (left earlier : Nat) → SentRequest →
    List DispatchStep × Except Fault Reply
  | left, earlier, r =>
    let exchange := transport earlier r.forTransport
    let sent := .call r.forTransport :: exchange.signals.map .signal
    match exchange.reply with
    | .error fault => (sent, .error fault)
    | .ok reply => match location? reply, left with
      | some location, left + 1 => match reply.discardFault with
        | some fault => (sent ++ [.discardBody], .error fault)
        | none => match next? r reply.status location with
          | none => (sent ++ [.discardBody, .locate location r.url], .error .invalidUrl)
          | some (hop, next) =>
            let (trace, outcome) := run transport left (earlier + 1) next
            (sent ++ .discardBody :: .locate location r.url :: .hop hop :: trace, outcome)
      | _, _ => (sent, .ok reply)

/-- The number of redirects that may be followed when fewer than `maximum` hops have to come before
each. A maximum that is no number sets a limit that no run reaches. -/
def limitOf (maximum : Binary64) : Nat :=
  match maximum with
  | .nan => 65536
  | .infinity negative => if negative then 0 else 65536
  | m => match m.neg.floor? with
    | some i => (-i).toNat
    | none => 0

/-- How a request is dispatched. -/
structure Policy where
  timeoutMs : Binary64
  followRedirects : Bool
  maxRedirects : Binary64
  deriving DecidableEq, Repr

def Policy.limit (p : Policy) : Nat := if p.followRedirects then limitOf p.maxRedirects else 0

/-- The error that a run reports. Without a caller's signal, what was aborted ran out of time. -/
def reported (p : Policy) (hasSignal : Bool) (fault : Fault) : Fault :=
  match fault with
  | .error _ name _ _ _ =>
    if name == Fault.abortName && !hasSignal then
      .plain ("Request timeout after " ++ p.timeoutMs.text ++ "ms")
    else fault
  | fault => fault.asError

def dispatch (transport : Transport) (p : Policy) (hasSignal : Bool) (earlier : Nat)
    (r : SentRequest) : List DispatchStep × Except Fault Reply :=
  match run transport p.limit earlier r with
  | (trace, .ok reply) => (trace, .ok reply)
  | (trace, .error fault) => (trace, .error (reported p hasSignal fault))

end Dispatch

end HttpScript
