import HttpScript.Charset
import HttpScript.Fault
import HttpScript.Signal

/-!
# Transport

A transport answers calls. It is given as a function of the number of calls made before and of the
call itself, so that any behaviour towards one run can be described; an answer comes with what
happened to the signals meanwhile.
-/

namespace HttpScript

/-- A request that is sent. Missing headers and a missing body are not handed over. -/
structure SentRequest where
  method : String
  url : String
  headers : Option (Record String)
  body : Option String
  deriving DecidableEq, Repr

/-- Redirects are never left to the transport. -/
def SentRequest.redirectMode (_ : SentRequest) : String := "manual"

/-- A response of the transport. Reading its body may fail, and so may giving the body up unread. -/
structure Reply where
  status : Nat
  statusText : String
  headers : List (String × String)
  body : Except Fault Bytes
  discardFault : Option Fault := none

/-- What comes of a call. The signal events are those from the call on until its response has been
read or given up, or the call has failed. -/
structure Exchange where
  signals : List SignalEvent
  reply : Except Fault Reply

abbrev Transport := (earlier : Nat) → SentRequest → Exchange

namespace Transport

/-- An action of a scripted transport: it may abort the caller's signal, and then waits for the
request to be stopped, fails, or answers. A request that is stopped while the transport waits may
let it abort the caller's signal too. -/
inductive Action where
  | hang (cancelFirst cancelOnAbort : Bool)
  | fail (cancelFirst : Bool) (fault : Fault)
  | answer (cancelFirst : Bool) (reply : Reply)

def aborted : Fault := .error false Fault.abortName "This operation was aborted" none none

/-- The signals of an action that begins by aborting the caller's signal, or does not. -/
def firstSignals (cancelFirst : Bool) : List SignalEvent :=
  if cancelFirst then [.callerAbort] else []

/-- What comes of an action. Waiting ends at the latest when the time runs out. -/
def Action.exchange : Action → Exchange
  | hang first onAbort =>
    ⟨firstSignals first ++ .timerExpiry :: (if onAbort then [.callerAbort] else []),
      .error aborted⟩
  | fail first fault => ⟨firstSignals first, .error fault⟩
  | answer first reply => ⟨firstSignals first, .ok reply⟩

/-- An empty response that reports success. -/
def emptyReply : Reply := { status := 200, statusText := "", headers := [], body := .ok [] }

/-- The transport that takes one action after the other; the last one repeats. -/
def ofScript (actions : List Action) : Transport := fun earlier _ =>
  match actions[earlier]? with
  | some a => a.exchange
  | none => match actions.getLast? with
    | some a => a.exchange
    | none => ⟨[], .ok emptyReply⟩

end Transport

end HttpScript
