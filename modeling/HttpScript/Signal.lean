/-!
# Signals

A request is watched for two things: its caller may cancel it, and its time may run out. The watch
remembers which of the two came first.

    after any events, at most one of cancelled and timedOut holds, and one of them just when the
    request was told to stop
-/

namespace HttpScript

/-- What may happen to a request while it runs. -/
inductive SignalEvent where
  | callerAbort
  | timerExpiry
  | cleanup
  deriving DecidableEq, Repr

/-- A watch over one request. `hasCaller` tells that a caller's signal is listened to, `live` that
the watch is not over. -/
structure Watch where
  hasCaller : Bool
  live : Bool
  cancelled : Bool
  timedOut : Bool
  aborted : Bool
  deriving DecidableEq, Repr

namespace Watch

/-- The start of a watch. The caller's signal may be missing, or aborted already. -/
def start (signal : Option Bool) : Watch :=
  let aborted := signal.getD false
  ⟨signal.isSome, true, aborted, false, aborted⟩

def step (w : Watch) : SignalEvent → Watch
  | .callerAbort =>
    if w.live && w.hasCaller then
      { w with cancelled := w.cancelled || !w.timedOut, aborted := true }
    else w
  | .timerExpiry =>
    if w.live && !w.cancelled then { w with timedOut := true, aborted := true } else w
  | .cleanup => { w with live := false }

def run (w : Watch) (events : List SignalEvent) : Watch := events.foldl step w

end Watch

end HttpScript
