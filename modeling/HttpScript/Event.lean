import HttpScript.Json

/-!
# Events

What a run reports while it goes on, for those who want to follow it.
-/

namespace HttpScript

/-- An event of a run. -/
inductive Event where
  | resolveStarted (method url : String)
  | resolveFinished (method url : String)
  | fetchStarted (method url : String)
  | fetchFinished (method url : String) (status : Nat) (ttfb : Binary64)
  | redirectFollowed (status : Nat) (source target : String)
  | responseStored (name : String) (status : Nat)
  | environmentLoaded (path : String) (environments : List String)
  | error (stage message : String)
  deriving DecidableEq

namespace Event

def kind : Event → String
  | resolveStarted .. => "resolveStarted"
  | resolveFinished .. => "resolveFinished"
  | fetchStarted .. => "fetchStarted"
  | fetchFinished .. => "fetchFinished"
  | redirectFollowed .. => "redirectFollowed"
  | responseStored .. => "responseStored"
  | environmentLoaded .. => "environmentLoaded"
  | error .. => "error"

def details : Event → List (String × Json Binary64)
  | resolveStarted m u | resolveFinished m u | fetchStarted m u =>
    [("method", .text m), ("url", .text u)]
  | fetchFinished m u status ttfb =>
    [("method", .text m), ("url", .text u), ("status", .number (.ofNat status)),
      ("ttfb", .number ttfb)]
  | redirectFollowed status source target =>
    [("status", .number (.ofNat status)), ("from", .text source), ("to", .text target)]
  | responseStored name status => [("name", .text name), ("status", .number (.ofNat status))]
  | environmentLoaded path names =>
    [("path", .text path), ("environments", .list (names.map fun n : String => .text n))]
  | error stage message => [("stage", .text stage), ("message", .text message)]

end Event

end HttpScript
