import HttpScript.Proofs.ExecutionLaws

/-!
# The events of an execution

An execution resolves its request and then takes one of four courses. The course tells its events,
in order, and how often the transport was called:

    unsent       resolveStarted resolveFinished error                               no call
    unanswered   … fetchStarted redirectFollowed* error                             redirects + 1
    unread       … fetchStarted redirectFollowed* fetchFinished error               redirects + 1
    read         … fetchStarted redirectFollowed* fetchFinished responseStored?     redirects + 1

A course fails just when its events end in an error (`failed_iff_endsInError`), and so does the
result. The one execution without a course is the one that is broken off: its events end with the
response that it could not read (`execute_course`).
-/

namespace HttpScript.Execution

/-! ## Courses -/

/-- The courses that an execution can take. -/
inductive Course where
  /-- The resolved URL is none. -/
  | unsent (message : String)
  /-- No response was returned. -/
  | unanswered (hops : List Hop) (message : String)
  /-- A response was returned, and reading its body failed. -/
  | unread (hops : List Hop) (status : Nat) (ttfb : Binary64) (message : String)
  | read (hops : List Hop) (status : Nat) (ttfb : Binary64)

namespace Course

def hops : Course → List Hop
  | .unsent _ => []
  | .unanswered hops _ | .unread hops _ _ _ | .read hops _ _ => hops

/-- How often the transport is called. -/
def calls : Course → Nat
  | .unsent _ => 0
  | .unanswered hops _ | .unread hops _ _ _ | .read hops _ _ => hops.length + 1

def failed : Course → Bool
  | .read _ _ _ => false
  | .unsent _ | .unanswered _ _ | .unread _ _ _ _ => true

section Events

variable (r : Request) (q : ResolvedRequest)

/-- The events of resolving a request. -/
def resolving : List Event := [.resolveStarted r.method r.url, .resolveFinished q.method q.url]

/-- The events of sending a resolved request, up to the last redirect. -/
def sending (hops : List Hop) : List Event := .fetchStarted q.method q.url :: hops.map hopEvent

/-- The event of keeping a response: there is one for a request that has a name. -/
def storing (status : Nat) : List Event :=
  (r.name.filter (!·.isEmpty)).toList.map (.responseStored · status)

/-- The events of a course. -/
def events : Course → List Event
  | .unsent message => resolving r q ++ [.error "execute" message]
  | .unanswered hops message => resolving r q ++ sending q hops ++ [.error "execute" message]
  | .unread hops status ttfb message => resolving r q ++ sending q hops ++
      [.fetchFinished q.method q.url status ttfb, .error "execute" message]
  | .read hops status ttfb => resolving r q ++ sending q hops ++
      .fetchFinished q.method q.url status ttfb :: storing r status

end Events

/-- Whether the last of the events is an error. -/
def EndsInError (events : List Event) : Prop :=
  ∃ message, events.getLast? = some (.error "execute" message)

/-- The stores that events report, each by the name and the status of the response. -/
def stores (events : List Event) : List (String × Nat) := events.filterMap fun
  | .responseStored name status => some (name, status)
  | _ => none

theorem failed_iff_endsInError (r : Request) (q : ResolvedRequest) (c : Course) :
    c.failed = true ↔ EndsInError (c.events r q) := by
  cases c with
  | unsent message => exact iff_of_true rfl ⟨message, List.getLast?_concat ..⟩
  | unanswered hops message => exact iff_of_true rfl ⟨message, List.getLast?_concat ..⟩
  | unread hops status ttfb message =>
    refine iff_of_true rfl ⟨message, ?_⟩
    rw [events, List.getLast?_append]
    rfl
  | read hops status ttfb =>
    refine iff_of_false Bool.false_ne_true ?_
    rintro ⟨message, last⟩
    rw [events, List.getLast?_append, storing] at last
    cases named : r.name.filter (!·.isEmpty) <;> (rw [named] at last; cases last)

theorem stores_append (left right : List Event) :
    stores (left ++ right) = stores left ++ stores right := List.filterMap_append

theorem stores_sending (q : ResolvedRequest) (hops : List Hop) : stores (sending q hops) = [] := by
  unfold stores sending
  rw [List.filterMap_cons, List.filterMap_map]
  exact List.filterMap_eq_nil_iff.2 fun hop _ => rfl

/-- Only a response that was read is reported as stored. -/
theorem stores_events (r : Request) (q : ResolvedRequest) (c : Course) :
    stores (c.events r q) = match c with
      | .read _ status _ => (r.name.filter (!·.isEmpty)).toList.map (·, status)
      | _ => [] := by
  cases c with
  | unsent message => rfl
  | unanswered hops message =>
    rw [events, stores_append, stores_append, stores_sending]
    rfl
  | unread hops status ttfb message =>
    rw [events, stores_append, stores_append, stores_sending]
    rfl
  | read hops status ttfb =>
    rw [events, stores_append, stores_append, stores_sending, storing]
    cases r.name.filter (!·.isEmpty) <;> rfl

/-- The calls and the redirects of a trace are those of a course to a URL. -/
structure Traces (limit : Nat) (url : String) (trace : List DispatchStep) (c : Course) : Prop where
  /-- Nothing is sent to what is no URL. -/
  unsent : (∃ message, c = .unsent message) ↔ Url.parse? none url = none
  hops : Dispatch.hops trace = c.hops
  bounded : c.hops.length ≤ limit
  calls : (Dispatch.calls trace).length = c.calls

theorem traces_of_sent {limit : Nat} {url : String} {trace : List DispatchStep} {c : Course}
    (isUrl : (Url.parse? none url).isSome)
    (reported : (Dispatch.calls trace).length = (Dispatch.hops trace).length + 1)
    (bounded : (Dispatch.hops trace).length ≤ limit) (hops : c.hops = Dispatch.hops trace)
    (sent : c.calls = c.hops.length + 1) : c.Traces limit url trace := by
  constructor
  case unsent =>
    refine iff_of_false ?_ (Option.isSome_iff_ne_none.1 isUrl)
    rintro ⟨message, rfl⟩
    cases sent
  case hops => exact hops.symm
  case bounded => rwa [hops]
  case calls => rw [reported, sent, hops]

end Course

open Course (resolving sending storing stores EndsInError)

/-- An execution took a course: its events, its calls and its result are those of the course, and
the session that resolving had left was written as the events say. -/
structure Follows (limit : Nat) (left : Session) (now : Int) (r : Request) (e : Execution)
    (c : Course) : Prop where
  traces : c.Traces limit e.result.request.url e.trace
  events : e.events = c.events r e.result.request
  failed : e.result.success = false ↔ EndsInError e.events
  answered : e.result.response.isSome ↔ e.result.success = true
  faulted : e.result.failure.isSome ↔ e.result.success = false
  status : ∀ response, e.result.response = some response →
    ∃ hops ttfb, c = .read hops response.status ttfb
  message : ∀ failure, e.result.failure = some failure →
    .error "execute" failure.message ∈ e.events
  /-- What is reported as stored is what is kept, with the status of the result. -/
  stored : stores e.events = (kept? now r e.result).toList.map fun k => (k.1, k.2.status)
  session : e.state.session = left.storeAll (kept? now r e.result).toList

/-- The last event is that of a response that has arrived. -/
def EndsWithArrival (r : Request) (e : Execution) : Prop :=
  ∃ status ttfb, e.events = resolving r e.result.request ++
    sending e.result.request (Dispatch.hops e.trace) ++
      [.fetchFinished e.result.request.method e.result.request.url status ttfb]

theorem Follows.not_endsWithArrival {limit : Nat} {left : Session} {now : Int} {r : Request}
    {e : Execution} {c : Course} (course : Follows limit left now r e c)
    (failed : e.result.success = false) : ¬ EndsWithArrival r e := by
  rintro ⟨status, ttfb, arrival⟩
  obtain ⟨message, last⟩ := course.failed.1 failed
  rw [arrival, List.getLast?_concat] at last
  cases last

/-! ## Attempts -/

section Attempts

variable (a : Attempt) (s : Surroundings) (p : Dispatch.Policy) (signal : Option Bool)

theorem opening_unsent (none : Url.parse? none a.resolved.url = none) (idle : a.trace = []) :
    a.opening = resolving a.request a.resolved := by
  unfold Attempt.opening
  rw [none, idle]
  rfl

theorem opening_sent (url : (Url.parse? none a.resolved.url).isSome) :
    a.opening = resolving a.request a.resolved ++ sending a.resolved (Dispatch.hops a.trace) := by
  unfold Attempt.opening
  rw [if_pos url, List.append_assoc]
  rfl

theorem stored_eq_storing (status : Nat) : a.stored status = storing a.request status := by
  unfold Attempt.stored storing
  cases a.request.name with
  | none => rfl
  | some name => cases h : name.isEmpty <;> simp [Option.filter, h]

theorem follows_succeed (limit : Nat) (response : Response)
    (url : (Url.parse? none a.resolved.url).isSome)
    (traces : (Course.read (Dispatch.hops a.trace) response.status (a.time s 1)).Traces limit
      a.resolved.url a.trace) :
    Follows limit a.before.session s.ambient.now a.request (a.conclude s p signal (.read response))
      (.read (Dispatch.hops a.trace) response.status (a.time s 1)) := by
  have events : (a.conclude s p signal (.read response)).events =
      (Course.read (Dispatch.hops a.trace) response.status (a.time s 1)).events a.request
        a.resolved := by
    unfold Attempt.conclude Attempt.succeed Course.events
    dsimp only
    rw [opening_sent a url, stored_eq_storing]
    rfl
  constructor
  case traces => exact traces
  case events => exact events
  case failed =>
    rw [events, ← Course.failed_iff_endsInError]
    exact iff_of_false nofun nofun
  case answered => exact iff_of_true rfl rfl
  case faulted => exact iff_of_false nofun nofun
  case status =>
    intro _ same
    cases same
    exact ⟨_, _, rfl⟩
  case message => exact nofun
  case stored =>
    rw [events, Course.stores_events]
    unfold kept?
    cases a.request.name with
    | none => rfl
    | some name =>
      cases h : name.isEmpty <;>
        simp [Attempt.conclude, Attempt.succeed, Option.filter, h]
  case session =>
    exact congrArg SessionState.session (sessionState_conclude a s p signal (.read response))

/-- A failure that can be described follows the course that its message completes. -/
theorem follows_fail (limit : Nat) (arrival : List Event) (ttfb : Binary64) (readings : Nat)
    (fault : Fault) (c : String → Course)
    (traces : ∀ message, (c message).Traces limit a.resolved.url a.trace)
    (failing : ∀ message, (c message).failed = true)
    (course : ∀ message, (c message).events a.request a.resolved =
      a.opening ++ arrival ++ [.error "execute" message])
    (whole : (a.fail s p signal arrival ttfb readings fault).broken = none) :
    ∃ message, Follows limit a.before.session s.ambient.now a.request
      (a.fail s p signal arrival ttfb readings fault) (c message) := by
  have described : fault.isClassified (watchAfter signal a.trace).cancelled
      (watchAfter signal a.trace).timedOut = true := by
    -- else it would have been broken off
    by_contra undescribed
    unfold Attempt.fail at whole
    dsimp only at whole
    rw [if_neg undescribed] at whole
    cases whole
  let message := (Failure.classify fault (watchAfter signal a.trace).cancelled
    (watchAfter signal a.trace).timedOut p.timeoutMs).message
  have events : (a.fail s p signal arrival ttfb readings fault).events =
      (c message).events a.request a.resolved := by
    rw [course]
    unfold Attempt.fail
    dsimp only
    rw [if_pos described]
  have unkept : kept? s.ambient.now a.request
      (a.fail s p signal arrival ttfb readings fault).result = none :=
    kept?_of_no_response _ _ _ rfl
  refine ⟨message, ?_⟩
  constructor
  case traces => exact traces message
  case events => exact events
  case failed =>
    rw [events, ← Course.failed_iff_endsInError]
    exact iff_of_true rfl (failing message)
  case answered => exact iff_of_false nofun nofun
  case faulted => exact iff_of_true rfl rfl
  case status => exact nofun
  case message =>
    intro _ same
    cases same
    rw [events, course]
    exact List.mem_append_right _ List.mem_cons_self
  case stored =>
    rw [events, Course.stores_events, unkept]
    have := failing message
    split
    · next h => rw [h] at this; cases this
    · rfl
  case session => rw [unkept]; rfl

/-- A failure that cannot be described leaves the events as they were. -/
theorem events_of_broken_fail (arrival : List Event) (ttfb : Binary64) (readings : Nat)
    (fault : Fault) (broken : (a.fail s p signal arrival ttfb readings fault).broken.isSome) :
    (a.fail s p signal arrival ttfb readings fault).events = a.opening ++ arrival := by
  unfold Attempt.fail at broken ⊢
  dsimp only at broken ⊢
  split
  · next described =>
    rw [if_pos described] at broken
    cases broken
  · rw [List.append_nil]

end Attempts

/-! ## Executions -/

section Fetch

variable (s : Surroundings) (p : Dispatch.Policy) (earlier : Nat) (r : ResolvedRequest)

theorem fetch_of_no_url (none : Url.parse? none r.url = none) :
    fetch s p earlier r = ([], .failed .invalidUrl) := by
  unfold fetch
  rw [none]
  rfl

/-- To a URL the calls go that a dispatch makes: one, and one for each redirect. -/
theorem calls_fetch (url : (Url.parse? none r.url).isSome) :
    (Dispatch.calls (fetch s p earlier r).1).length =
        (Dispatch.hops (fetch s p earlier r).1).length + 1 ∧
      (Dispatch.hops (fetch s p earlier r).1).length ≤ p.limit := by
  have chain := Dispatch.redirectChain_limit s.transport p true earlier (outgoing r)
  have trace : (fetch s p earlier r).1 =
      (Dispatch.dispatch s.transport p true earlier (outgoing r)).1 := by
    unfold fetch
    rw [if_neg (by simpa using Option.isSome_iff_ne_none.1 url)]
    split
    · next made => rw [made]
    · next made => rw [made]; split <;> rfl
  rw [trace]
  refine ⟨chain.reported, ?_⟩
  have := chain.bounded
  rw [chain.reported] at this
  exact Nat.le_of_succ_le_succ this

end Fetch

section One

variable (s : Surroundings) (settings : ExecutorSettings) (state : ExecutorState)
  (signal : Option Bool) (file : Record String) (r : Request)

/-- An execution that is not broken off takes a course. -/
theorem exists_course (limit : Nat) (bound : settings.policy.limit ≤ limit)
    (whole : (execute s settings state signal file r).broken = none) :
    ∃ c, Follows limit (resolvedIn s settings state file r).2.session s.ambient.now r
      (execute s settings state signal file r) c := by
  rw [execute_eq, fetchedIn] at whole ⊢
  generalize resolvedIn s settings state file r = made at whole ⊢
  obtain ⟨resolved, left⟩ := made
  dsimp only at whole ⊢
  by_cases url : Url.parse? none resolved.url = none
  · -- the trace is empty, and the only event is that of the failure
    let a : Attempt := ⟨r, resolved, { state with toSessionState := left }, []⟩
    rw [fetch_of_no_url _ _ _ _ url] at whole ⊢
    have traces (message : String) : (Course.unsent message).Traces limit resolved.url [] :=
      ⟨iff_of_true ⟨message, rfl⟩ url, rfl, Nat.zero_le _, rfl⟩
    have events (message : String) : (Course.unsent message).events r resolved =
        a.opening ++ [] ++ [.error "execute" message] := by
      rw [opening_unsent a url rfl, List.append_nil]
      rfl
    obtain ⟨message, course⟩ := follows_fail a s settings.policy signal limit [] 0 1 .invalidUrl
      .unsent traces (fun _ => rfl) events whole
    exact ⟨.unsent message, course⟩
  · have isUrl : (Url.parse? none resolved.url).isSome := Option.isSome_iff_ne_none.2 url
    obtain ⟨reported, bounded⟩ := calls_fetch s settings.policy state.calls resolved isUrl
    generalize fetch s settings.policy state.calls resolved = fetched at whole reported bounded ⊢
    obtain ⟨trace, got⟩ := fetched
    let a : Attempt := ⟨r, resolved, { state with toSessionState := left }, trace⟩
    have traces (c : Course) (hops : c.hops = Dispatch.hops trace)
        (sent : c.calls = c.hops.length + 1) : c.Traces limit resolved.url trace :=
      Course.traces_of_sent isUrl reported (bounded.trans bound) hops sent
    cases got with
    | read response =>
      exact ⟨_, follows_succeed a s settings.policy signal limit response isUrl
        (traces _ rfl rfl)⟩
    | unreadable reply fault =>
      let c := Course.unread (Dispatch.hops trace) reply.status (a.time s 1)
      have events (message : String) : (c message).events r resolved =
          a.opening ++ [a.arrived s reply.status] ++ [.error "execute" message] := by
        rw [opening_sent a isUrl, List.append_assoc]
        rfl
      obtain ⟨message, course⟩ := follows_fail a s settings.policy signal limit
        [a.arrived s reply.status] (a.time s 1) 2 fault c (fun _ => traces _ rfl rfl)
        (fun _ => rfl) events whole
      exact ⟨c message, course⟩
    | failed fault =>
      let c := Course.unanswered (Dispatch.hops trace)
      have events (message : String) : (c message).events r resolved =
          a.opening ++ [] ++ [.error "execute" message] := by
        rw [opening_sent a isUrl, List.append_nil]
        rfl
      obtain ⟨message, course⟩ := follows_fail a s settings.policy signal limit [] 0 1 fault c
        (fun _ => traces _ rfl rfl) (fun _ => rfl) events whole
      exact ⟨c message, course⟩

/-- The events of an execution that is broken off end with the response that arrived. -/
theorem arrival_of_broken
    (broken : (execute s settings state signal file r).broken.isSome) :
    (execute s settings state signal file r).result.success = false ∧
      EndsWithArrival r (execute s settings state signal file r) := by
  rw [execute_eq, fetchedIn] at broken ⊢
  generalize resolvedIn s settings state file r = made at broken ⊢
  obtain ⟨resolved, left⟩ := made
  dsimp only at broken ⊢
  have described := message?_of_failed s settings.policy state.calls resolved
  have url (reply : Reply) (fault : Fault)
      (arrived : (fetch s settings.policy state.calls resolved).2 = .unreadable reply fault) :
      (Url.parse? none resolved.url).isSome := by
    by_contra none
    rw [fetch_of_no_url _ _ _ _ (by simpa using none)] at arrived
    cases arrived
  generalize fetch s settings.policy state.calls resolved = fetched at broken described url ⊢
  obtain ⟨trace, response | ⟨reply, fault⟩ | fault⟩ := fetched
  · cases broken
  · let a : Attempt := ⟨r, resolved, { state with toSessionState := left }, trace⟩
    refine ⟨rfl, reply.status, a.time s 1, ?_⟩
    exact (events_of_broken_fail a s settings.policy signal _ _ _ fault broken).trans
      (congrArg (· ++ _) (opening_sent a (url reply fault rfl)))
  · -- what a dispatch fails with has a message
    have silent := ((broken_fail ..).1 broken).2.2
    have := described fault rfl
    rw [silent] at this
    cases this

/-- An execution takes a course just when it can describe what it fails with. Else it is broken off
after the response that it could not read: nothing is reported or kept from there on. What is kept
is added to the session that resolving left, in which every response is as before. -/
theorem execute_course (n : Nat) (natural : settings.policy.maxRedirects.toNat? = some n) :
    let left := (resolvedIn s settings state file r).2
    let e := execute s settings state signal file r
    left.session.map SessionEntry.label = state.session.map SessionEntry.label ∧
    ((∃ c, Follows n left.session s.ambient.now r e c) ↔
      ¬ Indescribable s.transport state.calls signal e.trace) ∧
    (Indescribable s.transport state.calls signal e.trace →
      e.broken.isSome ∧ EndsWithArrival r e ∧ e.state.toSessionState = left) := by
  have bound : settings.policy.limit ≤ n := by
    unfold Dispatch.Policy.limit
    rw [Dispatch.limitOf_eq_of_toNat? natural]
    split
    · exact Nat.le_refl n
    · exact Nat.zero_le n
  have broken_iff := broken_execute s settings state signal file r
  have course := exists_course s settings state signal file r n bound
  have arrival := arrival_of_broken s settings state signal file r
  have unkept := sessionState_of_failure s settings state signal file r
  have labels := label_resolvedIn s settings state file r
  generalize execute s settings state signal file r = e at broken_iff course arrival unkept ⊢
  dsimp only
  rw [← broken_iff]
  refine ⟨labels, ⟨?_, fun whole => course (by simpa using whole)⟩, fun broken => ?_⟩
  · rintro ⟨c, followed⟩ broken
    exact followed.not_endsWithArrival (arrival broken).1 (arrival broken).2
  · exact ⟨broken, (arrival broken).2, unkept (arrival broken).1⟩

end One

/-- A request that is redirected once and has a name. -/
theorem execute_course_redirected :
    let s : Surroundings := {
      ambient := ⟨0, 0, "", []⟩
      stopwatch := fun _ => 0
      transport := fun earlier _ => ⟨[], .ok {
        status := if earlier = 0 then 302 else 200
        statusText := "", headers := [("Location", "/2")], body := .ok [0x37] }⟩ }
    let state : ExecutorState := ⟨.start, .start "dev" [], 0, 0, false⟩
    let r : Request := ⟨some "login", "GET", "https://h.example/1", [], none, [], 1, 1⟩
    let e := execute s ⟨⟨30000, true, 10⟩, []⟩ state none [] r
    e.events = [.resolveStarted "GET" "https://h.example/1",
      .resolveFinished "GET" "https://h.example/1", .fetchStarted "GET" "https://h.example/1",
      .redirectFollowed 302 "https://h.example/1" "https://h.example/2",
      .fetchFinished "GET" "https://h.example/1" 200 0, .responseStored "login" 200] ∧
    ∃ c, Follows 10 [] 0 r e c := by
  intro s state r e
  have natural : Binary64.toNat? 10 = some 10 := by decide +kernel
  have whole : e.broken.isNone = true := by decide +kernel
  have protocol := execute_course s ⟨⟨30000, true, 10⟩, []⟩ state none [] r 10 natural
  refine ⟨by decide +kernel, protocol.2.1.2 fun indescribable => ?_⟩
  have broken := (protocol.2.2 indescribable).1
  rw [Option.isNone_iff_eq_none.1 whole] at broken
  cases broken

/-- A named request whose body cannot be read, for a reason that hides how it is written: its events
end with the response, and are those of no course. -/
theorem execute_course_undescribed :
    let hidden : Fault := .value (.object [("toString", .number 1)])
    let s : Surroundings := {
      ambient := ⟨0, 0, "", []⟩
      stopwatch := fun _ => 0
      transport := fun _ _ => ⟨[], .ok {
        status := 200, statusText := "", headers := [], body := .error hidden }⟩ }
    let state : ExecutorState := ⟨.start, .start "dev" [], 0, 0, false⟩
    let r : Request := ⟨some "a", "GET", "https://h.example/1", [], none, [], 1, 1⟩
    let e := execute s ⟨⟨30000, true, 10⟩, []⟩ state none [] r
    e.events = [.resolveStarted "GET" "https://h.example/1",
      .resolveFinished "GET" "https://h.example/1", .fetchStarted "GET" "https://h.example/1",
      .fetchFinished "GET" "https://h.example/1" 200 0] ∧
    e.broken.isSome ∧ ¬ ∃ c : Course, e.events = c.events r e.result.request := by
  intro hidden s state r e
  have events : e.events = [.resolveStarted "GET" "https://h.example/1",
      .resolveFinished "GET" "https://h.example/1", .fetchStarted "GET" "https://h.example/1",
      .fetchFinished "GET" "https://h.example/1" 200 0] := by decide +kernel
  refine ⟨events, by decide +kernel, ?_⟩
  -- a course would end in an error, or with the response as stored under the name
  rintro ⟨c, course⟩
  have ends := Course.failed_iff_endsInError r e.result.request c
  have stored := Course.stores_events r e.result.request c
  rw [← course, events] at ends stored
  cases c with
  | read hops status ttfb => cases stored
  | _ =>
    obtain ⟨message, last⟩ := ends.1 rfl
    cases last

end HttpScript.Execution
