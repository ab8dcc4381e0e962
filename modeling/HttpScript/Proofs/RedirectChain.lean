import HttpScript.Dispatch
import Mathlib.Data.List.Basic

/-!
# A dispatch is a chain of redirects

A run makes a call; its response is returned, or its body is given up, its location resolved, the
redirect reported and the next call made. `Runs` says this once, as a relation between a request and
the trace of its run, and the other facts about traces are inductions over it.

    Runs transport left earlier r (run …).1 (run …).2                       (runs_run)
    RedirectChain transport earlier limit r (dispatch …).1 (dispatch …).2   (redirectChain_dispatch)

A transport is any function here, so that a server may redirect as often as it likes.
-/

namespace HttpScript.Binary64

theorem toRatio?_neg (x : Binary64) : x.neg.toRatio? = x.toRatio?.map fun q => (-q.1, q.2) := by
  cases x with
  | nan => rfl
  | infinity _ => rfl
  | finite negative mantissa exponent =>
    unfold neg toRatio?
    cases negative
    · rfl
    · simp

theorem floor?_neg_of_toNat? {x : Binary64} {n : Nat} (natural : x.toNat? = some n) :
    x.neg.floor? = some (-(n : Int)) := by
  unfold toNat? at natural
  unfold floor?
  rw [toRatio?_neg]
  cases hq : x.toRatio? with
  | none => rw [hq] at natural; cases natural
  | some q =>
    rw [hq] at natural
    dsimp only at natural
    split at natural
    · next whole =>
      rw [Bool.and_eq_true, decide_eq_true_iff, beq_iff_eq] at whole
      cases natural
      show some (Int.fdiv (-q.1) q.2) = _
      rw [Int.fdiv_eq_ediv_of_nonneg _ (Int.natCast_nonneg _),
        Int.neg_ediv_of_dvd (Int.dvd_of_emod_eq_zero whole.2),
        Int.toNat_of_nonneg (Int.ediv_nonneg whole.1 (Int.natCast_nonneg _))]
    · cases natural

end HttpScript.Binary64

namespace HttpScript.Dispatch

/-! ## Traces -/

/-- The locations that are resolved in a trace, each with the URL it is relative to. -/
def locations (trace : List DispatchStep) : List (String × String) := trace.filterMap fun
  | .locate location base => some (location, base)
  | _ => none

/-- Where a trace stands: before a call, with the body of a response at hand, or on the way from
there to the next call. -/
inductive Stage where
  | ready
  | answered
  | released
  | located
  deriving DecidableEq, Repr

/-- The stage after a step; `none` for a step that is out of place. -/
def Stage.next? : Stage → DispatchStep → Option Stage
  | .ready, .call _ => some .answered
  | .answered, .signal _ => some .answered
  | .answered, .discardBody => some .released
  | .released, .locate _ _ => some .located
  | .located, .hop _ => some .ready
  | _, _ => none

/-- The stage at the end of a trace; `none` when a step of it is out of place. -/
def stage? (trace : List DispatchStep) : Option Stage := trace.foldlM Stage.next? .ready

section Steps

variable (transport : Transport) (earlier : Nat) (r : SentRequest)

/-- The steps up to the answer to a call. -/
def opening : List DispatchStep :=
  .call r.forTransport :: (transport earlier r.forTransport).signals.map .signal

/-- The steps of a run that follows a redirect and goes on as `trace`. -/
def following (location : String) (hop : Hop) (trace : List DispatchStep) : List DispatchStep :=
  opening transport earlier r ++ .discardBody :: .locate location r.url :: .hop hop :: trace

theorem filterMap_opening {α : Type} (f : DispatchStep → Option α)
    (silent : ∀ event, f (.signal event) = none) (steps : List DispatchStep) :
    (opening transport earlier r ++ steps).filterMap f =
      (f (.call r.forTransport)).toList ++ steps.filterMap f := by
  have none_of_signals (events : List SignalEvent) :
      (events.map DispatchStep.signal).filterMap f = [] := by
    rw [List.filterMap_map]
    exact List.filterMap_eq_nil_iff.2 fun event _ => silent event
  unfold opening
  rw [List.filterMap_append, List.filterMap_cons, none_of_signals]
  cases f (.call r.forTransport) <;> rfl

theorem stage_opening (steps : List DispatchStep) :
    stage? (opening transport earlier r ++ steps) = steps.foldlM Stage.next? .answered := by
  unfold stage? opening
  rw [List.cons_append, List.foldlM_cons]
  show (List.map DispatchStep.signal _ ++ steps).foldlM Stage.next? .answered = _
  induction (transport earlier r.forTransport).signals with
  | nil => rfl
  | cons event events ih => exact ih

theorem calls_opening (steps : List DispatchStep) :
    calls (opening transport earlier r ++ steps) = r.forTransport :: calls steps :=
  filterMap_opening transport earlier r _ (fun _ => rfl) steps

theorem hops_opening (steps : List DispatchStep) :
    hops (opening transport earlier r ++ steps) = hops steps :=
  filterMap_opening transport earlier r _ (fun _ => rfl) steps

theorem locations_opening (steps : List DispatchStep) :
    locations (opening transport earlier r ++ steps) = locations steps :=
  filterMap_opening transport earlier r _ (fun _ => rfl) steps

variable (location : String) (hop : Hop) (trace : List DispatchStep)

theorem calls_following :
    calls (following transport earlier r location hop trace) = r.forTransport :: calls trace :=
  calls_opening transport earlier r _

theorem hops_following :
    hops (following transport earlier r location hop trace) = hop :: hops trace :=
  hops_opening transport earlier r _

theorem locations_following :
    locations (following transport earlier r location hop trace) =
      (location, r.url) :: locations trace :=
  locations_opening transport earlier r _

theorem stage_following :
    stage? (following transport earlier r location hop trace) = stage? trace :=
  stage_opening transport earlier r _

end Steps

/-! ## What a run does -/

variable (transport : Transport)

/-- How a run ends after the answer to a call, with what it does then. -/
inductive Ends (left earlier : Nat) (r : SentRequest) :
    List DispatchStep → Except Fault Reply → Prop where
  | failed (fault : Fault) (answer : (transport earlier r.forTransport).reply = .error fault) :
      Ends left earlier r [] (.error fault)
  | returned (reply : Reply) (answer : (transport earlier r.forTransport).reply = .ok reply)
      (final : location? reply = none ∨ left = 0) : Ends left earlier r [] (.ok reply)
  | kept (reply : Reply) (location : String) (fault : Fault)
      (answer : (transport earlier r.forTransport).reply = .ok reply)
      (redirects : location? reply = some location) (keeps : reply.discardFault = some fault) :
      Ends left earlier r [.discardBody] (.error fault)
  | lost (reply : Reply) (location : String)
      (answer : (transport earlier r.forTransport).reply = .ok reply)
      (redirects : location? reply = some location)
      (malformed : next? r reply.status location = none) :
      Ends left earlier r [.discardBody, .locate location r.url] (.error .invalidUrl)

/-- The runs of a request with `left` redirects to follow after `earlier` calls. -/
inductive Runs : Nat → Nat → SentRequest → List DispatchStep → Except Fault Reply → Prop where
  | last {left earlier : Nat} {r : SentRequest} {steps : List DispatchStep}
      {outcome : Except Fault Reply} (ends : Ends transport left earlier r steps outcome) :
      Runs left earlier r (opening transport earlier r ++ steps) outcome
  | followed {left earlier : Nat} {r next : SentRequest} {trace : List DispatchStep}
      {outcome : Except Fault Reply} (reply : Reply) (location : String) (hop : Hop)
      (answer : (transport earlier r.forTransport).reply = .ok reply)
      (redirects : location? reply = some location)
      (found : next? r reply.status location = some (hop, next))
      (rest : Runs left (earlier + 1) next trace outcome) :
      Runs (left + 1) earlier r (following transport earlier r location hop trace) outcome

theorem runs_run (left earlier : Nat) (r : SentRequest) :
    Runs transport left earlier r (run transport left earlier r).1
      (run transport left earlier r).2 := by
  induction left generalizing earlier r with
  | zero =>
    unfold run
    dsimp only
    cases answer : (transport earlier r.forTransport).reply with
    | error fault =>
      have ends : Runs transport 0 earlier r _ _ := .last (.failed fault answer)
      rwa [List.append_nil] at ends
    | ok reply =>
      dsimp only
      have ends : Runs transport 0 earlier r _ _ := .last (.returned reply answer (.inr rfl))
      rw [List.append_nil] at ends
      cases location? reply <;> exact ends
  | succ left ih =>
    unfold run
    dsimp only
    cases answer : (transport earlier r.forTransport).reply with
    | error fault =>
      have ends : Runs transport (left + 1) earlier r _ _ := .last (.failed fault answer)
      rwa [List.append_nil] at ends
    | ok reply =>
      dsimp only
      cases redirects : location? reply with
      | none =>
        have ends : Runs transport (left + 1) earlier r _ _ :=
          .last (.returned reply answer (.inl redirects))
        rwa [List.append_nil] at ends
      | some location =>
        dsimp only
        cases keeps : reply.discardFault with
        | some fault => exact .last (.kept reply location fault answer redirects keeps)
        | none =>
          dsimp only
          cases found : next? r reply.status location with
          | none => exact .last (.lost reply location answer redirects found)
          | some pair => exact .followed reply location pair.1 answer redirects found (ih _ pair.2)

variable {transport}

theorem calls_of_ends {left earlier : Nat} {r : SentRequest} {steps : List DispatchStep}
    {outcome : Except Fault Reply} (ends : Ends transport left earlier r steps outcome) :
    calls (opening transport earlier r ++ steps) = [r.forTransport] := by
  rw [calls_opening]
  cases ends <;> rfl

theorem hops_of_ends {left earlier : Nat} {r : SentRequest} {steps : List DispatchStep}
    {outcome : Except Fault Reply} (ends : Ends transport left earlier r steps outcome) :
    hops (opening transport earlier r ++ steps) = [] := by
  rw [hops_opening]
  cases ends <;> rfl

/-! ## Where redirects lead -/

theorem location?_eq_some_iff (reply : Reply) (location : String) :
    location? reply = some location ↔ reply.status ∈ [301, 302, 303, 307, 308] ∧
      Header.joined? reply.headers "location" = some location ∧ location ≠ "" := by
  unfold location?
  by_cases h : reply.status ∈ SentRequest.redirectStatuses
  · rw [if_pos (List.contains_iff_mem.2 h), Option.filter_eq_some_iff]
    simp only [Bool.not_eq_true', String.isEmpty_eq_false_iff]
    exact ⟨fun found => ⟨h, found⟩, fun found => found.2⟩
  · rw [if_neg (mt List.contains_iff_mem.1 h)]
    exact iff_of_false (nofun) fun found => h found.1

/-- A redirect that is followed leads to the location resolved against the URL of the call. -/
theorem next?_eq_some {r next : SentRequest} {status : Nat} {location : String} {hop : Hop}
    (found : next? r status location = some (hop, next)) :
    ∃ base target reread, Url.parse? none r.url = some base ∧
      Url.parse? (some base) location = some target ∧
      Url.parse? none target.text = some reread ∧ hop = ⟨status, r.url, target.text⟩ ∧
      next = r.redirectedTo status base reread target.text := by
  unfold next? SentRequest.redirected? at found
  obtain ⟨base, hb, found⟩ := Option.bind_eq_some_iff.1 found
  obtain ⟨target, ht, found⟩ := Option.bind_eq_some_iff.1 found
  obtain ⟨_, hn, found⟩ := Option.bind_eq_some_iff.1 found
  obtain ⟨reread, hr, hn⟩ := Option.bind_eq_some_iff.1 hn
  obtain ⟨base', hb', hn⟩ := Option.bind_eq_some_iff.1 hn
  obtain rfl : base = base' := Option.some.inj (hb.symm.trans hb')
  cases hn
  cases found
  exact ⟨base, target, reread, hb, ht, hr, rfl, rfl⟩

/-- A request is reached from another one by following redirects in order. -/
inductive Reaches (r : SentRequest) : List Hop → SentRequest → Prop where
  | refl : Reaches r [] r
  | step {followed : List Hop} {current next : SentRequest} {hop : Hop} (status : Nat)
      (location : String) (reached : Reaches r followed current)
      (found : next? current status location = some (hop, next)) :
      Reaches r (followed ++ [hop]) next

theorem Reaches.head {r next last : SentRequest} {hop : Hop} {followed : List Hop} (status : Nat)
    (location : String) (found : next? r status location = some (hop, next))
    (reached : Reaches next followed last) : Reaches r (hop :: followed) last := by
  induction reached with
  | refl => exact .step status location .refl found
  | step status' location' _ found' ih => exact .step status' location' ih found'

/-- Each call of a run is made with the request that the redirects before it lead to. -/
theorem reaches_of_call {left earlier : Nat} {r : SentRequest} {trace : List DispatchStep}
    {outcome : Except Fault Reply} (runs : Runs transport left earlier r trace outcome) (k : Nat)
    (call : SentRequest) (made : (calls trace)[k]? = some call) :
    ∃ current, Reaches r ((hops trace).take k) current ∧ call = current.forTransport := by
  induction runs generalizing k with
  | @last _ _ r _ _ ends =>
    rw [calls_of_ends ends] at made
    rw [hops_of_ends ends, List.take_nil]
    cases k with
    | zero =>
      cases made
      exact ⟨r, .refl, rfl⟩
    | succ k => cases made
  | @followed _ _ r _ _ _ reply location hop _ _ found _ ih =>
    rw [calls_following] at made
    rw [hops_following]
    cases k with
    | zero =>
      cases made
      exact ⟨r, .refl, rfl⟩
    | succ k =>
      obtain ⟨current, reached, rfl⟩ := ih k made
      exact ⟨current, .head reply.status location found reached, rfl⟩

/-! ## The chain -/

/-- The response to a call redirects to a location. -/
def RedirectsTo (transport : Transport) (number : Nat) (call : SentRequest) (reply : Reply)
    (location : String) : Prop :=
  (transport number call).reply = .ok reply ∧ reply.status ∈ [301, 302, 303, 307, 308] ∧
    Header.joined? reply.headers "location" = some location ∧ location ≠ ""

/-- A trace is a chain of at most `limit` redirects that begins with a request and has come to an
outcome. -/
structure RedirectChain (transport : Transport) (earlier limit : Nat) (r : SentRequest)
    (trace : List DispatchStep) (outcome : Except Fault Reply) : Prop where
  first : (calls trace).head? = some r.forTransport
  bounded : (calls trace).length ≤ limit + 1
  /-- Every call but the last is followed by a redirect that is reported. -/
  reported : (calls trace).length = (hops trace).length + 1
  /-- Two calls in a row are linked by the response to the first of them. -/
  linked : ∀ k call next, (calls trace)[k]? = some call → (calls trace)[k + 1]? = some next →
    ∃ reply location base target, RedirectsTo transport (earlier + k) call reply location ∧
      Url.parse? none call.url = some base ∧ Url.parse? (some base) location = some target ∧
      next.url = target.text ∧ (hops trace)[k]? = some ⟨reply.status, call.url, next.url⟩
  /-- Body given up, location resolved, redirect reported, next call: in this order. -/
  ordered : (stage? trace).isSome
  /-- A location that is resolved is that of the response, relative to the URL of the call. -/
  located : ∀ k location base, (locations trace)[k]? = some (location, base) →
    ∃ call reply, (calls trace)[k]? = some call ∧ base = call.url ∧
      RedirectsTo transport (earlier + k) call reply location
  /-- A response that is returned is that of the last call, with its body at hand, and no redirect
  that could have been followed. -/
  returned : ∀ reply, outcome = .ok reply → stage? trace = some .answered ∧
    ∃ last, (calls trace).getLast? = some last ∧
      (transport (earlier + (hops trace).length) last).reply = .ok reply ∧
      (reply.status ∈ [301, 302, 303, 307, 308] → (hops trace).length = limit ∨
        ∀ location, Header.joined? reply.headers "location" = some location → location = "")
  /-- Of a response that is not returned the body is given up, also when the run fails. -/
  released : ∀ fault, outcome = .error fault → ∀ last reply, (calls trace).getLast? = some last →
    (transport (earlier + (hops trace).length) last).reply = .ok reply →
      stage? trace ≠ some .answered

/-- A run that ends after its first call is a chain without a redirect. -/
theorem redirectChain_of_ends {left earlier : Nat} {r : SentRequest} {steps : List DispatchStep}
    {outcome : Except Fault Reply} (ends : Ends transport left earlier r steps outcome) :
    RedirectChain transport earlier left r (opening transport earlier r ++ steps) outcome := by
  have calls_eq := calls_of_ends ends
  have hops_eq := hops_of_ends ends
  constructor
  case first => rw [calls_eq]; rfl
  case bounded => rw [calls_eq]; exact Nat.le_add_left 1 left
  case reported => rw [calls_eq, hops_eq]; rfl
  case linked =>
    rw [calls_eq]
    exact fun k call next _ hn => nomatch hn
  case ordered =>
    rw [stage_opening]
    cases ends <;> rfl
  case located =>
    rw [locations_opening, calls_eq]
    intro k location base hk
    cases ends with
    | lost reply _ answer redirects _ =>
      cases k with
      | zero =>
        cases hk
        exact ⟨r.forTransport, reply, rfl, rfl, answer, (location?_eq_some_iff _ _).1 redirects⟩
      | succ k => cases hk
    | _ => cases hk
  case returned =>
    rw [stage_opening, calls_eq, hops_eq]
    intro reply returned
    cases ends with
    | returned _ answer final =>
      cases returned
      refine ⟨rfl, r.forTransport, rfl, answer, fun status => ?_⟩
      rcases final with none | zero
      · refine .inr fun location joined => ?_
        by_contra filled
        have redirects := (location?_eq_some_iff reply location).2 ⟨status, joined, filled⟩
        rw [none] at redirects
        cases redirects
      · exact .inl zero.symm
    | _ => cases returned
  case released =>
    rw [stage_opening, calls_eq, hops_eq]
    intro fault failed last reply found answer
    cases found
    cases ends with
    | failed _ unanswered => exact nomatch answer.symm.trans unanswered
    | returned _ _ _ => cases failed
    | kept _ _ _ _ _ _ => exact nofun
    | lost _ _ _ _ _ => exact nofun

/-- A redirect in front of a chain makes a chain. -/
theorem RedirectChain.followed {left earlier : Nat} {r next : SentRequest} {reply : Reply}
    {location : String} {hop : Hop} {trace : List DispatchStep} {outcome : Except Fault Reply}
    (answer : (transport earlier r.forTransport).reply = .ok reply)
    (redirects : location? reply = some location)
    (found : next? r reply.status location = some (hop, next))
    (chain : RedirectChain transport (earlier + 1) left next trace outcome) :
    RedirectChain transport earlier (left + 1) r (following transport earlier r location hop trace)
      outcome := by
  have here : RedirectsTo transport earlier r.forTransport reply location :=
    ⟨answer, (location?_eq_some_iff _ _).1 redirects⟩
  obtain ⟨base, target, _, hb, ht, -, rfl, hn⟩ := next?_eq_some found
  have last_eq : (r.forTransport :: calls trace).getLast? = (calls trace).getLast? := by
    cases hc : calls trace with
    | nil => exact nomatch (congrArg List.head? hc).symm.trans chain.first
    | cons call rest => exact List.getLast?_cons_cons
  have shift (k : Nat) : earlier + 1 + k = earlier + (k + 1) := by omega
  constructor
  case first => rw [calls_following]; rfl
  case bounded =>
    rw [calls_following]
    exact Nat.succ_le_succ chain.bounded
  case reported =>
    rw [calls_following, hops_following]
    exact congrArg Nat.succ chain.reported
  case linked =>
    rw [calls_following, hops_following]
    intro k call second hk hn'
    cases k with
    | zero =>
      have second_eq : second = next.forTransport := by
        rw [List.getElem?_cons_succ, ← List.head?_eq_getElem?, chain.first] at hn'
        exact (Option.some.inj hn').symm
      cases hk
      have url : second.url = target.text := by rw [second_eq, hn]; rfl
      refine ⟨reply, location, base, target, here, hb, ht, url, ?_⟩
      rw [url]
      rfl
    | succ k =>
      rw [← shift k]
      exact chain.linked k call second hk hn'
  case ordered => rw [stage_following]; exact chain.ordered
  case located =>
    rw [calls_following, locations_following]
    intro k location' base' hk
    cases k with
    | zero =>
      cases hk
      exact ⟨r.forTransport, reply, rfl, rfl, here⟩
    | succ k =>
      rw [← shift k]
      exact chain.located k location' base' hk
  case returned =>
    rw [stage_following, calls_following, hops_following]
    intro reply' outcome_eq
    obtain ⟨stage, last, hl, hr, final⟩ := chain.returned reply' outcome_eq
    refine ⟨stage, last, last_eq.trans hl, ?_, fun status =>
      (final status).imp_left (congrArg Nat.succ)⟩
    rw [List.length_cons, ← shift]
    exact hr
  case released =>
    rw [stage_following, calls_following, hops_following]
    intro fault outcome_eq last reply' hl
    rw [List.length_cons, ← shift]
    exact chain.released fault outcome_eq last reply' (last_eq.symm.trans hl)

theorem redirectChain_of_runs {left earlier : Nat} {r : SentRequest} {trace : List DispatchStep}
    {outcome : Except Fault Reply} (runs : Runs transport left earlier r trace outcome) :
    RedirectChain transport earlier left r trace outcome := by
  induction runs with
  | last ends => exact redirectChain_of_ends ends
  | followed reply location hop answer redirects found _ chain =>
    exact chain.followed answer redirects found

/-! ## Limits -/

theorem limitOf_eq_of_toNat? {m : Binary64} {n : Nat} (natural : m.toNat? = some n) :
    limitOf m = n := by
  have floor := Binary64.floor?_neg_of_toNat? natural
  unfold limitOf
  split
  · cases natural
  · cases natural
  · rw [floor]
    show (-(-(n : Int))).toNat = n
    rw [Int.neg_neg, Int.toNat_natCast]

/-- What a dispatch reports is the chain of its run. -/
theorem redirectChain_limit (transport : Transport) (p : Policy) (hasSignal : Bool) (earlier : Nat)
    (r : SentRequest) :
    RedirectChain transport earlier p.limit r (dispatch transport p hasSignal earlier r).1
      (dispatch transport p hasSignal earlier r).2 := by
  have chain := redirectChain_of_runs (runs_run transport p.limit earlier r)
  unfold dispatch
  cases hr : run transport p.limit earlier r with
  | mk trace outcome =>
    rw [hr] at chain
    cases outcome with
    | ok reply => exact chain
    | error fault => exact { chain with
        returned := nofun
        released := fun _ _ => chain.released fault rfl }

/-- A dispatch follows redirects one by one, at most as many as its policy allows and none when
redirects are not to be followed. -/
theorem redirectChain_dispatch (p : Policy) (n : Nat) (natural : p.maxRedirects.toNat? = some n)
    (hasSignal : Bool) (earlier : Nat) (r : SentRequest) :
    RedirectChain transport earlier (if p.followRedirects then n else 0) r
      (dispatch transport p hasSignal earlier r).1
      (dispatch transport p hasSignal earlier r).2 := by
  have limit : p.limit = if p.followRedirects then n else 0 := by
    rw [Policy.limit, limitOf_eq_of_toNat? natural]
  rw [← limit]
  exact redirectChain_limit transport p hasSignal earlier r

/-- A server that redirects for ever is called once more than redirects are allowed, and its last
redirect is the response. -/
theorem redirectChain_dispatch_loop :
    let loop : Transport := fun _ _ => ⟨[], .ok {
      status := 302, statusText := "", headers := [("Location", "/loop")], body := .ok [] }⟩
    let r : SentRequest := ⟨"GET", "https://h.example/a", none, none⟩
    let made := dispatch loop ⟨30000, true, 2⟩ true 0 r
    RedirectChain loop 0 2 r made.1 made.2 ∧ (calls made.1).map (·.url) =
      ["https://h.example/a", "https://h.example/loop", "https://h.example/loop"] := by
  intro loop r made
  have natural : Binary64.toNat? 2 = some 2 := by decide +kernel
  exact ⟨redirectChain_dispatch ⟨30000, true, 2⟩ 2 natural true 0 r, by decide +kernel⟩

end HttpScript.Dispatch
