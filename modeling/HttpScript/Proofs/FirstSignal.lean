import HttpScript.Proofs.ExecutionLaws

/-!
# The signal that comes first

While a request runs, its caller may abort it, its time may run out, the transport may answer, and
the watch ends at some time: in any order. The watch remembers which of the first two came first,
and by that alone a failure is called cancelled or timed out.

    (Watch.start signal).run events = Watch.told signal events                         (run_eq_told)
    failure.kind = .timeout ↔ first? signal events = some .timerExpiry          (tells_first_signal)

What a listener does while a signal is being aborted counts as an event right behind the abort,
which has set its flag by then.
-/

namespace HttpScript

/-! ## The order of events -/

namespace Watch

/-- Whether an event counts: an abort by the caller does if there is a caller's signal. -/
def counts (hasCaller : Bool) : SignalEvent → Bool
  | .callerAbort => hasCaller
  | .timerExpiry => true
  | .cleanup => false

/-- What comes first: the caller's abort if the signal had been aborted before, else the first event
that counts before the watch is over. -/
def first? (signal : Option Bool) (events : List SignalEvent) : Option SignalEvent :=
  if signal = some true then some .callerAbort
  else (events.takeWhile (· != .cleanup)).find? (counts signal.isSome)

/-- The watch that the order of the events tells. -/
def told (signal : Option Bool) (events : List SignalEvent) : Watch where
  hasCaller := signal.isSome
  live := !events.contains .cleanup
  cancelled := first? signal events == some .callerAbort
  timedOut := first? signal events == some .timerExpiry
  aborted := (first? signal events).isSome

theorem first?_ne_cleanup (signal : Option Bool) (events : List SignalEvent) :
    first? signal events ≠ some .cleanup := by
  unfold first?
  split
  · exact nofun
  · intro found
    have counted := List.find?_some found
    cases counted

/-- Later events come first only where nothing came before and the watch goes on. -/
theorem first?_append (signal : Option Bool) (events later : List SignalEvent) :
    first? signal (events ++ later) =
      (first? signal events).or (if .cleanup ∈ events then none else first? signal later) := by
  unfold first?
  split
  · rfl
  · induction events with
    | nil => rfl
    | cons e events ih =>
      by_cases ended : e = .cleanup
      · rw [ended, if_pos List.mem_cons_self]
        rfl
      · have goes_on (es : List SignalEvent) :
            (e :: es).takeWhile (· != .cleanup) = e :: es.takeWhile (· != .cleanup) :=
          List.takeWhile_cons_of_pos (bne_iff_ne.2 ended)
        rw [List.cons_append, goes_on, goes_on, List.find?_cons, List.find?_cons]
        cases counts signal.isSome e with
        | true => rfl
        | false =>
          rw [ih]
          simp [Ne.symm ended]

/-- One event later, the watch is told by the events and that one. -/
theorem step_told (signal : Option Bool) (events : List SignalEvent) (e : SignalEvent) :
    (told signal events).step e = told signal (events ++ [e]) := by
  have counted := first?_ne_cleanup signal events
  have single : first? signal events = none → first? signal [e] =
      if counts signal.isSome e then some e else none := by
    unfold first?
    split
    · exact nofun
    · cases e <;> cases signal <;> exact fun _ => rfl
  unfold told step
  rw [first?_append]
  cases came : first? signal events with
  | none =>
    rw [single came]
    by_cases ended : .cleanup ∈ events
    · cases e <;> simp [ended]
    · cases e <;> cases caller : signal.isSome <;> simp [ended, counts]
  | some c =>
    cases c with
    | cleanup => exact absurd came counted
    | callerAbort => cases e <;> simp
    | timerExpiry => cases e <;> simp

theorem run_eq_told (signal : Option Bool) (events : List SignalEvent) :
    (start signal).run events = told signal events := by
  induction events using List.reverseRecOn with
  | nil => rcases signal with _ | _ | _ <;> rfl
  | append_singleton events e ih =>
    rw [← step_told, ← ih]
    exact List.foldl_append

section Flags

variable (signal : Option Bool) (events : List SignalEvent)

theorem cancelled_told_iff :
    (told signal events).cancelled = true ↔ first? signal events = some .callerAbort :=
  beq_iff_eq

theorem timedOut_told_iff :
    (told signal events).timedOut = true ↔ first? signal events = some .timerExpiry :=
  beq_iff_eq

/-- One of the two events comes first, or none. -/
theorem first?_eq_none_iff :
    first? signal events = none ↔
      (told signal events).cancelled = false ∧ (told signal events).timedOut = false := by
  rw [← Bool.not_eq_true, ← Bool.not_eq_true, cancelled_told_iff, timedOut_told_iff]
  constructor
  · intro none
    rw [none]
    exact ⟨nofun, nofun⟩
  · rintro ⟨running, inTime⟩
    cases came : first? signal events with
    | none => rfl
    | some c =>
      cases c with
      | callerAbort => exact absurd came running
      | timerExpiry => exact absurd came inTime
      | cleanup => exact absurd came (first?_ne_cleanup signal events)

end Flags

/-- What came first stays first, and nothing comes first once the watch is over. -/
theorem first?_append_of_decided (signal : Option Bool) (events later : List SignalEvent)
    (decided : (first? signal events).isSome ∨ .cleanup ∈ events) :
    first? signal (events ++ later) = first? signal events := by
  rw [first?_append]
  rcases decided with came | ended
  · obtain ⟨c, came⟩ := Option.isSome_iff_exists.1 came
    rw [came, Option.some_or]
  · rw [if_pos ended, Option.or_none]

end Watch

/-! ## Kinds of failures -/

/-- A failure is called by what came first, whatever the fault; the fault counts where nothing
came. -/
theorem Failure.kind_classify_told (fault : Fault) (signal : Option Bool)
    (events : List SignalEvent) (timeoutMs : Binary64) :
    let w := Watch.told signal events
    let kind := (classify fault w.cancelled w.timedOut timeoutMs).kind
    let first := Watch.first? signal events
    (kind = .cancelled ↔ first = some .callerAbort) ∧
      (kind = .timeout ↔ first = some .timerExpiry) ∧
      (kind = .transport ∨ kind = .unknown ↔ first = none) := by
  have counted := Watch.first?_ne_cleanup signal events
  unfold Watch.told classify
  cases came : Watch.first? signal events with
  | none => cases fault.isNetwork <;> simp
  | some c =>
    cases c with
    | callerAbort => simp
    | timerExpiry => simp
    | cleanup => exact absurd came counted

/-! ## Signals of a run -/

namespace Dispatch

/-- What happens to the signals during calls, in order. `earlier` calls have been made before. -/
def signalsDuring (transport : Transport) (earlier : Nat) (made : List SentRequest) :
    List SignalEvent :=
  (made.zipIdx earlier).flatMap fun (call, number) => (transport number call).signals

theorem signals_append (left right : List DispatchStep) :
    signals (left ++ right) = signals left ++ signals right := List.filterMap_append

section Steps

variable {transport : Transport} {earlier : Nat} {r : SentRequest}

theorem signals_opening (steps : List DispatchStep) :
    signals (opening transport earlier r ++ steps) =
      (transport earlier r.forTransport).signals ++ signals steps := by
  have listed (events : List SignalEvent) : signals (events.map .signal) = events := by
    unfold signals
    rw [List.filterMap_map]
    exact List.filterMap_some
  rw [signals_append]
  congr 1
  exact listed (transport earlier r.forTransport).signals

theorem signals_of_ends {left : Nat} {steps : List DispatchStep} {outcome : Except Fault Reply}
    (ends : Ends transport left earlier r steps outcome) :
    signals (opening transport earlier r ++ steps) =
      (transport earlier r.forTransport).signals := by
  rw [signals_opening]
  cases ends <;> exact List.append_nil _

theorem signals_following (location : String) (hop : Hop) (trace : List DispatchStep) :
    signals (following transport earlier r location hop trace) =
      (transport earlier r.forTransport).signals ++ signals trace := signals_opening _

/-- The signals of a run are those of its calls. -/
theorem signals_of_runs {left : Nat} {trace : List DispatchStep} {outcome : Except Fault Reply}
    (runs : Runs transport left earlier r trace outcome) :
    signals trace = signalsDuring transport earlier (calls trace) := by
  induction runs with
  | last ends =>
    rw [signals_of_ends ends, calls_of_ends ends]
    exact (List.append_nil _).symm
  | followed reply location hop _ _ _ _ ih =>
    rw [signals_following, calls_following, ih]
    rfl

end Steps

end Dispatch

namespace Execution

/-! ## Executions -/

theorem watchAfter_eq_told (signal : Option Bool) (trace : List DispatchStep) :
    watchAfter signal trace = Watch.told signal (Dispatch.signals trace) :=
  Watch.run_eq_told signal _

/-- A failed attempt says what its watch makes of the fault. -/
theorem failure_conclude (a : Attempt) (s : Surroundings) (p : Dispatch.Policy)
    (signal : Option Bool) (f : Fetched)
    (failed : (a.conclude s p signal f).result.success = false) :
    ∃ fault, (a.conclude s p signal f).result.failure =
      some (Failure.classify fault (watchAfter signal a.trace).cancelled
        (watchAfter signal a.trace).timedOut p.timeoutMs) := by
  cases f with
  | read response => cases failed
  | unreadable reply fault => exact ⟨fault, rfl⟩
  | failed fault => exact ⟨fault, rfl⟩

/-- What the watch after a trace says about its signals, and that it goes on saying it. -/
theorem watchAfter_tells (signal : Option Bool) (trace : List DispatchStep) :
    let w := watchAfter signal trace
    let first := Watch.first? signal (Dispatch.signals trace)
    ¬ (w.cancelled = true ∧ w.timedOut = true) ∧
      (w.cancelled = true ↔ first = some .callerAbort) ∧
      (w.timedOut = true ↔ first = some .timerExpiry) ∧
      (w.aborted = true ↔ w.cancelled = true ∨ w.timedOut = true) ∧
      (first.isSome ∨ .cleanup ∈ Dispatch.signals trace → ∀ later : List DispatchStep,
        (watchAfter signal (trace ++ later)).cancelled = w.cancelled ∧
        (watchAfter signal (trace ++ later)).timedOut = w.timedOut) := by
  simp only [watchAfter_eq_told, Dispatch.signals_append]
  generalize Dispatch.signals trace = events
  have cancelled := Watch.cancelled_told_iff signal events
  have timedOut := Watch.timedOut_told_iff signal events
  refine ⟨?_, cancelled, timedOut, ?_, ?_⟩
  · rintro ⟨c, t⟩
    cases (cancelled.1 c).symm.trans (timedOut.1 t)
  · have aborted : (Watch.told signal events).aborted = (Watch.first? signal events).isSome := rfl
    rw [aborted, Option.isSome_iff_ne_none, Ne, Watch.first?_eq_none_iff, not_and_or,
      Bool.not_eq_false, Bool.not_eq_false]
  · intro decided later
    have same := Watch.first?_append_of_decided signal events (Dispatch.signals later) decided
    unfold Watch.told
    rw [same]
    exact ⟨rfl, rfl⟩

section One

variable (s : Surroundings) (settings : ExecutorSettings) (state : ExecutorState)
  (signal : Option Bool) (file : Record String) (r : Request)

theorem signals_fetch (p : Dispatch.Policy) (earlier : Nat) (r : ResolvedRequest) :
    Dispatch.signals (fetch s p earlier r).1 =
      Dispatch.signalsDuring s.transport earlier (Dispatch.calls (fetch s p earlier r).1) := by
  have runs := Dispatch.runs_run s.transport p.limit earlier (outgoing r)
  unfold fetch Dispatch.dispatch
  split
  · rfl
  · rcases made : Dispatch.run s.transport p.limit earlier (outgoing r) with ⟨trace, fault | reply⟩
    · rw [made] at runs
      exact Dispatch.signals_of_runs runs
    · rw [made] at runs
      dsimp only
      cases Response.read reply <;> exact Dispatch.signals_of_runs runs

theorem signals_execute :
    Dispatch.signals (execute s settings state signal file r).trace =
      Dispatch.signalsDuring s.transport state.calls
        (Dispatch.calls (execute s settings state signal file r).trace) := by
  rw [trace_execute]
  exact signals_fetch s settings.policy state.calls _

/-- A failed execution says what its watch makes of some fault. -/
theorem exists_failure (failed : (execute s settings state signal file r).result.success = false) :
    ∃ fault, (execute s settings state signal file r).result.failure =
      some (Failure.classify fault
        (watchAfter signal (execute s settings state signal file r).trace).cancelled
        (watchAfter signal (execute s settings state signal file r).trace).timedOut
        settings.policy.timeoutMs) := by
  rw [execute_eq] at failed ⊢
  rw [trace_conclude]
  exact failure_conclude _ s settings.policy signal _ failed

/-- An execution whose request was stopped is never broken off. -/
theorem broken_of_first (stopped : (Watch.first? signal (Dispatch.signals
      (execute s settings state signal file r).trace)).isSome) :
    (execute s settings state signal file r).broken = none := by
  have whole := broken_execute s settings state signal file r
  generalize execute s settings state signal file r = e at whole stopped ⊢
  rw [← Option.not_isSome_iff_eq_none, whole]
  rintro ⟨running, inTime, -⟩
  rw [watchAfter_eq_told] at running inTime
  rw [(Watch.first?_eq_none_iff _ _).2 ⟨running, inTime⟩] at stopped
  cases stopped

/-- What a failure is called goes by what came first. -/
theorem kind_of_failure (failed : (execute s settings state signal file r).result.success = false) :
    let first := Watch.first? signal
      (Dispatch.signals (execute s settings state signal file r).trace)
    ∃ failure, (execute s settings state signal file r).result.failure = some failure ∧
      (failure.kind = .cancelled ↔ first = some .callerAbort) ∧
      (failure.kind = .timeout ↔ first = some .timerExpiry) ∧
      (failure.kind = .transport ∨ failure.kind = .unknown ↔ first = none) := by
  obtain ⟨fault, failure⟩ := exists_failure s settings state signal file r failed
  rw [watchAfter_eq_told] at failure
  exact ⟨_, failure, Failure.kind_classify_told fault signal _ _⟩

end One

/-- The watch over a request remembers which came first, the caller's abort or the end of its time,
and nothing changes that. A failure is called by it; the fault counts where neither came. -/
theorem tells_first_signal (signal : Option Bool) :
    (∀ trace : List DispatchStep,
      let w := watchAfter signal trace
      let first := Watch.first? signal (Dispatch.signals trace)
      ¬ (w.cancelled = true ∧ w.timedOut = true) ∧
      (w.cancelled = true ↔ first = some .callerAbort) ∧
      (w.timedOut = true ↔ first = some .timerExpiry) ∧
      (w.aborted = true ↔ w.cancelled = true ∨ w.timedOut = true) ∧
      (first.isSome ∨ .cleanup ∈ Dispatch.signals trace → ∀ later : List DispatchStep,
        (watchAfter signal (trace ++ later)).cancelled = w.cancelled ∧
        (watchAfter signal (trace ++ later)).timedOut = w.timedOut)) ∧
    ∀ s settings state file r,
      let e := execute s settings state signal file r
      let first := Watch.first? signal
        (Dispatch.signalsDuring s.transport state.calls (Dispatch.calls e.trace))
      e.result.success = false →
        (first.isSome → e.broken = none) ∧
        ∃ failure, e.result.failure = some failure ∧
          (failure.kind = .cancelled ↔ first = some .callerAbort) ∧
          (failure.kind = .timeout ↔ first = some .timerExpiry) ∧
          (failure.kind = .transport ∨ failure.kind = .unknown ↔ first = none) := by
  constructor
  · exact fun trace => watchAfter_tells signal trace
  · intro s settings state file r
    dsimp only
    intro failed
    have during := signals_execute s settings state signal file r
    have whole := broken_of_first s settings state signal file r
    have kind := kind_of_failure s settings state signal file r failed
    rw [during] at whole kind
    exact ⟨whole, kind⟩

/-- The time runs out while the transport waits, and a listener aborts the caller's signal then. -/
theorem tells_first_signal_reentrant :
    let s : Surroundings := {
      ambient := ⟨0, 0, "", []⟩
      stopwatch := fun _ => 0
      transport := .ofScript [.hang false true] }
    let state : ExecutorState := ⟨.start, .start "dev" [], 0, 0, false⟩
    let r : Request := ⟨none, "GET", "https://h.example/1", [], none, [], 1, 1⟩
    let e := execute s ⟨⟨30000, true, 10⟩, []⟩ state (some false) [] r
    e.result.success = false ∧ Dispatch.signals e.trace = [.timerExpiry, .callerAbort] ∧
      ∃ failure, e.result.failure = some failure ∧ failure.kind = .timeout := by
  intro s state r
  dsimp only
  have first : Watch.first? (some false) (Dispatch.signalsDuring s.transport state.calls
      (Dispatch.calls (execute s ⟨⟨30000, true, 10⟩, []⟩ state (some false) [] r).trace)) =
        some .timerExpiry := by decide +kernel
  obtain ⟨-, failure, said, -, timeout, -⟩ :=
    (tells_first_signal (some false)).2 s ⟨⟨30000, true, 10⟩, []⟩ state [] r (by decide +kernel)
  exact ⟨by decide +kernel, by decide +kernel, failure, said, timeout.2 first⟩

end Execution

end HttpScript
