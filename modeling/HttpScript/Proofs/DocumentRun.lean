import HttpScript.Proofs.ExecutionLaws

/-!
# Requests of a document, one after the other

The requests that are selected are executed in order. Each is resolved against the session that the
run began with, to which the requests before it have added what they were answered: a name stands
for the response of the last successful request of that name. Where the requests before it run no
code, that is all that has changed.

    before.session.get? name = (lastNamed? name (kept …)).or (state.session.get? name)
                                                                (get?_stateAfter_take)
    before.session = state.session.storeAll (kept …)            (sessionState_stateAfter_take)
    e.result.request = (resolveRequest … before r).1            (executeDocument_chains)

One failure ends the run without any results: a body whose reading fails with a value that cannot be
written as text, so that there is nothing to report (`executeDocument_chains_undescribed`).
-/

namespace HttpScript.Execution

/-! ## All requests -/

/-- What executions leave for later requests, in order. -/
def kept (now : Int) (runs : List (Request × Execution)) : List (String × StoredResponse) :=
  runs.filterMap fun run => kept? now run.1 run.2.result

theorem kept_cons (now : Int) (r : Request) (e : Execution) (runs : List (Request × Execution)) :
    kept now ((r, e) :: runs) = (kept? now r e.result).toList ++ kept now runs := by
  unfold kept
  rw [List.filterMap_cons]
  cases kept? now r e.result <;> rfl

theorem stateAfter_cons (state : ExecutorState) (e : Execution) (es : List Execution) :
    stateAfter state (e :: es) = stateAfter e.state es := by
  cases es with
  | nil => rfl
  | cons f es =>
    unfold stateAfter
    rw [List.getLast?_cons_cons]
    cases h : (f :: es).getLast? with
    | none => exact nomatch List.getLast?_eq_none_iff.1 h
    | some last => rfl

section All

variable (s : Surroundings) (settings : ExecutorSettings) (hasSignal stopOnFailure : Bool)
  (file : Record String)

/-- The execution of a request in a state. -/
def Makes (state : ExecutorState) (r : Request) (e : Execution) : Prop :=
  e = execute s settings state (signalIn hasSignal state) file r

/-- The executions of requests from a state on: the first one is made, and the others if it does
not end the run. -/
inductive Executed : ExecutorState → List Request → List Execution → Prop where
  | done (state : ExecutorState) : Executed state [] []
  | ended {state : ExecutorState} {r : Request} {rest : List Request} {e : Execution}
      (made : Makes s settings hasSignal file state r e) (ends : e.endsRun stopOnFailure = true) :
      Executed state (r :: rest) [e]
  | next {state : ExecutorState} {r : Request} {rest : List Request} {e : Execution}
      {es : List Execution} (made : Makes s settings hasSignal file state r e)
      (goesOn : e.endsRun stopOnFailure = false) (others : Executed e.state rest es) :
      Executed state (r :: rest) (e :: es)

theorem executed_executeAll (state : ExecutorState) (requests : List Request) :
    Executed s settings hasSignal stopOnFailure file state requests
      (executeAll s settings hasSignal stopOnFailure file state requests) := by
  induction requests generalizing state with
  | nil => exact .done state
  | cons r rest ih =>
    rw [executeAll]
    generalize made : execute s settings state (signalIn hasSignal state) file r = e
    cases ends : e.endsRun stopOnFailure with
    | true => exact .ended made.symm ends
    | false => exact .next made.symm ends (ih e.state)

variable {s settings hasSignal stopOnFailure file} {state : ExecutorState}
  {requests : List Request} {es : List Execution}

/-- Executions are those of the requests in order, each in the state that the ones before it
leave. -/
theorem getElem?_of_executed
    (executed : Executed s settings hasSignal stopOnFailure file state requests es) (i : Nat)
    (e : Execution) (h : es[i]? = some e) :
    ∃ r, requests[i]? = some r ∧
      Makes s settings hasSignal file (stateAfter state (es.take i)) r e := by
  induction executed generalizing i with
  | done => cases h
  | @ended _ r _ _ made _ =>
    cases i with
    | zero =>
      cases h
      exact ⟨r, rfl, made⟩
    | succ i => cases h
  | @next _ r _ e' _ made _ _ ih =>
    cases i with
    | zero =>
      cases h
      exact ⟨r, rfl, made⟩
    | succ i =>
      rw [List.take_succ_cons, stateAfter_cons]
      exact ih i h

/-- What one execution makes of a state, the executions before a place make of it one after the
other. -/
theorem stateAfter_take_induction
    {P : ExecutorState → List (String × StoredResponse) → ExecutorState → Prop}
    (Q : Request → Prop) (none_ : ∀ state, P state [] state)
    (step : ∀ before r e later last, Q r → Makes s settings hasSignal file before r e →
      P e.state later last → P before ((kept? s.ambient.now r e.result).toList ++ later) last)
    (executed : Executed s settings hasSignal stopOnFailure file state requests es) (i : Nat)
    (all : ∀ r ∈ requests.take i, Q r) :
    P state (kept s.ambient.now ((requests.zip es).take i)) (stateAfter state (es.take i)) := by
  induction executed generalizing i with
  | done state =>
    rw [List.take_nil, List.zip_nil_left, List.take_nil]
    exact none_ state
  | @ended state r rest e made _ =>
    cases i with
    | zero => exact none_ state
    | succ i =>
      rw [List.take_succ_cons, stateAfter_cons, List.zip_cons_cons, List.take_succ_cons, kept_cons,
        List.take_nil, List.zip_nil_right, List.take_nil]
      exact step state r e _ _ (all r List.mem_cons_self) made (none_ e.state)
  | @next state r rest e es made _ _ ih =>
    cases i with
    | zero => exact none_ state
    | succ i =>
      rw [List.take_succ_cons, stateAfter_cons, List.zip_cons_cons, List.take_succ_cons, kept_cons]
      exact step state r e _ _ (all r List.mem_cons_self) made
        (ih i fun q hq => all q (List.mem_cons_of_mem _ hq))

/-- Before each request, a name is answered by what earlier results have left under it, and else as
when the run began; the resolver does not change. -/
theorem get?_stateAfter_take
    (executed : Executed s settings hasSignal stopOnFailure file state requests es) (i : Nat) :
    (stateAfter state (es.take i)).resolver = state.resolver ∧
      ∀ name, (stateAfter state (es.take i)).session.get? name =
        (Record.lastNamed? name (kept s.ambient.now ((requests.zip es).take i))).or
          (state.session.get? name) := by
  refine stateAfter_take_induction (P := fun first done last => last.resolver = first.resolver ∧
    ∀ name, last.session.get? name = (Record.lastNamed? name done).or (first.session.get? name))
    (fun _ => True) (fun _ => ⟨rfl, fun _ => rfl⟩) ?_ executed i fun _ _ => trivial
  rintro before r e later last - made ⟨resolver, found⟩
  unfold Makes at made
  have kept_ := get?_execute s settings before (signalIn hasSignal before) file r
  have same := resolver_execute s settings before (signalIn hasSignal before) file r
  rw [← made] at kept_ same
  refine ⟨resolver.trans same, fun name => ?_⟩
  rw [found name, kept_ name, Record.lastNamed?_append, Option.or_assoc]

/-- Where the requests before it run no code, the session before a request is the one that the run
began with and what earlier results have left in it, and the patterns are those of the start. -/
theorem sessionState_stateAfter_take
    (executed : Executed s settings hasSignal stopOnFailure file state requests es) (i : Nat)
    (free : ∀ r ∈ requests.take i, isCodeFree settings.headerDefaults r = true) :
    (stateAfter state (es.take i)).toSessionState =
      { state.toSessionState with
        session := state.session.storeAll (kept s.ambient.now ((requests.zip es).take i)) } := by
  refine stateAfter_take_induction (P := fun first done last => last.toSessionState =
    { first.toSessionState with session := first.session.storeAll done })
    (isCodeFree settings.headerDefaults · = true) (fun _ => rfl) ?_ executed i free
  intro before r e later last plain made same
  unfold Makes at made
  have after := sessionState_execute s settings before (signalIn hasSignal before) file r
  rw [resolvedIn_of_isCodeFree s settings before file r plain, ← made] at after
  rw [same, after, Session.storeAll_append]

/-- A run goes on until an execution ends it, and then stops. -/
theorem ends_of_executed
    (executed : Executed s settings hasSignal stopOnFailure file state requests es) :
    es.length ≤ requests.length ∧ (∀ e ∈ es.dropLast, e.endsRun stopOnFailure = false) ∧
      (es.length < requests.length → ∃ e, es.getLast? = some e ∧
        e.endsRun stopOnFailure = true) := by
  induction executed with
  | done =>
    exact ⟨Nat.le_refl _, fun f hf => absurd hf List.not_mem_nil,
      fun fewer => absurd fewer (Nat.lt_irrefl _)⟩
  | @ended _ _ _ e _ ends =>
    exact ⟨Nat.le_add_left 1 _, fun f hf => absurd hf List.not_mem_nil, fun _ => ⟨e, rfl, ends⟩⟩
  | @next _ _ _ e es _ goesOn _ ih =>
    obtain ⟨short, before, ended⟩ := ih
    refine ⟨Nat.succ_le_succ short, ?_, fun fewer => ?_⟩
    · intro f hf
      cases es with
      | nil => cases hf
      | cons e' es =>
        rcases List.mem_cons.1 hf with rfl | hf
        · exact goesOn
        · exact before f hf
    · obtain ⟨last, hl, ends⟩ := ended (Nat.lt_of_succ_lt_succ fewer)
      cases es with
      | nil => cases hl
      | cons e' es => exact ⟨last, List.getLast?_cons_cons.trans hl, ends⟩

end All

/-! ## Reports -/

/-- Results are those of as many requests as are to be run: all of them, unless a failure stops the
run and is the last result. -/
def Complete (stopOnFailure : Bool) (requests : List Request) (results : List ExecutionResult) :
    Prop :=
  results.length ≤ requests.length ∧
    (stopOnFailure = true → ∀ result ∈ results.dropLast, result.success = true) ∧
    (results.length < requests.length → stopOnFailure = true ∧
      ∃ last, results.getLast? = some last ∧ last.success = false)

theorem report_eq_ok_iff (es : List Execution) (results : List ExecutionResult) :
    report es = .ok results ↔ es.map (·.result) = results ∧ ∀ e ∈ es, e.broken = none := by
  unfold report
  cases broken : es.findSome? (·.broken) with
  | some fault =>
    obtain ⟨e, he, found⟩ := List.exists_of_findSome?_eq_some broken
    refine iff_of_false nofun ?_
    rintro ⟨-, unbroken⟩
    rw [unbroken e he] at found
    cases found
  | none =>
    rw [List.findSome?_eq_none_iff] at broken
    rw [Except.ok.injEq]
    exact (and_iff_left broken).symm

theorem exists_report_iff (es : List Execution) :
    (∃ results, report es = .ok results) ↔ ∀ e ∈ es, e.broken = none := by
  simp only [report_eq_ok_iff, exists_and_right, exists_eq', true_and]

/-- What a run reports are the results of all requests that are to be run. -/
theorem complete_of_report {s : Surroundings} {settings : ExecutorSettings}
    {hasSignal stopOnFailure : Bool} {file : Record String} {state : ExecutorState}
    {requests : List Request} {es : List Execution}
    (executed : Executed s settings hasSignal stopOnFailure file state requests es)
    (results : List ExecutionResult) (reported : report es = .ok results) :
    results = es.map (·.result) ∧ Complete stopOnFailure requests results := by
  obtain ⟨rfl, unbroken⟩ := (report_eq_ok_iff es results).1 reported
  obtain ⟨short, before, ended⟩ := ends_of_executed executed
  have ends_eq (e : Execution) (he : e ∈ es) :
      e.endsRun stopOnFailure = (stopOnFailure && !e.result.success) := by
    rw [endsRun, unbroken e he]
    rfl
  refine ⟨rfl, ?_⟩
  unfold Complete
  rw [List.length_map, List.getLast?_map, ← List.map_dropLast]
  refine ⟨short, fun stops result hr => ?_, fun fewer => ?_⟩
  · obtain ⟨e, he, rfl⟩ := List.mem_map.1 hr
    have goesOn := before e he
    rw [ends_eq e ((List.dropLast_sublist es).subset he), stops] at goesOn
    exact (Bool.not_eq_false' _).mp goesOn
  · obtain ⟨e, last, ends⟩ := ended fewer
    rw [ends_eq e (List.mem_of_getLast? last), Bool.and_eq_true, Bool.not_eq_true'] at ends
    exact ⟨ends.1, e.result, congrArg _ last, ends.2⟩

/-! ## Documents -/

theorem requests_sublist (sel : Selection) (d : Document) :
    (sel.requests d).Sublist d.requests := by
  unfold Selection.requests
  split
  · cases found : d.requestNamed? _ with
    | none => exact List.nil_sublist _
    | some r => exact List.singleton_sublist.2 (List.mem_of_find?_eq_some found)
  · exact List.filter_sublist
  · exact List.Sublist.refl _

/-- What an execution does, in terms of the state before it and the one that resolving leaves. -/
structure Conducts (s : Surroundings) (settings : ExecutorSettings) (signal : Option Bool)
    (file : Record String) (before : ExecutorState) (r : Request) (left : SessionState)
    (e : Execution) : Prop where
  resolved : (e.result.request, left) = resolveRequest s.ambient before.resolver
    settings.headerDefaults file before.toSessionState r
  /-- Resolving changes no response, and without code nothing at all. -/
  label : left.session.map SessionEntry.label = before.session.map SessionEntry.label
  stays : isCodeFree settings.headerDefaults r = true → left = before.toSessionState
  leaves : e.state.toSessionState =
    { left with session := left.session.storeAll (kept? s.ambient.now r e.result).toList }
  unchanged : e.result.success = false → e.state.toSessionState = left
  broken : e.broken.isSome ↔ Indescribable s.transport before.calls signal e.trace

theorem conducts_execute (s : Surroundings) (settings : ExecutorSettings) (signal : Option Bool)
    (file : Record String) (before : ExecutorState) (r : Request) :
    Conducts s settings signal file before r (resolvedIn s settings before file r).2
      (execute s settings before signal file r) where
  resolved := by
    rw [request_execute]
    rfl
  label := label_resolvedIn ..
  stays := resolvedIn_of_isCodeFree s settings before file r
  leaves := sessionState_execute ..
  unchanged := sessionState_of_failure s settings before signal file r
  broken := broken_execute ..

/-- Each result of a run is that of the selected request in its place. It was resolved against the
session at the start and what the results before it have left there, so that a name stands for the
last of those responses; a failed request leaves every response as it was. The trees of the bodies
and the patterns have not changed either unless a request ran code. What is reported are the results
of all requests that are to be run, and it is reported unless an execution is broken off by a
response that nothing can be said about. -/
theorem executeDocument_chains (s : Surroundings) (settings : ExecutorSettings)
    (hasSignal stopOnFailure : Bool) (sel : Selection) (state : ExecutorState) (content : String) :
    let d := Document.parse content
    let selected := sel.requests d
    let es := executeDocument s settings hasSignal stopOnFailure sel state content
    selected.Sublist d.requests ∧
    (∀ i e, es[i]? = some e → ∃ r, selected[i]? = some r ∧
      let before := stateAfter state (es.take i)
      let earlier := kept s.ambient.now ((selected.zip es).take i)
      before.resolver = state.resolver ∧
      (∀ name, before.session.get? name =
        (Record.lastNamed? name earlier).or (state.session.get? name)) ∧
      ((∀ q ∈ selected.take i, isCodeFree settings.headerDefaults q = true) →
        before.toSessionState =
          { state.toSessionState with session := state.session.storeAll earlier }) ∧
      ∃ left, Conducts s settings (signalIn hasSignal before) d.fileVariables before r left e) ∧
    (∀ results, report es = .ok results →
      results = es.map (·.result) ∧ Complete stopOnFailure selected results) ∧
    ((∃ results, report es = .ok results) ↔ ∀ e ∈ es, e.broken = none) := by
  intro d selected es
  have executed : Executed s settings hasSignal stopOnFailure d.fileVariables state selected es :=
    executed_executeAll ..
  refine ⟨requests_sublist sel d, fun i e he => ?_, complete_of_report executed,
    exists_report_iff es⟩
  obtain ⟨r, hr, made⟩ := getElem?_of_executed executed i e he
  obtain ⟨resolver, found⟩ := get?_stateAfter_take executed i
  refine ⟨r, hr, resolver, found, sessionState_stateAfter_take executed i, ?_⟩
  unfold Makes at made
  rw [made]
  exact ⟨_, conducts_execute ..⟩

/-- The failed request in between leaves the response of the first one in place, which has its name
in another spelling. -/
theorem executeDocument_chains_login :
    let answer (body : Except Fault Bytes) : Exchange :=
      ⟨[], .ok { status := 200, statusText := "", headers := [], body }⟩
    let s : Surroundings := {
      ambient := ⟨0, 0, "", []⟩
      stopwatch := fun _ => 0
      transport := fun earlier _ =>
        if earlier = 1 then ⟨[], .error (.plain "lost")⟩ else answer (.ok [0x37]) }
    let settings : ExecutorSettings := ⟨⟨30000, true, 10⟩, []⟩
    let state : ExecutorState := ⟨.start, .start "dev" [], 0, 0, false⟩
    let content := "# @name login\nGET https://h.example/1\n###\n# @name Login\n" ++
      "GET https://h.example/2\n###\nGET https://h.example/\x7b\x7bLOGIN.response.body\x7d\x7d"
    let es := executeDocument s settings false false ⟨none, none⟩ state content
    es.map (fun e => (e.result.success, e.result.request.url)) =
      [(true, "https://h.example/1"), (false, "https://h.example/2"),
        (true, "https://h.example/7")] ∧
    ∃ results, report es = .ok results ∧
      Complete false (Selection.requests ⟨none, none⟩ (Document.parse content)) results := by
  intro answer s settings state content es
  have unbroken : es.all (·.broken.isNone) = true := by decide +kernel
  obtain ⟨-, -, complete, reports⟩ :=
    executeDocument_chains s settings false false ⟨none, none⟩ state content
  obtain ⟨results, reported⟩ :=
    reports.2 fun e he => Option.isNone_iff_eq_none.1 (List.all_eq_true.1 unbroken e he)
  exact ⟨by decide +kernel, results, reported, (complete results reported).2⟩

/-- A body whose reading fails with an object that hides how it is written ends the run: there are
no results, and the second request is not executed. -/
theorem executeDocument_chains_undescribed :
    let hidden : Fault := .value (.object [("toString", .number 1)])
    let s : Surroundings := {
      ambient := ⟨0, 0, "", []⟩
      stopwatch := fun _ => 0
      transport := fun earlier _ => ⟨[], .ok {
        status := 200, statusText := "", headers := []
        body := if earlier = 0 then .error hidden else .ok [0x78] }⟩ }
    let settings : ExecutorSettings := ⟨⟨30000, true, 10⟩, []⟩
    let state : ExecutorState := ⟨.start, .start "dev" [], 0, 0, false⟩
    let content := "GET https://h.example/1\n###\nGET https://h.example/2"
    let es := executeDocument s settings false false ⟨none, none⟩ state content
    (Selection.requests ⟨none, none⟩ (Document.parse content)).length = 2 ∧
      es.map (·.broken.map Fault.message) = [some "Cannot convert object to primitive value"] ∧
      ¬ ∃ results, report es = .ok results := by
  intro hidden s settings state content es
  have broken : es.map (·.broken.map Fault.message) =
    [some "Cannot convert object to primitive value"] := by decide +kernel
  refine ⟨by decide +kernel, broken, ?_⟩
  rintro ⟨results, reported⟩
  have unbroken := ((report_eq_ok_iff es results).1 reported).2
  obtain ⟨e, he, found⟩ := List.mem_map.1 (broken ▸ List.mem_singleton_self _)
  rw [unbroken e he] at found
  cases found

end HttpScript.Execution
