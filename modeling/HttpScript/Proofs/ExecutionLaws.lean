import HttpScript.Proofs.RedirectChain
import HttpScript.Proofs.SessionHistory
import HttpScript.Execution

/-!
# What one execution does

An execution sends the request that its state resolves to. A success leaves its response in the
session under the name of the request, and a failure leaves the session as it was when the request
had been resolved. Resolving changes no response, and without code it changes nothing.

    e.state.session = left.session.storeAll (kept? … e.result).toList       (session_execute)
    left.session.map label = state.session.map label                        (label_resolvedIn)

An execution is broken off by one kind of failure only: a body whose reading fails with a value that
cannot be written as text (`broken_execute`).
-/

namespace HttpScript

/-! ## Faults that cannot be described -/

theorem Fault.isClassified_eq_false_iff (fault : Fault) (cancelled timedOut : Bool) :
    fault.isClassified cancelled timedOut = false ↔
      cancelled = false ∧ timedOut = false ∧ fault.message? = none := by
  have described_of_network : fault.isNetwork = true → fault.message?.isSome := by
    cases fault with
    | error _ _ _ _ _ => exact fun _ => rfl
    | value _ => exact nofun
  unfold isClassified
  rw [Bool.or_eq_false_iff, Bool.or_eq_false_iff, Bool.or_eq_false_iff, Option.isSome_eq_false_iff,
    Option.isNone_iff_eq_none]
  constructor
  · rintro ⟨⟨⟨running, inTime⟩, -⟩, silent⟩
    exact ⟨running, inTime, silent⟩
  · rintro ⟨running, inTime, silent⟩
    refine ⟨⟨⟨running, inTime⟩, Bool.eq_false_iff.2 fun network => ?_⟩, silent⟩
    have described := described_of_network network
    rw [silent] at described
    cases described

/-- What a dispatch fails with is always described. -/
theorem Dispatch.message?_reported (p : Dispatch.Policy) (hasSignal : Bool) (fault : Fault) :
    (Dispatch.reported p hasSignal fault).message?.isSome := by
  cases fault with
  | error _ _ _ _ _ =>
    dsimp only [reported]
    split <;> rfl
  | value _ =>
    dsimp only [reported, Fault.asError]
    split <;> rfl

namespace Execution

/-! ## Resolving -/

/-- The fields of a request that are resolved, in order. -/
def fields (headerDefaults : Record String) (r : Request) : List String :=
  (Header.mergeDefaults headerDefaults r.headers).map (·.2) ++ r.url :: r.body.toList

/-- Whether no field of a request runs code. -/
def isCodeFree (headerDefaults : Record String) (r : Request) : Bool :=
  (fields headerDefaults r).all Session.isCodeFree

section Resolve

variable (ambient : Ambient) (resolver : Resolver) (headerDefaults own file : Record String)
  (P : SessionState → Prop)

theorem resolveHeaders_invariant (headers : Record String)
    (keeps : ∀ e ∈ headers, ∀ s : SessionState, P s → P (s.resolve e.2).2) (s : SessionState)
    (start : P s) : P (resolveHeaders (resolveField ambient resolver own file) s headers).2 := by
  unfold resolveHeaders
  generalize ([] : Record String) = done
  induction headers generalizing s done with
  | nil => exact start
  | cons e headers ih =>
    obtain ⟨first, others⟩ := List.forall_mem_cons.1 keeps
    exact ih others _ (first s start) _

/-- What resolving none of the fields breaks holds when the request has been resolved. -/
theorem resolveRequest_invariant (r : Request)
    (keeps : ∀ t ∈ fields headerDefaults r, ∀ s : SessionState, P s → P (s.resolve t).2)
    (s : SessionState) (start : P s) :
    P (resolveRequest ambient resolver headerDefaults file s r).2 := by
  unfold fields at keeps
  have headers := resolveHeaders_invariant ambient resolver r.bindings file P
    (Header.mergeDefaults headerDefaults r.headers)
    (fun e he => keeps e.2 (List.mem_append_left _ (List.mem_map_of_mem he))) s start
  have url := keeps r.url (List.mem_append_right _ List.mem_cons_self) _ headers
  unfold resolveRequest
  dsimp only
  cases body : r.body with
  | none => exact url
  | some text =>
    refine keeps text (List.mem_append_right _ (List.mem_cons_of_mem _ ?_)) _ url
    rw [body]
    exact List.mem_singleton_self text

/-- Resolving a request changes no response. -/
theorem label_resolveRequest (s : SessionState) (r : Request) :
    (resolveRequest ambient resolver headerDefaults file s r).2.session.map SessionEntry.label =
      s.session.map SessionEntry.label :=
  resolveRequest_invariant ambient resolver headerDefaults file
    (fun s' => s'.session.map SessionEntry.label = s.session.map SessionEntry.label) r
    (fun t _ s' same => (s'.label_resolve t).trans same) s rfl

/-- A request without code leaves everything as it is. -/
theorem resolveRequest_of_isCodeFree (s : SessionState) (r : Request)
    (free : isCodeFree headerDefaults r = true) :
    (resolveRequest ambient resolver headerDefaults file s r).2 = s :=
  resolveRequest_invariant ambient resolver headerDefaults file (· = s) r
    (fun t ht s' same => (s'.resolve_of_isCodeFree t (List.all_eq_true.1 free t ht)).trans same)
    s rfl

end Resolve

/-! ## One request -/

/-- What a result leaves for later requests: its response under the name of the request, if it was
a success and the request has a name. -/
def kept? (now : Int) (r : Request) (result : ExecutionResult) : Option (String × StoredResponse) :=
  match r.name, result.response with
  | some name, some response =>
    if result.success && !name.isEmpty then
      some (name, ⟨response.status, response.headers, response.body, now⟩)
    else none
  | _, _ => none

theorem kept?_of_no_response (now : Int) (r : Request) (result : ExecutionResult)
    (unanswered : result.response = none) : kept? now r result = none := by
  unfold kept?
  rw [unanswered]
  cases r.name <;> rfl

theorem name_of_mem_kept? (now : Int) (r : Request) (result : ExecutionResult) :
    ∀ e ∈ (kept? now r result).toList, e.1.isEmpty = false := by
  intro e he
  rw [Option.mem_toList] at he
  unfold kept? at he
  split at he
  · split at he
    · next stored =>
      rw [Bool.and_eq_true, Bool.not_eq_true'] at stored
      cases he
      exact stored.2
    · cases he
  · cases he

section Conclude

variable (a : Attempt) (s : Surroundings) (p : Dispatch.Policy) (signal : Option Bool) (f : Fetched)

theorem request_conclude : (a.conclude s p signal f).result.request = a.resolved := by
  cases f <;> rfl

theorem trace_conclude : (a.conclude s p signal f).trace = a.trace := by
  cases f <;> rfl

theorem resolver_conclude : (a.conclude s p signal f).state.resolver = a.before.resolver := by
  cases f <;> rfl

/-- An attempt adds to the session what its result leaves, and nothing else. -/
theorem sessionState_conclude : (a.conclude s p signal f).state.toSessionState =
    { a.before.toSessionState with
      session := a.before.session.storeAll
        (kept? s.ambient.now a.request (a.conclude s p signal f).result).toList } := by
  cases f with
  | read response =>
    show SessionState.mk (keep a.before.session a.request.name s.ambient.now response) _ _ = _
    unfold keep kept? Attempt.conclude Attempt.succeed
    cases a.request.name with
    | none => rfl
    | some name =>
      show SessionState.mk (a.before.session.store name _) _ _ =
        ⟨Session.storeAll _ (Option.toList (if _ then _ else _)), _, _⟩
      by_cases h : name.isEmpty
      · rw [Session.store, if_pos h, h]
        rfl
      · rw [Bool.eq_false_iff.2 h]
        rfl
  | unreadable reply fault => rw [kept?_of_no_response _ _ _ rfl]; rfl
  | failed fault => rw [kept?_of_no_response _ _ _ rfl]; rfl

theorem broken_fail (arrival : List Event) (ttfb : Binary64) (readings : Nat) (fault : Fault) :
    (a.fail s p signal arrival ttfb readings fault).broken.isSome ↔
      (watchAfter signal a.trace).cancelled = false ∧
        (watchAfter signal a.trace).timedOut = false ∧ fault.message? = none := by
  unfold Attempt.fail
  dsimp only
  rw [← Fault.isClassified_eq_false_iff]
  split
  · next described => exact iff_of_false nofun (Bool.not_eq_false _ ▸ described)
  · next undescribed => exact iff_of_true rfl (Bool.eq_false_iff.2 undescribed)

theorem response_of_failure (failed : (a.conclude s p signal f).result.success = false) :
    (a.conclude s p signal f).result.response = none := by
  cases f with
  | read response => cases failed
  | unreadable reply fault => rfl
  | failed fault => rfl

end Conclude

/-! ## Responses that are left unread -/

theorem read_eq_error_iff (reply : Reply) (fault : Fault) :
    Response.read reply = .error fault ↔ reply.body = .error fault := by
  unfold Response.read
  cases reply.body with
  | error other => rw [Except.error.injEq, Except.error.injEq]
  | ok bytes => exact iff_of_false nofun nofun

/-- The response to the last call of a trace is at hand, and reading its body fails. -/
def Unread (transport : Transport) (earlier : Nat) (trace : List DispatchStep) (fault : Fault) :
    Prop :=
  Dispatch.stage? trace = some .answered ∧
    ∃ call reply, (Dispatch.calls trace).getLast? = some call ∧
      (transport (earlier + (Dispatch.hops trace).length) call).reply = .ok reply ∧
      reply.body = .error fault

/-- Reading the response fails with a value that cannot be written as text, before the request was
cancelled or ran out of time. -/
def Indescribable (transport : Transport) (earlier : Nat) (signal : Option Bool)
    (trace : List DispatchStep) : Prop :=
  (watchAfter signal trace).cancelled = false ∧ (watchAfter signal trace).timedOut = false ∧
    ∃ fault, Unread transport earlier trace fault ∧ fault.message? = none

section Fetch

variable (s : Surroundings) (p : Dispatch.Policy) (earlier : Nat) (r : ResolvedRequest)

theorem message?_of_failed (fault : Fault) (failed : (fetch s p earlier r).2 = .failed fault) :
    fault.message?.isSome := by
  unfold fetch at failed
  split at failed
  · cases failed
    rfl
  · have described (trace : List DispatchStep) (fault : Fault)
        (made : Dispatch.dispatch s.transport p true earlier (outgoing r) = (trace, .error fault)) :
        fault.message?.isSome := by
      unfold Dispatch.dispatch at made
      split at made
      · cases made
      · cases made
        exact Dispatch.message?_reported ..
    split at failed
    · next made =>
      cases failed
      exact described _ _ made
    · split at failed <;> cases failed

theorem unreadable_iff_unread (fault : Fault) :
    (∃ reply, (fetch s p earlier r).2 = .unreadable reply fault) ↔
      Unread s.transport earlier (fetch s p earlier r).1 fault := by
  unfold fetch
  split
  · refine iff_of_false ?_ ?_
    · rintro ⟨reply, found⟩
      cases found
    · rintro ⟨stage, -⟩
      cases stage
  · have chain := Dispatch.redirectChain_limit s.transport p true earlier (outgoing r)
    generalize Dispatch.dispatch s.transport p true earlier (outgoing r) = made at chain ⊢
    obtain ⟨trace, failed | reply⟩ := made
    · refine iff_of_false ?_ ?_
      · rintro ⟨reply, found⟩
        cases found
      · rintro ⟨stage, call, reply, last, answer, -⟩
        exact chain.released failed rfl call reply last answer stage
    · -- the response that is returned is the one to the last call, with its body at hand
      obtain ⟨stage, call, last, answer, -⟩ := chain.returned reply rfl
      have unread_iff : Unread s.transport earlier trace fault ↔ reply.body = .error fault := by
        constructor
        · rintro ⟨-, call', reply', last', answer', unread⟩
          obtain rfl : call = call' := Option.some.inj (last.symm.trans last')
          obtain rfl : reply = reply' := Except.ok.inj (answer.symm.trans answer')
          exact unread
        · exact fun unread => ⟨stage, call, reply, last, answer, unread⟩
      dsimp only
      cases hr : Response.read reply with
      | ok response =>
        rw [unread_iff, ← read_eq_error_iff, hr]
        refine iff_of_false ?_ nofun
        rintro ⟨reply', found⟩
        cases found
      | error other =>
        rw [unread_iff, ← read_eq_error_iff, hr]
        constructor
        · rintro ⟨reply', unreadable⟩
          cases unreadable
          rfl
        · intro same
          cases same
          exact ⟨reply, rfl⟩

end Fetch

section One

variable (s : Surroundings) (settings : ExecutorSettings) (state : ExecutorState)
  (signal : Option Bool) (file : Record String) (r : Request)

/-- The request that is sent for a request as written, with the session and the resolver as they
stand, and what resolving it leaves. -/
def resolvedIn : ResolvedRequest × SessionState :=
  resolveRequest s.ambient state.resolver settings.headerDefaults file state.toSessionState r

/-- What is fetched for a request as written. -/
def fetchedIn : List DispatchStep × Fetched :=
  fetch s settings.policy state.calls (resolvedIn s settings state file r).1

theorem execute_eq : execute s settings state signal file r =
    Attempt.conclude
      ⟨r, (resolvedIn s settings state file r).1,
        { state with toSessionState := (resolvedIn s settings state file r).2 },
        (fetchedIn s settings state file r).1⟩ s
      settings.policy signal (fetchedIn s settings state file r).2 := rfl

theorem request_execute : (execute s settings state signal file r).result.request =
    (resolvedIn s settings state file r).1 := by
  rw [execute_eq, request_conclude]

theorem trace_execute : (execute s settings state signal file r).trace =
    (fetchedIn s settings state file r).1 := by
  rw [execute_eq, trace_conclude]

/-- An execution is broken off just when its response is left unread and there is nothing to say
about it. -/
theorem broken_execute : (execute s settings state signal file r).broken.isSome ↔
    Indescribable s.transport state.calls signal
      (execute s settings state signal file r).trace := by
  rw [trace_execute, execute_eq]
  unfold fetchedIn
  generalize resolvedIn s settings state file r = made
  obtain ⟨resolved, left⟩ := made
  dsimp only
  have failed := message?_of_failed s settings.policy state.calls resolved
  have unread := unreadable_iff_unread s settings.policy state.calls resolved
  generalize fetch s settings.policy state.calls resolved = fetched at failed unread ⊢
  obtain ⟨trace, response | ⟨reply, fault⟩ | fault⟩ := fetched
  · refine iff_of_false nofun ?_
    rintro ⟨-, -, fault, h, -⟩
    obtain ⟨_, found⟩ := (unread fault).2 h
    cases found
  · refine (broken_fail ..).trans (and_congr_right' (and_congr_right' ⟨fun silent => ?_, ?_⟩))
    · exact ⟨fault, (unread fault).1 ⟨reply, rfl⟩, silent⟩
    · rintro ⟨fault', h, silent⟩
      obtain ⟨_, same⟩ := (unread fault').2 h
      cases same
      exact silent
  · -- what a dispatch fails with has a message
    have described := failed fault rfl
    refine iff_of_false (fun broken => ?_) ?_
    · rw [((broken_fail ..).1 broken).2.2] at described
      cases described
    · rintro ⟨-, -, fault', h, -⟩
      obtain ⟨_, found⟩ := (unread fault').2 h
      cases found

theorem resolver_execute : (execute s settings state signal file r).state.resolver =
    state.resolver := by
  rw [execute_eq, resolver_conclude]

/-- What an execution leaves is what resolving left and the response of its result. -/
theorem sessionState_execute : (execute s settings state signal file r).state.toSessionState =
    { (resolvedIn s settings state file r).2 with
      session := (resolvedIn s settings state file r).2.session.storeAll
        (kept? s.ambient.now r (execute s settings state signal file r).result).toList } := by
  rw [execute_eq, sessionState_conclude]

theorem session_execute : (execute s settings state signal file r).state.session =
    (resolvedIn s settings state file r).2.session.storeAll
      (kept? s.ambient.now r (execute s settings state signal file r).result).toList :=
  congrArg SessionState.session (sessionState_execute s settings state signal file r)

theorem label_resolvedIn : (resolvedIn s settings state file r).2.session.map SessionEntry.label =
    state.session.map SessionEntry.label := label_resolveRequest ..

theorem resolvedIn_of_isCodeFree (free : isCodeFree settings.headerDefaults r = true) :
    (resolvedIn s settings state file r).2 = state.toSessionState :=
  resolveRequest_of_isCodeFree _ _ _ _ _ _ free

/-- A name is answered by what the result leaves under it, and else as before. -/
theorem get?_execute (name : String) :
    (execute s settings state signal file r).state.session.get? name =
      (Record.lastNamed? name
        (kept? s.ambient.now r (execute s settings state signal file r).result).toList).or
        (state.session.get? name) := by
  rw [session_execute, Session.get?_storeAll _ _ (name_of_mem_kept? _ _ _),
    Session.get?_of_label (label_resolvedIn s settings state file r)]

/-- A failed request leaves what was left when it had been resolved. -/
theorem sessionState_of_failure
    (failed : (execute s settings state signal file r).result.success = false) :
    (execute s settings state signal file r).state.toSessionState =
      (resolvedIn s settings state file r).2 := by
  rw [sessionState_execute, kept?_of_no_response]
  · rfl
  · rw [execute_eq] at failed ⊢
    exact response_of_failure _ s settings.policy signal _ failed

end One

end Execution

end HttpScript
