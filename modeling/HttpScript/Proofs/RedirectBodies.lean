import HttpScript.Proofs.RedirectHeaders

/-!
# Method and body along redirects

A redirect either leaves method and body of a request alone or makes it a GET without a body. A GET
is not changed by any redirect, so this happens at most once, at the first redirect that drops the
body.

    j = number of the first call after such a redirect
    calls 0 … j - 1   method as given, body unless the method is GET or HEAD or the body is empty
    calls j …         GET, no body                                    (methodsAndBodies_dispatch)
-/

namespace HttpScript.SentRequest

/-! ## One request -/

/-- Whether a redirect with a status drops the body of a request with a method. -/
def DropsBody (method : String) (status : Nat) : Prop :=
  (status = 303 ∧ Text.upper method ≠ "GET" ∧ Text.upper method ≠ "HEAD") ∨
    ((status = 301 ∨ status = 302) ∧ Text.upper method = "POST")

instance (method : String) (status : Nat) : Decidable (DropsBody method status) :=
  inferInstanceAs (Decidable (_ ∨ _))

theorem switchesToGet_iff (method : String) (status : Nat) :
    switchesToGet method status = true ↔ DropsBody method status := by
  simp only [switchesToGet, DropsBody, Bool.or_eq_true, Bool.and_eq_true, beq_iff_eq, bne_iff_ne,
    and_assoc]

theorem upper_get : Text.upper "GET" = "GET" := by decide +kernel

theorem not_dropsBody_get (status : Nat) : ¬ DropsBody "GET" status := by
  unfold DropsBody
  rw [upper_get]
  rintro (⟨-, other, -⟩ | ⟨-, post⟩)
  · exact other rfl
  · exact absurd post (by decide)

theorem switchesToGet_get (status : Nat) : switchesToGet "GET" status = false :=
  Bool.eq_false_iff.2 (mt (switchesToGet_iff _ _).1 (not_dropsBody_get status))

theorem not_dropsBody_of_keeps {status : Nat} (keeps : status = 307 ∨ status = 308)
    (method : String) : ¬ DropsBody method status := by
  unfold DropsBody
  omega

theorem not_dropsBody_of_head {method : String} (head : Text.upper method = "HEAD")
    (status : Nat) : ¬ DropsBody method status := by
  unfold DropsBody
  rw [head]
  rintro (⟨-, -, other⟩ | ⟨-, post⟩)
  · exact other rfl
  · exact absurd post (by decide)

theorem carriesBody_iff (method : String) (body : Option String) :
    carriesBody method body = true ↔ (∃ b, body = some b ∧ b ≠ "") ∧
      Text.upper method ≠ "GET" ∧ Text.upper method ≠ "HEAD" := by
  cases body with
  | none => simp [carriesBody]
  | some b => simp [carriesBody]

/-- The body that is handed over with a request. -/
theorem body_forTransport (r : SentRequest) (b : String) :
    r.forTransport.body = some b ↔
      r.body = some b ∧ b ≠ "" ∧ Text.upper r.method ≠ "GET" ∧ Text.upper r.method ≠ "HEAD" := by
  show (if carriesBody r.method r.body then r.body else none) = some b ↔ _
  rw [Option.ite_none_right_eq_some, carriesBody_iff]
  constructor
  · rintro ⟨⟨⟨_, given, filled⟩, other⟩, same⟩
    obtain rfl := Option.some.inj (given.symm.trans same)
    exact ⟨same, filled, other⟩
  · rintro ⟨same, filled, other⟩
    exact ⟨⟨⟨b, same, filled⟩, other⟩, same⟩

end HttpScript.SentRequest

namespace HttpScript.Dispatch

open SentRequest (DropsBody switchesToGet switchesToGet_iff not_dropsBody_get
  not_dropsBody_of_keeps not_dropsBody_of_head body_forTransport)

/-! ## One redirect -/

/-- What a redirect makes of method and body. -/
theorem method_next {current next : SentRequest} {status : Nat} {location : String} {hop : Hop}
    (found : next? current status location = some (hop, next)) :
    (next.method, next.body) =
      if switchesToGet current.method status then ("GET", none)
      else (current.method, current.body) := by
  obtain ⟨base, target, reread, -, -, -, -, rfl⟩ := next?_eq_some found
  show (if switchesToGet current.method status then "GET" else current.method,
    if switchesToGet current.method status then none else current.body) = _
  cases switchesToGet current.method status <;> rfl

theorem status_next {current next : SentRequest} {status : Nat} {location : String} {hop : Hop}
    (found : next? current status location = some (hop, next)) : hop.status = status := by
  obtain ⟨_, _, _, -, -, -, rfl, -⟩ := next?_eq_some found
  rfl

/-! ## Redirects in a row -/

/-- Whether one of the redirects drops the body of a request with this method. -/
def DropsBodyAmong (method : String) (followed : List Hop) : Prop :=
  ∃ hop ∈ followed, DropsBody method hop.status

instance (method : String) (followed : List Hop) : Decidable (DropsBodyAmong method followed) :=
  inferInstanceAs (Decidable (∃ hop ∈ followed, DropsBody method hop.status))

theorem dropsBodyAmong_concat (method : String) (followed : List Hop) (hop : Hop) :
    DropsBodyAmong method (followed ++ [hop]) ↔
      DropsBodyAmong method followed ∨ DropsBody method hop.status := by
  simp only [DropsBodyAmong, List.mem_append, List.mem_singleton, or_and_right, exists_or,
    exists_eq_left]

/-- Method and body after redirects are those of the request or those of a GET without a body. -/
theorem method_of_reaches {r current : SentRequest} {followed : List Hop}
    (reached : Reaches r followed current) :
    (current.method, current.body) =
      if DropsBodyAmong r.method followed then ("GET", none) else (r.method, r.body) := by
  induction reached with
  | refl => rfl
  | @step followed current next hop status location _ found ih =>
    rw [method_next found, ← status_next found, if_congr (switchesToGet_iff ..) rfl rfl]
    by_cases dropped : DropsBodyAmong r.method followed
    · -- a GET stays what it is
      rw [if_pos dropped, Prod.mk.injEq] at ih
      rw [ih.1, ih.2, ite_self, if_pos ((dropsBodyAmong_concat ..).2 (.inl dropped))]
    · rw [if_neg dropped, Prod.mk.injEq] at ih
      rw [ih.1, ih.2]
      exact if_congr ((dropsBodyAmong_concat ..).trans (or_iff_right dropped)).symm rfl rfl

/-! ## Calls -/

/-- The statuses of the redirects that a trace follows. -/
def statuses (trace : List DispatchStep) : List Nat := (hops trace).map (·.status)

/-- The number of the first call after a redirect that drops the body; if none does, a number that
no call has. -/
def switchingCall (method : String) (trace : List DispatchStep) : Nat :=
  (statuses trace).findIdx (DropsBody method ·) + 1

theorem dropsBodyAmong_take_iff (method : String) {trace : List DispatchStep} {k : Nat}
    (bound : k ≤ (hops trace).length) :
    DropsBodyAmong method ((hops trace).take k) ↔ switchingCall method trace ≤ k := by
  have first : DropsBodyAmong method ((hops trace).take k) ↔
      ((statuses trace).take k).findIdx (DropsBody method ·) <
        ((statuses trace).take k).length := by
    rw [List.findIdx_lt_length]
    simp only [statuses, ← List.map_take, List.mem_map, decide_eq_true_eq, exists_exists_and_eq_and,
      DropsBodyAmong]
  have size : (statuses trace).length = (hops trace).length := List.length_map _
  rw [first, List.findIdx_take, List.length_take, size, switchingCall]
  omega

/-- A redirect makes the next call the first one after the drop only if it drops the body. -/
theorem switchingCall_le_succ_iff (method : String) {trace : List DispatchStep} {k status : Nat}
    (followed : (statuses trace)[k]? = some status) :
    switchingCall method trace ≤ k + 1 ↔
      switchingCall method trace ≤ k ∨ DropsBody method status := by
  rw [statuses, List.getElem?_map] at followed
  obtain ⟨hop, found, rfl⟩ := Option.map_eq_some_iff.1 followed
  have bound : k + 1 ≤ (hops trace).length := (List.getElem?_eq_some_iff.1 found).1
  rw [← dropsBodyAmong_take_iff method bound, ← dropsBodyAmong_take_iff method (by omega),
    List.take_add_one, found]
  exact dropsBodyAmong_concat method _ hop

/-- A call has the method as it was given, and the body if there is one to send with it. -/
def Kept (r call : SentRequest) : Prop :=
  call.method = r.method ∧ ∀ b, call.body = some b ↔
    r.body = some b ∧ b ≠ "" ∧ Text.upper r.method ≠ "GET" ∧ Text.upper r.method ≠ "HEAD"

/-- A call is a GET without a body. -/
def Switched (call : SentRequest) : Prop := call.method = "GET" ∧ call.body = none

theorem Kept.body_eq {r call other : SentRequest} (kept : Kept r call) (kept' : Kept r other) :
    call.body = other.body :=
  Option.ext fun b => (kept.2 b).trans (kept'.2 b).symm

/-- Methods and bodies of the calls of a trace that begins with a request. -/
structure MethodsAndBodies (transport : Transport) (earlier : Nat) (r : SentRequest)
    (trace : List DispatchStep) : Prop where
  /-- Every call but the last is followed by one redirect, with the status of its response. -/
  paired : (calls trace).length = (statuses trace).length + 1 ∧
    ∀ k call status, (calls trace)[k]? = some call → (statuses trace)[k]? = some status →
      ∃ reply, (transport (earlier + k) call).reply = .ok reply ∧ reply.status = status
  kept : ∀ k call, (calls trace)[k]? = some call →
    k < switchingCall r.method trace → Kept r call
  switched : ∀ k call, (calls trace)[k]? = some call →
    switchingCall r.method trace ≤ k → Switched call
  /-- A GET or a HEAD never has a body. -/
  bodiless : ∀ call ∈ calls trace,
    Text.upper call.method = "GET" ∨ Text.upper call.method = "HEAD" → call.body = none
  head : Text.upper r.method = "HEAD" → ∀ call ∈ calls trace, call.method = r.method
  /-- 307 and 308 change nothing. -/
  repeated : ∀ k call next status, (calls trace)[k]? = some call →
    (calls trace)[k + 1]? = some next → (statuses trace)[k]? = some status →
    status = 307 ∨ status = 308 → next.method = call.method ∧ next.body = call.body
  /-- A body that a call is made without is not sent again. -/
  gone : ∀ (i k : Nat) (earlier later : SentRequest), i ≤ k → (calls trace)[i]? = some earlier →
    (calls trace)[k]? = some later → earlier.body = none → later.body = none

/-- Whether all calls are made as one redirect divides them: those up to it as given, those after it
without the body. -/
def Divided (r : SentRequest) (trace : List DispatchStep) : Prop :=
  ∀ k call, (calls trace)[k]? = some call →
    k < switchingCall r.method trace ∧ Kept r call ∨
      switchingCall r.method trace ≤ k ∧ Switched call

section Calls

variable {r call : SentRequest} {trace : List DispatchStep} {k : Nat}

/-- A call is made with what the redirects before it have made of method and body. -/
theorem call_cases {current : SentRequest} (reached : Reaches r ((hops trace).take k) current)
    (bound : k ≤ (hops trace).length) :
    k < switchingCall r.method trace ∧ Kept r current.forTransport ∨
      switchingCall r.method trace ≤ k ∧ Switched current.forTransport := by
  have made := method_of_reaches reached
  by_cases dropped : DropsBodyAmong r.method ((hops trace).take k)
  · rw [if_pos dropped, Prod.mk.injEq] at made
    refine .inr ⟨(dropsBodyAmong_take_iff _ bound).1 dropped, made.1, ?_⟩
    exact Option.eq_none_iff_forall_ne_some.2 fun b sent =>
      nomatch made.2.symm.trans ((body_forTransport current b).1 sent).1
  · rw [if_neg dropped, Prod.mk.injEq] at made
    refine .inl ⟨Nat.lt_of_not_le (mt (dropsBodyAmong_take_iff _ bound).2 dropped), made.1, ?_⟩
    intro b
    rw [body_forTransport, made.1, made.2]

theorem le_length_hops (reported : (calls trace).length = (hops trace).length + 1)
    (made : (calls trace)[k]? = some call) : k ≤ (hops trace).length := by
  have short := (List.getElem?_eq_some_iff.1 made).1
  omega

/-- A call that is followed by a redirect got its status. -/
theorem exists_reply_of_status {transport : Transport} {earlier limit status : Nat}
    {outcome : Except Fault Reply} (chain : RedirectChain transport earlier limit r trace outcome)
    (made : (calls trace)[k]? = some call) (followed : (statuses trace)[k]? = some status) :
    ∃ reply, (transport (earlier + k) call).reply = .ok reply ∧ reply.status = status := by
  rw [statuses, List.getElem?_map] at followed
  obtain ⟨hop, found, rfl⟩ := Option.map_eq_some_iff.1 followed
  have short : k < (hops trace).length := (List.getElem?_eq_some_iff.1 found).1
  have made' := List.getElem?_eq_getElem (l := calls trace) (i := k + 1)
    (by rw [chain.reported]; omega)
  obtain ⟨reply, _, _, _, ⟨answer, -⟩, -, -, -, reported⟩ := chain.linked k call _ made made'
  exact ⟨reply, answer, by rw [Option.some.inj (found.symm.trans reported)]⟩

theorem Divided.kept (divided : Divided r trace) (made : (calls trace)[k]? = some call)
    (before : k < switchingCall r.method trace) : Kept r call := by
  rcases divided k call made with ⟨-, kept⟩ | ⟨after, -⟩
  · exact kept
  · omega

theorem Divided.switched (divided : Divided r trace) (made : (calls trace)[k]? = some call)
    (after : switchingCall r.method trace ≤ k) : Switched call := by
  rcases divided k call made with ⟨before, -⟩ | ⟨-, switched⟩
  · omega
  · exact switched

theorem Divided.bodiless (divided : Divided r trace) (made : call ∈ calls trace)
    (read : Text.upper call.method = "GET" ∨ Text.upper call.method = "HEAD") :
    call.body = none := by
  obtain ⟨k, made⟩ := List.getElem?_of_mem made
  rcases divided k call made with ⟨-, method, body⟩ | ⟨-, -, body⟩
  · refine Option.eq_none_iff_forall_ne_some.2 fun b sent => ?_
    obtain ⟨-, -, get, head⟩ := (body b).1 sent
    rw [method] at read
    exact read.elim get head
  · exact body

/-- No redirect drops the body of a HEAD, so its method is kept. -/
theorem Divided.head (divided : Divided r trace)
    (reported : (calls trace).length = (hops trace).length + 1)
    (head : Text.upper r.method = "HEAD") (made : call ∈ calls trace) : call.method = r.method := by
  obtain ⟨k, made⟩ := List.getElem?_of_mem made
  rcases divided k call made with ⟨-, method, -⟩ | ⟨after, -⟩
  · exact method
  · have bound := le_length_hops reported made
    obtain ⟨hop, -, drops⟩ := (dropsBodyAmong_take_iff r.method bound).2 after
    exact absurd drops (not_dropsBody_of_head head hop.status)

/-- 307 and 308 do not divide calls, so the next call stands on the same side. -/
theorem Divided.repeated {next : SentRequest} {status : Nat} (divided : Divided r trace)
    (made : (calls trace)[k]? = some call) (made' : (calls trace)[k + 1]? = some next)
    (followed : (statuses trace)[k]? = some status) (keeps : status = 307 ∨ status = 308) :
    next.method = call.method ∧ next.body = call.body := by
  have step := switchingCall_le_succ_iff r.method followed
  rw [or_iff_left (not_dropsBody_of_keeps keeps r.method)] at step
  rcases divided k call made with ⟨before, kept⟩ | ⟨after, switched⟩
  · have kept' := divided.kept made' (Nat.lt_of_not_le (mt step.1 (Nat.not_le.2 before)))
    exact ⟨kept'.1.trans kept.1.symm, kept'.body_eq kept⟩
  · have switched' := divided.switched made' (step.2 after)
    exact ⟨switched'.1.trans switched.1.symm, switched'.2.trans switched.2.symm⟩

theorem Divided.gone {i : Nat} {earlier later : SentRequest} (divided : Divided r trace)
    (order : i ≤ k) (made : (calls trace)[i]? = some earlier)
    (made' : (calls trace)[k]? = some later) (unsent : earlier.body = none) :
    later.body = none := by
  rcases divided k later made' with ⟨before, kept⟩ | ⟨-, switched⟩
  · have kept' := divided.kept made (Nat.lt_of_le_of_lt order before)
    rw [← kept'.body_eq kept, unsent]
  · exact switched.2

end Calls

variable (transport : Transport) (p : Policy) (hasSignal : Bool) (earlier : Nat) (r : SentRequest)

/-- Method and body of all calls that a dispatch makes. -/
theorem methodsAndBodies_dispatch :
    MethodsAndBodies transport earlier r (dispatch transport p hasSignal earlier r).1 := by
  have runs := runs_run transport p.limit earlier r
  have chain := redirectChain_of_runs runs
  rw [trace_dispatch]
  generalize (run transport p.limit earlier r).1 = trace at runs chain ⊢
  have reported := chain.reported
  have divided : Divided r trace := by
    intro k call made
    have bound := le_length_hops reported made
    obtain ⟨current, reached, rfl⟩ := reaches_of_call runs k call made
    exact call_cases reached bound
  constructor
  case paired =>
    refine ⟨by rw [reported, statuses, List.length_map], fun k call status made followed => ?_⟩
    exact exists_reply_of_status chain made followed
  case kept => exact fun k call made before => divided.kept made before
  case switched => exact fun k call made after => divided.switched made after
  case bodiless => exact fun call made read => divided.bodiless made read
  case head => exact fun head call made => divided.head reported head made
  case repeated =>
    exact fun k call next status made made' followed keeps =>
      divided.repeated made made' followed keeps
  case gone =>
    exact fun i k earlier later order made made' unsent => divided.gone order made made' unsent

/-- 307 leaves a POST alone, and 303 makes it a GET for good. -/
example :
    let chain : Transport := fun earlier _ => ⟨[], .ok {
      status := if earlier = 0 then 307 else if earlier = 1 then 303 else 307, statusText := ""
      headers := [("Location", "/next")], body := .ok [] }⟩
    let r : SentRequest := ⟨"post", "https://h.example/a", none, some "x"⟩
    (calls (dispatch chain ⟨30000, true, 3⟩ true 0 r).1).map (fun c => (c.method, c.body)) =
      [("post", some "x"), ("post", some "x"), ("GET", none), ("GET", none)] := by
  decide +kernel

end HttpScript.Dispatch
