import HttpScript.Proofs.ExecutionLaws
import HttpScript.Proofs.RedirectBodies

/-!
# Headers that describe a body

A request without a body is sent without the headers that describe one, and a redirect that drops
the body drops its headers. The two have lists of their own: `Header.contentNames` says which
headers describe a body, `SentRequest.bodyHeaders` which ones a redirect takes away, one spelling
each.

    Bare (outgoing h false)                                                    (bare_outgoing)
    Bare call.fields ↔ sent.body = none ∨ Droppable sent.fields        (contentHeaders_of_call)

A header in the first list only stays when the body goes (`contentHeaders_of_call_disposition`).
-/

namespace HttpScript.Header

open Text (lower)
open Record (Distinct names distinct_assign mem_names_assign)

/-! ## The headers of a request -/

theorem distinct_select (keep : String → Bool) (h : Record String) : (select keep h).Distinct := by
  refine List.foldlRecOn h _ List.nodup_nil fun r distinct e _ => ?_
  split
  · exact distinct_assign distinct e.1 e.2
  · exact distinct

theorem distinct_outgoing (h : Record String) (withBody : Bool) :
    (outgoing h withBody).Distinct := by
  unfold outgoing
  split
  · refine List.foldlRecOn (content h) _ (distinct_select _ h) fun r distinct e _ => ?_
    split
    · exact distinct
    · exact distinct_assign distinct e.1 e.2
  · exact distinct_select _ h

theorem keep_of_mem_select (keep : String → Bool) (h : Record String) :
    ∀ name ∈ (select keep h).names, keep name = true := by
  refine List.foldlRecOn (motive := fun r => ∀ name ∈ names r, keep name = true) h _ nofun
    fun r kept e _ => ?_
  split
  · next keeps =>
    intro name hn
    rcases mem_names_assign hn with rfl | hn
    · exact keeps
    · exact kept name hn
  · exact kept

/-- No header describes a body. -/
def Bare (h : Record String) : Prop := ∀ e ∈ h, isContent e.1 = false

instance (h : Record String) : Decidable (Bare h) :=
  inferInstanceAs (Decidable (∀ e ∈ h, isContent e.1 = false))

theorem bare_outgoing (h : Record String) : Bare (outgoing h false) := by
  intro e he
  have kept := keep_of_mem_select (!isContent ·) h e.1 (List.mem_map_of_mem he)
  exact (Bool.not_eq_true' _).mp kept

theorem isContent_iff (name : String) : isContent name = true ↔ lower name ∈ contentNames :=
  List.contains_iff_mem

theorem lower_of_contentNames : ∀ name ∈ contentNames, lower name = name := by decide +kernel

end HttpScript.Header

namespace HttpScript.Dispatch

open Text (lower sameIgnoringCase)
open Record (named mem_named_iff named_congr)
open Header (Bare isContent isContent_iff contentNames lower_of_contentNames)
open SentRequest (fields bodyHeaders credentialHeaders carriesBody switchesToGet
  switchesToGet_get withoutHeaders_sublist)

/-! ## Counting content headers -/

/-- A redirect that drops the body drops every header that describes it: each has a name that the
redirect takes away, in one spelling. -/
def Droppable (h : Record String) : Prop := ∀ e ∈ h, isContent e.1 = true →
  lower e.1 ∈ bodyHeaders ∧ (named e.1 h).length = 1

instance (h : Record String) : Decidable (Droppable h) := inferInstanceAs
  (Decidable (∀ e ∈ h, isContent e.1 = true → lower e.1 ∈ bodyHeaders ∧ (named e.1 h).length = 1))

theorem countP_of_contentNames : ∀ name ∈ contentNames,
    bodyHeaders.countP (sameIgnoringCase · name) = (if name ∈ bodyHeaders then 1 else 0) ∧
      credentialHeaders.countP (sameIgnoringCase · name) = 0 := by
  decide +kernel

theorem bare_iff (h : Record String) :
    Bare h ↔ ∀ name ∈ contentNames, (named name h).length = 0 := by
  constructor
  · intro bare name hn
    refine List.length_eq_zero_iff.2 (List.eq_nil_iff_forall_not_mem.2 fun e he => ?_)
    obtain ⟨he, same⟩ := mem_named_iff.1 he
    have content : isContent e.1 = true :=
      (isContent_iff _).2 (by rwa [same, lower_of_contentNames name hn])
    rw [bare e he] at content
    cases content
  · intro none e he
    refine Bool.eq_false_iff.2 fun content => ?_
    have hn := (isContent_iff _).1 content
    have here : e ∈ named (lower e.1) h :=
      mem_named_iff.2 ⟨he, (lower_of_contentNames _ hn).symm⟩
    rw [List.length_eq_zero_iff.1 (none _ hn)] at here
    cases here

theorem droppable_iff (h : Record String) :
    Droppable h ↔ ∀ name ∈ contentNames,
      (named name h).length ≤ bodyHeaders.countP (sameIgnoringCase · name) := by
  constructor
  · intro droppable name hn
    cases hm : named name h with
    | nil => exact Nat.zero_le _
    | cons e rest =>
      obtain ⟨he, same⟩ := mem_named_iff.1 (hm ▸ List.mem_cons_self : e ∈ named name h)
      have lower_eq : lower e.1 = name := same.trans (lower_of_contentNames name hn)
      obtain ⟨taken, once⟩ := droppable e he ((isContent_iff _).2 (lower_eq ▸ hn))
      rw [(countP_of_contentNames name hn).1, if_pos (lower_eq ▸ taken), ← hm]
      exact Nat.le_of_eq (named_congr same h ▸ once)
  · intro few e he content
    have hn := (isContent_iff _).1 content
    have spelled : named (lower e.1) h = named e.1 h := named_congr (lower_of_contentNames _ hn) h
    have some_named : 0 < (named e.1 h).length :=
      List.length_pos_of_mem (mem_named_iff.2 ⟨he, rfl⟩)
    have most := few _ hn
    rw [spelled, (countP_of_contentNames _ hn).1] at most
    split at most
    · next taken => exact ⟨taken, Nat.le_antisymm most some_named⟩
    · omega

/-! ## Along redirects -/

/-- Where the body of a request has got to after redirects: it is still there with its headers, or
it has been dropped, and one spelling of each name that the redirect takes away with it. -/
def CarriedOrDropped (r current : SentRequest) : Prop :=
  (current.method = r.method ∧ current.body = r.body ∧
    ∀ name ∈ contentNames, (named name current.fields).length = (named name r.fields).length) ∨
  (current.method = "GET" ∧ current.body = none ∧
    ∀ name ∈ contentNames, (named name current.fields).length =
      (named name r.fields).length - bodyHeaders.countP (sameIgnoringCase · name))

section Reached

variable {r current : SentRequest} {followed : List Hop}

theorem fields_sublist_of_reaches (reached : Reaches r followed current) :
    current.fields.Sublist r.fields := by
  induction reached with
  | refl => exact List.Sublist.refl _
  | step _ _ _ found ih =>
    rw [fields_next found]
    exact ((withoutHeaders_sublist _ _).trans (withoutHeaders_sublist _ _)).trans ih

theorem carriedOrDropped_of_reaches (reached : Reaches r followed current)
    (distinct : r.fields.Distinct) : CarriedOrDropped r current := by
  induction reached with
  | refl => exact .inl ⟨rfl, rfl, fun _ _ => rfl⟩
  | @step followed current next hop status location reached found ih =>
    have counts (name : String) (hn : name ∈ contentNames) :
        (named name next.fields).length = (named name current.fields).length -
          (if switchesToGet current.method status then
            bodyHeaders.countP (sameIgnoringCase · name) else 0) := by
      rw [length_named_next found (distinct_of_reaches reached distinct),
        (countP_of_contentNames name hn).2, ite_self, Nat.sub_zero]
    have made := method_next found
    rcases ih with ⟨sameMethod, sameBody, same⟩ | ⟨get, dropped, left⟩
    · cases switches : switchesToGet current.method status with
      | true =>
        rw [switches, if_pos rfl, Prod.mk.injEq] at made
        refine .inr ⟨made.1, made.2, fun name hn => ?_⟩
        rw [counts name hn, switches, if_pos rfl, same name hn]
      | false =>
        rw [switches, if_neg Bool.false_ne_true, Prod.mk.injEq] at made
        refine .inl ⟨made.1.trans sameMethod, made.2.trans sameBody, fun name hn => ?_⟩
        rw [counts name hn, switches, if_neg Bool.false_ne_true, same name hn, Nat.sub_zero]
    · -- no redirect drops anything of a GET, so what is gone and what is left stay so
      have stays : switchesToGet current.method status = false := get ▸ switchesToGet_get status
      rw [stays, if_neg Bool.false_ne_true, Prod.mk.injEq] at made
      refine .inr ⟨made.1.trans get, made.2.trans dropped, fun name hn => ?_⟩
      rw [counts name hn, stays, if_neg Bool.false_ne_true, left name hn, Nat.sub_zero]

/-- Without a body a request is reached with the content headers that dropping the body leaves. -/
theorem bare_iff_droppable_of_reaches (reached : Reaches r followed current)
    (distinct : r.fields.Distinct) (bodied : carriesBody r.method r.body = true)
    (dropped : current.forTransport.body = none) : Bare current.fields ↔ Droppable r.fields := by
  have gone : ¬ carriesBody current.method current.body = true := by
    intro carries
    have kept : current.forTransport.body = current.body := if_pos carries
    rw [← kept, dropped] at carries
    cases carries
  rcases carriedOrDropped_of_reaches reached distinct with ⟨method, body, -⟩ | ⟨-, -, left⟩
  · rw [method, body] at gone
    exact absurd bodied gone
  · rw [bare_iff, droppable_iff]
    refine forall₂_congr fun name hn => ?_
    rw [left name hn, Nat.sub_eq_zero_iff_le]

end Reached

end HttpScript.Dispatch

namespace HttpScript.Execution

open Header (Bare bare_outgoing distinct_outgoing)
open Dispatch (Droppable Reaches bare_iff_droppable_of_reaches fields_sublist_of_reaches)
open SentRequest (carriesBody fields)

variable (s : Surroundings) (settings : ExecutorSettings) (state : ExecutorState)
  (signal : Option Bool) (file : Record String) (r : Request)

/-! ## Executions -/

/-- Each call of an execution is reached from the request that is sent first. -/
theorem reaches_of_call_execute (call : SentRequest)
    (made : call ∈ Dispatch.calls (execute s settings state signal file r).trace) :
    ∃ followed current,
      Reaches (outgoing (execute s settings state signal file r).result.request) followed current ∧
      call = current.forTransport := by
  rw [trace_execute] at made
  rw [request_execute]
  unfold fetchedIn fetch at made
  generalize (resolvedIn s settings state file r).1 = resolved at made ⊢
  have called : call ∈ Dispatch.calls
      (Dispatch.dispatch s.transport settings.policy true state.calls (outgoing resolved)).1 := by
    split at made
    · cases made
    · split at made
      · next dispatched => rwa [dispatched]
      · next dispatched =>
        rw [dispatched]
        split at made <;> exact made
  rw [Dispatch.trace_dispatch] at called
  obtain ⟨k, hk⟩ := List.getElem?_of_mem called
  exact ⟨_, Dispatch.reaches_of_call (Dispatch.runs_run ..) k call hk⟩

theorem bare_iff_of_reaches (resolved : ResolvedRequest) {followed : List Hop}
    {current : SentRequest} (reached : Reaches (outgoing resolved) followed current)
    (dropped : current.forTransport.body = none) :
    Bare current.fields ↔
      (outgoing resolved).body = none ∨ Droppable (outgoing resolved).fields := by
  have fields_eq : (outgoing resolved).fields =
    Header.outgoing resolved.headers (carriesBody resolved.method resolved.body) := rfl
  have body_eq : (outgoing resolved).body =
    if carriesBody resolved.method resolved.body then resolved.body else none := rfl
  cases bodied : carriesBody resolved.method resolved.body with
  | false =>
    rw [bodied] at fields_eq body_eq
    refine iff_of_true (fun h hh => ?_) (.inl body_eq)
    have first : h ∈ (outgoing resolved).fields := (fields_sublist_of_reaches reached).subset hh
    rw [fields_eq] at first
    exact bare_outgoing _ h first
  | true =>
    rw [bodied, if_pos rfl] at body_eq
    have there : (outgoing resolved).body ≠ none := by
      rw [body_eq]
      intro none
      rw [none] at bodied
      cases bodied
    have distinct : (outgoing resolved).fields.Distinct := by
      rw [fields_eq]
      exact distinct_outgoing _ _
    rw [or_iff_right there]
    exact bare_iff_droppable_of_reaches reached distinct (body_eq ▸ bodied) dropped

/-- A call without a body carries no content header, just when there was no body to begin with or
all headers of the body can be dropped with it. -/
theorem contentHeaders_of_call (call : SentRequest) :
    let e := execute s settings state signal file r
    let sent := outgoing e.result.request
    call ∈ Dispatch.calls e.trace → call.body = none →
      (Bare call.fields ↔ sent.body = none ∨ Droppable sent.fields) := by
  intro e sent made unbodied
  have executed : e = execute s settings state signal file r := rfl
  clear_value e
  obtain ⟨followed, current, reached, rfl⟩ :=
    reaches_of_call_execute s settings state signal file r call (executed ▸ made)
  rw [← executed] at reached
  have bare := bare_iff_of_reaches e.result.request reached unbodied
  exact bare

/-- A redirect that asks for a GET drops the body and the type of its content. -/
theorem contentHeaders_of_call_typed :
    let s : Surroundings := {
      ambient := ⟨0, 0, "", []⟩
      stopwatch := fun _ => 0
      transport := fun earlier _ => ⟨[], .ok {
        status := if earlier = 0 then 303 else 200, statusText := ""
        headers := [("Location", "/b")], body := .ok [] }⟩ }
    let settings : ExecutorSettings := ⟨⟨30000, true, 10⟩, []⟩
    let state : ExecutorState := ⟨.start, .start "dev" [], 0, 0, false⟩
    let r : Request := {
      name := none, method := "POST", url := "https://h.example/a", body := some "x"
      headers := [("Content-Type", "text/plain"), ("Accept", "*/*")], bindings := []
      startLine := 1, endLine := 1 }
    let call : SentRequest := ⟨"GET", "https://h.example/b", some [("Accept", "*/*")], none⟩
    call ∈ Dispatch.calls (execute s settings state none [] r).trace ∧ call.body = none ∧
      Bare call.fields := by
  intro s settings state r call
  have made : call ∈ Dispatch.calls (execute s settings state none [] r).trace := by
    decide +kernel
  have droppable :
      Droppable (outgoing (execute s settings state none [] r).result.request).fields := by
    decide +kernel
  have bare := contentHeaders_of_call s settings state none [] r call made rfl
  exact ⟨made, rfl, bare.2 (.inr droppable)⟩

/-- A header that describes a body and that no redirect takes away is sent without the body. -/
theorem contentHeaders_of_call_disposition :
    let s : Surroundings := {
      ambient := ⟨0, 0, "", []⟩
      stopwatch := fun _ => 0
      transport := fun earlier _ => ⟨[], .ok {
        status := if earlier = 0 then 303 else 200, statusText := ""
        headers := [("Location", "/b")], body := .ok [] }⟩ }
    let settings : ExecutorSettings := ⟨⟨30000, true, 10⟩, []⟩
    let state : ExecutorState := ⟨.start, .start "dev" [], 0, 0, false⟩
    let r : Request := {
      name := none, method := "POST", url := "https://h.example/a", body := some "x"
      headers := [("Content-Disposition", "x")], bindings := [], startLine := 1, endLine := 1 }
    Dispatch.calls (execute s settings state none [] r).trace =
      [⟨"POST", "https://h.example/a", some [("Content-Disposition", "x")], some "x"⟩,
        ⟨"GET", "https://h.example/b", some [("Content-Disposition", "x")], none⟩] ∧
      Header.isContent "Content-Disposition" = true := by
  decide +kernel

end HttpScript.Execution
