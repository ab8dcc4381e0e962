import HttpScript.Proofs.RecordEntries
import HttpScript.Proofs.RedirectChain

/-!
# Headers along redirects

A redirect takes headers away by name: credentials when it leads to another origin, the headers of a
body when the body is dropped. It takes one entry to a name, and a record may hold the name in
several spellings, so entries are counted.

    (named m (withoutHeaders h ns)).length = (named m h).length - …  (length_named_withoutHeaders)
    held.length = given.length - redirects to other origins                 (credentials_of_call)

Credentials that the record spells in one way only never come to another origin. With two spellings
the second one does (`credentials_of_call_two_spellings`).
-/

namespace HttpScript.SentRequest

open Text (lower sameIgnoringCase sameIgnoringCase_iff)
open Record (Distinct named named_erase_of_ne length_named_erase)

/-! ## Taking headers away -/

/-- The headers of a request. -/
def fields (r : SentRequest) : Record String := r.headers.getD []

/-- Headers without the entry that is found under a name. -/
def withoutHeader (h : Record String) (name : String) : Record String :=
  match h.findName? name with
  | some key => h.erase key
  | none => h

theorem withoutHeaders_cons (h : Record String) (name : String) (names : List String) :
    withoutHeaders h (name :: names) = withoutHeaders (withoutHeader h name) names := rfl

theorem withoutHeader_sublist (h : Record String) (name : String) :
    (withoutHeader h name).Sublist h := by
  unfold withoutHeader
  split
  · exact List.filter_sublist
  · exact List.Sublist.refl h

theorem named_withoutHeader_of_ne (h : Record String) {name other : String}
    (hne : lower name ≠ lower other) : named other (withoutHeader h name) = named other h := by
  unfold withoutHeader
  cases hk : h.findName? name with
  | none => rfl
  | some key =>
    obtain ⟨e, -, -, hn⟩ := Record.findName?_eq_some h name key hk
    exact named_erase_of_ne (fun c => hne (hn.symm.trans c)) h

theorem length_named_withoutHeader {h : Record String} (distinct : h.Distinct)
    {name other : String} (hn : lower name = lower other) :
    (named other (withoutHeader h name)).length = (named other h).length - 1 := by
  unfold withoutHeader
  cases hk : h.findName? name with
  | none =>
    have none_named : named other h = [] := by
      have absent := (Record.firstNamed?_eq_none_iff _ _).1
        ((Record.findName?_eq_none_iff h name).1 hk)
      exact List.filter_eq_nil_iff.2 fun e he c =>
        absent e he (((sameIgnoringCase_iff _ _).1 c).trans hn.symm)
    rw [none_named]
    rfl
  | some key =>
    obtain ⟨e, he, rfl, hk⟩ := Record.findName?_eq_some h name key hk
    exact length_named_erase distinct he (hk.trans hn)

theorem withoutHeaders_sublist (h : Record String) (names : List String) :
    (withoutHeaders h names).Sublist h := by
  induction names generalizing h with
  | nil => exact List.Sublist.refl h
  | cons name names ih => exact (ih _).trans (withoutHeader_sublist h name)

theorem named_withoutHeaders_of_ne (h : Record String) {names : List String} {other : String}
    (hne : ∀ name ∈ names, lower name ≠ lower other) :
    named other (withoutHeaders h names) = named other h := by
  induction names generalizing h with
  | nil => rfl
  | cons name names ih =>
    rw [withoutHeaders_cons, ih _ fun n hn => hne n (List.mem_cons_of_mem _ hn),
      named_withoutHeader_of_ne h (hne name List.mem_cons_self)]

theorem distinct_withoutHeaders {h : Record String} (distinct : h.Distinct) (names : List String) :
    (withoutHeaders h names).Distinct :=
  ((withoutHeaders_sublist h names).map Prod.fst).nodup distinct

/-- Each name that is taken away takes one entry with it. -/
theorem length_named_withoutHeaders {h : Record String} (distinct : h.Distinct)
    (names : List String) (other : String) :
    (named other (withoutHeaders h names)).length =
      (named other h).length - names.countP (sameIgnoringCase · other) := by
  induction names generalizing h with
  | nil => rfl
  | cons name names ih =>
    have distinct' := ((withoutHeader_sublist h name).map Prod.fst).nodup distinct
    rw [withoutHeaders_cons, ih distinct', List.countP_cons]
    by_cases hn : lower name = lower other
    · rw [length_named_withoutHeader distinct hn, if_pos ((sameIgnoringCase_iff _ _).2 hn)]
      omega
    · rw [named_withoutHeader_of_ne h hn, if_neg (mt (sameIgnoringCase_iff _ _).1 hn)]
      rfl

end HttpScript.SentRequest

namespace HttpScript.Dispatch

open Text (lower sameIgnoringCase sameIgnoringCase_iff)
open Record (Distinct named)
open SentRequest (fields bodyHeaders credentialHeaders switchesToGet withoutHeaders
  withoutHeaders_sublist named_withoutHeaders_of_ne distinct_withoutHeaders
  length_named_withoutHeaders)

/-! ## One redirect -/

/-- Whether a redirect leads to another origin. -/
def leavesOrigin (hop : Hop) : Bool :=
  match Url.parse? none hop.source, Url.parse? none hop.target with
  | some source, some target => !source.sameOrigin target
  | _, _ => true

/-- The number of redirects that lead to another origin. -/
def departures (followed : List Hop) : Nat := followed.countP leavesOrigin

/-- The headers that go with a redirect: those of a body when it is dropped, and credentials when
the origin is left. -/
theorem fields_next {current next : SentRequest} {status : Nat} {location : String} {hop : Hop}
    (found : next? current status location = some (hop, next)) :
    let dropped := if switchesToGet current.method status then bodyHeaders else []
    let kept := if leavesOrigin hop then credentialHeaders else []
    next.fields = withoutHeaders (withoutHeaders current.fields dropped) kept := by
  intro dropped kept
  obtain ⟨base, target, reread, hb, -, hr, rfl, rfl⟩ := next?_eq_some found
  have leaves : leavesOrigin ⟨status, current.url, target.text⟩ = !base.sameOrigin reread := by
    unfold leavesOrigin
    rw [hb, hr]
  show (if base.sameOrigin reread then _ else _) = withoutHeaders (withoutHeaders _ dropped)
    (if leavesOrigin _ then _ else _)
  rw [leaves]
  have inner : withoutHeaders current.fields dropped =
      if switchesToGet current.method status then withoutHeaders current.fields bodyHeaders
      else current.fields := by
    unfold dropped
    split <;> rfl
  rw [inner]
  cases base.sameOrigin reread <;> rfl

theorem distinct_next {current next : SentRequest} {status : Nat} {location : String} {hop : Hop}
    (found : next? current status location = some (hop, next))
    (distinct : current.fields.Distinct) : next.fields.Distinct := by
  rw [fields_next found]
  exact distinct_withoutHeaders (distinct_withoutHeaders distinct _) _

/-- What a redirect leaves of the entries with a name, by number. -/
theorem length_named_next {current next : SentRequest} {status : Nat} {location : String}
    {hop : Hop} (found : next? current status location = some (hop, next))
    (distinct : current.fields.Distinct) (name : String) :
    (named name next.fields).length = (named name current.fields).length -
      (if switchesToGet current.method status then bodyHeaders.countP (sameIgnoringCase · name)
        else 0) -
      (if leavesOrigin hop then credentialHeaders.countP (sameIgnoringCase · name) else 0) := by
  rw [fields_next found, length_named_withoutHeaders (distinct_withoutHeaders distinct _),
    length_named_withoutHeaders distinct]
  cases switchesToGet current.method status <;> cases leavesOrigin hop <;> rfl

/-! ## Credentials -/

theorem lower_ne_of_bodyHeaders : ∀ name ∈ credentialHeaders, ∀ other ∈ bodyHeaders,
    lower other ≠ lower name := by
  decide +kernel

theorem countP_of_credentialHeaders : ∀ name ∈ credentialHeaders,
    bodyHeaders.countP (sameIgnoringCase · name) = 0 ∧
      credentialHeaders.countP (sameIgnoringCase · name) = 1 := by
  decide +kernel

section Credentials

variable {r current : SentRequest} {followed : List Hop}

theorem distinct_of_reaches (reached : Reaches r followed current)
    (distinct : r.fields.Distinct) : current.fields.Distinct := by
  induction reached with
  | refl => exact distinct
  | step _ _ _ found ih => exact distinct_next found ih

theorem departures_concat (hop : Hop) :
    departures (followed ++ [hop]) = departures followed + (if leavesOrigin hop then 1 else 0) := by
  unfold departures
  rw [List.countP_append, List.countP_singleton]

/-- Credentials stay as they are until the origin is left. -/
theorem named_of_reaches (reached : Reaches r followed current) (stays : departures followed = 0)
    (name : String) (credential : name ∈ credentialHeaders) :
    named name current.fields = named name r.fields := by
  induction reached with
  | refl => rfl
  | @step followed current _ hop status location _ found ih =>
    rw [departures_concat, Nat.add_eq_zero_iff] at stays
    have within : leavesOrigin hop = false := by simpa using stays.2
    rw [fields_next found, within]
    show named name (withoutHeaders current.fields _) = _
    rw [named_withoutHeaders_of_ne, ih stays.1]
    -- a body that is dropped takes no credentials with it
    intro other dropped
    split at dropped
    · exact lower_ne_of_bodyHeaders name credential other dropped
    · cases dropped

/-- Each redirect to another origin takes one entry away. -/
theorem length_named_of_reaches (reached : Reaches r followed current)
    (distinct : r.fields.Distinct) (name : String) (credential : name ∈ credentialHeaders) :
    (named name current.fields).length = (named name r.fields).length - departures followed := by
  induction reached with
  | refl => rfl
  | @step followed current _ hop status location reached found ih =>
    obtain ⟨kept, taken⟩ := countP_of_credentialHeaders name credential
    rw [length_named_next found (distinct_of_reaches reached distinct), kept, taken, ite_self,
      Nat.sub_zero, ih, departures_concat, Nat.sub_add_eq]

end Credentials

variable (transport : Transport) (p : Policy) (hasSignal : Bool) (earlier : Nat) (r : SentRequest)

theorem trace_dispatch : (dispatch transport p hasSignal earlier r).1 =
    (run transport p.limit earlier r).1 := by
  unfold dispatch
  rcases run transport p.limit earlier r with ⟨trace, _ | _⟩ <;> rfl

/-- What is left of credentials at a call: all of them before the origin is left, and with each
departure one spelling less. A name in one spelling is gone after the first. -/
theorem credentials_of_call (distinct : r.fields.Distinct) (k : Nat) (call : SentRequest) :
    let trace := (dispatch transport p hasSignal earlier r).1
    (calls trace)[k]? = some call → ∀ name ∈ ["authorization", "cookie"],
      let held := named name call.fields
      let given := named name r.fields
      let departed := departures ((hops trace).take k)
      (departed = 0 → held = given) ∧ held.length = given.length - departed ∧
        (given.length ≤ 1 → 0 < departed → held = []) := by
  intro trace made name credential held given departed
  have runs := runs_run transport p.limit earlier r
  rw [← trace_dispatch transport p hasSignal] at runs
  obtain ⟨current, reached, rfl⟩ := reaches_of_call runs k call made
  have left := length_named_of_reaches reached distinct name credential
  refine ⟨fun stays => named_of_reaches reached stays name credential, left, ?_⟩
  intro once departs
  refine List.length_eq_zero_iff.1 (left.trans ?_)
  show given.length - departed = 0
  omega

/-- Away to another origin and back: the credentials do not return either. -/
theorem credentials_of_call_there_and_back :
    let there : Transport := fun earlier _ => ⟨[], .ok {
      status := if earlier < 2 then 302 else 200, statusText := ""
      headers := [("Location", if earlier = 0 then "https://other.example/b" else "//h.example/c")]
      body := .ok [] }⟩
    let r : SentRequest :=
      ⟨"GET", "https://h.example/a", some [("AUTHORIZATION", "x"), ("Accept", "*/*")], none⟩
    let last : SentRequest := ⟨"GET", "https://h.example/c", some [("Accept", "*/*")], none⟩
    let trace := (dispatch there ⟨30000, true, 10⟩ true 0 r).1
    r.fields.Distinct ∧ (calls trace)[2]? = some last ∧ named "authorization" last.fields = [] := by
  intro there r last trace
  have distinct : r.fields.Distinct := by decide +kernel
  have made : (calls trace)[2]? = some last := by decide +kernel
  refine ⟨distinct, made, ?_⟩
  have at_last := credentials_of_call there ⟨30000, true, 10⟩ true 0 r distinct 2 last made
    "authorization" List.mem_cons_self
  exact at_last.2.2 (by decide +kernel) (by decide +kernel)

/-- Header defaults may hold a name in two spellings, and then one of them is sent to another
origin. -/
theorem credentials_of_call_two_spellings :
    let away : Transport := fun _ _ => ⟨[], .ok {
      status := 302, statusText := "", headers := [("Location", "https://other.example/b")]
      body := .ok [] }⟩
    let defaults := Header.mergeDefaults [("Authorization", "x"), ("authorization", "y")] []
    let r : SentRequest := ⟨"GET", "https://h.example/a", some defaults, none⟩
    let trace := (dispatch away ⟨30000, true, 1⟩ true 0 r).1
    (hops trace).map leavesOrigin = [true] ∧
    (calls trace).map (fun call => (call.url, call.fields)) =
      [("https://h.example/a", [("Authorization", "x"), ("authorization", "y")]),
        ("https://other.example/b", [("Authorization", "x")])] := by
  decide +kernel

end HttpScript.Dispatch
