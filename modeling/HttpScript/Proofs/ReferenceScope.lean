import HttpScript.Proofs.FreshTrees
import HttpScript.Proofs.NamedReferences

/-!
# What a text sees of a session

A text is resolved with what its references name and, where they run code, with the patterns of the
program; nothing else has a part in it. Of a response that is named the status, the headers and the
body count, not the instant at which it was stored.

    s.AgreesOn names s' → (s.resolve t).1 = (s'.resolve t).1                (AgreesOn.resolve)
    ((run s ops).session.get? n).map content = lastContent? n ops           (content_run)

So two histories that leave the same last content under the names in a text resolve it to the same
(`resolve_scope`), whatever else was stored, replaced or cleared in them. A pattern that was used in
between may still tell them apart (`resolve_moved_pattern`).
-/

namespace HttpScript

open Text (lower)
open Session (Reference references agreesOn_store)

/-- What a response says, whenever it was stored. -/
def StoredResponse.content (r : StoredResponse) : Nat × Record String × String :=
  (r.status, r.headers, r.body)

namespace Session

/-! ## Trees as they were read -/

/-- The trees are those of the bodies as they were read. -/
def Unchanged (s : Session) : Prop := ∀ e ∈ s, e.tree = e.response.tree.map .fresh

theorem mem_or_eq_of_mem_put {entry e : SessionEntry} {s : Session} (h : e ∈ s.put entry) :
    e = entry ∨ e ∈ s := by
  induction s with
  | nil => exact .inl (List.mem_singleton.1 h)
  | cons f s ih =>
    rw [put] at h
    split at h
    · exact (List.mem_cons.1 h).imp_right (List.mem_cons_of_mem _)
    · rcases List.mem_cons.1 h with rfl | h
      · exact .inr List.mem_cons_self
      · exact (ih h).imp_right (List.mem_cons_of_mem _)

theorem Unchanged.store {s : Session} (unchanged : s.Unchanged) (n : String)
    (response : StoredResponse) : (s.store n response).Unchanged := by
  intro e he
  unfold Session.store at he
  split at he
  · exact unchanged e he
  · rcases mem_or_eq_of_mem_put he with rfl | he
    · rfl
    · exact unchanged e he

/-- Where the trees are as they were read, entries with the same content look the same. -/
theorem Unchanged.seen_congr {s s' : Session} (unchanged : s.Unchanged) (unchanged' : s'.Unchanged)
    {n : String} (same : (s.get? n).map (·.content) = (s'.get? n).map (·.content)) :
    (s.held? n).map SessionEntry.seen = (s'.held? n).map SessionEntry.seen := by
  unfold get? at same
  rw [Option.map_map, Option.map_map] at same
  have told {s : Session} (unchanged : s.Unchanged) : (s.held? n).map SessionEntry.seen =
      ((s.held? n).map (·.response.content)).map fun c =>
        (c.2.1, c.2.2, (Body.parse? c.2.2).map .fresh) := by
    rw [Option.map_map]
    refine Option.map_congr fun e he => ?_
    unfold SessionEntry.seen
    rw [unchanged e (List.mem_of_find?_eq_some he)]
    rfl
  rw [told unchanged, told unchanged']
  exact congrArg _ same

end Session

namespace SessionState

/-- Operations without code leave the trees as they were read. -/
theorem unchanged_apply (s : SessionState) (unchanged : s.session.Unchanged) (op : Operation)
    (free : op.isCodeFree = true) : (s.apply op).session.Unchanged := by
  cases op with
  | store name response => exact unchanged.store name response
  | clear => exact fun e he => nomatch he
  | resolve text => rwa [s.apply_resolve_of_isCodeFree free]
  | _ => exact unchanged

theorem session_apply_congr {s s' : SessionState} (same : s.session = s'.session) (op : Operation)
    (free : op.isCodeFree = true) : (s.apply op).session = (s'.apply op).session := by
  cases op with
  | store name response => exact congrArg (·.store name response) same
  | clear => rfl
  | resolve text =>
    rw [s.apply_resolve_of_isCodeFree free, s'.apply_resolve_of_isCodeFree free, same]
  | _ => exact same

variable (lib : JsonLibrary)

/-- Without code the patterns have no part in what a session holds. -/
theorem session_run_congr (ps ps' : Query.Patterns) (ops : List Operation)
    (free : ∀ op ∈ ops, op.isCodeFree = true) :
    (run ⟨[], ps, lib⟩ ops).session = (run ⟨[], ps', lib⟩ ops).session := by
  induction ops using List.reverseRecOn with
  | nil => rfl
  | append_singleton ops op ih =>
    rw [run_concat, run_concat]
    exact session_apply_congr (ih fun op h => free op (List.mem_append_left _ h)) op
      (free op (List.mem_append_right _ List.mem_cons_self))

/-- Operations without code change the session and nothing else. -/
theorem apply_of_isCodeFree (s : SessionState) (op : Operation) (free : op.isCodeFree = true) :
    s.apply op = { s with session := (s.apply op).session } := by
  cases op with
  | resolve text => rw [s.apply_resolve_of_isCodeFree free]
  | _ => rfl

theorem run_of_isCodeFree (ps : Query.Patterns) (ops : List Operation)
    (free : ∀ op ∈ ops, op.isCodeFree = true) :
    (run ⟨[], ps, lib⟩ ops).session.Unchanged ∧
      run ⟨[], ps, lib⟩ ops = ⟨(run ⟨[], ps, lib⟩ ops).session, ps, lib⟩ := by
  induction ops using List.reverseRecOn with
  | nil => exact ⟨fun _ => nofun, rfl⟩
  | append_singleton ops op ih =>
    obtain ⟨unchanged, frame⟩ := ih fun op h => free op (List.mem_append_left _ h)
    have last := free op (List.mem_append_right _ List.mem_cons_self)
    rw [run_concat]
    refine ⟨unchanged_apply _ unchanged op last, ?_⟩
    rw [frame]
    exact apply_of_isCodeFree _ op last

/-! ## Texts without code -/

/-- What a reference without code finds in a tree as it was read does not depend on the patterns. -/
theorem answer_of_patterns {session : Session} (unchanged : session.Unchanged)
    (ps ps' : Query.Patterns) (r : Reference) (free : r.isCodeFree = true) :
    (answer ⟨session, ps, lib⟩ r).1 = (answer ⟨session, ps', lib⟩ r).1 := by
  cases found : session.held? r.name with
  | none =>
    have unknown : session.get? r.name = none := Option.map_eq_none_iff.2 found
    rw [answer_of_unknown (s := ⟨session, ps, lib⟩) unknown,
      answer_of_unknown (s := ⟨session, ps', lib⟩) unknown]
  | some e =>
    rw [answer_of_held? (s := ⟨session, ps, lib⟩) found,
      answer_of_held? (s := ⟨session, ps', lib⟩) found]
    obtain ⟨name, part, path⟩ := r
    cases part with
    | headers => rfl
    | body => cases path with
      | none => rfl
      | some path =>
        have tree := unchanged e (List.mem_of_find?_eq_some found)
        unfold SessionEntry.answer
        dsimp only
        rw [tree]
        cases e.response.tree with
        | none => rfl
        | some root =>
          exact congrArg (Option.bind · (Body.leafText lib))
            (Query.Tree.node_select_of_isCodeFree lib (t := .fresh root) rfl ps ps' path free)

/-- A text without code resolves to the same whatever the patterns are. -/
theorem resolve_of_patterns {session : Session} (unchanged : session.Unchanged)
    (ps ps' : Query.Patterns) (t : String) (free : Session.isCodeFree t = true) :
    (resolve ⟨session, ps, lib⟩ t).1 = (resolve ⟨session, ps', lib⟩ t).1 := by
  have free (r : Reference) (hr : r ∈ references t) : r.isCodeFree = true :=
    List.all_eq_true.1 free r hr
  rw [resolve_of_stays ⟨session, ps, lib⟩ t fun r hr => answer_of_isCodeFree _ r (free r hr),
    resolve_of_stays ⟨session, ps', lib⟩ t fun r hr => answer_of_isCodeFree _ r (free r hr)]
  refine congrArg String.ofList (Text.replaceFound_congr _ _ _ fun r raw found => ?_)
  rw [answer_of_patterns lib unchanged ps ps' r (free r (Session.mem_references_of_found found))]

/-! ## Two histories -/

/-- The content of the last response that was stored under a name after the last clear. -/
def lastContent? (name : String) (ops : List Operation) : Option (Nat × Record String × String) :=
  (Record.lastNamed? name (kept ops)).map (·.content)

theorem content_run (ps : Query.Patterns) (ops : List Operation) (name : String) :
    ((run ⟨[], ps, lib⟩ ops).session.get? name).map (·.content) = lastContent? name ops := by
  rw [Session.get?_of_describes _ _ (describes_run ps lib ops)]
  rfl

section Histories

variable {t : String} {ops ops' : List Operation}
  (free : ∀ op ∈ ops ++ ops', op.isCodeFree = true)
  (same : ∀ r ∈ references t, lastContent? r.name ops = lastContent? r.name ops')

include free same

theorem agreesOn_run (ps : Query.Patterns) :
    AgreesOn (fun n => ∃ r ∈ references t, r.name = n) (run ⟨[], ps, lib⟩ ops)
      (run ⟨[], ps, lib⟩ ops') := by
  obtain ⟨here, left⟩ := run_of_isCodeFree lib ps ops fun op h =>
    free op (List.mem_append_left _ h)
  obtain ⟨there, right⟩ := run_of_isCodeFree lib ps ops' fun op h =>
    free op (List.mem_append_right _ h)
  rw [left, right]
  refine ⟨rfl, rfl, ?_⟩
  rintro n ⟨r, hr, rfl⟩
  refine here.seen_congr there ?_
  rw [content_run, content_run, same r hr]

theorem resolve_run (ps ps' : Query.Patterns) (told : ps = ps' ∨ Session.isCodeFree t = true) :
    ((run ⟨[], ps, lib⟩ ops).resolve t).1 = ((run ⟨[], ps', lib⟩ ops').resolve t).1 := by
  have agree := (agreesOn_run lib free same ps).resolve t fun r hr => ⟨r, hr, rfl⟩
  rcases told with rfl | plain
  · exact agree.1
  · have later : ∀ op ∈ ops', op.isCodeFree = true := fun op h =>
      free op (List.mem_append_right _ h)
    obtain ⟨unchanged, frame⟩ := run_of_isCodeFree lib ps ops' later
    refine agree.1.trans ?_
    rw [frame, (run_of_isCodeFree lib ps' ops' later).2, ← session_run_congr lib ps ps' ops' later]
    exact resolve_of_patterns lib unchanged ps ps' t plain

end Histories

/-- A text is resolved with what its references name. Histories that leave the same content under
those names resolve it to the same, as long as the patterns are the same or the text runs no code; a
response under another name changes nothing, and where nothing is kept under any of them the text
stays as it is, and the state too. Whether a text is looked through makes no difference to any
session. -/
theorem resolve_scope (t : String) :
    (∀ (lib : JsonLibrary) (ps ps' : Query.Patterns) (ops ops' : List Operation),
      (∀ op ∈ ops ++ ops', op.isCodeFree = true) →
      (∀ r ∈ references t, lastContent? r.name ops = lastContent? r.name ops') →
      ps = ps' ∨ Session.isCodeFree t = true →
      ((run ⟨[], ps, lib⟩ ops).resolve t).1 = ((run ⟨[], ps', lib⟩ ops').resolve t).1) ∧
    (∀ (s : SessionState) (n : String) (response : StoredResponse),
      (∀ r ∈ references t, lower r.name ≠ lower n) →
      ((s.apply (.store n response)).resolve t).1 = (s.resolve t).1) ∧
    (∀ s : SessionState, (∀ r ∈ references t, s.session.get? r.name = none) →
      s.resolve t = (t, s) ∧ s.replaceReferences t = (t, s)) ∧
    (∀ s : SessionState, s.resolve t = s.replaceReferences t) := by
  refine ⟨fun lib ps ps' ops ops' free same => resolve_run lib free same ps ps', ?others, ?unknown,
    fun s => s.resolve_eq_replaceReferences t⟩
  case others =>
    intro s n response unnamed
    have agree := agreesOn_store s n response (fun m => ∃ r ∈ references t, r.name = m)
    refine ((agree ?_).resolve t fun r hr => ⟨r, hr, rfl⟩).1
    rintro m ⟨r, hr, rfl⟩
    exact unnamed r hr
  case unknown =>
    intro s unknown
    have kept := s.replaceReferences_of_none t fun r hr => answer_of_unknown (unknown r hr)
    exact ⟨(s.resolve_eq_replaceReferences t).trans kept, kept⟩

/-- The path of the first reference has braces in it and takes in what looks like a reference to
`b`, so that only `a` is named. The histories differ in all that is stored under `b`, in the
spelling of `a`, in the instants and in what is asked. -/
theorem resolve_scope_swallowed :
    let t := "\x7b\x7ba.response.body.{{b.response.body}} {{a.response.body}}"
    let ops : List Operation :=
      [.clear, .store "b" ⟨200, [], "x", 1⟩, .resolve t, .store "A" ⟨200, [], "1", 2⟩]
    let ops' : List Operation := [.store "a" ⟨404, [], "2", 3⟩, .store "a" ⟨200, [], "1", 4⟩]
    (references t).map (·.name) = ["a", "a"] ∧
      ((run .start ops).resolve t).1 = "\x7b\x7ba.response.body.{{b.response.body}} 1" ∧
      ((run .start ops').resolve t).1 = "\x7b\x7ba.response.body.{{b.response.body}} 1" ∧
      ((SessionState.start.apply (.store "b" ⟨200, [], "x", 0⟩)).resolve t).1 = t := by
  intro t ops ops'
  have names : (references t).map (·.name) = ["a", "a"] := by decide +kernel
  have named : ∀ r ∈ references t, r.name = "a" := by
    intro r hr
    have := List.mem_map_of_mem (f := (·.name)) hr
    rw [names] at this
    simpa using this
  obtain ⟨histories, others, unknown, -⟩ := resolve_scope t
  have resolved : ((run .start ops).resolve t).1 =
      "\x7b\x7ba.response.body.{{b.response.body}} 1" := by decide +kernel
  have same : ((run .start ops).resolve t).1 = ((run .start ops').resolve t).1 := by
    refine histories .byClass [] [] ops ops' (by decide +kernel) (fun r hr => ?_) (.inl rfl)
    rw [named r hr]
    decide +kernel
  refine ⟨names, resolved, same.symm.trans resolved, (others .start "b" _ fun r hr => ?_).trans ?_⟩
  · rw [named r hr]
    decide +kernel
  · exact congrArg Prod.fst (unknown .start fun _ _ => rfl).1

/-- The pattern of a query goes on from where its last match ended, in whatever session it was: a
second session with the same history does not find what the first one found. -/
theorem resolve_moved_pattern :
    let t := "{{a.response.body.$[?(/x/g.test(@.n))].n}}"
    let ops : List Operation := [.store "a" ⟨200, [], "[\x7b\"n\":\"x\"\x7d]", 0⟩]
    let first := (run .start ops).resolve t
    let second := (run ⟨[], first.2.patterns, .byClass⟩ ops).resolve t
    first.1 = "x" ∧ second.1 = t := by
  decide +kernel

end SessionState

end HttpScript
