import HttpScript.Proofs.RecordLaws
import HttpScript.Proofs.SessionFrame
import Mathlib.Data.Finset.Card
import Mathlib.Data.List.DropRight
import Mathlib.Data.List.Induction

/-!
# What a session holds, told by its history

Storing keeps a response under a name, and of several responses to one name the last one stays,
with nothing of those before it. Clearing drops all of them. Everything else only asks. The names
and the responses of a session are therefore told by the stores since it was last cleared:

    (s.storeAll es).get? name = (lastNamed? name es).or (s.get? name)       (get?_storeAll)
    (run s ops).session.names.map lower = (… names of kept ops …).eraseDups (run_refines_history)
    (run s ops).session.get? n = lastNamed? n (kept ops)

The place of a name is that of its first store, its spelling and its response are those of its last
one. The invariant that says all three at once is `Describes`. Nothing but stores and clears leaves
a trace in the state as long as no code is run; a text that runs code can change what later texts
resolve to (`resolve_shifts_stored_tree`).
-/

namespace HttpScript

open Text (lower)
open Record (lastMatch? lastMatch?_concat lastMatch?_congr lastNamed? lastNamed?_cons
  lastNamed?_eq_map lastNamed?_eq_none_iff)

namespace Session

/-! ## Keeping responses -/

/-- The session after responses have been kept in order, each under a name. -/
def storeAll (s : Session) (es : List (String × StoredResponse)) : Session :=
  es.foldl (fun s e => s.store e.1 e.2) s

theorem storeAll_append (s : Session) (es fs : List (String × StoredResponse)) :
    s.storeAll (es ++ fs) = (s.storeAll es).storeAll fs := List.foldl_append

/-- A name is answered by the last response that was kept under it, and else as before. -/
theorem get?_storeAll (s : Session) (es : List (String × StoredResponse))
    (named : ∀ e ∈ es, e.1.isEmpty = false) (name : String) :
    (s.storeAll es).get? name = (lastNamed? name es).or (s.get? name) := by
  induction es generalizing s with
  | nil => rfl
  | cons e es ih =>
    show ((s.store e.1 e.2).storeAll es).get? name = _
    rw [ih _ fun f hf => named f (List.mem_cons_of_mem _ hf), lastNamed?_cons, Option.or_assoc]
    congr 1
    rw [store, if_neg (by rw [named e List.mem_cons_self]; exact Bool.false_ne_true), get?_put,
      SessionEntry.key_fresh]
    split <;> rfl

/-- The names of stores in lower case, each at the place of its first store. -/
def storedKeys (es : List (String × StoredResponse)) : List String :=
  (es.map fun e => lower e.1).eraseDups

/-! ## Names in the order of their first stores -/

section Keys

variable {α : Type} [DecidableEq α]

theorem eraseDups_concat (l : List α) (a : α) :
    (l ++ [a]).eraseDups = if a ∈ l then l.eraseDups else l.eraseDups ++ [a] := by
  rw [List.eraseDups_append]
  by_cases h : a ∈ l <;> simp [List.removeAll, List.eraseDups_cons, h]

theorem nodup_eraseDups (l : List α) : l.eraseDups.Nodup := by
  induction l using List.reverseRecOn with
  | nil => exact List.nodup_nil
  | append_singleton l a ih =>
    rw [eraseDups_concat]
    split
    · exact ih
    · next new =>
      have apart : a ∉ l.eraseDups := mt List.mem_eraseDups.1 new
      simpa using ih.concat apart

end Keys

theorem map_key_put (entry : SessionEntry) (s : Session) :
    (s.put entry).map (·.key) =
      if entry.key ∈ s.map (·.key) then s.map (·.key) else s.map (·.key) ++ [entry.key] := by
  induction s with
  | nil => rfl
  | cons e s ih =>
    rw [put]
    by_cases same : e.key = entry.key
    · simp [same]
    · have other : entry.key ≠ e.key := fun c => same c.symm
      simp only [beq_iff_eq, if_neg same, List.map_cons, List.mem_cons, other, false_or, ih]
      split <;> rfl

/-- Where no key occurs twice, an entry that is put comes instead of the one with its key. -/
theorem mem_put (entry : SessionEntry) (s : Session) (distinct : (s.map (·.key)).Nodup)
    (e : SessionEntry) (h : e ∈ s.put entry) : e = entry ∨ (e ∈ s ∧ e.key ≠ entry.key) := by
  induction s with
  | nil => exact .inl (List.mem_singleton.1 h)
  | cons f s ih =>
    obtain ⟨apart, distinct⟩ := List.nodup_cons.1 distinct
    rw [put] at h
    split at h
    · next same =>
      rcases List.mem_cons.1 h with rfl | h
      · exact .inl rfl
      · refine .inr ⟨List.mem_cons_of_mem _ h, fun c => apart ?_⟩
        have key : f.key = e.key := (eq_of_beq same).trans c.symm
        show f.key ∈ s.map (·.key)
        rw [key]
        exact List.mem_map_of_mem h
    · next other =>
      rcases List.mem_cons.1 h with rfl | h
      · exact .inr ⟨List.mem_cons_self, fun c => other (beq_iff_eq.2 c)⟩
      · rcases ih distinct h with rfl | ⟨he, hk⟩
        · exact .inl rfl
        · exact .inr ⟨List.mem_cons_of_mem _ he, hk⟩

/-! ## Sessions told by their history -/

/-- A session that holds what a history of stores leaves. -/
structure Describes (es : List (String × StoredResponse)) (s : Session) : Prop where
  /-- Names stand in the order of their first stores. -/
  order : s.map (·.key) = storedKeys es
  keyed : ∀ e ∈ s, e.key = lower e.name
  /-- Spelling and response are those of the last store of the name. -/
  last : ∀ e ∈ s, lastMatch? e.name es = some (e.name, e.response)

theorem describes_nil : Describes [] [] := ⟨rfl, nofun, nofun⟩

/-- A store changes the place of no name, and spelling and response of one. -/
theorem describes_store (es : List (String × StoredResponse)) (s : Session) (h : Describes es s)
    (name : String) (response : StoredResponse) (named : name.isEmpty = false) :
    Describes (es ++ [(name, response)]) (s.store name response) := by
  have distinct : (s.map (·.key)).Nodup := by
    rw [h.order]
    exact nodup_eraseDups _
  have stored : s.store name response = s.put (.fresh name response) := by
    rw [store, named]
    rfl
  rw [stored]
  refine ⟨?order, ?keyed, ?last⟩
  case order =>
    have known : lower name ∈ s.map (·.key) ↔ lower name ∈ es.map fun e => lower e.1 := by
      rw [h.order]
      exact List.mem_eraseDups
    have before : (es.map fun e => lower e.1).eraseDups = s.map (·.key) := h.order.symm
    unfold storedKeys
    rw [map_key_put, List.map_append, List.map_singleton, eraseDups_concat, before]
    simp only [SessionEntry.key_fresh, known]
  case keyed =>
    intro e he
    rcases mem_put _ s distinct e he with rfl | ⟨he, -⟩
    · rfl
    · exact h.keyed e he
  case last =>
    intro e he
    rw [lastMatch?_concat]
    rcases mem_put _ s distinct e he with rfl | ⟨he, hk⟩
    · exact if_pos rfl
    · have other : lower name ≠ lower e.name := fun c => hk ((h.keyed e he).trans c.symm)
      rw [if_neg other, h.last e he]

theorem map_lower_names (es : List (String × StoredResponse)) (s : Session) (h : Describes es s) :
    s.names.map lower = storedKeys es := by
  have same : s.map (fun e => lower e.name) = s.map (·.key) :=
    List.map_congr_left fun e he => (h.keyed e he).symm
  rw [← h.order, ← same, names, List.map_map]
  rfl

theorem length_eq_card (es : List (String × StoredResponse)) (s : Session) (h : Describes es s) :
    s.length = (es.map fun e => lower e.1).toFinset.card := by
  have members : (es.map fun e => lower e.1).toFinset = (storedKeys es).toFinset := by
    ext k
    unfold storedKeys
    rw [List.mem_toFinset, List.mem_toFinset, List.mem_eraseDups]
  have distinct : (storedKeys es).Nodup := nodup_eraseDups _
  calc s.length = (s.map (·.key)).length := by rw [List.length_map]
    _ = (storedKeys es).length := by rw [h.order]
    _ = (es.map fun e => lower e.1).toFinset.card := by
      rw [members, List.toFinset_card_of_nodup distinct]

/-- A name is answered by its last store, whatever its spelling there. -/
theorem get?_of_describes (es : List (String × StoredResponse)) (s : Session)
    (h : Describes es s) (name : String) : s.get? name = lastNamed? name es := by
  unfold get?
  cases found : s.held? name with
  | some e =>
    have he : e ∈ s := List.mem_of_find?_eq_some found
    have hn : lower name = lower e.name := (key_of_held? found).symm.trans (h.keyed e he)
    rw [lastNamed?_eq_map, lastMatch?_congr name e.name hn, h.last e he]
    rfl
  | none =>
    have unkept : lower name ∉ s.map (·.key) := by
      have none_ := List.find?_eq_none.1 found
      intro hm
      obtain ⟨e, he, hk⟩ := List.mem_map.1 hm
      exact none_ e he (beq_iff_eq.2 hk)
    rw [h.order, storedKeys, List.mem_eraseDups] at unkept
    refine ((lastNamed?_eq_none_iff name es).2 fun e he same => unkept ?_).symm
    exact List.mem_map.2 ⟨e, he, same⟩

/-- What a history tells of a session, it tells of every other one with the same labels. -/
theorem describes_of_label (es : List (String × StoredResponse)) (s s' : Session)
    (same : s'.map SessionEntry.label = s.map SessionEntry.label) (h : Describes es s) :
    Describes es s' := by
  have other (e : SessionEntry) (he : e ∈ s') : ∃ f ∈ s, f.label = e.label := by
    have labelled : e.label ∈ s'.map SessionEntry.label := List.mem_map_of_mem he
    rwa [same, List.mem_map] at labelled
  have key : s'.map (·.key) = s.map (·.key) := by
    have keys (s : Session) : s.map (·.key) = (s.map SessionEntry.label).map (·.1) := by
      rw [List.map_map]
      rfl
    rw [keys, keys, same]
  refine ⟨key.trans h.order, fun e he => ?_, fun e he => ?_⟩
  · obtain ⟨f, hf, label⟩ := other e he
    obtain ⟨key, name, -⟩ : f.key = e.key ∧ f.name = e.name ∧ f.response = e.response := by
      simpa [SessionEntry.label] using label
    rw [← key, ← name, h.keyed f hf]
  · obtain ⟨f, hf, label⟩ := other e he
    obtain ⟨-, name, response⟩ : f.key = e.key ∧ f.name = e.name ∧ f.response = e.response := by
      simpa [SessionEntry.label] using label
    rw [← name, ← response, h.last f hf]

end Session

namespace SessionState

open Session (Describes describes_nil describes_store describes_of_label)

/-! ## Histories -/

def Operation.isClear : Operation → Bool
  | .clear => true
  | _ => false

/-- Whether the operation stores or clears. -/
def Operation.isWrite : Operation → Bool
  | .store _ _ | .clear => true
  | _ => false

/-- Whether the operation runs no code. -/
def Operation.isCodeFree : Operation → Bool
  | .resolve text => Session.isCodeFree text
  | _ => true

/-- The name and the response that an operation stores. -/
def Operation.stored? : Operation → Option (String × StoredResponse)
  | .store name response => if name.isEmpty then none else some (name, response)
  | _ => none

/-- What was stored since the session was last cleared, in order. -/
def kept (ops : List Operation) : List (String × StoredResponse) :=
  (ops.rtakeWhile (!·.isClear)).filterMap (·.stored?)

/-! ## One more operation -/

theorem kept_concat_clear (ops : List Operation) : kept (ops ++ [.clear]) = [] := by
  unfold kept
  rw [List.rtakeWhile_concat_neg _ _ _ (by simp [Operation.isClear])]
  rfl

theorem kept_concat (ops : List Operation) (op : Operation) (other : op.isClear = false) :
    kept (ops ++ [op]) = kept ops ++ op.stored?.toList := by
  unfold kept
  rw [List.rtakeWhile_concat_pos _ _ _ (by simp [other]), List.filterMap_append]
  cases h : op.stored? <;> simp [h]

theorem describes_apply (ops : List Operation) (s : SessionState)
    (h : Describes (kept ops) s.session) (op : Operation) :
    Describes (kept (ops ++ [op])) (s.apply op).session := by
  have asks (stored : op.stored? = none) (other : op.isClear = false)
      (same : (s.apply op).session.map SessionEntry.label = s.session.map SessionEntry.label) :
      Describes (kept (ops ++ [op])) (s.apply op).session := by
    rw [kept_concat _ _ other, stored, Option.toList_none, List.append_nil]
    exact describes_of_label _ _ _ same h
  cases op with
  | clear =>
    rw [kept_concat_clear]
    exact describes_nil
  | store name response =>
    rw [kept_concat _ _ rfl, Operation.stored?, apply]
    cases hn : name.isEmpty with
    | true =>
      rw [Session.store, hn, if_pos rfl, if_pos rfl, Option.toList_none, List.append_nil]
      exact h
    | false => exact describes_store _ s.session h name response hn
  | resolve text => exact asks rfl rfl (s.label_resolve text)
  | _ => exact asks rfl rfl rfl

theorem run_concat (s : SessionState) (ops : List Operation) (op : Operation) :
    run s (ops ++ [op]) = (run s ops).apply op := List.foldl_append

theorem describes_run (ps : Query.Patterns) (lib : JsonLibrary) (ops : List Operation) :
    Describes (kept ops) (run ⟨[], ps, lib⟩ ops).session := by
  induction ops using List.reverseRecOn with
  | nil => exact describes_nil
  | append_singleton ops op ih =>
    rw [run_concat]
    exact describes_apply ops _ ih op

/-! ## What leaves a trace -/

theorem apply_resolve_of_isCodeFree (s : SessionState) {text : String}
    (free : Session.isCodeFree text = true) : s.apply (.resolve text) = s :=
  s.resolve_of_isCodeFree text free

/-- Asking changes no name and no response, and without code nothing at all. -/
theorem apply_of_not_isWrite (s : SessionState) (op : Operation) (asks : op.isWrite = false) :
    (s.apply op).session.map SessionEntry.label = s.session.map SessionEntry.label ∧
      (op.isCodeFree = true → s.apply op = s) := by
  cases op with
  | store name response => cases asks
  | clear => cases asks
  | resolve text => exact ⟨s.label_resolve text, s.apply_resolve_of_isCodeFree⟩
  | _ => exact ⟨rfl, fun _ => rfl⟩

/-- Without code, only stores and clears leave a trace. -/
theorem run_filter_isWrite (ops : List Operation) (s : SessionState)
    (free : ∀ op ∈ ops, op.isCodeFree = true) : run s (ops.filter (·.isWrite)) = run s ops := by
  induction ops generalizing s with
  | nil => rfl
  | cons op ops ih =>
    obtain ⟨first, others⟩ := List.forall_mem_cons.1 free
    rw [List.filter_cons]
    split
    · exact ih _ others
    · next asks =>
      rw [ih s others]
      show run s ops = run (s.apply op) ops
      rw [(s.apply_of_not_isWrite op (Bool.eq_false_iff.2 asks)).2 first]

/-- After any operations a session holds, for each name that was stored since it was last cleared,
what the last store of that name left. The number of names, their order and spelling, and the
response, with the tree of its body, of each name are told by those stores alone, whatever was asked
in between. Asking changes none of them; and unless code is run it changes nothing, so that the
state is the one that the stores and clears alone lead to. -/
theorem run_refines_history (ps : Query.Patterns) (lib : JsonLibrary) (ops : List Operation) :
    let s := run ⟨[], ps, lib⟩ ops
    s.session.length = ((kept ops).map fun e => lower e.1).toFinset.card ∧
    s.session.names.map lower = ((kept ops).map fun e => lower e.1).eraseDups ∧
    (∀ n ∈ s.session.names, (lastMatch? n (kept ops)).map (·.1) = some n) ∧
    (∀ n, (s.session.get? n).map (fun r => (r, r.tree)) =
      (lastNamed? n (kept ops)).map fun r => (r, Body.parse? r.body)) ∧
    (∀ op : Operation, op.isWrite = false →
      (s.apply op).session.map SessionEntry.label = s.session.map SessionEntry.label ∧
        (op.isCodeFree = true → s.apply op = s)) ∧
    ((∀ op ∈ ops, op.isCodeFree = true) → run ⟨[], ps, lib⟩ (ops.filter (·.isWrite)) = s) := by
  intro s
  have h := describes_run ps lib ops
  refine ⟨Session.length_eq_card _ _ h, Session.map_lower_names _ _ h, ?_, ?_,
    s.apply_of_not_isWrite, run_filter_isWrite ops _⟩
  · intro n hn
    obtain ⟨e, he, rfl⟩ := List.mem_map.1 hn
    rw [h.last e he]
    rfl
  · intro n
    rw [Session.get?_of_describes _ _ h]
    rfl

/-- A path, a query without code and a name that is not kept, asked between two stores. -/
theorem run_refines_history_asked :
    let ops : List Operation := [.store "a" ⟨200, [], "[1,2]", 0⟩,
      .resolve "\x7b\x7ba.response.body.[0]\x7d\x7d{{a.response.body.$..*}}{{b.response.body}}",
      .store "A" ⟨201, [], "[3]", 1⟩]
    run .start ops = run .start [.store "a" ⟨200, [], "[1,2]", 0⟩, .store "A" ⟨201, [], "[3]", 1⟩] ∧
      (run .start ops).session.names = ["A"] := by
  intro ops
  obtain ⟨-, -, -, -, -, writes⟩ := run_refines_history [] .byClass ops
  exact ⟨(writes (by decide +kernel)).symm, by decide +kernel⟩

/-- A query that runs `shift` finds nothing, and yet the list of the body has lost its first item
for every later reference. What is kept as the response is still the whole list. -/
theorem resolve_shifts_stored_tree :
    let s := run .start [.store "a" ⟨200, [], "\x7b\"a\":[1,2,3]\x7d", 0⟩]
    let query := "{{a.response.body.$[?(@root.a.shift()===0)]}}"
    let later := s.apply (.resolve query)
    (s.resolve "{{a.response.body.a}}").1 = "[1,2,3]" ∧ (s.resolve query).1 = query ∧
      (later.resolve "{{a.response.body.a}}").1 = "[2,3]" ∧
      later.session.get? "a" = s.session.get? "a" ∧ later ≠ s := by
  intro s query later
  have resolved : (s.resolve "{{a.response.body.a}}").1 = "[1,2,3]" ∧ (s.resolve query).1 = query ∧
      (later.resolve "{{a.response.body.a}}").1 = "[2,3]" := by decide +kernel
  have kept := Session.get?_of_label (s.label_resolve query) "a"
  refine ⟨resolved.1, resolved.2.1, resolved.2.2, kept, fun same => ?_⟩
  have shown := resolved.2.2
  rw [same, resolved.1] at shown
  exact absurd shown (by decide)

/-- The second store of a name keeps its place and changes its spelling and its response. -/
example : (run .start [.store "b" ⟨200, [], "1", 0⟩, .clear, .store "a" ⟨200, [("x", "1")], "2", 1⟩,
    .store "" ⟨200, [], "3", 2⟩, .store "c" ⟨200, [], "4", 3⟩, .get "a",
    .store "A" ⟨404, [], "5", 4⟩]).session.names = ["A", "c"] := by decide +kernel

end SessionState

end HttpScript
