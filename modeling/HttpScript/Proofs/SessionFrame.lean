import HttpScript.Proofs.CodeFreeQueries
import HttpScript.Proofs.ReferenceText

/-!
# What references leave

Whatever is asked of a session, the names and the responses that it keeps stay as they are. The
trees of the bodies do not: a query that runs code can change the one that it is asked of, and the
patterns of the program as well. Without code nothing changes at all.

    (s.resolve t).2.session.map label = s.session.map label                   (label_resolve)
    isCodeFree t → (s.resolve t).2 = s                                (resolve_of_isCodeFree)

A reference sees the content and the tree of one response, the patterns and the library, and nothing
else.
-/

namespace HttpScript

open Text (lower)

/-- What an entry says whatever has been asked of it. -/
def SessionEntry.label (e : SessionEntry) : String × String × StoredResponse :=
  (e.key, e.name, e.response)

section Fresh

variable (name : String) (response : StoredResponse)

@[simp] theorem SessionEntry.key_fresh : (fresh name response).key = lower name := rfl

@[simp] theorem SessionEntry.name_fresh : (fresh name response).name = name := rfl

@[simp] theorem SessionEntry.response_fresh : (fresh name response).response = response := rfl

@[simp] theorem SessionEntry.tree_fresh :
    (fresh name response).tree = response.tree.map .fresh := rfl

end Fresh

namespace Session

/-! ## Entries -/

theorem held?_cons (e : SessionEntry) (s : Session) (name : String) :
    held? (e :: s) name = if e.key = lower name then some e else s.held? name := by
  unfold held?
  rw [List.find?_cons]
  by_cases h : e.key = lower name
  · rw [if_pos h, beq_iff_eq.2 h]
  · rw [if_neg h, beq_eq_false_iff_ne.2 h]

theorem key_of_held? {s : Session} {name : String} {e : SessionEntry}
    (found : s.held? name = some e) : e.key = lower name := by
  have same := List.find?_some (p := fun e : SessionEntry => e.key == lower name) found
  exact beq_iff_eq.1 same

theorem held?_put (entry : SessionEntry) (s : Session) (name : String) :
    (s.put entry).held? name = if entry.key = lower name then some entry else s.held? name := by
  induction s with
  | nil => exact held?_cons entry [] name
  | cons e s ih =>
    rw [put]
    split
    · next same =>
      rw [held?_cons, held?_cons, beq_iff_eq.1 same]
      split <;> rfl
    · next other =>
      rw [held?_cons, held?_cons, ih]
      by_cases h : e.key = lower name
      · rw [if_pos h, if_pos h, if_neg fun c => other (beq_iff_eq.2 (h.trans c.symm))]
      · rw [if_neg h, if_neg h]

theorem get?_put (entry : SessionEntry) (s : Session) (name : String) :
    (s.put entry).get? name =
      if entry.key = lower name then some entry.response else s.get? name := by
  unfold get?
  rw [held?_put]
  split <;> rfl

theorem put_of_held? {s : Session} {name : String} {e : SessionEntry}
    (found : s.held? name = some e) : s.put e = s := by
  have key := key_of_held? found
  induction s with
  | nil => cases found
  | cons f s ih =>
    rw [held?_cons] at found
    rw [put]
    split at found
    · obtain rfl := Option.some.inj found
      rw [if_pos (beq_self_eq_true _)]
    · next other =>
      rw [if_neg fun same => other ((beq_iff_eq.1 same).trans key), ih found]

/-! ## Labels -/

/-- An entry that comes instead of one with the same label changes no label. -/
theorem map_label_put {s : Session} {name : String} {e e' : SessionEntry}
    (found : s.held? name = some e) (same : e'.label = e.label) :
    (s.put e').map SessionEntry.label = s.map SessionEntry.label := by
  have key : e'.key = e.key := congrArg Prod.fst same
  have here := key_of_held? found
  induction s with
  | nil => cases found
  | cons f s ih =>
    rw [held?_cons] at found
    rw [put]
    split at found
    · obtain rfl := Option.some.inj found
      rw [if_pos (beq_iff_eq.2 key.symm), List.map_cons, List.map_cons, same]
    · next other =>
      rw [if_neg fun c => other ((beq_iff_eq.1 c).trans (key.trans here)), List.map_cons,
        List.map_cons, ih found]

theorem get?_of_label {s s' : Session}
    (same : s.map SessionEntry.label = s'.map SessionEntry.label) (name : String) :
    s.get? name = s'.get? name := by
  have told (s : Session) : s.get? name =
      ((s.map SessionEntry.label).find? fun l => l.1 == lower name).map (·.2.2) := by
    rw [List.find?_map, Option.map_map]
    rfl
  rw [told, told, same]

/-! ## References without code -/

/-- Whether a reference runs no code: its path is no query, or one without code. -/
def Reference.isCodeFree (r : Reference) : Bool :=
  match r.part, r.path with
  | .body, some path => !Text.startsWith "$" path || Query.isCodeFree path
  | _, _ => true

/-- Whether no reference of a text runs code. -/
def isCodeFree (t : String) : Bool := (references t).all (·.isCodeFree)

end Session

open Session (Reference references)

theorem Query.Tree.select_of_isCodeFree (t : Tree) (lib : JsonLibrary) (ps : Patterns)
    (path : String) (free : (!Text.startsWith "$" path || isCodeFree path) = true) :
    t.select lib ps path = ⟨(t.select lib ps path).node, t, ps⟩ := by
  unfold select
  split
  · next query =>
    rw [query, Bool.not_true, Bool.false_or] at free
    exact ask_of_isCodeFree t ps free
  · rfl

namespace SessionEntry

variable (ps : Query.Patterns) (lib : JsonLibrary)

theorem label_answer (e : SessionEntry) (part : Session.ResponsePart) (path : Option String) :
    (e.answer ps lib part path).2.1.label = e.label := by
  unfold answer
  split
  · rfl
  · rfl
  · split <;> rfl

theorem answer_of_isCodeFree (e : SessionEntry) (r : Reference) (free : r.isCodeFree = true) :
    (e.answer ps lib r.part r.path).2 = (e, ps) := by
  obtain ⟨name, part, path⟩ := r
  cases part with
  | headers => rfl
  | body => cases path with
    | none => rfl
    | some path =>
      unfold answer
      dsimp only
      split
      · rfl
      · next tree held =>
        rw [tree.select_of_isCodeFree lib ps path free]
        rw [← held]

end SessionEntry

namespace SessionState

theorem answer_of_held? {s : SessionState} {r : Reference} {e : SessionEntry}
    (found : s.session.held? r.name = some e) :
    s.answer r = ((e.answer s.patterns s.library r.part r.path).1,
      ⟨s.session.put (e.answer s.patterns s.library r.part r.path).2.1,
        (e.answer s.patterns s.library r.part r.path).2.2, s.library⟩) := by
  unfold answer
  rw [found]

theorem answer_of_unknown {s : SessionState} {r : Reference}
    (unknown : s.session.get? r.name = none) : s.answer r = (none, s) := by
  unfold answer
  rw [Option.map_eq_none_iff.1 unknown]

theorem label_answer (s : SessionState) (r : Reference) :
    (s.answer r).2.session.map SessionEntry.label = s.session.map SessionEntry.label := by
  cases found : s.session.held? r.name with
  | none =>
    unfold answer
    rw [found]
  | some e =>
    rw [answer_of_held? found]
    exact Session.map_label_put found (SessionEntry.label_answer ..)

/-- Resolving a text changes no name and no response. -/
theorem label_resolve (s : SessionState) (t : String) :
    (s.resolve t).2.session.map SessionEntry.label = s.session.map SessionEntry.label :=
  resolve_invariant (fun s' => s'.session.map SessionEntry.label = s.session.map SessionEntry.label)
    t (fun r _ s' same => (s'.label_answer r).trans same) s rfl

/-- A reference without code leaves everything as it is. -/
theorem answer_of_isCodeFree (s : SessionState) (r : Reference) (free : r.isCodeFree = true) :
    (s.answer r).2 = s := by
  cases found : s.session.held? r.name with
  | none =>
    unfold answer
    rw [found]
  | some e =>
    rw [answer_of_held? found, SessionEntry.answer_of_isCodeFree _ _ e r free]
    exact congrArg (SessionState.mk · s.patterns s.library) (Session.put_of_held? found)

theorem resolve_of_isCodeFree (s : SessionState) (t : String)
    (free : Session.isCodeFree t = true) : (s.resolve t).2 = s := by
  rw [s.resolve_of_stays t fun r hr => s.answer_of_isCodeFree r (List.all_eq_true.1 free r hr)]

end SessionState

/-! ## What a reference sees -/

/-- What references can see of an entry: the headers, the body and its tree. -/
def SessionEntry.seen (e : SessionEntry) : Record String × String × Option Query.Tree :=
  (e.response.headers, e.response.body, e.tree)

theorem SessionEntry.answer_congr {e e' : SessionEntry} (same : e.seen = e'.seen)
    (ps : Query.Patterns) (lib : JsonLibrary) (part : Session.ResponsePart)
    (path : Option String) :
    (e.answer ps lib part path).1 = (e'.answer ps lib part path).1 ∧
      (e.answer ps lib part path).2.1.seen = (e'.answer ps lib part path).2.1.seen ∧
      (e.answer ps lib part path).2.2 = (e'.answer ps lib part path).2.2 := by
  obtain ⟨headers, body, tree⟩ : e.response.headers = e'.response.headers ∧
      e.response.body = e'.response.body ∧ e.tree = e'.tree := by
    simpa [seen] using same
  unfold answer
  rw [headers, body, tree]
  split
  · exact ⟨rfl, same, rfl⟩
  · exact ⟨rfl, same, rfl⟩
  · split
    · exact ⟨rfl, same, rfl⟩
    · refine ⟨rfl, ?_, rfl⟩
      unfold seen
      rw [headers, body]

namespace SessionState

/-- References under some names see the same in both states, or nothing in both. -/
structure AgreesOn (P : String → Prop) (s s' : SessionState) : Prop where
  patterns : s.patterns = s'.patterns
  library : s.library = s'.library
  seen : ∀ n, P n →
    (s.session.held? n).map SessionEntry.seen = (s'.session.held? n).map SessionEntry.seen

namespace AgreesOn

variable {P : String → Prop} {s s' : SessionState}

/-- A reference is answered alike, and what it leaves is alike for later ones. -/
theorem answer (agree : AgreesOn P s s') (r : Reference) (named : P r.name) :
    (s.answer r).1 = (s'.answer r).1 ∧ AgreesOn P (s.answer r).2 (s'.answer r).2 := by
  have here := agree.seen r.name named
  cases found : s.session.held? r.name with
  | none =>
    rw [found, Option.map_none, eq_comm, Option.map_eq_none_iff] at here
    rw [answer_of_unknown (Option.map_eq_none_iff.2 found),
      answer_of_unknown (Option.map_eq_none_iff.2 here)]
    exact ⟨rfl, agree⟩
  | some e =>
    rw [found, Option.map_some, eq_comm, Option.map_eq_some_iff] at here
    obtain ⟨e', found', same⟩ := here
    rw [answer_of_held? found, answer_of_held? found', ← agree.patterns, ← agree.library]
    obtain ⟨text, seen, patterns⟩ :=
      SessionEntry.answer_congr same s.patterns s.library r.part r.path
    have key (e : SessionEntry) : (e.answer s.patterns s.library r.part r.path).2.1.key = e.key :=
      congrArg Prod.fst (SessionEntry.label_answer s.patterns s.library e r.part r.path)
    refine ⟨text.symm, patterns.symm, rfl, fun n hn => ?_⟩
    dsimp only
    rw [Session.held?_put, Session.held?_put, key, key, Session.key_of_held? found,
      Session.key_of_held? found']
    split
    · exact congrArg some seen.symm
    · exact agree.seen n hn

/-- A text whose references have these names resolves alike, and leaves what is alike. -/
theorem resolve (agree : AgreesOn P s s') (t : String) (named : ∀ r ∈ references t, P r.name) :
    (s.resolve t).1 = (s'.resolve t).1 ∧ AgreesOn P (s.resolve t).2 (s'.resolve t).2 :=
  resolve_related (AgreesOn P) t (fun r hr _ _ agree => agree.answer r (named r hr)) s s' agree

end AgreesOn

end SessionState

end HttpScript
