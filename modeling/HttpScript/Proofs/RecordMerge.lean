import HttpScript.Proofs.RecordLaws
import Mathlib.Data.List.Induction

/-!
# Writing a record of writes

Writes collected in a record of their own and then written into another record do what the writes
themselves would have done there: later writes take the place of earlier ones either way, and a name
keeps the place and the spelling of its first write.

    r.writeAll (writeAll [] es) = r.writeAll es        (writeAll_writeAll_iff)

This holds of names that are not array indexes, with one exception. A write to the reserved name is
stored only over another spelling of it, and `r` may have one where the empty record has none.

Names that are distinct ignoring case are written as they are (`writeAll_eq_ofList`), and stay in
order when none is an array index (`writeAll_eq_self`).
-/

namespace HttpScript.Record

open Text (lower)

variable {α : Type}

/-! ## Overwriting -/

theorem overwrite_of_not_mem (name : String) (value : α) (r : Record α)
    (absent : firstNamed? name r = none) : r.overwrite name value = r := by
  rw [overwrite]
  conv => rhs; rw [← List.map_id r]
  apply List.map_congr_left
  intro e he
  rw [if_neg ((firstNamed?_eq_none_iff _ _).1 absent e he)]
  rfl

theorem overwrite_overwrite (key name : String) (w v : α) (r : Record α)
    (hn : lower key = lower name) : (r.overwrite key w).overwrite name v = r.overwrite key v := by
  rw [overwrite, overwrite, overwrite, List.map_map, hn]
  apply List.map_congr_left
  intro e _
  rw [Function.comp_apply]
  by_cases he : lower e.1 = lower name
  · rw [if_pos he, if_pos he, if_pos he]
  · rw [if_neg he, if_neg he]

theorem overwrite_comm (a b : String) (v w : α) (r : Record α) (hne : lower a ≠ lower b) :
    (r.overwrite b w).overwrite a v = (r.overwrite a v).overwrite b w := by
  rw [overwrite, overwrite, overwrite, overwrite, List.map_map, List.map_map]
  apply List.map_congr_left
  intro e _
  rw [Function.comp_apply, Function.comp_apply]
  by_cases ha : lower e.1 = lower a
  · have hb : lower e.1 ≠ lower b := fun c => hne (ha.symm.trans c)
    rw [if_neg hb, if_pos ha, if_neg hb]
  · by_cases hb : lower e.1 = lower b
    · rw [if_pos hb, if_neg ha, if_neg ha, if_pos hb]
    · rw [if_neg hb, if_neg ha, if_neg hb]

theorem overwrite_insert_ne (a b : String) (v w : α) (r : Record α) (hne : lower a ≠ lower b) :
    (r.insert b w).overwrite a v = (r.overwrite a v).insert b w := by
  induction r with
  | nil =>
    show [if lower b = lower a then (b, v) else (b, w)] = [(b, w)]
    rw [if_neg fun c => hne c.symm]
  | cons e r ih =>
    have name : (if lower e.1 = lower a then (e.1, v) else e).1 = e.1 := by split <;> rfl
    rw [insert, overwrite, overwrite, List.map_cons, insert, name]
    split
    · rw [List.map_cons, List.map_cons, if_neg fun c => hne c.symm]
    · rw [List.map_cons, ← overwrite, ← overwrite, ih]

theorem overwrite_insert_self (key name : String) (w v : α) (r : Record α)
    (hn : lower key = lower name) (absent : firstNamed? name r = none) :
    (r.insert key w).overwrite name v = r.insert key v := by
  induction r with
  | nil =>
    show [if lower key = lower name then (key, v) else (key, w)] = [(key, v)]
    rw [if_pos hn]
  | cons e r ih =>
    have whole := overwrite_of_not_mem name v (e :: r) absent
    rw [firstNamed?_eq_none_iff] at absent
    rw [insert, insert]
    split
    · rw [overwrite, List.map_cons, ← overwrite, whole, if_pos hn]
    · rw [overwrite, List.map_cons, ← overwrite, if_neg (absent e List.mem_cons_self), ih]
      exact (firstNamed?_eq_none_iff _ _).2 fun f hf => absent f (List.mem_cons_of_mem _ hf)

theorem overwrite_same {r : Record α} (h : r.CaseUnique) (name : String) (value : α)
    (there : firstNamed? name r = some value) : r.overwrite name value = r := by
  rw [overwrite]
  conv => rhs; rw [← List.map_id r]
  apply List.map_congr_left
  intro e he
  by_cases hn : lower e.1 = lower name
  · have value' := h.distinct.get?_of_mem he
    rw [if_pos hn]
    have found : r.find? e.1 = some e.2 := by
      rw [find?, findName?, if_pos ((has_iff r e.1).2 ⟨e, he, rfl⟩), Option.bind_some, value']
    rw [find?_eq_firstNamed? r h, firstNamed?_congr _ _ hn, there] at found
    rw [Option.some.inj found]
    rfl
  · rw [if_neg hn]
    rfl

/-! ## One write after another -/

/-- Of two writes to one name the second counts, under the spelling of the first. -/
theorem set_set {r : Record α} (h : r.CaseUnique) (key name : String) (w v : α)
    (hn : lower key = lower name) (stored : firstNamed? key r ≠ none ∨ key ≠ reservedName) :
    (r.set key w).set name v = r.set key v := by
  have there : firstNamed? name (r.set key w) ≠ none := by
    rw [firstNamed?_set h, if_pos hn, if_neg]
    · exact Option.some_ne_none _
    · rintro ⟨c, hr⟩
      rw [← firstNamed?_congr _ _ hn] at c
      rcases stored with s | s
      · exact s c
      · exact s hr
  rw [set_of_mem (caseUnique_set h key w) name v there]
  by_cases absent : firstNamed? key r = none
  · have hr : key ≠ reservedName := stored.resolve_left fun c => c absent
    rw [set_of_not_mem r key w absent, set_of_not_mem r key v absent, if_neg hr, if_neg hr]
    exact overwrite_insert_self key name w v r hn (by rw [← firstNamed?_congr _ _ hn, absent])
  · rw [set_of_mem h key w absent, set_of_mem h key v absent]
    exact overwrite_overwrite key name w v r hn

/-- A write to a name that is there can be moved past a write to another name. -/
theorem set_comm {r : Record α} (h : r.CaseUnique) (name other : String) (v w : α)
    (hne : lower name ≠ lower other) (there : firstNamed? name r ≠ none) :
    (r.set other w).set name v = (r.set name v).set other w := by
  have there' : firstNamed? name (r.set other w) ≠ none := by
    rwa [firstNamed?_set h, if_neg fun c => hne c.symm]
  have same : firstNamed? other (r.overwrite name v) = firstNamed? other r := by
    rw [firstNamed?_overwrite, if_neg hne]
  rw [set_of_mem (caseUnique_set h other w) name v there', set_of_mem h name v there]
  by_cases absent : firstNamed? other r = none
  · rw [set_of_not_mem r other w absent, set_of_not_mem _ other w (same.trans absent)]
    split
    · rfl
    · exact overwrite_insert_ne name other v w r hne
  · rw [set_of_mem h other w absent,
      set_of_mem (caseUnique_overwrite h name v) other w (by rwa [same])]
    exact overwrite_comm name other v w r hne

/-- A write to the reserved name is lost where no other spelling of it is there. -/
theorem set_reserved (r : Record α) (v : α) (absent : firstNamed? reservedName r = none) :
    r.set reservedName v = r := by
  rw [set_of_not_mem r reservedName v absent, if_pos rfl]

/-- A write whose value is there already changes nothing. -/
theorem set_same {r : Record α} (h : r.CaseUnique) (name : String) (v : α)
    (there : firstNamed? name r = some v) : r.set name v = r := by
  have present : firstNamed? name r ≠ none := by
    rw [there]
    exact Option.some_ne_none v
  rw [set_of_mem h name v present, overwrite_same h name v there]

/-- No record that writes build up has the reserved name itself. -/
theorem ne_reserved_of_mem_set {r : Record α} (h : r.CaseUnique)
    (free : ∀ e ∈ r, e.1 ≠ reservedName) (name : String) (v : α) :
    ∀ e ∈ r.set name v, e.1 ≠ reservedName := by
  by_cases absent : firstNamed? name r = none
  · rw [set_of_not_mem r name v absent]
    split
    · exact free
    · next hr =>
      intro e he
      rcases List.mem_cons.mp ((perm_insert name v r).mem_iff.1 he) with rfl | he
      · exact hr
      · exact free e he
  · rw [set_of_mem h name v absent]
    intro e he
    obtain ⟨f, hf, rfl⟩ := List.mem_map.mp he
    split <;> exact free f hf

theorem ne_reserved_of_mem_writeAll {r : Record α} (h : r.CaseUnique)
    (free : ∀ e ∈ r, e.1 ≠ reservedName) (es : List (String × α)) :
    ∀ e ∈ r.writeAll es, e.1 ≠ reservedName := by
  induction es generalizing r with
  | nil => exact free
  | cons e es ih => exact ih (caseUnique_set h e.1 e.2) (ne_reserved_of_mem_set h free e.1 e.2)

/-! ## Writing a record -/

theorem writeAll_concat (r : Record α) (es : List (String × α)) (e : String × α) :
    r.writeAll (es ++ [e]) = (r.writeAll es).set e.1 e.2 := by
  unfold writeAll
  rw [List.foldl_append]
  rfl

/-- A write to a name that is there can be moved past writes to other names. -/
theorem set_writeAll {r : Record α} (h : r.CaseUnique) (name : String) (v : α)
    (there : firstNamed? name r ≠ none) (es : List (String × α))
    (apart : ∀ e ∈ es, lower name ≠ lower e.1) :
    (r.writeAll es).set name v = (r.set name v).writeAll es := by
  induction es generalizing r with
  | nil => rfl
  | cons e es ih =>
    have hne := apart e List.mem_cons_self
    have there' : firstNamed? name (r.set e.1 e.2) ≠ none := by
      rwa [firstNamed?_set h, if_neg fun c => hne c.symm]
    show ((r.set e.1 e.2).writeAll es).set name v = ((r.set name v).set e.1 e.2).writeAll es
    rw [ih (caseUnique_set h e.1 e.2) there' fun f hf => apart f (List.mem_cons_of_mem _ hf),
      set_comm h name e.1 v e.2 hne there]

/-- Changing a value before a record is written is writing it afterwards. -/
theorem writeAll_overwrite {r g : Record α} (h : r.CaseUnique) (hg : g.CaseUnique)
    (free : ∀ e ∈ g, e.1 ≠ reservedName) (name : String) (v : α)
    (there : firstNamed? name g ≠ none) :
    r.writeAll (g.overwrite name v) = (r.writeAll g).set name v := by
  induction g generalizing r with
  | nil => exact absurd rfl there
  | cons e g ih =>
    obtain ⟨apart, hg⟩ := (caseUnique_cons_iff e g).1 hg
    rw [overwrite, List.map_cons, ← overwrite]
    by_cases hn : lower e.1 = lower name
    · have others : firstNamed? name g = none :=
        (firstNamed?_eq_none_iff _ _).2 fun f hf c => apart f hf (c.trans hn.symm)
      have stored : firstNamed? name (r.set e.1 e.2) ≠ none := by
        rw [firstNamed?_set h, if_pos hn, if_neg fun c => free e List.mem_cons_self c.2]
        exact Option.some_ne_none _
      rw [if_pos hn, overwrite_of_not_mem name v g others]
      show (r.set e.1 v).writeAll g = ((r.set e.1 e.2).writeAll g).set name v
      rw [set_writeAll (caseUnique_set h e.1 e.2) name v stored g
          fun f hf c => apart f hf (c.symm.trans hn.symm),
        set_set h e.1 name e.2 v hn (.inr (free e List.mem_cons_self))]
    · rw [firstNamed?_cons, if_neg hn] at there
      rw [if_neg hn]
      exact ih (caseUnique_set h e.1 e.2) hg (fun f hf => free f (List.mem_cons_of_mem _ hf)) there

/-- A name that is no array index comes last when it is new. -/
theorem insert_of_index?_eq_none (name : String) (v : α) (r : Record α)
    (plain : index? name = none) : r.insert name v = r ++ [(name, v)] := by
  induction r with
  | nil => rfl
  | cons e r ih =>
    rw [insert, precedes, Key.text_string, plain, if_neg Bool.false_ne_true, ih]
    rfl

/-- Writing before a record is written is writing afterwards, unless the write is lost. -/
theorem writeAll_set {r g : Record α} (h : r.CaseUnique) (hg : g.CaseUnique)
    (free : ∀ e ∈ g, e.1 ≠ reservedName) (name : String) (v : α) (plain : index? name = none)
    (stored : firstNamed? name g ≠ none ∨ name ≠ reservedName) :
    r.writeAll (g.set name v) = (r.writeAll g).set name v := by
  by_cases absent : firstNamed? name g = none
  · have hr : name ≠ reservedName := stored.resolve_left fun c => c absent
    rw [set_of_not_mem g name v absent, if_neg hr, insert_of_index?_eq_none name v g plain,
      writeAll_concat]
  · rw [set_of_mem hg name v absent]
    exact writeAll_overwrite h hg free name v absent

/-! ## The merge -/

theorem set_congr {r : Record α} (h : r.CaseUnique) (a b : String) (v : α)
    (hn : lower a = lower b) (there : firstNamed? a r ≠ none) : r.set a v = r.set b v := by
  rw [set_of_mem h a v there, set_of_mem h b v (by rwa [← firstNamed?_congr _ _ hn]), overwrite,
    overwrite, hn]

/-- After a write to the reserved name, lost or not, only the next write to it counts. -/
theorem set_reserved_set {r : Record α} (h : r.CaseUnique) (name : String) (w v : α)
    (hn : lower name = lower reservedName) :
    (r.set reservedName w).set name v = r.set name v := by
  by_cases absent : firstNamed? reservedName r = none
  · rw [set_reserved r w absent]
  · rw [set_set h reservedName name w v hn.symm (.inl absent),
      set_congr h reservedName name v hn.symm absent]

theorem set_reserved_comm {r : Record α} (h : r.CaseUnique) (name : String) (w v : α)
    (hn : lower name ≠ lower reservedName) :
    (r.set reservedName w).set name v = (r.set name v).set reservedName w := by
  by_cases absent : firstNamed? reservedName r = none
  · have absent' : firstNamed? reservedName (r.set name v) = none := by
      rwa [firstNamed?_set h, if_neg hn]
    rw [set_reserved r w absent, set_reserved _ w absent']
  · exact (set_comm h reservedName name w v (fun c => hn c.symm) absent).symm

theorem storable_concat (name : String) (es : List (String × α)) (e : String × α) :
    storable name (es ++ [e]) =
      (storable name es || (Text.sameIgnoringCase e.1 name && e.1 != reservedName)) := by
  unfold storable
  rw [List.any_append, List.any_cons, List.any_nil, Bool.or_false]

/-- The empty record stores a name exactly when a write spells it so that it is stored. -/
theorem firstNamed?_writeAll_nil_eq_none_iff (name : String) (es : List (String × α)) :
    firstNamed? name (writeAll [] es) = none ↔ storable name es = false := by
  rw [firstNamed?_writeAll_nil, lastNamed?_storedWrites]
  cases hs : storable name es with
  | true => exact iff_of_false (lastNamed?_ne_none_of_storable name es hs) (nofun)
  | false => exact iff_of_true rfl rfl

/-- The write that a record of writes has lost. -/
def lostWrite? (es : List (String × α)) : Option α :=
  if storable reservedName es then none else lastNamed? reservedName es

/-- What was lost when the writes were collected is one write to the reserved name, which can be
made up for afterwards. -/
theorem writeAll_eq_set_lostWrite {r : Record α} (h : r.CaseUnique) (es : List (String × α))
    (plain : ∀ e ∈ es, index? e.1 = none) :
    r.writeAll es = match lostWrite? es with
      | some x => (r.writeAll (writeAll [] es)).set reservedName x
      | none => r.writeAll (writeAll [] es) := by
  induction es using List.reverseRecOn with
  | nil => rfl
  | append_singleton es e ih =>
    have hg := caseUnique_writeAll (caseUnique_nil (α := α)) es
    have free := ne_reserved_of_mem_writeAll (caseUnique_nil (α := α)) (nofun) es
    have hm := caseUnique_writeAll h (writeAll [] es)
    have push := writeAll_set h hg free e.1 e.2 (plain e (by simp))
    have ih := ih fun f hf => plain f (List.mem_append_left _ hf)
    rw [writeAll_concat, writeAll_concat, ih]
    unfold lostWrite?
    rw [storable_concat, lastNamed?_concat]
    by_cases hn : lower e.1 = lower reservedName
    · rw [if_pos hn, (Text.sameIgnoringCase_iff _ _).2 hn, Bool.true_and]
      by_cases hr : e.1 = reservedName
      · rw [hr, bne_self_eq_false, Bool.or_false]
        rw [hr] at push
        cases hs : storable reservedName es with
        | true =>
          have stored : firstNamed? reservedName (writeAll [] es) ≠ none := fun c => by
            rw [(firstNamed?_writeAll_nil_eq_none_iff _ _).1 c] at hs
            cases hs
          exact (push (.inl stored)).symm
        | false =>
          rw [set_reserved _ e.2 ((firstNamed?_writeAll_nil_eq_none_iff _ _).2 hs)]
          cases lastNamed? reservedName es with
          | none => rfl
          | some x => exact set_reserved_set hm reservedName x e.2 rfl
      · rw [bne_iff_ne.2 hr, Bool.or_true, push (.inr hr)]
        cases storable reservedName es with
        | true => rfl
        | false =>
          cases lastNamed? reservedName es with
          | none => rfl
          | some x => exact set_reserved_set hm e.1 x e.2 hn
    · have other : e.1 ≠ reservedName := fun c => hn (congrArg lower c)
      rw [if_neg hn, Bool.eq_false_iff.2 (mt (Text.sameIgnoringCase_iff _ _).1 hn),
        Bool.false_and, Bool.or_false, push (.inr other)]
      cases storable reservedName es with
      | true => rfl
      | false =>
        cases lastNamed? reservedName es with
        | none => rfl
        | some x => exact set_reserved_comm hm e.1 x e.2 hn

/-- Collecting writes first makes no difference, unless the write that gets lost would have changed
the value that the record has for the reserved name. -/
theorem writeAll_writeAll_iff {r : Record α} (h : r.CaseUnique) (es : List (String × α))
    (plain : ∀ e ∈ es, index? e.1 = none) :
    r.writeAll es = r.writeAll (writeAll [] es) ↔
      ∀ x y, lostWrite? es = some x → firstNamed? reservedName r = some y → x = y := by
  rw [writeAll_eq_set_lostWrite h es plain]
  cases hl : lostWrite? es with
  | none => exact iff_of_true rfl (nofun)
  | some x =>
    have lost : storable reservedName es = false := by
      unfold lostWrite? at hl
      split at hl
      · cases hl
      · next hs => exact Bool.eq_false_iff.2 hs
    have hm := caseUnique_writeAll h (writeAll [] es)
    -- the collected writes say nothing about the reserved name, so `r` answers as before
    have kept : firstNamed? reservedName (r.writeAll (writeAll [] es)) =
        firstNamed? reservedName r := by
      rw [firstNamed?_writeAll_of_free h _ (ne_reserved_of_mem_writeAll caseUnique_nil (nofun) es),
        lastNamed?_eq_firstNamed? (caseUnique_writeAll caseUnique_nil es),
        (firstNamed?_writeAll_nil_eq_none_iff _ _).2 lost, Option.none_or]
    cases hy : firstNamed? reservedName r with
    | none =>
      refine iff_of_true ?_ (nofun)
      exact set_reserved _ x (kept.trans hy)
    | some y =>
      constructor
      · intro eq x' y' hx' hy'
        obtain rfl := Option.some.inj hx'
        obtain rfl := Option.some.inj hy'
        have read := congrArg (firstNamed? reservedName) eq
        rw [firstNamed?_set hm, if_pos rfl, kept, hy] at read
        exact Option.some.inj read
      · intro same
        exact set_same hm reservedName x (by rw [kept, hy, same x y rfl rfl])

/-! ## Writes of distinct names -/

variable {es : List (String × α)} {e : String × α}

theorem caseUnique_concat_iff :
    CaseUnique (es ++ [e]) ↔ CaseUnique es ∧ ∀ f ∈ es, lower f.1 ≠ lower e.1 := by
  have perm := (((List.perm_append_singleton e es).map (·.1)).map lower).nodup_iff
  exact perm.trans ((caseUnique_cons_iff e es).trans and_comm)

theorem firstNamed?_writeAll_new (apart : ∀ f ∈ es, lower f.1 ≠ lower e.1) :
    firstNamed? e.1 (writeAll [] es) = none := by
  rw [firstNamed?_writeAll_nil_eq_none_iff, Bool.eq_false_iff]
  intro there
  obtain ⟨f, hf, same, -⟩ := (storable_iff _ _).1 there
  exact apart f hf same

/-- Writing a name that no entry before it has, ignoring case, adds it. -/
theorem writeAll_concat_new (apart : ∀ f ∈ es, lower f.1 ≠ lower e.1)
    (stored : e.1 ≠ reservedName) :
    writeAll [] (es ++ [e]) = (writeAll [] es).insert e.1 e.2 := by
  rw [writeAll_concat, set_of_not_mem _ _ _ (firstNamed?_writeAll_new apart), if_neg stored]

/-- Of names that are distinct ignoring case, writing ignoring case makes the record of them. -/
theorem writeAll_eq_ofList (unique : CaseUnique es) (stored : ∀ e ∈ es, e.1 ≠ reservedName) :
    writeAll [] es = ofList es := by
  induction es using List.reverseRecOn with
  | nil => rfl
  | append_singleton es e ih =>
    obtain ⟨others, apart⟩ := caseUnique_concat_iff.1 unique
    have stored_es := fun f hf => stored f (List.mem_append_left [e] hf)
    have stored_e := stored e (List.mem_append_right es (List.mem_singleton_self e))
    have absent : (writeAll [] es).has e.1 = false :=
      has_eq_false_of_firstNamed? _ _ (firstNamed?_writeAll_new apart)
    have put : ofList (es ++ [e]) = (ofList es).put e.1 e.2 := List.foldl_append
    rw [writeAll_concat_new apart stored_e, put, ← ih others stored_es, Record.put, absent,
      if_neg Bool.false_ne_true]

/-- Names that are no array indexes stay in the order in which they are written. -/
theorem writeAll_eq_self (unique : CaseUnique es) (stored : ∀ e ∈ es, e.1 ≠ reservedName)
    (plain : ∀ e ∈ es, index? e.1 = none) : writeAll [] es = es := by
  induction es using List.reverseRecOn with
  | nil => rfl
  | append_singleton es e ih =>
    obtain ⟨others, apart⟩ := caseUnique_concat_iff.1 unique
    have last := List.mem_append_right es (List.mem_singleton_self e)
    rw [writeAll_concat_new apart (stored e last),
      ih others (fun f hf => stored f (List.mem_append_left _ hf))
        (fun f hf => plain f (List.mem_append_left _ hf)),
      insert_of_index?_eq_none _ _ _ (plain e last)]

end HttpScript.Record
