import HttpScript.Proofs.RecordLaws

/-!
# Entries of records

A record may hold a name in several spellings, each of them once. What it has under a name ignoring
case is the list of the entries with that name, in order: a look-up reads no others.

    (r.put n v).get? m = if n = m then some v else r.get? m                            (get?_put)
    (r.named n).find? n = r.find? n                                                  (find?_named)
-/

namespace HttpScript.Record

open Text (lower sameIgnoringCase sameIgnoringCase_iff)

variable {α : Type}

/-! ## Exact names -/

section Exact

variable {κ : Type} [DecidableEq κ]

/-- The value of the last entry with exactly this name. -/
def lastWritten? (name : κ) (es : List (κ × α)) : Option α := es.reverse.lookup name

theorem lastWritten?_cons (name : κ) (e : κ × α) (es : List (κ × α)) :
    lastWritten? name (e :: es) =
      (lastWritten? name es).or (if e.1 = name then some e.2 else none) := by
  unfold lastWritten?
  rw [List.reverse_cons, List.lookup_append, List.lookup_cons, List.lookup_nil]
  by_cases h : e.1 = name
  · simp [h]
  · rw [if_neg h, beq_eq_false_iff_ne.2 (Ne.symm h)]

theorem mem_of_get? {r : Record α κ} {name : κ} {v : α} (held : r.get? name = some v) :
    (name, v) ∈ r := by
  obtain ⟨before, after, rfl, -⟩ := List.lookup_eq_some_iff.1 held
  simp

theorem mem_of_lastWritten? {es : List (κ × α)} {name : κ} {v : α}
    (last : lastWritten? name es = some v) : (name, v) ∈ es :=
  List.mem_reverse.1 (mem_of_get? last)

/-- Where no name stands twice, the last entry with a name is the first one. -/
theorem lastWritten?_eq_get? {r : Record α κ} (distinct : r.Distinct) (name : κ) :
    lastWritten? name r = r.get? name := by
  have reversed : Distinct r.reverse := by
    unfold Distinct names
    rw [List.map_reverse, List.nodup_reverse]
    exact distinct
  cases held : r.get? name with
  | some v => exact reversed.get?_of_mem (List.mem_reverse.2 (mem_of_get? held))
  | none =>
    unfold get? at held
    unfold lastWritten?
    rw [List.lookup_eq_none_iff] at held ⊢
    exact fun e he => held e (List.mem_reverse.1 he)

theorem has_eq_false_iff_get? (r : Record α κ) (n : κ) : r.has n = false ↔ r.get? n = none := by
  rw [Bool.eq_false_iff, Ne, has_iff, get?, List.lookup_eq_none_iff]
  constructor
  · intro h e he
    rw [bne_iff_ne]
    rintro rfl
    exact h ⟨e, he, rfl⟩
  · rintro h ⟨e, he, rfl⟩
    simpa using h e he

theorem replace_cons (name : κ) (value : α) (e : κ × α) (r : Record α κ) :
    replace name value (e :: r) =
      (if e.1 = name then (e.1, value) else e) :: replace name value r := by
  simp [replace]

theorem get?_replace (r : Record α κ) (n : κ) (v : α) (m : κ) :
    (r.replace n v).get? m = (r.get? m).map fun old => if n = m then v else old := by
  induction r with
  | nil => rfl
  | cons e r ih =>
    rw [replace_cons, get?_cons, get?_cons, ih]
    by_cases hn : e.1 = n
    · subst hn
      by_cases hm : e.1 = m <;> simp [hm]
    · by_cases hm : e.1 = m
      · subst hm
        simp [hn, Ne.symm hn]
      · simp [hn, hm]

theorem names_replace (name : κ) (value : α) (r : Record α κ) :
    (r.replace name value).names = r.names := by
  unfold replace names
  rw [List.map_map]
  refine List.map_congr_left fun e _ => ?_
  rw [Function.comp_apply]
  split <;> rfl

variable [Key κ]

theorem get?_insert (r : Record α κ) (n : κ) (v : α) (absent : r.has n = false) (m : κ) :
    (r.insert n v).get? m = if n = m then some v else r.get? m := by
  induction r with
  | nil => rw [insert, get?_cons]
  | cons e r ih =>
    obtain ⟨other, absent⟩ : (e.1 == n) = false ∧ has r n = false := by
      simpa [has] using absent
    rw [insert]
    split
    · rw [get?_cons]
    · rw [get?_cons, ih absent, get?_cons]
      by_cases hm : e.1 = m
      · subst hm
        have : n ≠ e.1 := by
          rintro rfl
          simp at other
        simp [this]
      · simp [hm]

theorem get?_put (r : Record α κ) (n : κ) (v : α) (m : κ) :
    (r.put n v).get? m = if n = m then some v else r.get? m := by
  unfold put
  cases hn : r.has n with
  | false => exact get?_insert r n v hn m
  | true =>
    rw [if_pos rfl, get?_replace]
    by_cases hm : n = m
    · subst hm
      cases there : r.get? n with
      | none => simp [(has_eq_false_iff_get? r n).2 there] at hn
      | some old => simp
    · simp [hm]

/-- Of entries written one after the other, the last one with a name counts. -/
theorem get?_ofList (es : List (κ × α)) (m : κ) :
    (ofList es).get? m = lastWritten? m es := by
  have onto : ∀ r : Record α κ, get? (es.foldl (fun r e => r.put e.1 e.2) r) m =
      (lastWritten? m es).or (r.get? m) := by
    induction es with
    | nil => simp [lastWritten?]
    | cons e es ih =>
      intro r
      rw [List.foldl_cons, ih, lastWritten?_cons, Option.or_assoc, get?_put]
      congr 1
      split <;> rfl
  simpa [ofList, get?] using onto []

theorem names_put (r : Record α κ) (name : κ) (value : α) :
    (r.put name value).names = r.names ∨
      (r.put name value).names.Perm (name :: r.names) ∧ name ∉ r.names := by
  unfold put
  split
  · exact .inl (names_replace name value r)
  · next new =>
    refine .inr ⟨(perm_insert name value r).map Prod.fst, fun there => new ?_⟩
    obtain ⟨e, he, hn⟩ := List.mem_map.1 there
    exact (has_iff r name).2 ⟨e, he, hn⟩

theorem distinct_put {r : Record α κ} (h : r.Distinct) (name : κ) (value : α) :
    (r.put name value).Distinct := by
  unfold Distinct
  rcases names_put r name value with same | ⟨added, new⟩
  · rw [same]
    exact h
  · exact added.nodup_iff.2 (List.nodup_cons.2 ⟨new, h⟩)

/-- Entries that are written one after the other leave one entry of each name. -/
theorem distinct_ofList (es : List (κ × α)) : (ofList es).Distinct := by
  have onto : ∀ r : Record α κ, r.Distinct → Distinct (es.foldl (fun r e => r.put e.1 e.2) r) := by
    induction es with
    | nil => exact fun r h => h
    | cons e es ih => exact fun r h => ih _ (distinct_put h e.1 e.2)
  exact onto [] List.nodup_nil

end Exact

/-! ## Entries of one name -/

/-- The entries with a name, ignoring case. -/
def named (name : String) (r : Record α) : Record α := r.filter fun e => sameIgnoringCase e.1 name

theorem mem_named_iff {name : String} {r : Record α} {e : String × α} :
    e ∈ r.named name ↔ e ∈ r ∧ lower e.1 = lower name := by
  rw [named, List.mem_filter, sameIgnoringCase_iff]

theorem named_cons (name : String) (e : String × α) (r : Record α) :
    named name (e :: r) = if lower e.1 = lower name then e :: named name r else named name r := by
  unfold named
  rw [List.filter_cons]
  exact if_congr (sameIgnoringCase_iff _ _) rfl rfl

theorem named_congr {a b : String} (h : lower a = lower b) (r : Record α) :
    r.named a = r.named b := by
  unfold named sameIgnoringCase
  rw [h]

theorem named_erase_of_ne {key name : String} (hne : lower key ≠ lower name) (r : Record α) :
    (r.erase key).named name = r.named name := by
  unfold named erase
  rw [List.filter_filter]
  apply List.filter_congr
  intro e _
  by_cases h : sameIgnoringCase e.1 name = true
  · have other : e.1 ≠ key := fun c => hne (c ▸ (sameIgnoringCase_iff _ _).1 h)
    rw [h, bne_iff_ne.2 other]
    rfl
  · rw [Bool.eq_false_iff.2 h]
    rfl

/-- Of the entries with a name one goes when its spelling is erased. -/
theorem length_named_erase {r : Record α} (h : r.Distinct) {e : String × α} (he : e ∈ r)
    {name : String} (hn : lower e.1 = lower name) :
    ((r.erase e.1).named name).length = (r.named name).length - 1 := by
  induction r with
  | nil => cases he
  | cons f r ih =>
    obtain ⟨fresh, h⟩ := List.nodup_cons.1 h
    by_cases hf : f.1 = e.1
    · have gone : erase (f :: r) e.1 = r := by
        rw [erase, List.filter_cons_of_neg (by simpa using hf), List.filter_eq_self]
        intro g hg
        refine bne_iff_ne.2 fun c => fresh ?_
        exact List.mem_map.2 ⟨g, hg, c.trans hf.symm⟩
      rw [gone, named_cons, if_pos (hf ▸ hn)]
      rfl
    · have he : e ∈ r := (List.mem_cons.1 he).resolve_left fun c => hf (c ▸ rfl)
      have kept : erase (f :: r) e.1 = f :: erase r e.1 :=
        List.filter_cons_of_pos (bne_iff_ne.2 hf)
      have pos : 0 < (named name r).length := List.length_pos_of_mem (mem_named_iff.2 ⟨he, hn⟩)
      rw [kept, named_cons, named_cons]
      split
      · rw [List.length_cons, List.length_cons, ih h he]
        omega
      · exact ih h he

theorem named_append (name : String) (r s : Record α) :
    named name (r ++ s) = named name r ++ named name s := List.filter_append r s

/-! ## Looking up -/

theorem find?_names (name : String) (r : Record α) :
    r.names.find? (sameIgnoringCase · name) = (firstMatch? name r).map (·.1) := by
  unfold names firstMatch?
  rw [List.find?_map]
  rfl

/-- The first of the entries with a name is the first one in its spelling. -/
theorem get?_of_firstMatch? {name : String} {r : Record α} {e : String × α}
    (first : firstMatch? name r = some e) : r.get? e.1 = some e.2 := by
  induction r with
  | nil => cases first
  | cons f r ih =>
    rw [firstMatch?_cons] at first
    rw [get?_cons]
    by_cases hf : lower f.1 = lower name
    · rw [if_pos hf] at first
      obtain rfl := Option.some.inj first
      rw [if_pos rfl]
    · rw [if_neg hf] at first
      have same := List.find?_some first
      have he : lower e.1 = lower name := (sameIgnoringCase_iff e.1 name).1 same
      rw [if_neg fun c : f.1 = e.1 => hf (c ▸ he), ih first]

/-- A look-up ignoring case takes the exact spelling, or else the first entry with the name. -/
theorem find?_eq_or (r : Record α) (name : String) :
    r.find? name = (r.get? name).or (firstNamed? name r) := by
  unfold find? findName?
  cases there : r.has name with
  | true =>
    have some_value : r.get? name ≠ none := by
      rw [Ne, ← has_eq_false_iff_get?, there]
      exact Bool.false_ne_true ∘ Eq.symm
    obtain ⟨v, hv⟩ := Option.ne_none_iff_exists'.1 some_value
    rw [if_pos rfl, Option.bind_some, hv, Option.some_or]
  | false =>
    rw [if_neg Bool.false_ne_true, (has_eq_false_iff_get? r name).1 there, Option.none_or,
      find?_names, firstNamed?_eq_map]
    cases first : firstMatch? name r with
    | none => rfl
    | some e => exact get?_of_firstMatch? first

theorem get?_named (name : String) (r : Record α) : (r.named name).get? name = r.get? name := by
  induction r with
  | nil => rfl
  | cons e r ih =>
    rw [named_cons, get?_cons]
    split
    · rw [get?_cons, ih]
    · next other => rw [ih, if_neg fun c => other (congrArg lower c)]

theorem firstNamed?_named (name : String) (r : Record α) :
    firstNamed? name (r.named name) = firstNamed? name r := by
  unfold firstNamed? named
  rw [List.find?_filter]
  simp only [and_self, Bool.decide_eq_true]

/-- A look-up reads no entries but those with the name. -/
theorem find?_named (name : String) (r : Record α) : (r.named name).find? name = r.find? name := by
  rw [find?_eq_or, find?_eq_or, get?_named, firstNamed?_named]

theorem named_eq_nil_iff (name : String) (r : Record α) :
    r.named name = [] ↔ firstNamed? name r = none := by
  rw [firstNamed?_eq_none_iff, named, List.filter_eq_nil_iff]
  exact forall₂_congr fun e _ => not_congr (sameIgnoringCase_iff _ _)

/-! ## Names after assigning -/

theorem names_assign (r : Record α) (name : String) (value : α) :
    (r.assign name value).names = r.names ∨
      (r.assign name value).names.Perm (name :: r.names) ∧ name ∉ r.names := by
  unfold assign
  split
  · exact .inl rfl
  · exact names_put r name value

theorem distinct_assign {r : Record α} (h : r.Distinct) (name : String) (value : α) :
    (r.assign name value).Distinct := by
  unfold assign
  split
  · exact h
  · exact distinct_put h name value

theorem mem_names_assign {r : Record α} {name key : String} {value : α}
    (h : key ∈ (r.assign name value).names) : key = name ∨ key ∈ r.names := by
  rcases names_assign r name value with same | ⟨added, -⟩
  · exact .inr (same ▸ h)
  · exact List.mem_cons.1 (added.mem_iff.1 h)

end HttpScript.Record
