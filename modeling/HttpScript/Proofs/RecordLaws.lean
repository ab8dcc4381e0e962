import HttpScript.Record
import Mathlib.Data.List.Nodup
import Mathlib.Data.List.Perm.Basic

/-!
# Laws of records that ignore case

Writing ignoring case keeps names apart, and what a record answers after writes is told by the
list of writes alone.

    (r.set n v).CaseUnique                                          (caseUnique_set)
    r.find? n = firstNamed? n r                                     (find?_eq_firstNamed?)
    firstNamed? n (writeAll r es) = (lastNamed? n es).or (firstNamed? n r)   (firstNamed?_writeAll)

The last law has one exception. The reserved name is not stored by an assignment, so writes spelled
that way count only where the record has another spelling of it.
-/

namespace HttpScript.Text

theorem sameIgnoringCase_iff (a b : String) : sameIgnoringCase a b = true ↔ lower a = lower b := by
  rw [sameIgnoringCase, beq_iff_eq]

end HttpScript.Text

namespace HttpScript.Record

open Text (lower sameIgnoringCase sameIgnoringCase_iff)

variable {α : Type}

/-! ## Entries by name -/

/-- The value of the first entry with this name, ignoring case. -/
def firstNamed? (name : String) (es : List (String × α)) : Option α :=
  (es.find? fun e => sameIgnoringCase e.1 name).map (·.2)

/-- The value of the last entry with this name, ignoring case. -/
def lastNamed? (name : String) (es : List (String × α)) : Option α := firstNamed? name es.reverse

/-- Whether an entry has this name in a spelling that an assignment stores. -/
def storable (name : String) (es : List (String × α)) : Bool :=
  es.any fun e => sameIgnoringCase e.1 name && e.1 != reservedName

/-- The record after writing the entries one after the other, ignoring case. -/
def writeAll (r : Record α) (es : List (String × α)) : Record α :=
  es.foldl (fun r e => r.set e.1 e.2) r

/-- The record after filling in the entries one after the other, where the name is not there. -/
def fillAll (r : Record α) (es : List (String × α)) : Record α :=
  es.foldl (fun r e => r.setIfAbsent e.1 e.2) r

/-- The first entry with this name, ignoring case. -/
def firstMatch? (name : String) (es : List (String × α)) : Option (String × α) :=
  es.find? fun e => sameIgnoringCase e.1 name

/-- The last entry with this name, ignoring case. -/
def lastMatch? (name : String) (es : List (String × α)) : Option (String × α) :=
  firstMatch? name es.reverse

theorem firstNamed?_eq_map (name : String) (es : List (String × α)) :
    firstNamed? name es = (firstMatch? name es).map (·.2) := rfl

theorem firstMatch?_cons (name : String) (e : String × α) (es : List (String × α)) :
    firstMatch? name (e :: es) =
      if lower e.1 = lower name then some e else firstMatch? name es := by
  unfold firstMatch?
  rw [List.find?_cons]
  by_cases h : lower e.1 = lower name
  · rw [if_pos h, (sameIgnoringCase_iff _ _).2 h]
  · rw [if_neg h, Bool.eq_false_iff.2 (mt (sameIgnoringCase_iff _ _).1 h)]

theorem lastNamed?_eq_map (name : String) (es : List (String × α)) :
    lastNamed? name es = (lastMatch? name es).map (·.2) := rfl

theorem lastMatch?_concat (name : String) (e : String × α) (es : List (String × α)) :
    lastMatch? name (es ++ [e]) =
      if lower e.1 = lower name then some e else lastMatch? name es := by
  unfold lastMatch?
  rw [List.reverse_append, List.reverse_singleton, List.singleton_append, firstMatch?_cons]

theorem lastMatch?_congr (a b : String) (h : lower a = lower b) (es : List (String × α)) :
    lastMatch? a es = lastMatch? b es := by
  unfold lastMatch? firstMatch? sameIgnoringCase
  rw [h]

theorem firstNamed?_cons (name : String) (e : String × α) (es : List (String × α)) :
    firstNamed? name (e :: es) =
      if lower e.1 = lower name then some e.2 else firstNamed? name es := by
  rw [firstNamed?_eq_map, firstMatch?_cons]
  split <;> rfl

theorem firstNamed?_append (name : String) (es fs : List (String × α)) :
    firstNamed? name (es ++ fs) = (firstNamed? name es).or (firstNamed? name fs) := by
  unfold firstNamed?
  rw [List.find?_append]
  cases es.find? fun e => sameIgnoringCase e.1 name <;> rfl

theorem firstNamed?_congr (a b : String) (h : lower a = lower b) (es : List (String × α)) :
    firstNamed? a es = firstNamed? b es := by
  unfold firstNamed? sameIgnoringCase
  rw [h]

theorem firstNamed?_eq_none_iff (name : String) (es : List (String × α)) :
    firstNamed? name es = none ↔ ∀ e ∈ es, lower e.1 ≠ lower name := by
  unfold firstNamed?
  rw [Option.map_eq_none_iff, List.find?_eq_none]
  exact forall₂_congr fun e _ => not_congr (sameIgnoringCase_iff _ _)

theorem lastNamed?_cons (name : String) (e : String × α) (es : List (String × α)) :
    lastNamed? name (e :: es) =
      (lastNamed? name es).or (if lower e.1 = lower name then some e.2 else none) := by
  unfold lastNamed?
  rw [List.reverse_cons, firstNamed?_append, firstNamed?_cons]
  rfl

theorem lastNamed?_append (name : String) (es fs : List (String × α)) :
    lastNamed? name (es ++ fs) = (lastNamed? name fs).or (lastNamed? name es) := by
  unfold lastNamed?
  rw [List.reverse_append, firstNamed?_append]

theorem lastNamed?_concat (name : String) (e : String × α) (es : List (String × α)) :
    lastNamed? name (es ++ [e]) =
      if lower e.1 = lower name then some e.2 else lastNamed? name es := by
  rw [lastNamed?_eq_map, lastMatch?_concat]
  split <;> rfl

theorem lastNamed?_eq_none_iff (name : String) (es : List (String × α)) :
    lastNamed? name es = none ↔ ∀ e ∈ es, lower e.1 ≠ lower name := by
  unfold lastNamed?
  rw [firstNamed?_eq_none_iff]
  simp only [List.mem_reverse]

theorem storable_iff (name : String) (es : List (String × α)) :
    storable name es = true ↔ ∃ e ∈ es, lower e.1 = lower name ∧ e.1 ≠ reservedName := by
  unfold storable
  rw [List.any_eq_true]
  simp only [Bool.and_eq_true, sameIgnoringCase_iff, bne_iff_ne]

theorem writeAll_append (r : Record α) (es fs : List (String × α)) :
    r.writeAll (es ++ fs) = (r.writeAll es).writeAll fs := List.foldl_append

theorem storable_congr (a b : String) (h : lower a = lower b) (es : List (String × α)) :
    storable a es = storable b es := by
  unfold storable sameIgnoringCase
  rw [h]

theorem lastNamed?_ne_none_of_storable (name : String) (es : List (String × α))
    (h : storable name es = true) : lastNamed? name es ≠ none := by
  obtain ⟨e, he, hn, -⟩ := (storable_iff name es).1 h
  exact fun absent => (lastNamed?_eq_none_iff _ _).1 absent e he hn

/-- A name that is no spelling of the reserved one is storable wherever it occurs. -/
theorem storable_eq_isSome_lastNamed? (name : String) (h : lower name ≠ lower reservedName)
    (es : List (String × α)) : storable name es = (lastNamed? name es).isSome := by
  rw [Bool.eq_iff_iff, Option.isSome_iff_ne_none]
  constructor
  · exact lastNamed?_ne_none_of_storable name es
  · rw [storable_iff, Ne, lastNamed?_eq_none_iff]
    intro some
    by_contra hs
    refine some fun e he hn => hs ⟨e, he, hn, ?_⟩
    rintro hr
    exact h (hn ▸ hr ▸ rfl)

/-! ## Reading -/

theorem caseUnique_cons_iff (e : String × α) (r : Record α) :
    CaseUnique (e :: r) ↔ (∀ f ∈ r, lower f.1 ≠ lower e.1) ∧ CaseUnique r := by
  unfold CaseUnique names
  rw [List.map_cons, List.map_cons, List.nodup_cons]
  refine and_congr_left fun _ => ?_
  constructor
  · intro h f hf heq
    exact h (List.mem_map.mpr ⟨f.1, List.mem_map_of_mem hf, heq⟩)
  · intro h hm
    obtain ⟨n, hn, heq⟩ := List.mem_map.mp hm
    obtain ⟨f, hf, rfl⟩ := List.mem_map.mp hn
    exact h f hf heq

theorem caseUnique_nil : CaseUnique ([] : Record α) := List.nodup_nil

/-- In a record without case variants, entries with one name ignoring case are one entry. -/
theorem eq_of_lower_eq {r : Record α} (h : r.CaseUnique) {e f : String × α} (he : e ∈ r)
    (hf : f ∈ r) (hn : lower e.1 = lower f.1) : e = f := by
  have inj : (r.map fun e => lower e.1).Nodup := by
    have := h
    rwa [CaseUnique, names, List.map_map] at this
  exact List.inj_on_of_nodup_map inj he hf hn

/-- In a record without case variants, the first entry with a name is the last one. -/
theorem lastNamed?_eq_firstNamed? {r : Record α} (h : r.CaseUnique) (name : String) :
    lastNamed? name r = firstNamed? name r := by
  induction r with
  | nil => rfl
  | cons e r ih =>
    obtain ⟨apart, h⟩ := (caseUnique_cons_iff e r).1 h
    rw [lastNamed?_cons, firstNamed?_cons, ih h]
    split
    · next hn =>
      have others : firstNamed? name r = none :=
        (firstNamed?_eq_none_iff _ _).2 fun f hf c => apart f hf (c.trans hn.symm)
      rw [others, Option.none_or]
    · exact Option.or_none

section Exact

variable {κ : Type} [DecidableEq κ]

theorem has_iff (r : Record α κ) (name : κ) : r.has name = true ↔ ∃ e ∈ r, e.1 = name := by
  unfold has
  rw [List.any_eq_true]
  simp only [beq_iff_eq]

theorem get?_cons (e : κ × α) (r : Record α κ) (name : κ) :
    get? (e :: r) name = if e.1 = name then some e.2 else r.get? name := by
  unfold get?
  rw [List.lookup_cons]
  by_cases h : e.1 = name
  · rw [if_pos h, beq_iff_eq.2 h.symm]
  · rw [if_neg h, beq_eq_false_iff_ne.2 fun c => h c.symm]

/-- No name stands twice in the same spelling. -/
def Distinct {κ : Type} (r : Record α κ) : Prop := r.names.Nodup

instance (r : Record α κ) : Decidable r.Distinct := inferInstanceAs (Decidable (List.Nodup _))

theorem Distinct.get?_of_mem {r : Record α κ} (distinct : r.Distinct) {e : κ × α} (he : e ∈ r) :
    r.get? e.1 = some e.2 := by
  induction r with
  | nil => cases he
  | cons f r ih =>
    obtain ⟨fresh, distinct⟩ := List.nodup_cons.1 distinct
    rw [get?_cons]
    rcases List.mem_cons.1 he with rfl | he
    · rw [if_pos rfl]
    · rw [if_neg fun same : f.1 = e.1 => fresh (List.mem_map.2 ⟨e, he, same.symm⟩),
        ih distinct he]

end Exact

theorem findName?_eq_none_iff (r : Record α) (name : String) :
    r.findName? name = none ↔ firstNamed? name r = none := by
  unfold findName?
  rw [firstNamed?_eq_none_iff]
  split
  · next h =>
    obtain ⟨e, he, hn⟩ := (has_iff r name).1 h
    exact iff_of_false (Option.some_ne_none _) fun c => c e he (congrArg lower hn)
  · rw [List.find?_eq_none]
    constructor
    · intro h e he hn
      exact h e.1 (List.mem_map_of_mem he) ((sameIgnoringCase_iff _ _).2 hn)
    · intro h n hn hs
      obtain ⟨e, he, rfl⟩ := List.mem_map.mp hn
      exact h e he ((sameIgnoringCase_iff _ _).1 hs)

theorem findName?_eq_some (r : Record α) (name key : String) (h : r.findName? name = some key) :
    ∃ e ∈ r, e.1 = key ∧ lower key = lower name := by
  unfold findName? at h
  split at h
  · next hh =>
    obtain ⟨e, he, hn⟩ := (has_iff r name).1 hh
    obtain rfl := Option.some.inj h
    exact ⟨e, he, hn, rfl⟩
  · obtain ⟨e, he, hn⟩ := List.mem_map.mp (List.mem_of_find?_eq_some h)
    have same := List.find?_some h
    exact ⟨e, he, hn, (sameIgnoringCase_iff _ _).1 same⟩

theorem CaseUnique.distinct {r : Record α} (unique : r.CaseUnique) : r.Distinct :=
  List.Nodup.of_map _ unique

/-- In a record without case variants, looking up finds the entry with the name. -/
theorem find?_eq_firstNamed? (r : Record α) (h : r.CaseUnique) (name : String) :
    r.find? name = firstNamed? name r := by
  unfold find?
  cases hk : r.findName? name with
  | none => rw [(findName?_eq_none_iff r name).1 hk]; rfl
  | some key =>
    obtain ⟨e, he, rfl, hn⟩ := findName?_eq_some r name key hk
    rw [Option.bind_some, h.distinct.get?_of_mem he]
    cases hf : List.find? (fun e => sameIgnoringCase e.1 name) r with
    | none =>
      exact absurd ((sameIgnoringCase_iff _ _).2 hn) (List.find?_eq_none.1 hf e he)
    | some f =>
      have same := List.find?_some hf
      have hfn : lower f.1 = lower name := (sameIgnoringCase_iff f.1 name).1 same
      have one : e = f := eq_of_lower_eq h he (List.mem_of_find?_eq_some hf) (hn.trans hfn.symm)
      rw [firstNamed?, hf, one, Option.map_some]

/-! ## Writing -/

/-- Every entry with this name, ignoring case, gets the value. -/
def overwrite (name : String) (value : α) (r : Record α) : Record α :=
  r.map fun e => if lower e.1 = lower name then (e.1, value) else e

theorem names_overwrite (name : String) (value : α) (r : Record α) :
    (r.overwrite name value).names = r.names := by
  unfold overwrite names
  rw [List.map_map]
  apply List.map_congr_left
  intro e _
  rw [Function.comp_apply]
  split <;> rfl

/-- Writing a name that is there gives its entry the value. -/
theorem set_of_mem {r : Record α} (h : r.CaseUnique) (name : String) (value : α)
    (present : firstNamed? name r ≠ none) : r.set name value = r.overwrite name value := by
  obtain ⟨key, hk⟩ : ∃ key, r.findName? name = some key := by
    cases hk : r.findName? name with
    | none => exact absurd ((findName?_eq_none_iff r name).1 hk) present
    | some key => exact ⟨key, rfl⟩
  obtain ⟨e, he, rfl, hn⟩ := findName?_eq_some r name key hk
  have there : r.has e.1 = true := (has_iff r e.1).2 ⟨e, he, rfl⟩
  rw [set, hk, Option.getD_some, assign, there, Bool.not_true, Bool.and_false, if_neg (nofun),
    put, if_pos there, replace, overwrite]
  apply List.map_congr_left
  intro f hf
  by_cases hc : lower f.1 = lower name
  · rw [if_pos hc, eq_of_lower_eq h hf he (hc.trans hn.symm), beq_self_eq_true, if_pos rfl]
  · have hne : f.1 ≠ e.1 := fun c => hc (by rw [c, hn])
    rw [if_neg hc, if_neg (by simpa using hne)]

theorem has_eq_false_of_firstNamed? (r : Record α) (name : String)
    (absent : firstNamed? name r = none) : r.has name = false := by
  rw [Bool.eq_false_iff]
  intro hh
  obtain ⟨e, he, rfl⟩ := (has_iff r name).1 hh
  exact (firstNamed?_eq_none_iff _ _).1 absent e he rfl

theorem assign_of_not_mem (r : Record α) (name : String) (value : α)
    (absent : firstNamed? name r = none) :
    r.assign name value = if name = reservedName then r else r.insert name value := by
  rw [assign, has_eq_false_of_firstNamed? r name absent, Bool.not_false, Bool.and_true, put,
    has_eq_false_of_firstNamed? r name absent]
  by_cases hr : name = reservedName
  · rw [if_pos hr, if_pos (beq_iff_eq.2 hr)]
  · rw [if_neg hr, if_neg (by simpa using hr), if_neg (nofun)]

/-- Writing a name that is not there adds it, unless it is the reserved one. -/
theorem set_of_not_mem (r : Record α) (name : String) (value : α)
    (absent : firstNamed? name r = none) :
    r.set name value = if name = reservedName then r else r.insert name value := by
  rw [set, (findName?_eq_none_iff r name).2 absent, Option.getD_none,
    assign_of_not_mem r name value absent]

theorem setIfAbsent_of_not_mem (r : Record α) (name : String) (value : α)
    (absent : firstNamed? name r = none) :
    r.setIfAbsent name value = if name = reservedName then r else r.insert name value := by
  rw [setIfAbsent, (findName?_eq_none_iff r name).2 absent,
    assign_of_not_mem r name value absent]
  rfl

theorem setIfAbsent_of_mem (r : Record α) (name : String) (value : α)
    (present : firstNamed? name r ≠ none) : r.setIfAbsent name value = r := by
  rw [setIfAbsent, if_pos]
  rw [Option.isSome_iff_ne_none]
  exact mt (findName?_eq_none_iff r name).1 present

/-! ## Names stay apart -/

theorem perm_insert {κ : Type} [DecidableEq κ] [Key κ] (name : κ) (value : α) (r : Record α κ) :
    (r.insert name value).Perm ((name, value) :: r) := by
  induction r with
  | nil => exact List.Perm.refl _
  | cons e r ih =>
    rw [insert]
    split
    · exact List.Perm.refl _
    · exact (ih.cons e).trans (List.Perm.swap _ _ _)

theorem caseUnique_insert {r : Record α} (h : r.CaseUnique) (name : String) (value : α)
    (absent : firstNamed? name r = none) : (r.insert name value).CaseUnique := by
  have perm := ((perm_insert name value r).map (·.1)).map lower
  exact perm.nodup_iff.2
    ((caseUnique_cons_iff _ r).2 ⟨(firstNamed?_eq_none_iff _ _).1 absent, h⟩)

theorem caseUnique_overwrite {r : Record α} (h : r.CaseUnique) (name : String) (value : α) :
    (r.overwrite name value).CaseUnique := by
  rw [CaseUnique, names_overwrite]
  exact h

/-- Writing keeps names apart. -/
theorem caseUnique_set {r : Record α} (h : r.CaseUnique) (name : String) (value : α) :
    (r.set name value).CaseUnique := by
  by_cases absent : firstNamed? name r = none
  · rw [set_of_not_mem r name value absent]
    split
    · exact h
    · exact caseUnique_insert h name value absent
  · rw [set_of_mem h name value absent]
    exact caseUnique_overwrite h name value

theorem caseUnique_setIfAbsent {r : Record α} (h : r.CaseUnique) (name : String) (value : α) :
    (r.setIfAbsent name value).CaseUnique := by
  by_cases absent : firstNamed? name r = none
  · rw [setIfAbsent_of_not_mem r name value absent]
    split
    · exact h
    · exact caseUnique_insert h name value absent
  · rw [setIfAbsent_of_mem r name value absent]
    exact h

theorem caseUnique_writeAll {r : Record α} (h : r.CaseUnique) (es : List (String × α)) :
    (r.writeAll es).CaseUnique := by
  induction es generalizing r with
  | nil => exact h
  | cons e es ih => exact ih (caseUnique_set h e.1 e.2)

theorem caseUnique_fillAll {r : Record α} (h : r.CaseUnique) (es : List (String × α)) :
    (r.fillAll es).CaseUnique := by
  induction es generalizing r with
  | nil => exact h
  | cons e es ih => exact ih (caseUnique_setIfAbsent h e.1 e.2)

/-! ## What is stored -/

/-- The writes that an empty record stores: those to the reserved name count only if another
spelling of it is among them. -/
def storedWrites (es : List (String × α)) : List (String × α) :=
  if storable reservedName es then es else es.filter (·.1 != reservedName)

/-- The entries that are stored where they fill in. -/
def storedFills (es : List (String × α)) : List (String × α) := es.filter (·.1 != reservedName)

theorem firstMatch?_storedFills_cons (name : String) (e : String × α) (es : List (String × α)) :
    firstMatch? name (storedFills (e :: es)) =
      if lower e.1 = lower name ∧ e.1 ≠ reservedName then some e
      else firstMatch? name (storedFills es) := by
  unfold storedFills
  by_cases hr : e.1 = reservedName
  · rw [if_neg fun c => c.2 hr, List.filter_cons_of_neg (by simpa using hr)]
  · rw [List.filter_cons_of_pos (by simpa using hr), firstMatch?_cons]
    by_cases hn : lower e.1 = lower name
    · rw [if_pos hn, if_pos ⟨hn, hr⟩]
    · rw [if_neg hn, if_neg fun c => hn c.1]

theorem firstNamed?_storedFills_cons (name : String) (e : String × α) (es : List (String × α)) :
    firstNamed? name (storedFills (e :: es)) =
      if lower e.1 = lower name ∧ e.1 ≠ reservedName then some e.2
      else firstNamed? name (storedFills es) := by
  rw [firstNamed?_eq_map, firstMatch?_storedFills_cons]
  split <;> rfl

theorem firstNamed?_storedFills (name : String) (h : lower name ≠ lower reservedName)
    (es : List (String × α)) : firstNamed? name (storedFills es) = firstNamed? name es := by
  induction es with
  | nil => rfl
  | cons e es ih =>
    rw [firstNamed?_storedFills_cons, firstNamed?_cons, ih]
    by_cases hn : lower e.1 = lower name
    · have free : e.1 ≠ reservedName := by
        intro hr
        rw [← hn, hr] at h
        exact h rfl
      rw [if_pos ⟨hn, free⟩, if_pos hn]
    · rw [if_neg fun c => hn c.1, if_neg hn]

theorem storedFills_of_free (es : List (String × α)) (free : ∀ e ∈ es, e.1 ≠ reservedName) :
    storedFills es = es :=
  List.filter_eq_self.2 fun e he => bne_iff_ne.2 (free e he)

theorem lastNamed?_storedWrites (name : String) (es : List (String × α)) :
    lastNamed? name (storedWrites es) =
      if storable name es = true then lastNamed? name es else none := by
  unfold storedWrites
  by_cases hn : lower name = lower reservedName
  · rw [storable_congr name reservedName hn]
    split
    · rfl
    · next unstorable =>
      rw [lastNamed?_eq_none_iff]
      intro e he c
      obtain ⟨he, hr⟩ := List.mem_filter.1 he
      exact unstorable ((storable_iff _ _).2 ⟨e, he, c.trans hn, bne_iff_ne.1 hr⟩)
  · have all : lastNamed? name (es.filter (·.1 != reservedName)) = lastNamed? name es := by
      unfold lastNamed?
      rw [← List.filter_reverse]
      exact firstNamed?_storedFills name hn es.reverse
    have whole : lastNamed? name
        (if storable reservedName es = true then es else es.filter (·.1 != reservedName)) =
        lastNamed? name es := by
      split
      · rfl
      · exact all
    rw [whole, storable_eq_isSome_lastNamed? name hn]
    cases lastNamed? name es <;> rfl

theorem ne_reserved_of_mem_assign (r : Record α) (free : ∀ e ∈ r, e.1 ≠ reservedName)
    (name : String) (v : α) : ∀ e ∈ r.assign name v, e.1 ≠ reservedName := by
  unfold assign
  split
  · exact free
  · next stored =>
    unfold put
    split
    · intro e he
      obtain ⟨f, hf, rfl⟩ := List.mem_map.mp he
      split <;> exact free f hf
    · next new =>
      intro e he
      rcases List.mem_cons.mp ((perm_insert name v r).mem_iff.1 he) with rfl | he
      · rintro (rfl : name = reservedName)
        exact stored (by rw [Bool.eq_false_iff.2 new]; rfl)
      · exact free e he

/-! ## Reading after writing -/

theorem firstMatch?_insert (name other : String) (value : α) (r : Record α)
    (absent : firstNamed? name r = none) :
    firstMatch? other (r.insert name value) =
      if lower name = lower other then some (name, value) else firstMatch? other r := by
  induction r with
  | nil => rw [insert, firstMatch?_cons]
  | cons e r ih =>
    rw [firstNamed?_cons] at absent
    have hne : lower e.1 ≠ lower name := by
      intro c
      rw [if_pos c] at absent
      cases absent
    rw [if_neg hne] at absent
    rw [insert]
    split
    · rw [firstMatch?_cons]
    · rw [firstMatch?_cons, firstMatch?_cons, ih absent]
      by_cases hn : lower name = lower other
      · rw [if_pos hn, if_pos hn, if_neg fun c => hne (c.trans hn.symm)]
      · rw [if_neg hn, if_neg hn]

theorem firstNamed?_insert (name other : String) (value : α) (r : Record α)
    (absent : firstNamed? name r = none) :
    firstNamed? other (r.insert name value) =
      if lower name = lower other then some value else firstNamed? other r := by
  rw [firstNamed?_eq_map, firstMatch?_insert name other value r absent]
  split <;> rfl

theorem firstMatch?_overwrite (name other : String) (value : α) (r : Record α) :
    firstMatch? other (r.overwrite name value) =
      if lower name = lower other then (firstMatch? other r).map fun e => (e.1, value)
      else firstMatch? other r := by
  induction r with
  | nil => rw [overwrite, List.map_nil]; split <;> rfl
  | cons e r ih =>
    rw [overwrite, List.map_cons, ← overwrite, firstMatch?_cons, firstMatch?_cons, ih]
    by_cases he : lower e.1 = lower name
    · rw [if_pos he]
      by_cases hn : lower name = lower other
      · rw [if_pos (he.trans hn), if_pos (he.trans hn), if_pos hn, Option.map_some]
      · rw [if_neg fun c => hn (he.symm.trans c), if_neg fun c => hn (he.symm.trans c)]
    · rw [if_neg he]
      by_cases ho : lower e.1 = lower other
      · rw [if_pos ho, if_pos ho, if_neg fun c => he (ho.trans c.symm)]
      · rw [if_neg ho, if_neg ho]

theorem firstNamed?_overwrite (name other : String) (value : α) (r : Record α) :
    firstNamed? other (r.overwrite name value) =
      if lower name = lower other then (firstNamed? other r).map fun _ => value
      else firstNamed? other r := by
  rw [firstNamed?_eq_map, firstNamed?_eq_map, firstMatch?_overwrite]
  split
  · rw [Option.map_map, Option.map_map]
    rfl
  · rfl

/-- What a record answers after a write. -/
theorem firstNamed?_set {r : Record α} (h : r.CaseUnique) (name other : String) (value : α) :
    firstNamed? other (r.set name value) =
      if lower name = lower other then
        (if firstNamed? other r = none ∧ name = reservedName then none else some value)
      else firstNamed? other r := by
  by_cases hn : lower name = lower other
  · rw [if_pos hn]
    by_cases absent : firstNamed? name r = none
    · rw [set_of_not_mem r name value absent]
      have absent' : firstNamed? other r = none := by rw [← firstNamed?_congr _ _ hn, absent]
      by_cases hr : name = reservedName
      · rw [if_pos hr, if_pos ⟨absent', hr⟩, absent']
      · rw [if_neg hr, firstNamed?_insert _ _ _ _ absent, if_pos hn, if_neg fun c => hr c.2]
    · rw [set_of_mem h name value absent, firstNamed?_overwrite, if_pos hn]
      rw [firstNamed?_congr _ _ hn] at absent
      rw [if_neg fun c => absent c.1]
      obtain ⟨v, hv⟩ := Option.ne_none_iff_exists'.mp absent
      rw [hv, Option.map_some]
  · rw [if_neg hn]
    by_cases absent : firstNamed? name r = none
    · rw [set_of_not_mem r name value absent]
      split
      · rfl
      · rw [firstNamed?_insert _ _ _ _ absent, if_neg hn]
    · rw [set_of_mem h name value absent, firstNamed?_overwrite, if_neg hn]

theorem firstNamed?_setIfAbsent (r : Record α) (name other : String) (value : α) :
    firstNamed? other (r.setIfAbsent name value) = (firstNamed? other r).or
      (if lower name = lower other ∧ name ≠ reservedName then some value else none) := by
  by_cases absent : firstNamed? name r = none
  · rw [setIfAbsent_of_not_mem r name value absent]
    by_cases hr : name = reservedName
    · rw [if_pos hr, if_neg fun c => c.2 hr, Option.or_none]
    · rw [if_neg hr, firstNamed?_insert _ _ _ _ absent]
      by_cases hn : lower name = lower other
      · rw [if_pos hn, if_pos ⟨hn, hr⟩, ← firstNamed?_congr _ _ hn, absent, Option.none_or]
      · rw [if_neg hn, if_neg fun c => hn c.1, Option.or_none]
  · rw [setIfAbsent_of_mem r name value absent]
    by_cases hn : lower name = lower other
    · obtain ⟨v, hv⟩ := Option.ne_none_iff_exists'.mp absent
      rw [← firstNamed?_congr _ _ hn, hv, Option.some_or]
    · rw [if_neg fun c => hn c.1, Option.or_none]

/-- Of writes, the last one with a name counts, provided that the record has the name already or
one of the writes spells it so that it is stored. -/
theorem firstNamed?_writeAll {r : Record α} (h : r.CaseUnique) (es : List (String × α))
    (name : String) :
    firstNamed? name (r.writeAll es) =
      if firstNamed? name r = none ∧ storable name es = false then none
      else (lastNamed? name es).or (firstNamed? name r) := by
  induction es generalizing r with
  | nil =>
    show firstNamed? name r = _
    split
    · next c => exact c.1
    · rfl
  | cons e es ih =>
    show firstNamed? name ((r.set e.1 e.2).writeAll es) = _
    rw [ih (caseUnique_set h e.1 e.2), lastNamed?_cons, firstNamed?_set h]
    have head : storable name (e :: es) =
        ((sameIgnoringCase e.1 name && e.1 != reservedName) || storable name es) := rfl
    by_cases hn : lower e.1 = lower name
    · rw [head, (sameIgnoringCase_iff _ _).2 hn, Bool.true_and, if_pos hn, if_pos hn]
      by_cases lost : firstNamed? name r = none ∧ e.1 = reservedName
      · -- the write is dropped, so a later one has to store the name
        rw [if_pos lost, lost.1, lost.2, bne_self_eq_false, Bool.false_or]
        cases hs : storable name es with
        | false => rfl
        | true =>
          have later := lastNamed?_ne_none_of_storable name es hs
          obtain ⟨v, hv⟩ := Option.ne_none_iff_exists'.mp later
          rw [hv]
          rfl
      · rw [if_neg lost, if_neg (by simp)]
        rw [if_neg, Option.or_assoc, Option.some_or]
        rintro ⟨c, hc⟩
        rw [Bool.or_eq_false_iff, bne_eq_false_iff_eq] at hc
        exact lost ⟨c, hc.1⟩
    · have other : sameIgnoringCase e.1 name = false :=
        Bool.eq_false_iff.2 (mt (sameIgnoringCase_iff _ _).1 hn)
      rw [head, other, Bool.false_and, Bool.false_or, if_neg hn, if_neg hn, Option.or_none]

/-- Writes that all are stored need no proviso. -/
theorem firstNamed?_writeAll_of_free {r : Record α} (h : r.CaseUnique)
    (es : List (String × α)) (free : ∀ e ∈ es, e.1 ≠ reservedName) (name : String) :
    firstNamed? name (r.writeAll es) = (lastNamed? name es).or (firstNamed? name r) := by
  rw [firstNamed?_writeAll h]
  split
  · next c =>
    have unwritten : lastNamed? name es = none := by
      rw [lastNamed?_eq_none_iff]
      intro e he hn
      have stored := (storable_iff name es).2 ⟨e, he, hn, free e he⟩
      rw [c.2] at stored
      cases stored
    rw [unwritten, c.1]
    rfl
  · rfl

/-- What the empty record stores of writes. -/
theorem firstNamed?_writeAll_nil (es : List (String × α)) (name : String) :
    firstNamed? name (writeAll [] es) = lastNamed? name (storedWrites es) := by
  rw [firstNamed?_writeAll caseUnique_nil, lastNamed?_storedWrites]
  show (if (none : Option α) = none ∧ storable name es = false then none
    else (lastNamed? name es).or none) = _
  cases storable name es with
  | true => rw [if_neg (nofun), if_pos rfl, Option.or_none]
  | false => rw [if_pos ⟨rfl, rfl⟩, if_neg Bool.false_ne_true]

/-- Filling in takes the first entry with a name, where the record has none and the entry spells
it so that it is stored. -/
theorem firstNamed?_fillAll (r : Record α) (es : List (String × α)) (name : String) :
    firstNamed? name (r.fillAll es) =
      (firstNamed? name r).or (firstNamed? name (storedFills es)) := by
  induction es generalizing r with
  | nil => exact Option.or_none.symm
  | cons e es ih =>
    show firstNamed? name ((r.setIfAbsent e.1 e.2).fillAll es) = _
    rw [ih, firstNamed?_setIfAbsent, Option.or_assoc, firstNamed?_storedFills_cons]
    congr 1
    split <;> rfl

end HttpScript.Record
