import HttpScript.Proofs.RecordMerge

/-!
# Writing into a record

Where no two names are equal ignoring case, a record is a map whose keys are names up to case. A
write changes the answer for one name and keeps the spelling and the order of the names that are
there.

    (r.set n v).find? m = if lower n = lower m then some v else r.find? m             (find?_set)
    (r.set n v).names = r.names                      when the name is there   (names_set_of_mem)
    (r.set m v).set n w ~ (r.set n w).set m v        when the names differ       (set_set_perm)
    (r.set m v).set n w = r.set m w                  when they are the same           (set_set)

The reserved name is left out: it is stored only over another spelling of it.
-/

namespace HttpScript.Record

open Text (lower)

variable {α : Type} {r : Record α}

/-! ## One write -/

theorem firstNamed?_ne_none_iff {name : String} :
    firstNamed? name r ≠ none ↔ ∃ key ∈ r.names, lower key = lower name := by
  rw [Ne, firstNamed?_eq_none_iff]
  push Not
  constructor
  · rintro ⟨e, he, same⟩
    exact ⟨e.1, List.mem_map_of_mem he, same⟩
  · rintro ⟨key, hk, same⟩
    obtain ⟨e, he, rfl⟩ := List.mem_map.1 hk
    exact ⟨e, he, same⟩

/-- What a record answers after a write. -/
theorem find?_set (unique : r.CaseUnique) {name : String} (stored : name ≠ reservedName)
    (value : α) (other : String) :
    (r.set name value).find? other =
      if lower name = lower other then some value else r.find? other := by
  have kept : ¬ (firstNamed? other r = none ∧ name = reservedName) := fun lost => stored lost.2
  rw [find?_eq_firstNamed? _ (caseUnique_set unique name value), firstNamed?_set unique,
    find?_eq_firstNamed? _ unique, if_neg kept]

/-- A write to a name that is there keeps all names, in spelling and order. -/
theorem names_set_of_mem (unique : r.CaseUnique) {name : String}
    (there : firstNamed? name r ≠ none) (value : α) : (r.set name value).names = r.names := by
  rw [set_of_mem unique name value there, names_overwrite]

theorem exists_insert (name : String) (value : α) (r : Record α) :
    ∃ before after, r = before ++ after ∧
      r.insert name value = before ++ (name, value) :: after := by
  induction r with
  | nil => exact ⟨[], [], rfl, rfl⟩
  | cons e r ih =>
    rw [insert]
    split
    · exact ⟨[], e :: r, rfl, rfl⟩
    · obtain ⟨before, after, whole, inserted⟩ := ih
      exact ⟨e :: before, after, congrArg (e :: ·) whole, congrArg (e :: ·) inserted⟩

/-- A write to a new name adds the name as it is written, at one place. -/
theorem exists_names_set {name : String} (absent : firstNamed? name r = none)
    (stored : name ≠ reservedName) (value : α) :
    ∃ before after, r.names = before ++ after ∧
      (r.set name value).names = before ++ name :: after := by
  obtain ⟨before, after, whole, inserted⟩ := exists_insert name value r
  refine ⟨names before, names after, ?_, ?_⟩
  · rw [whole]
    exact List.map_append
  · rw [set_of_not_mem r name value absent, if_neg stored, inserted]
    exact List.map_append

/-! ## Two writes -/

/-- Writes to names that differ ignoring case can change places, up to the order of the names. -/
theorem set_set_perm (unique : r.CaseUnique) {m n : String} (stored_m : m ≠ reservedName)
    (stored_n : n ≠ reservedName) (apart : lower m ≠ lower n) (v w : α) :
    ((r.set m v).set n w).Perm ((r.set n w).set m v) := by
  by_cases there_m : firstNamed? m r = none
  · by_cases there_n : firstNamed? n r = none
    · -- both names are new, and each is inserted
      have still_m : firstNamed? m (r.set n w) = none := by
        rw [firstNamed?_set unique, if_neg apart.symm, there_m]
      have still_n : firstNamed? n (r.set m v) = none := by
        rw [firstNamed?_set unique, if_neg apart, there_n]
      rw [set_of_not_mem _ n w still_n, set_of_not_mem _ m v still_m,
        set_of_not_mem r m v there_m, set_of_not_mem r n w there_n, if_neg stored_m,
        if_neg stored_n, if_neg stored_m, if_neg stored_n]
      calc
        ((r.insert m v).insert n w).Perm ((n, w) :: (m, v) :: r) :=
          (perm_insert n w _).trans ((perm_insert m v r).cons _)
        List.Perm _ ((m, v) :: (n, w) :: r) := List.Perm.swap _ _ _
        List.Perm _ ((r.insert n w).insert m v) :=
          ((perm_insert m v _).trans ((perm_insert n w r).cons _)).symm
    · exact List.Perm.of_eq (set_comm unique n m w v apart.symm there_n)
  · exact List.Perm.of_eq (set_comm unique m n v w apart there_m).symm

/-- The laws of writing: names stay apart, one answer changes, names are kept or one is added,
writes to different names can change places, and of two writes to one name the second counts. -/
theorem set_laws (unique : r.CaseUnique) (m n : String) (stored_m : m ≠ reservedName)
    (stored_n : n ≠ reservedName) (v w : α) :
    (r.set n v).CaseUnique ∧
    ((r.set n v).find? m = if lower m = lower n then some v else r.find? m) ∧
    ((∃ key ∈ r.names, lower key = lower n) → (r.set n v).names = r.names) ∧
    ((¬ ∃ key ∈ r.names, lower key = lower n) → ∃ before after, r.names = before ++ after ∧
      (r.set n v).names = before ++ n :: after) ∧
    (lower m ≠ lower n → ((r.set m v).set n w).Perm ((r.set n w).set m v)) ∧
    (lower m = lower n → (r.set m v).set n w = r.set m w ∧
      ∀ k, ((r.set m v).set n w).find? k = (r.set n w).find? k) := by
  refine ⟨caseUnique_set unique n v, ?_, ?_, ?_, ?_, ?_⟩
  · rw [find?_set unique stored_n]
    exact if_congr eq_comm rfl rfl
  · exact fun there => names_set_of_mem unique (firstNamed?_ne_none_iff.2 there) v
  · intro absent
    rw [← firstNamed?_ne_none_iff, Ne, not_not] at absent
    exact exists_names_set absent stored_n v
  · exact fun apart => set_set_perm unique stored_m stored_n apart v w
  · intro same
    have absorbed := set_set unique m n v w same (.inr stored_m)
    refine ⟨absorbed, fun k => ?_⟩
    rw [absorbed, find?_set unique stored_m, find?_set unique stored_n, same]

/-- Two spellings of a name that ends in a sigma, which is another letter at the end of a word, and
two new names, one of them an array index. -/
theorem set_laws_final_sigma :
    let r : Record Nat := [("7", 0), ("ΟΔΟΣ", 1)]
    (r.set "οδος" 2).names = ["7", "ΟΔΟΣ"] ∧ (r.set "οδος" 2).find? "ΟΔΟΣ" = some 2 ∧
      (r.set "ΟΔΟΣ" 2).set "οδος" 3 = r.set "ΟΔΟΣ" 3 ∧
      ((r.set "x" 2).set "5" 3).Perm ((r.set "5" 3).set "x" 2) := by
  intro r
  have unique : r.CaseUnique := by
    unfold Record.CaseUnique
    decide +kernel
  have same : lower "ΟΔΟΣ" = lower "οδος" := by decide +kernel
  obtain ⟨-, answers, kept, -, -, absorbed⟩ :=
    set_laws unique "ΟΔΟΣ" "οδος" (by decide) (by decide) 2 3
  obtain ⟨-, -, -, -, exchanged, -⟩ := set_laws unique "x" "5" (by decide) (by decide) 2 3
  refine ⟨kept ⟨"ΟΔΟΣ", by decide, same⟩, ?_, (absorbed same).1, exchanged (by decide +kernel)⟩
  rw [answers, if_pos same]

end HttpScript.Record
