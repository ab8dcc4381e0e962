import HttpScript.Proofs.Lines

/-!
# Laws of letter case

Lower case of ASCII text goes letter by letter, and no character but a digit has a digit as its
lower-case form. Therefore an array index has one spelling only.

    lower s = asciiLower s                 when s is ASCII                        (lower_of_isAscii)
    lower a = lower n → a = n              when n is an array index       (eq_of_lower_eq_of_index?)
-/

namespace HttpScript

namespace Text

/-- Whether all characters of a text are ASCII. -/
def IsAscii (s : String) : Prop := ∀ c ∈ s.toList, c.toNat < 128

theorem lowerChar_of_ascii {c : Char} (ascii : c.toNat < 128) : lowerChar c = [c.toLower] :=
  if_pos ascii

theorem lowerAfter_of_ascii (before : List Char) {cs : List Char}
    (ascii : ∀ c ∈ cs, c.toNat < 128) : lowerAfter before cs = cs.map Char.toLower := by
  induction cs generalizing before with
  | nil => rfl
  | cons c cs ih =>
    have first : c.toNat < 128 := ascii c List.mem_cons_self
    have other : (c == 'Σ') = false := by
      rw [beq_eq_false_iff_ne]
      rintro rfl
      exact absurd first (by decide)
    rw [lowerAfter, other, lowerChar_of_ascii first,
      ih _ fun d hd => ascii d (List.mem_cons_of_mem _ hd)]
    rfl

theorem lower_of_isAscii {s : String} (ascii : IsAscii s) : lower s = asciiLower s := by
  rw [lower, lowerAfter_of_ascii [] ascii, asciiLower]

/-- A property of the ASCII characters is checked on their table. -/
theorem of_ascii_table {P : Char → Prop} (table : ∀ n : Fin 128, P (Char.ofNat n)) {c : Char}
    (ascii : c.toNat < 128) : P c := by
  have entry := table ⟨c.toNat, ascii⟩
  rwa [Char.ofNat_toNat] at entry

theorem toLower_of_not_ascii {c : Char} (beyond : ¬c.toNat < 128) : c.toLower = c := by
  refine dif_neg fun upper => beyond ?_
  have last := UInt32.le_iff_toNat_le.1 upper.2
  exact Nat.lt_of_le_of_lt last (by decide)

theorem toUpper_of_not_ascii {c : Char} (beyond : ¬c.toNat < 128) : c.toUpper = c := by
  refine dif_neg fun small => beyond ?_
  have last := UInt32.le_iff_toNat_le.1 small.2
  exact Nat.lt_of_le_of_lt last (by decide)

theorem toNat_toLower_lt {c : Char} (ascii : c.toNat < 128) : c.toLower.toNat < 128 :=
  of_ascii_table (P := fun c => c.toLower.toNat < 128) (by decide +kernel) ascii

theorem toLower_toLower_of_ascii {c : Char} (ascii : c.toNat < 128) :
    c.toLower.toLower = c.toLower :=
  of_ascii_table (P := fun c => c.toLower.toLower = c.toLower) (by decide +kernel) ascii

/-- Upper case does not change which letter a character is. -/
theorem toLower_toUpper (c : Char) : c.toUpper.toLower = c.toLower := by
  by_cases ascii : c.toNat < 128
  · exact of_ascii_table (P := fun c => c.toUpper.toLower = c.toLower) (by decide +kernel) ascii
  · rw [toUpper_of_not_ascii ascii]

theorem isAlpha_toLower (c : Char) : c.toLower.isAlpha = c.isAlpha := by
  by_cases ascii : c.toNat < 128
  · exact of_ascii_table (P := fun c => c.toLower.isAlpha = c.isAlpha) (by decide +kernel) ascii
  · rw [toLower_of_not_ascii ascii]

theorem isAlpha_toUpper (c : Char) : c.toUpper.isAlpha = c.isAlpha := by
  by_cases ascii : c.toNat < 128
  · exact of_ascii_table (P := fun c => c.toUpper.isAlpha = c.isAlpha) (by decide +kernel) ascii
  · rw [toUpper_of_not_ascii ascii]

/-- A lower-case form is its own lower-case form. -/
theorem lower_asciiLower {s : String} (ascii : IsAscii s) :
    lower (asciiLower s) = asciiLower s := by
  have ascii' : IsAscii (asciiLower s) := by
    unfold IsAscii asciiLower
    rw [String.toList_ofList]
    intro d hd
    obtain ⟨c, hc, rfl⟩ := List.mem_map.1 hd
    exact toNat_toLower_lt (ascii c hc)
  rw [lower_of_isAscii ascii']
  unfold asciiLower
  rw [String.toList_ofList, List.map_map]
  exact congrArg String.ofList
    (List.map_congr_left fun c hc => toLower_toLower_of_ascii (ascii c hc))

/-! ## Digits -/

theorem toLower_of_isDigit {c : Char} (digit : c.isDigit = true) : c.toLower = c := by
  have highest : c.toNat ≤ 57 := (Char.isDigit_iff_toNat.1 digit).2
  exact of_ascii_table (P := fun c => c.isDigit = true → c.toLower = c) (by decide +kernel)
    (by omega) digit

theorem isDigit_of_toLower {c : Char} (digit : c.toLower.isDigit = true) : c.isDigit = true := by
  by_cases ascii : c.toNat < 128
  · exact of_ascii_table (P := fun c => c.toLower.isDigit = true → c.isDigit = true)
      (by decide +kernel) ascii digit
  · rwa [toLower_of_not_ascii ascii] at digit

theorem lowerRuns_above_digits : ∀ run ∈ lowerRuns, (57 : Int) < run.1 + run.2.2.2 := by
  decide +kernel

theorem runForm?_above_digits {n m : Nat} (found : runForm? lowerRuns n = some m) : 57 < m := by
  obtain ⟨run, listed, rfl⟩ := Option.map_eq_some_iff.1 found
  have above := lowerRuns_above_digits run (List.mem_of_find?_eq_some listed)
  have within := List.find?_some listed
  simp only [Bool.and_eq_true, decide_eq_true_eq] at within
  show 57 < (n + run.2.2.2 : Int).toNat
  omega

/-- A character whose lower-case form has digits only is a digit. -/
theorem isDigit_of_lowerChar {c : Char} (digits : ∀ d ∈ lowerChar c, d.isDigit = true) :
    c.isDigit = true := by
  unfold lowerChar at digits
  dsimp only at digits
  split at digits
  · exact isDigit_of_toLower (digits _ List.mem_cons_self)
  · next beyond =>
    split at digits
    · exact absurd (digits 'i' List.mem_cons_self) (by decide)
    · have form := digits _ List.mem_cons_self
      cases found : runForm? lowerRuns c.toNat with
      | none =>
        rw [found] at form
        exact form
      | some m =>
        rw [found] at form
        have range : 48 ≤ (Char.ofNat m).toNat ∧ (Char.ofNat m).toNat ≤ 57 :=
          Char.isDigit_iff_toNat.1 form
        have above := runForm?_above_digits found
        by_cases valid : m.isValidChar
        · have same : (Char.ofNat m).toNat = m := by
            rw [Char.ofNat, dif_pos valid]
            rfl
          omega
        · have same : (Char.ofNat m).toNat = 0 := by
            rw [Char.ofNat, dif_neg valid]
            rfl
          omega

/-- A text whose lower-case form has digits only is that form. -/
theorem lowerAfter_of_digits {before cs : List Char}
    (digits : ∀ d ∈ lowerAfter before cs, d.isDigit = true) : lowerAfter before cs = cs := by
  induction cs generalizing before with
  | nil => rfl
  | cons c cs ih =>
    rw [lowerAfter] at digits ⊢
    rw [ih fun d hd => digits d (List.mem_append_right _ hd)]
    split at digits
    · exact absurd (digits 'ς' List.mem_cons_self) (by decide)
    · next plain =>
      have digit : c.isDigit = true :=
        isDigit_of_lowerChar fun d hd => digits d (List.mem_append_left _ hd)
      have highest : c.toNat ≤ 57 := (Char.isDigit_iff_toNat.1 digit).2
      rw [if_neg plain, lowerChar_of_ascii (by omega), toLower_of_isDigit digit]
      rfl

theorem lower_of_digits {s : String} (digits : ∀ c ∈ (lower s).toList, c.isDigit = true) :
    lower s = s := by
  rw [lower, String.toList_ofList] at digits
  rw [lower, lowerAfter_of_digits digits, String.ofList_toList]

end Text

namespace Record

open Text (lower lower_of_digits lower_of_isAscii)

theorem digits_of_index? {name : String} {i : Nat} (index : index? name = some i) :
    ∀ c ∈ name.toList, c.isDigit = true := by
  unfold index? at index
  split at index
  · next single =>
    rw [single]
    exact List.forall_mem_singleton.2 rfl
  · next c r _ whole =>
    rw [whole]
    split at index
    · next digits =>
      simp only [Bool.and_eq_true, List.all_eq_true] at digits
      exact List.forall_mem_cons.2 ⟨digits.1.1, digits.2⟩
    · cases index
  · cases index

/-- An array index has one spelling. -/
theorem eq_of_lower_eq_of_index? {a name : String} (index : index? name ≠ none)
    (same : lower a = lower name) : a = name := by
  obtain ⟨i, index⟩ := Option.ne_none_iff_exists'.1 index
  have digits := digits_of_index? index
  have ascii : Text.IsAscii name := fun c hc => by
    have : c.toNat ≤ 57 := (Char.isDigit_iff_toNat.1 (digits c hc)).2
    omega
  have plain : lower name = name := by
    rw [lower_of_isAscii ascii, Text.asciiLower,
      List.map_congr_left fun c hc => Text.toLower_of_isDigit (digits c hc), List.map_id',
      String.ofList_toList]
  rw [plain] at same
  rw [← same]
  exact (lower_of_digits (by rwa [same])).symm

end Record

end HttpScript
