import HttpScript.Generator
import HttpScript.Proofs.PathGrammar
import Mathlib.Algebra.Order.Archimedean.Real.Basic

/-!
# Random integers

The argument of a random integer names a range by its first two words. With an exact draw from 0 up
to 1 an integer of the range is picked, and every integer of the range is picked by some draw.

    Names arg range ↔ range = IntRange.ofText arg                                   (names_iff)
    low ≤ IntRange.pick ⟨low, high⟩ (share u) < high     when low < high and 0 ≤ u < 1
                                                                                  (pick_ofText)
-/

namespace HttpScript

/-! ## Words -/

namespace Text

/-- The words of a text: its longest runs without a separator, in order. -/
inductive Words (sep : Char → Bool) : List Char → List (List Char) → Prop where
  | none {gap : List Char} (apart : ∀ c ∈ gap, sep c = true) : Words sep gap []
  | word {gap w rest : List Char} {ws : List (List Char)} (apart : ∀ c ∈ gap, sep c = true)
      (nonempty : w ≠ []) (whole : ∀ c ∈ w, sep c = false)
      (ends : ∀ c ∈ rest.head?, sep c = true) (later : Words sep rest ws) :
      Words sep (gap ++ w ++ rest) (w :: ws)

/-- The pieces between separators that are not empty. -/
def words (sep : Char → Bool) (s : List Char) : List (List Char) :=
  (splitBy sep s).filter (!·.isEmpty)

variable {sep : Char → Bool}

theorem words_cons_of_sep {c : Char} (separates : sep c = true) (s : List Char) :
    words sep (c :: s) = words sep s := by
  rw [words, splitBy, if_pos separates]
  rfl

theorem words_append_of_apart {gap : List Char} (apart : ∀ c ∈ gap, sep c = true)
    (s : List Char) : words sep (gap ++ s) = words sep s := by
  induction gap with
  | nil => rfl
  | cons c gap ih =>
    rw [List.cons_append, words_cons_of_sep (apart c List.mem_cons_self),
      ih fun d hd => apart d (List.mem_cons_of_mem c hd)]

theorem words_append_of_whole {w rest : List Char} (nonempty : w ≠ [])
    (whole : ∀ c ∈ w, sep c = false) (ends : ∀ c ∈ rest.head?, sep c = true) :
    words sep (w ++ rest) = w :: words sep rest := by
  have kept (ps : List (List Char)) :
      (w :: ps).filter (!·.isEmpty) = w :: ps.filter (!·.isEmpty) :=
    List.filter_cons_of_pos (by simpa using nonempty)
  cases rest with
  | nil =>
    rw [List.append_nil, words, splitBy_of_free sep w whole, kept]
    rfl
  | cons c rest =>
    have separates : sep c = true := ends c rfl
    rw [words, splitBy_append_sep sep w rest c whole separates, kept, words_cons_of_sep separates]
    rfl

theorem Words.eq_words {s : List Char} {ws : List (List Char)} (h : Words sep s ws) :
    ws = words sep s := by
  induction h with
  | @none gap apart =>
    have empty := words_append_of_apart apart []
    rw [List.append_nil] at empty
    exact empty.symm
  | word apart nonempty whole ends _ ih =>
    rw [List.append_assoc, words_append_of_apart apart, words_append_of_whole nonempty whole ends,
      ih]

/-- A word may stand at the very front. -/
theorem Words.front {w rest : List Char} {ws : List (List Char)} (nonempty : w ≠ [])
    (whole : ∀ c ∈ w, sep c = false) (ends : ∀ c ∈ rest.head?, sep c = true)
    (later : Words sep rest ws) : Words sep (w ++ rest) (w :: ws) := by
  have none : ∀ c ∈ ([] : List Char), sep c = true := nofun
  have behind := Words.word none nonempty whole ends later
  rwa [List.nil_append] at behind

/-- Every text has words. -/
theorem exists_words (sep : Char → Bool) (s : List Char) : ∃ ws, Words sep s ws := by
  induction s with
  | nil => exact ⟨[], .none nofun⟩
  | cons c s ih =>
    obtain ⟨ws, h⟩ := ih
    cases separates : sep c with
    | true =>
      -- one more separator in front
      cases h with
      | none apart => exact ⟨[], .none (List.forall_mem_cons.2 ⟨separates, apart⟩)⟩
      | word apart nonempty whole ends later =>
        exact ⟨_, .word (List.forall_mem_cons.2 ⟨separates, apart⟩) nonempty whole ends later⟩
    | false =>
      have alone : ∀ d ∈ [c], sep d = false := List.forall_mem_singleton.2 separates
      cases h with
      | none apart =>
        exact ⟨_, .front (List.cons_ne_nil c []) alone
          (fun d hd => apart d (List.mem_of_mem_head? hd)) (.none apart)⟩
      | @word gap w rest ws apart nonempty whole ends later =>
        cases gap with
        | nil =>
          -- the first word begins one character earlier
          exact ⟨_, .front (List.cons_ne_nil c w) (List.forall_mem_cons.2 ⟨separates, whole⟩)
            ends later⟩
        | cons g gap =>
          refine ⟨_, .front (List.cons_ne_nil c []) alone ?_
            (.word apart nonempty whole ends later)⟩
          intro d hd
          obtain rfl : g = d := Option.some.inj hd
          exact apart g List.mem_cons_self

theorem words_iff (s : List Char) (ws : List (List Char)) : Words sep s ws ↔ ws = words sep s := by
  constructor
  · exact Words.eq_words
  · rintro rfl
    obtain ⟨ws, h⟩ := exists_words sep s
    rwa [← h.eq_words]

end Text

namespace Generator

/-! ## Ranges -/

/-- An integer in writing: decimal digits behind an optional sign. -/
inductive Written : List Char → Int → Prop where
  | unsigned {ds : List Char} (nonempty : ds ≠ []) (digits : ∀ d ∈ ds, d.isDigit = true) :
      Written ds (Nat.ofDigitChars 10 ds 0)
  | positive {ds : List Char} (nonempty : ds ≠ []) (digits : ∀ d ∈ ds, d.isDigit = true) :
      Written ('+' :: ds) (Nat.ofDigitChars 10 ds 0)
  | negative {ds : List Char} (nonempty : ds ≠ []) (digits : ∀ d ∈ ds, d.isDigit = true) :
      Written ('-' :: ds) (-(Nat.ofDigitChars 10 ds 0))

/-- A word is an integer that may be a bound. -/
def IsBound (w : List Char) (i : Int) : Prop := Written w i ∧ |i| ≤ 2 ^ 53 - 1

/-- A bound is what a word says if it says one, and else another value. -/
def BoundOr (otherwise : Int) (word : Option (List Char)) (i : Int) : Prop :=
  (∃ w ∈ word, IsBound w i) ∨ (¬ ∃ w ∈ word, ∃ j, IsBound w j) ∧ i = otherwise

/-- White space and commas stand between words. -/
def separates (c : Char) : Bool := Text.isBlank c || c == ','

/-- An argument names a range by its first two words. -/
def Names (arg : String) (range : IntRange) : Prop :=
  ∃ ws, Text.Words separates arg.toList ws ∧ BoundOr 0 ws[0]? range.low ∧
    BoundOr 2147483647 ws[1]? range.high

/-- The bound that digits say behind a sign. -/
theorem digits_bound_iff (negative : Bool) (ds : List Char) (i : Int) :
    (if ds.isEmpty || !ds.all Char.isDigit then none
      else
        let n : Int := Text.digitsValue ds
        if boundLimit < n then none else some (if negative then -n else n)) = some i ↔
      ds ≠ [] ∧ (∀ d ∈ ds, d.isDigit = true) ∧
        i = (if negative then -(Nat.ofDigitChars 10 ds 0 : Int) else Nat.ofDigitChars 10 ds 0) ∧
        |i| ≤ 2 ^ 53 - 1 := by
  have value : Nat.ofDigitChars 10 ds 0 = Text.digitsValue ds := Nat.ofDigitChars_eq_foldl ..
  rw [value]
  generalize Text.digitsValue ds = n
  by_cases written : ds ≠ [] ∧ ∀ d ∈ ds, d.isDigit = true
  · rw [if_neg (by simpa using written), and_iff_right written.1, and_iff_right written.2]
    have magnitude : |if negative then -(n : Int) else n| = n := by
      split
      · rw [abs_neg, Nat.abs_cast]
      · exact Nat.abs_cast n
    by_cases large : boundLimit < n
    · rw [if_pos large]
      refine iff_of_false nofun ?_
      rintro ⟨rfl, small⟩
      rw [magnitude] at small
      exact absurd large (by unfold boundLimit; omega)
    · rw [if_neg large, Option.some.injEq]
      constructor
      · rintro rfl
        refine ⟨rfl, ?_⟩
        rw [magnitude]
        unfold boundLimit at large
        omega
      · exact fun same => same.1.symm
  · rw [if_pos (by simpa [imp_iff_not_or] using written)]
    exact iff_of_false nofun fun all => written ⟨all.1, all.2.1⟩

/-- What is read as a bound is what is written as one. -/
theorem bound?_eq_some_iff (w : List Char) (i : Int) : bound? w = some i ↔ IsBound w i := by
  unfold bound? IsBound
  split
  next negative ds taken =>
  have written_iff : Written w i ↔ ds ≠ [] ∧ (∀ d ∈ ds, d.isDigit = true) ∧
      i = (if negative then -(Nat.ofDigitChars 10 ds 0 : Int) else Nat.ofDigitChars 10 ds 0) := by
    split at taken
    · -- a minus sign is no digit
      cases taken
      constructor
      · intro written
        cases written with
        | unsigned _ digits => exact absurd (digits '-' List.mem_cons_self) (by decide)
        | negative nonempty digits => exact ⟨nonempty, digits, rfl⟩
      · rintro ⟨nonempty, digits, rfl⟩
        exact .negative nonempty digits
    · cases taken
      constructor
      · intro written
        cases written with
        | unsigned _ digits => exact absurd (digits '+' List.mem_cons_self) (by decide)
        | positive nonempty digits => exact ⟨nonempty, digits, rfl⟩
      · rintro ⟨nonempty, digits, rfl⟩
        exact .positive nonempty digits
    · next no_minus no_plus =>
      cases taken
      constructor
      · intro written
        cases written with
        | unsigned nonempty digits => exact ⟨nonempty, digits, rfl⟩
        | positive => exact absurd rfl (no_plus _)
        | negative => exact absurd rfl (no_minus _)
      · rintro ⟨nonempty, digits, rfl⟩
        exact .unsigned nonempty digits
  rw [digits_bound_iff, written_iff, and_assoc, and_assoc]

theorem boundOr_iff (otherwise : Int) (word : Option (List Char)) (i : Int) :
    BoundOr otherwise word i ↔ i = (word.bind bound?).getD otherwise := by
  unfold BoundOr
  cases word with
  | none => simp
  | some w =>
    simp only [← bound?_eq_some_iff, Option.mem_def, Option.some.injEq, exists_eq_left',
      Option.bind_some]
    cases bound? w with
    | none => simp
    | some j => simp [eq_comm]

/-- An argument names one range, which is the one that is read. -/
theorem names_iff (arg : String) (range : IntRange) :
    Names arg range ↔ range = IntRange.ofText arg := by
  unfold Names
  simp only [Text.words_iff, exists_eq_left, boundOr_iff]
  obtain ⟨low, high⟩ := range
  rw [IntRange.ofText, IntRange.mk.injEq]
  rfl

/-! ## Exact draws -/

/-- The share of a width that an exact draw selects. -/
noncomputable def share (u : ℝ) (width : Int) : Int := ⌊u * width⌋

theorem share_nonneg {u : ℝ} (nonneg : 0 ≤ u) {width : Int} (wide : 0 < width) :
    0 ≤ share u width := by
  have positive : (0 : ℝ) < width := Int.cast_pos.2 wide
  exact Int.floor_nonneg.2 (mul_nonneg nonneg positive.le)

theorem share_lt {u : ℝ} (below : u < 1) {width : Int} (wide : 0 < width) :
    share u width < width := by
  have positive : (0 : ℝ) < width := Int.cast_pos.2 wide
  refine Int.floor_lt.2 ?_
  calc u * width < 1 * width := mul_lt_mul_of_pos_right below positive
    _ = width := one_mul _

/-- A draw that is a fraction selects the share that whole numbers tell. -/
theorem share_eq_exactShare (num den : Nat) (width : Int) :
    share (num / den) width = exactShare num den width := by
  unfold share exactShare
  rw [div_mul_eq_mul_div, Int.floor_div_natCast]
  congr 1
  exact_mod_cast Int.floor_intCast (R := ℝ) (num * width)

/-- Every integer of a range is picked by a fraction below one. -/
theorem exists_exactShare {range : IntRange} {n : Int} (low : range.low ≤ n)
    (high : n < range.high) :
    ∃ num den : Nat, num < den ∧ range.pick (exactShare num den) = n := by
  refine ⟨(n - range.low).toNat, (range.high - range.low).toNat, by omega, ?_⟩
  have width : ((range.high - range.low).toNat : Int) = range.high - range.low := by omega
  have offset : ((n - range.low).toNat : Int) = n - range.low := by omega
  rw [IntRange.pick, if_neg (by omega), exactShare, width, offset,
    Int.mul_ediv_cancel _ (by omega)]
  omega

/-! ## Draws from a range -/

/-- An argument names one range. If it is empty its lower bound is drawn; else an exact draw picks
an integer of the range, and each of them is picked by one. -/
theorem pick_ofText (arg : String) (u : ℝ) (nonneg : 0 ≤ u) (below : u < 1) :
    ∃ low high, (∀ range, Names arg range ↔ range = ⟨low, high⟩) ∧
      (high ≤ low → (IntRange.ofText arg).pick (share u) = low) ∧
      (low < high → low ≤ (IntRange.ofText arg).pick (share u) ∧
        (IntRange.ofText arg).pick (share u) < high) ∧
      ∀ n, low ≤ n → n < high →
        ∃ v : ℝ, 0 ≤ v ∧ v < 1 ∧ (IntRange.ofText arg).pick (share v) = n := by
  have named := names_iff arg
  generalize IntRange.ofText arg = range at named ⊢
  refine ⟨range.low, range.high, named, ?_, ?_, ?_⟩
  · exact fun empty => if_pos empty
  · intro some_
    have wide : 0 < range.high - range.low := by omega
    have least := share_nonneg nonneg wide
    have greatest := share_lt below wide
    rw [IntRange.pick, if_neg (by omega)]
    constructor <;> omega
  · intro n low high
    obtain ⟨num, den, less, picked⟩ := exists_exactShare low high
    have positive : (0 : ℝ) < den := Nat.cast_pos.2 (by omega)
    refine ⟨num / den, by positivity, ?_, ?_⟩
    · rw [div_lt_one positive]
      exact_mod_cast less
    · rw [funext (share_eq_exactShare num den), picked]

/-- The lower bound is negative, and the word for the upper one is no integer. -/
theorem pick_ofText_negative :
    let arg := " -7,\t1e3 x"
    (0 : ℝ) ≤ 1 / 2 ∧ (1 / 2 : ℝ) < 1 ∧ (∀ range, Names arg range ↔ range = ⟨-7, 2147483647⟩) ∧
      -7 ≤ (IntRange.ofText arg).pick (share (1 / 2)) ∧
      (IntRange.ofText arg).pick (share (1 / 2)) < 2147483647 ∧
      ∃ v : ℝ, 0 ≤ v ∧ v < 1 ∧ (IntRange.ofText arg).pick (share v) = -7 := by
  intro arg
  have nonneg : (0 : ℝ) ≤ 1 / 2 := by norm_num
  have below : (1 / 2 : ℝ) < 1 := by norm_num
  obtain ⟨low, high, named, -, inside, onto⟩ := pick_ofText arg (1 / 2) nonneg below
  have read : IntRange.ofText arg = ⟨-7, 2147483647⟩ := by decide +kernel
  have bounds : (⟨-7, 2147483647⟩ : IntRange) = ⟨low, high⟩ :=
    (named _).1 ((names_iff arg _).2 read.symm)
  cases bounds
  obtain ⟨least, greatest⟩ := inside (by decide)
  exact ⟨nonneg, below, named, least, greatest, onto (-7) (by decide) (by decide)⟩

end Generator

end HttpScript
