import HttpScript.Number.Text
import HttpScript.Proofs.ExactNumbers
import Mathlib.Tactic.IntervalCases
import Mathlib.Tactic.Positivity
import Mathlib.Tactic.Ring

/-!
# Whole numbers as text

A natural number below `2 ^ 53` is written with its own decimal digits. The reals that round to it
lie at most one half away, so a decimal with fewer significant digits reads back as the number only
where it is the number, with zeros at the end.

    (ofNat n).text = String.ofList (Nat.toDigits 10 n)           for n < 2 ^ 53       (text_ofNat)
-/

namespace HttpScript.Binary64

/-! ## Decimal digits -/

/-- The count of decimal digits, as the powers of ten around a number. -/
theorem length_toDigits_eq_iff (n k : Nat) (pos : 0 < n) (hk : 0 < k) :
    (Nat.toDigits 10 n).length = k ↔ Nat.pow 10 (k - 1) ≤ n ∧ n < Nat.pow 10 k := by
  have upper := Nat.length_toDigits_le_iff (b := 10) (n := n) (by decide) hk
  rcases Nat.eq_or_lt_of_le hk with rfl | more
  · have some_ : 0 < (Nat.toDigits 10 n).length := Nat.length_toDigits_pos
    simp only [Nat.pow_eq, Nat.sub_self, Nat.pow_zero] at upper ⊢
    omega
  · have lower := Nat.length_toDigits_le_iff (b := 10) (n := n) (k := k - 1) (by decide)
      (by omega)
    simp only [Nat.pow_eq] at upper lower ⊢
    omega

/-- Ten times a number has a zero more. -/
theorem toDigits_mul_pow (n g : Nat) (pos : 0 < n) :
    Nat.toDigits 10 (n * Nat.pow 10 g) = Nat.toDigits 10 n ++ List.replicate g '0' := by
  induction g with
  | zero => simp
  | succ g ih =>
    have shift : n * Nat.pow 10 (g + 1) = 10 * (n * Nat.pow 10 g) + 0 := by
      simp only [Nat.pow_eq, Nat.pow_succ]
      ring
    have pos' : 0 < n * Nat.pow 10 g := Nat.mul_pos pos (Nat.pow_pos (by decide))
    rw [shift, ← Nat.toDigits_append_toDigits (by decide) pos' (by decide), ih,
      List.replicate_succ', List.append_assoc]
    rfl

/-- A number that ten does not divide has no zero at the end. -/
theorem toDigits_stripped (n : Nat) (pos : 0 < n) (whole : n < 10 ∨ n % 10 ≠ 0) :
    ((Nat.toDigits 10 n).reverse.dropWhile (· == '0')).reverse = Nat.toDigits 10 n := by
  have digit : n % 10 ≠ 0 := by omega
  have last : ((n % 10).digitChar == '0') = false := by
    have small : n % 10 < 10 := Nat.mod_lt _ (by decide)
    generalize n % 10 = d at digit small
    interval_cases d <;> first | exact absurd rfl digit | decide
  have shape : ∃ front, Nat.toDigits 10 n = front ++ [(n % 10).digitChar] := by
    rw [Nat.toDigits_eq_if (by decide)]
    split
    · next small => exact ⟨[], by rw [Nat.mod_eq_of_lt small, List.nil_append]⟩
    · exact ⟨_, rfl⟩
  obtain ⟨front, shape⟩ := shape
  rw [shape, List.reverse_append, List.reverse_singleton, List.singleton_append,
    List.dropWhile_cons_of_neg (by simp [last]), List.reverse_cons, List.reverse_reverse]

/-! ## The place of the point -/

/-- Counting up from below, the climb ends at the count of the digits. -/
theorem climbPoint_whole (n d fuel len : Nat) (p : Int) (hn : 0 < n) (hd : 0 < d)
    (low : Nat.pow 10 (len - 1) ≤ n) (high : n < Nat.pow 10 len) (start : p ≤ len)
    (enough : (len : Int) - p ≤ fuel) : climbPoint (n * d) d fuel p = len := by
  induction fuel generalizing p with
  | zero =>
    rw [climbPoint]
    omega
  | succ fuel ih =>
    have reached : (if 0 ≤ p then d * Nat.pow 10 p.toNat ≤ n * d
        else d ≤ n * d * Nat.pow 10 (-p).toNat) ↔ p < len := by
      by_cases hp : 0 ≤ p
      · rw [if_pos hp, Nat.mul_comm n d, Nat.mul_le_mul_left_iff hd]
        constructor
        · intro le
          have := (Nat.pow_lt_pow_iff_right (a := 10) (by decide)).1 (Nat.lt_of_le_of_lt le high)
          omega
        · intro lt
          exact (Nat.pow_le_pow_right (by decide) (by omega)).trans low
      · have small : d ≤ n * d * Nat.pow 10 (-p).toNat := by
          calc d = 1 * d * 1 := by omega
            _ ≤ n * d * Nat.pow 10 (-p).toNat :=
              Nat.mul_le_mul (Nat.mul_le_mul_right d hn) (Nat.pow_pos (by decide))
        rw [if_neg hp]
        exact ⟨fun _ => by omega, fun _ => small⟩
    rw [climbPoint, if_congr reached rfl rfl]
    split
    · exact ih (p + 1) (by omega) (by omega)
    · omega

/-- The estimate from the count of bits is at most six digits too low. -/
theorem estimate_bounds : ∀ k < 53,
    Nat.pow 10 (k * 30103 / 100000 - 1) ≤ Nat.pow 2 k ∧
      Nat.pow 2 (k + 1) ≤ Nat.pow 10 (k * 30103 / 100000 + 5) := by
  decide +kernel

theorem pointOf_whole (n : Nat) (pos : 0 < n) (small : n < Nat.pow 2 53) :
    pointOf (n * 2 ^ (52 - Nat.log2 n)) (2 ^ (52 - Nat.log2 n)) =
      (Nat.toDigits 10 n).length := by
  have hk : Nat.log2 n < 53 := (Nat.log2_lt (by omega)).2 small
  have below : 2 ^ Nat.log2 n ≤ n := Nat.log2_self_le (by omega)
  have above : n < 2 ^ (Nat.log2 n + 1) := Nat.lt_log2_self
  obtain ⟨wide, narrow⟩ := shifted_bits n (Nat.log2 n) 52 (by omega) below above
  generalize hlen : (Nat.toDigits 10 n).length = len
  obtain ⟨low, high⟩ := (length_toDigits_eq_iff n len pos (hlen ▸ Nat.length_toDigits_pos)).1 hlen
  have bits : Nat.log2 (n * 2 ^ (52 - Nat.log2 n)) = 52 := by
    refine Nat.le_antisymm (Nat.lt_succ_iff.1 ((Nat.log2_lt (by omega)).2 narrow)) ?_
    exact (Nat.le_log2 (by omega)).2 wide
  have bits' : Nat.log2 (2 ^ (52 - Nat.log2 n)) = 52 - Nat.log2 n := Nat.log2_two_pow
  obtain ⟨under, beyond⟩ := estimate_bounds _ hk
  generalize Nat.log2 n = k at *
  have guess : (((52 : Nat) : Int) - ((52 - k : Nat) : Int)) * 30103 / 100000 - 1 =
      ((k * 30103 / 100000 : Nat) : Int) - 1 := by omega
  unfold pointOf
  rw [bits, bits', guess]
  generalize k * 30103 / 100000 = q at *
  have start : q - 1 < len := (Nat.pow_lt_pow_iff_right (a := 10) (by decide)).1
    (Nat.lt_of_le_of_lt (under.trans below) high)
  have stop : len - 1 < q + 5 := (Nat.pow_lt_pow_iff_right (a := 10) (by decide)).1
    (Nat.lt_of_le_of_lt low (Nat.lt_of_lt_of_le above beyond))
  exact climbPoint_whole n _ 6 len _ pos (Nat.two_pow_pos _) low high (by omega) (by omega)

/-! ## The fewest digits -/

theorem divideEven_of_dvd (q den : Nat) (pos : 0 < den) : divideEven (den * q) den = q := by
  unfold divideEven
  simp [Nat.mul_div_cancel_left q pos, Nat.mul_mod_right, pos]

theorem roundingBounds_around (m : Nat) (e : Int) (pos : 0 < m) :
    4 * m - 2 ≤ (roundingBounds m e).1 ∧ (roundingBounds m e).1 < 4 * m ∧
      (roundingBounds m e).2 = 4 * m + 2 := by
  unfold roundingBounds
  split <;> (dsimp only; omega)

/-- Of the multiples of a whole unit, only the number itself lies within a half of it. -/
theorem eq_of_within_half (u n x : Nat) (hu : 0 < u) (low : 4 * (n * u) - 2 ≤ 4 * u * x)
    (high : 4 * u * x ≤ 4 * (n * u) + 2) : x = n := by
  have same : 4 * (n * u) = 4 * u * n := by ring
  rw [same] at low high
  rcases Nat.lt_trichotomy x n with lt | eq | gt
  · have := Nat.mul_le_mul_left (4 * u) lt
    rw [Nat.mul_succ] at this
    omega
  · exact eq
  · have := Nat.mul_le_mul_left (4 * u) gt
    rw [Nat.mul_succ] at this
    omega

/-- A multiple of a power of ten reads back as a whole number only if it is that number. -/
theorem nearestOnGrid?_whole (n s g : Nat) (len : Int) (count : Nat) (gap : len - count = g)
    (pos : 0 < n) :
    nearestOnGrid? (n * 2 ^ s) (-s) len count =
      if Nat.pow 10 g ∣ n then some (n / Nat.pow 10 g) else none := by
  have unit : 0 < 2 ^ s := Nat.two_pow_pos s
  have grid : 0 < Nat.pow 10 g := Nat.pow_pos (by decide)
  obtain ⟨low, below, high⟩ := roundingBounds_around (n * 2 ^ s) (-s) (Nat.mul_pos pos unit)
  have exponent : (-(s : Int)).toNat = 0 := by omega
  have shift : (-(g : Int)).toNat = 0 := by omega
  have den (d : Nat) : d * (4 * 2 ^ s * Nat.pow 10 g) = 4 * 2 ^ s * (d * Nat.pow 10 g) := by ring
  unfold nearestOnGrid?
  simp only [gap, exponent, shift, Int.neg_neg, Int.toNat_natCast, Nat.pow_eq, Nat.pow_zero,
    Nat.mul_one]
  generalize roundingBounds (n * 2 ^ s) (-s) = bounds at *
  have within (d : Nat) : (if n * 2 ^ s % 2 == 0 then
      decide (bounds.1 ≤ d * (4 * 2 ^ s * 10 ^ g)) && decide (d * (4 * 2 ^ s * 10 ^ g) ≤ bounds.2)
      else decide (bounds.1 < d * (4 * 2 ^ s * 10 ^ g)) &&
        decide (d * (4 * 2 ^ s * 10 ^ g) < bounds.2)) = decide (d * 10 ^ g = n) := by
    simp only [Nat.pow_eq] at den
    rw [den]
    have exact_ (same : d * 10 ^ g = n) : 4 * 2 ^ s * (d * 10 ^ g) = 4 * (n * 2 ^ s) := by
      rw [same]
      ring
    split
    · rw [← Bool.decide_and, decide_eq_decide]
      refine ⟨fun h => eq_of_within_half _ n _ unit (by omega) (by omega), fun same => ?_⟩
      have := exact_ same
      omega
    · rw [← Bool.decide_and, decide_eq_decide]
      refine ⟨fun h => eq_of_within_half _ n _ unit (by omega) (by omega), fun same => ?_⟩
      have := exact_ same
      omega
  simp only [within, decide_eq_true_eq]
  by_cases divides : 10 ^ g ∣ n
  · obtain ⟨q, rfl⟩ := divides
    have whole : 4 * (10 ^ g * q * 2 ^ s) = 4 * 2 ^ s * 10 ^ g * q := by ring
    rw [whole, divideEven_of_dvd _ _ (by positivity), Nat.mul_comm q, if_pos rfl,
      if_pos (Nat.dvd_mul_right _ _), Nat.mul_div_cancel_left q (by positivity)]
  · have other (d : Nat) : d * 10 ^ g ≠ n := fun same => divides ⟨d, by rw [← same, Nat.mul_comm]⟩
    simp only [other, if_false, if_neg divides]

/-- The first count of digits at which a number reads back, and the number cut to it. -/
theorem shortestFrom_whole (n s len fuel count : Nat) (pos : 0 < n) (first : 1 ≤ count)
    (inside : count ≤ len) (enough : len < count + fuel) :
    ∃ g, g ≤ len - count ∧ Nat.pow 10 g ∣ n ∧
      (g = len - count ∨ ¬ Nat.pow 10 (g + 1) ∣ n) ∧
      shortestFrom (n * 2 ^ s) (-s) len fuel count = (len - g, n / Nat.pow 10 g) := by
  induction fuel generalizing count with
  | zero => omega
  | succ fuel ih =>
    rw [shortestFrom, nearestOnGrid?_whole n s (len - count) len count (by omega) pos]
    by_cases divides : Nat.pow 10 (len - count) ∣ n
    · refine ⟨len - count, le_rfl, divides, .inl rfl, ?_⟩
      rw [if_pos divides]
      dsimp only
      congr 1
      omega
    · rw [if_neg divides]
      dsimp only
      have more : count ≠ len := by
        rintro rfl
        rw [Nat.sub_self] at divides
        exact divides (Nat.one_dvd n)
      obtain ⟨g, le, cut, last, found⟩ := ih (count + 1) (by omega) (by omega) (by omega)
      refine ⟨g, by omega, cut, .inr ?_, found⟩
      rcases last with rfl | last
      · rwa [show len - (count + 1) + 1 = len - count by omega]
      · exact last

theorem ratio_whole (n s : Nat) : ratio (n * 2 ^ s) (-s) = (n * 2 ^ s, 2 ^ s) := by
  unfold ratio
  rcases Nat.eq_zero_or_pos s with rfl | pos
  · simp
  · rw [if_neg (by omega), Int.neg_neg, Int.toNat_natCast]
    rfl

/-- The digits of a whole number without the zeros at its end, and the place of its point. -/
theorem shortest_whole (n : Nat) (pos : 0 < n) (small : n < Nat.pow 2 53) :
    ∃ d g : Nat, 0 < d ∧ n = d * Nat.pow 10 g ∧
      shortest (n * 2 ^ (52 - Nat.log2 n)) ((Nat.log2 n : Int) - 52) =
        (Nat.toDigits 10 d, ((Nat.toDigits 10 n).length : Int)) := by
  have hk : Nat.log2 n < 53 := (Nat.log2_lt (by omega)).2 small
  have point := pointOf_whole n pos small
  generalize hs : 52 - Nat.log2 n = s at point ⊢
  have exponent : (Nat.log2 n : Int) - 52 = -s := by omega
  generalize hlen : (Nat.toDigits 10 n).length = len at point ⊢
  have some_ : 0 < len := hlen ▸ Nat.length_toDigits_pos
  obtain ⟨-, high⟩ := (length_toDigits_eq_iff n len pos some_).1 hlen
  have short : len ≤ 16 := hlen ▸ (Nat.length_toDigits_le_iff (by decide) (by decide)).2
    (Nat.lt_trans small (by decide))
  obtain ⟨g, le, ⟨d, rfl⟩, last, found⟩ :=
    shortestFrom_whole n s len 17 1 pos le_rfl some_ (by omega)
  have grid : 0 < Nat.pow 10 g := Nat.pow_pos (by decide)
  have hd : 0 < d := Nat.pos_of_mul_pos_left pos
  rw [Nat.mul_comm] at hlen
  have count : (Nat.toDigits 10 d).length + g = len := by
    rw [← hlen, toDigits_mul_pow d g hd, List.length_append, List.length_replicate]
  have stripped : d < 10 ∨ d % 10 ≠ 0 := by
    rcases last with rfl | last
    · left
      have one : (Nat.toDigits 10 d).length ≤ 1 := by omega
      exact (Nat.length_toDigits_le_iff (by decide) (by decide)).1 one
    · right
      intro zero
      obtain ⟨c, rfl⟩ := Nat.dvd_of_mod_eq_zero zero
      exact last ⟨c, by simp only [Nat.pow_eq, Nat.pow_succ]; ring⟩
  refine ⟨d, g, hd, Nat.mul_comm _ _, ?_⟩
  unfold shortest
  rw [exponent, ratio_whole]
  dsimp only
  rw [point, found]
  dsimp only
  rw [Nat.mul_div_cancel_left d grid, toDigits_stripped d hd stripped]
  congr 1
  omega

/-! ## Text -/

/-- A natural number below `2 ^ 53` is written with its decimal digits. -/
theorem text_ofNat (n : Nat) (small : n < Nat.pow 2 53) :
    (ofNat n).text = String.ofList (Nat.toDigits 10 n) := by
  rcases Nat.eq_zero_or_pos n with rfl | pos
  · decide
  obtain ⟨d, g, hd, rfl, digits⟩ := shortest_whole n pos small
  have shape := toDigits_mul_pow d g hd
  have length : (Nat.toDigits 10 (d * Nat.pow 10 g)).length = (Nat.toDigits 10 d).length + g := by
    rw [shape, List.length_append, List.length_replicate]
  have short : (Nat.toDigits 10 (d * Nat.pow 10 g)).length ≤ 16 :=
    (Nat.length_toDigits_le_iff (by decide) (by decide)).2 (Nat.lt_trans small (by decide))
  have nonzero : (d * Nat.pow 10 g * 2 ^ (52 - Nat.log2 (d * Nat.pow 10 g)) == 0) = false :=
    beq_false_of_ne (Nat.mul_pos pos (Nat.two_pow_pos _)).ne'
  rw [ofNat_eq_finite _ pos small, text, nonzero, digits]
  dsimp only
  rw [if_neg Bool.false_ne_true, if_neg Bool.false_ne_true, layout]
  dsimp only
  rw [if_pos (by simp only [Bool.and_eq_true, decide_eq_true_eq]; omega), length, shape]
  congr 3
  omega

end HttpScript.Binary64
