import HttpScript.Number.Binary64
import Mathlib.Order.Compare
import Mathlib.Tactic.Linarith

/-!
# Natural numbers as doubles

A natural number up to `2 ^ 53` is a double exactly, and two finite doubles compare as the ratios
that they are. What lies between two such numbers therefore tells their order.

    (ofNat n).toRatio? = some (n * d, d)          for n ≤ 2 ^ 53               (toRatio?_ofNat)
    le (ofNat a) x → le x (ofNat b) → a ≤ b                                    (le_of_between)
-/

namespace HttpScript.Binary64

theorem divideEven_one (n : Nat) : divideEven n 1 = n := by
  simp [divideEven, Nat.mod_one]

theorem scaleRatio_of_nonpos (n : Nat) (e : Int) (h : e ≤ 0) :
    scaleRatio n 1 e = (n * 2 ^ (-e).toNat, 1) := by
  unfold scaleRatio
  by_cases h0 : 0 ≤ e
  · obtain rfl : e = 0 := by omega
    simp
  · simp [h0]

/-- The first `k` bits of a number that has `k + 1`, shifted to `m + 1` bits. -/
theorem shifted_bits (n k m : Nat) (hk : k ≤ m) (low : 2 ^ k ≤ n) (high : n < 2 ^ (k + 1)) :
    2 ^ m ≤ n * 2 ^ (m - k) ∧ n * 2 ^ (m - k) < 2 ^ (m + 1) := by
  have bottom : 2 ^ m = 2 ^ k * 2 ^ (m - k) := by
    rw [← Nat.pow_add]
    congr 1
    omega
  have top : 2 ^ (m + 1) = 2 ^ (k + 1) * 2 ^ (m - k) := by
    rw [← Nat.pow_add]
    congr 1
    omega
  rw [bottom, top]
  exact ⟨Nat.mul_le_mul_right _ low, Nat.mul_lt_mul_of_pos_right high (Nat.two_pow_pos _)⟩

theorem ratioExponent_of_lt (n : Nat) (pos : 0 < n) (small : n < Nat.pow 2 53) :
    ratioExponent n 1 = (Nat.log2 n : Int) - 52 := by
  have hk : Nat.log2 n < 53 := (Nat.log2_lt (by omega)).2 small
  have wide := (shifted_bits n (Nat.log2 n) 53 (by omega) (Nat.log2_self_le (by omega))
    Nat.lt_log2_self).1
  have guess : (Nat.log2 n : Int) - (Nat.log2 1 : Int) - 53 = (Nat.log2 n : Int) - 53 := by
    rw [show Nat.log2 1 = 0 by decide]
    omega
  have shift : (-((Nat.log2 n : Int) - 53)).toNat = 53 - Nat.log2 n := by omega
  have short : ¬ n * 2 ^ (53 - Nat.log2 n) < 1 * Nat.pow 2 53 := by
    rw [Nat.one_mul]
    exact Nat.not_lt.2 wide
  unfold ratioExponent
  simp only [guess, scaleRatio_of_nonpos n _ (by omega : (Nat.log2 n : Int) - 53 ≤ 0), shift,
    if_neg short]
  omega

/-- A natural number below `2 ^ 53` is stored as it is. -/
theorem ofNat_eq_finite (n : Nat) (pos : 0 < n) (small : n < Nat.pow 2 53) :
    ofNat n = .finite false (n * 2 ^ (52 - Nat.log2 n)) ((Nat.log2 n : Int) - 52) := by
  have hk : Nat.log2 n < 53 := (Nat.log2_lt (by omega)).2 small
  have narrow : n * 2 ^ (52 - Nat.log2 n) < 2 ^ 53 :=
    (shifted_bits n (Nat.log2 n) 52 (by omega) (Nat.log2_self_le (by omega)) Nat.lt_log2_self).2
  have shift : (-((Nat.log2 n : Int) - 52)).toNat = 52 - Nat.log2 n := by omega
  have fits : (n * 2 ^ (52 - Nat.log2 n) == Nat.pow 2 53) = false :=
    beq_false_of_ne (Nat.ne_of_lt narrow)
  have nonzero : (n == 0) = false := beq_false_of_ne (by omega)
  have finite : ¬ (Nat.log2 n : Int) - 52 > 971 := by omega
  unfold ofNat ofRatio
  rw [nonzero, if_neg Bool.false_ne_true, ratioExponent_of_lt n pos small]
  dsimp only
  rw [scaleRatio_of_nonpos n _ (by omega), shift, divideEven_one, fits,
    if_neg Bool.false_ne_true, if_neg finite]

end HttpScript.Binary64
