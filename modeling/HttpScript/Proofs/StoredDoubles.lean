import HttpScript.Number.Text
import Mathlib.Algebra.Order.Field.Power
import Mathlib.Data.Rat.Cast.Order
import Mathlib.Tactic.Positivity
import Mathlib.Tactic.Ring

/-!
# What the format stores

A number that is rounded is stored with 53 bits at most and with an exponent that the format has.

    0 < den → (ofRatio s num den).IsDouble                                (isDouble_ofRatio)
    (ofLiteral s).IsDouble                                                (isDouble_ofLiteral)

Powers with an integer for exponent are kept as two natural numbers, of which one is one. What they
say is compared as rational numbers.
-/

namespace HttpScript.Binary64

/-- Whether the format has the number. -/
def IsDouble : Binary64 → Prop
  | finite _ m e => m < 2 ^ 53 ∧ -1074 ≤ e ∧ e ≤ 971
  | _ => True

/-! ## Powers -/

/-- A power as the quotient of two natural powers. -/
theorem zpow_eq_toNat (b : Nat) (pos : 0 < b) (e : Int) :
    (b : ℚ) ^ e = ((b ^ e.toNat : Nat) : ℚ) / ((b ^ (-e).toNat : Nat) : ℚ) := by
  have nonzero : (b : ℚ) ≠ 0 := by exact_mod_cast pos.ne'
  rcases Int.le_total 0 e with h | h
  · obtain ⟨n, rfl⟩ := Int.eq_ofNat_of_zero_le h
    simp
  · obtain ⟨n, rfl⟩ : ∃ n : Nat, e = -n := ⟨(-e).toNat, by omega⟩
    simp

/-- A ratio is below a power if, multiplied out, it is. -/
theorem ratio_lt_zpow_iff (b : Nat) (pos : 0 < b) (num den : Nat) (hd : 0 < den) (e : Int) :
    (num : ℚ) / den < (b : ℚ) ^ e ↔ num * b ^ (-e).toNat < den * b ^ e.toNat := by
  have hb : (0 : ℚ) < ((b ^ (-e).toNat : Nat) : ℚ) := by exact_mod_cast Nat.pow_pos pos
  have hd' : (0 : ℚ) < den := by exact_mod_cast hd
  rw [zpow_eq_toNat b pos, div_lt_div_iff₀ hd' hb, Nat.mul_comm den]
  norm_cast

theorem zpow_le_ratio_iff (b : Nat) (pos : 0 < b) (num den : Nat) (hd : 0 < den) (e : Int) :
    (b : ℚ) ^ e ≤ (num : ℚ) / den ↔ den * b ^ e.toNat ≤ num * b ^ (-e).toNat := by
  rw [← not_lt, ratio_lt_zpow_iff b pos num den hd, not_lt]

/-! ## Rounding -/

theorem scaleRatio_eq (num den : Nat) (e : Int) :
    scaleRatio num den e = (num * 2 ^ (-e).toNat, den * 2 ^ e.toNat) := by
  unfold scaleRatio
  split
  · next h => simp [show (-e).toNat = 0 by omega]
  · next h => simp [show e.toNat = 0 by omega]

theorem ratio_eq (m : Nat) (e : Int) : ratio m e = (m * 2 ^ e.toNat, 2 ^ (-e).toNat) := by
  unfold ratio
  split
  · next h => simp [show (-e).toNat = 0 by omega]
  · next h => simp [show e.toNat = 0 by omega]

/-- The value of a finite number without its sign. -/
theorem ratio_value (m : Nat) (e : Int) :
    ((ratio m e).1 : ℚ) / (ratio m e).2 = m * (2 : ℚ) ^ e := by
  have power := zpow_eq_toNat 2 (by decide) e
  rw [ratio_eq, show (2 : ℚ) = ((2 : Nat) : ℚ) by norm_num, power]
  push_cast
  ring

/-- The counts of bits bound a ratio from both sides. -/
theorem ratio_bounds (num den : Nat) (hn : 0 < num) (hd : 0 < den) :
    (2 : ℚ) ^ ((Nat.log2 num : Int) - Nat.log2 den - 1) ≤ (num : ℚ) / den ∧
      (num : ℚ) / den < (2 : ℚ) ^ ((Nat.log2 num : Int) - Nat.log2 den + 1) := by
  have two : (2 : ℚ) ≠ 0 := by decide
  have low : (2 : ℚ) ^ (Nat.log2 num : Int) ≤ num := by
    exact_mod_cast Nat.log2_self_le hn.ne'
  have high : (num : ℚ) < (2 : ℚ) ^ ((Nat.log2 num : Int) + 1) := by
    exact_mod_cast Nat.lt_log2_self (n := num)
  have low' : (2 : ℚ) ^ (Nat.log2 den : Int) ≤ den := by
    exact_mod_cast Nat.log2_self_le hd.ne'
  have high' : (den : ℚ) < (2 : ℚ) ^ ((Nat.log2 den : Int) + 1) := by
    exact_mod_cast Nat.lt_log2_self (n := den)
  have pos : (0 : ℚ) < den := by exact_mod_cast hd
  generalize (Nat.log2 num : Int) = k at *
  generalize (Nat.log2 den : Int) = l at *
  constructor
  · rw [le_div_iff₀ pos]
    calc (2 : ℚ) ^ (k - l - 1) * den
        ≤ (2 : ℚ) ^ (k - l - 1) * (2 : ℚ) ^ (l + 1) := by gcongr
      _ = (2 : ℚ) ^ k := by rw [← zpow_add₀ two]; congr 1; ring
      _ ≤ num := low
  · rw [div_lt_iff₀ pos]
    calc (num : ℚ) < (2 : ℚ) ^ (k + 1) := high
      _ = (2 : ℚ) ^ (k - l + 1) * (2 : ℚ) ^ l := by rw [← zpow_add₀ two]; congr 1; ring
      _ ≤ (2 : ℚ) ^ (k - l + 1) * den := by gcongr

/-- The exponent leaves 53 bits at most. -/
theorem ratioExponent_spec (num den : Nat) (hn : 0 < num) (hd : 0 < den) :
    -1074 ≤ ratioExponent num den ∧
      num * 2 ^ (-ratioExponent num den).toNat <
        den * 2 ^ (ratioExponent num den).toNat * 2 ^ 53 := by
  have fits_iff (e : Int) : num * 2 ^ (-e).toNat < den * 2 ^ e.toNat * 2 ^ 53 ↔
      (num : ℚ) / den < (2 : ℚ) ^ (e + 53) := by
    have scaled := ratio_lt_zpow_iff 2 (by decide) num (den * 2 ^ 53) (by positivity) e
    rw [Nat.mul_right_comm, ← scaled, zpow_add₀ (by decide)]
    have pos : (0 : ℚ) < den := by exact_mod_cast hd
    push_cast
    rw [div_lt_iff₀ (by positivity), div_lt_iff₀ pos]
    constructor <;> (intro h; calc (num : ℚ) < _ := h
      _ = _ := by ring)
  have grows {e f : Int} (le : e ≤ f) (h : (num : ℚ) / den < (2 : ℚ) ^ (e + 53)) :
      (num : ℚ) / den < (2 : ℚ) ^ (f + 53) :=
    h.trans_le (zpow_le_zpow_right₀ (by norm_num) (by omega))
  rw [fits_iff]
  unfold ratioExponent
  simp only [scaleRatio_eq]
  refine ⟨le_max_right _ _, ?_⟩
  split
  · next fits => exact grows (le_max_left _ _) ((fits_iff _).1 fits)
  · refine grows (le_max_left _ _) ?_
    have bound := (ratio_bounds num den hn hd).2
    rwa [show (Nat.log2 num : Int) - Nat.log2 den - 53 + 1 + 53 =
      (Nat.log2 num : Int) - Nat.log2 den + 1 by ring]

theorem divideEven_le (num den b : Nat) (below : num < den * b) : divideEven num den ≤ b := by
  have quotient : num / den < b := Nat.div_lt_of_lt_mul below
  unfold divideEven
  dsimp only
  split
  · omega
  split
  · omega
  split <;> omega

theorem isDouble_zero (s : Bool) : (zero s).IsDouble := ⟨Nat.two_pow_pos 53, le_rfl, by decide⟩

/-- What is rounded is stored. -/
theorem isDouble_ofRatio (s : Bool) (num den : Nat) (hd : 0 < den) :
    (ofRatio s num den).IsDouble := by
  unfold ofRatio
  split
  · exact isDouble_zero s
  next nonzero =>
  have hn : 0 < num := Nat.pos_of_ne_zero (by simpa using nonzero)
  extract_lets e
  obtain ⟨least, bits⟩ : -1074 ≤ e ∧ num * 2 ^ (-e).toNat < den * 2 ^ e.toNat * 2 ^ 53 :=
    ratioExponent_spec num den hn hd
  clear_value e
  split
  next n d scaled =>
  rw [scaleRatio_eq] at scaled
  obtain ⟨rfl, rfl⟩ := Prod.mk.inj scaled
  extract_lets m
  have fits : m ≤ 2 ^ 53 := divideEven_le _ _ _ bits
  clear_value m
  by_cases carried : (m == Nat.pow 2 53) = true
  · rw [if_pos carried]
    dsimp only
    split
    · exact trivial
    · exact ⟨Nat.pow_lt_pow_right (by decide) (by decide), by omega, by omega⟩
  · rw [if_neg carried]
    dsimp only
    rw [beq_iff_eq, Nat.pow_eq] at carried
    split
    · exact trivial
    · exact ⟨by omega, least, by omega⟩

theorem isDouble_ofNat (n : Nat) : (ofNat n).IsDouble := isDouble_ofRatio false n 1 Nat.one_pos

theorem isDouble_ofDecimal (s : Bool) (digits : Nat) (exponent : Int) :
    (ofDecimal s digits exponent).IsDouble := by
  unfold ofDecimal
  dsimp only
  split
  · exact isDouble_zero s
  split
  · exact trivial
  split
  · exact isDouble_zero s
  split
  · exact isDouble_ofRatio _ _ _ Nat.one_pos
  · exact isDouble_ofRatio _ _ _ (Nat.pow_pos (by decide))

/-- A decimal is read as a number that the format has. -/
theorem isDouble_ofLiteral (literal : String) : (ofLiteral literal).IsDouble :=
  isDouble_ofDecimal _ _ _

end HttpScript.Binary64
