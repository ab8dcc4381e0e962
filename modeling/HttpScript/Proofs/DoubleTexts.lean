import HttpScript.Proofs.JsonWriting
import HttpScript.Proofs.StoredDoubles
import HttpScript.Proofs.WholeNumbers
import Mathlib.Data.List.DropRight
import Mathlib.Tactic.FieldSimp
import Mathlib.Tactic.Linarith

/-!
# Texts of doubles

Every finite double is written as a number that JSON knows. Seventeen digits always tell it from its
neighbours: the last of them counts less than the distance to the next double, because the first one
is not above the number.

    10 ^ (point - 1) ≤ m * 2 ^ e → ∃ d, nearestOnGrid? m e point 17 = some d
                                                              (exists_nearestOnGrid?)
    d.IsDouble → d.isFinite → IsNumber d.text                               (isNumber_text)
-/

namespace HttpScript.Binary64

open Json (IsDigits IsWhole IsPlaces IsExponent IsNumber)

/-! ## The place of the point -/

/-- Ten bits are more than three digits. -/
theorem zpow_ten_le_of_nonneg {a b : Int} (nonneg : 0 ≤ b) (h : 10 * a ≤ 3 * b) :
    (10 : ℚ) ^ a ≤ (2 : ℚ) ^ b := by
  have ten : (1 : ℚ) ≤ 10 := by norm_num
  refine (pow_le_pow_iff_left₀ (by positivity) (by positivity) (by decide : (10 : Nat) ≠ 0)).1 ?_
  calc ((10 : ℚ) ^ a) ^ 10 = (10 : ℚ) ^ (10 * a) := by
        rw [← zpow_natCast, ← zpow_mul, mul_comm]
        rfl
    _ ≤ (10 : ℚ) ^ (3 * b) := zpow_le_zpow_right₀ ten h
    _ = ((10 : ℚ) ^ 3) ^ b := by rw [zpow_mul]; rfl
    _ ≤ ((2 : ℚ) ^ 10) ^ b := zpow_le_zpow_left₀ nonneg (by norm_num) (by norm_num)
    _ = ((2 : ℚ) ^ b) ^ 10 := by
        rw [← zpow_natCast, ← zpow_natCast, ← zpow_mul, ← zpow_mul, mul_comm]

/-- Ninety-three bits are less than twenty-eight digits. -/
theorem zpow_ten_le_of_nonpos {a b : Int} (nonpos : b ≤ 0) (h : 93 * a ≤ 28 * b) :
    (10 : ℚ) ^ a ≤ (2 : ℚ) ^ b := by
  have ten : (1 : ℚ) ≤ 10 := by norm_num
  obtain ⟨n, rfl⟩ : ∃ n : Nat, b = -n := ⟨(-b).toNat, by omega⟩
  refine (pow_le_pow_iff_left₀ (by positivity) (by positivity) (by decide : (93 : Nat) ≠ 0)).1 ?_
  calc ((10 : ℚ) ^ a) ^ 93 = (10 : ℚ) ^ (93 * a) := by
        rw [← zpow_natCast, ← zpow_mul, mul_comm]
        rfl
    _ ≤ (10 : ℚ) ^ (28 * -(n : Int)) := zpow_le_zpow_right₀ ten h
    _ = (((10 : ℚ) ^ 28) ^ n)⁻¹ := by
        rw [mul_neg, zpow_neg, zpow_mul]
        rfl
    _ ≤ (((2 : ℚ) ^ 93) ^ n)⁻¹ := by
        refine inv_anti₀ (by positivity) (pow_le_pow_left₀ (by norm_num) (by norm_num) n)
    _ = ((2 : ℚ) ^ (-(n : Int))) ^ 93 := by
        rw [zpow_neg, inv_pow, zpow_natCast, ← pow_mul, ← pow_mul, mul_comm]

/-- The estimate from the counts of bits is not too high. -/
theorem estimate_low (k : Int) (least : -1074 ≤ k) (greatest : k ≤ 1024) :
    (10 : ℚ) ^ (k * 30103 / 100000 - 1 - 1) ≤ (2 : ℚ) ^ (k - 1) := by
  rcases Int.le_total 0 (k - 1) with nonneg | nonpos
  · exact zpow_ten_le_of_nonneg nonneg (by omega)
  · exact zpow_ten_le_of_nonpos nonpos (by omega)

/-- Counting up stays behind the first digit. -/
theorem climbPoint_low (num den fuel : Nat) (hd : 0 < den) (p : Int)
    (low : (10 : ℚ) ^ (p - 1) ≤ (num : ℚ) / den) :
    (10 : ℚ) ^ (climbPoint num den fuel p - 1) ≤ (num : ℚ) / den := by
  induction fuel generalizing p with
  | zero => exact low
  | succ fuel ih =>
    have reached : (if 0 ≤ p then den * Nat.pow 10 p.toNat ≤ num
        else den ≤ num * Nat.pow 10 (-p).toNat) ↔ den * 10 ^ p.toNat ≤ num * 10 ^ (-p).toNat := by
      split
      · next nonneg => simp [show (-p).toNat = 0 by omega]
      · next negative => simp [show p.toNat = 0 by omega]
    rw [climbPoint, if_congr reached rfl rfl]
    split
    · next higher =>
      refine ih (p + 1) ?_
      rw [Int.add_sub_cancel]
      exact (zpow_le_ratio_iff 10 (by decide) num den hd p).2 higher
    · exact low

/-- The first digit of a number is not above it. -/
theorem pointOf_low (m : Nat) (e : Int) (pos : 0 < m) (bits : m < 2 ^ 53) (least : -1074 ≤ e)
    (greatest : e ≤ 971) :
    (10 : ℚ) ^ (pointOf (ratio m e).1 (ratio m e).2 - 1) ≤ m * (2 : ℚ) ^ e := by
  have value := ratio_value m e
  rw [ratio_eq] at value ⊢
  dsimp only at value ⊢
  have hn : 0 < m * 2 ^ e.toNat := Nat.mul_pos pos (Nat.two_pow_pos _)
  have hd : 0 < 2 ^ (-e).toNat := Nat.two_pow_pos _
  have many : Nat.log2 (m * 2 ^ e.toNat) < 1024 := by
    refine (Nat.log2_lt hn.ne').2 ?_
    calc m * 2 ^ e.toNat < 2 ^ 53 * 2 ^ e.toNat := Nat.mul_lt_mul_of_pos_right bits (by positivity)
      _ = 2 ^ (53 + e.toNat) := (Nat.pow_add 2 53 _).symm
      _ ≤ 2 ^ 1024 := Nat.pow_le_pow_right (by decide) (by omega)
  have few : Nat.log2 (2 ^ (-e).toNat) = (-e).toNat := Nat.log2_two_pow
  rw [← value]
  refine climbPoint_low _ _ _ hd _ ((estimate_low _ (by omega) (by omega)).trans ?_)
  exact (ratio_bounds _ _ hn hd).1

/-! ## Seventeen digits -/

theorem divideEven_near (num den : Nat) (hd : 0 < den) :
    2 * num ≤ 2 * (divideEven num den * den) + den ∧
      2 * (divideEven num den * den) ≤ 2 * num + den := by
  have whole := Nat.div_add_mod num den
  have rest := Nat.mod_lt num hd
  rw [Nat.mul_comm] at whole
  have more : (num / den + 1) * den = num / den * den + den := Nat.succ_mul _ _
  unfold divideEven
  dsimp only
  split
  · omega
  split
  · omega
  split <;> omega

/-- Whether the decimal with these digits reads back, with the units of binary and decimal places
as a ratio. -/
def readsBack (m : Nat) (e : Int) (num den d : Nat) : Bool :=
  if m % 2 == 0 then
    (roundingBounds m e).1 * num ≤ d * den && d * den ≤ (roundingBounds m e).2 * num
  else (roundingBounds m e).1 * num < d * den && d * den < (roundingBounds m e).2 * num

theorem nearestOnGrid?_eq (m : Nat) (e point : Int) (count : Nat) :
    nearestOnGrid? m e point count =
      let num := 2 ^ e.toNat * 10 ^ (-(point - count)).toNat
      let den := 4 * 2 ^ (-e).toNat * 10 ^ (point - count).toNat
      let below := 4 * m * num / den
      if readsBack m e num den (divideEven (4 * m * num) den) then
        some (divideEven (4 * m * num) den)
      else if readsBack m e num den below then some below
      else if readsBack m e num den (below + 1) then some (below + 1)
      else none := by
  rfl

/-- The nearest decimal reads back where its last place counts less than the distance to the next
double, and at most half as much in front of a power of two. -/
theorem readsBack_nearest (m : Nat) (e : Int) (num den : Nat) (pos : 0 < m) (hd : 0 < den)
    (fine : den < 4 * num) (finer : m = 2 ^ 52 → den ≤ 2 * num) :
    readsBack m e num den (divideEven (4 * m * num) den) = true := by
  obtain ⟨low, high⟩ := divideEven_near (4 * m * num) den hd
  have two : (4 * m - 2) * num + 2 * num = 4 * m * num := by
    rw [← Nat.add_mul, Nat.sub_add_cancel (by omega)]
  have one : (4 * m - 1) * num + num = 4 * m * num := by
    rw [← Nat.succ_mul, Nat.succ_eq_add_one, Nat.sub_add_cancel (by omega)]
  have above : (4 * m + 2) * num = 4 * m * num + 2 * num := Nat.add_mul _ _ _
  unfold readsBack roundingBounds
  by_cases power : (m == Nat.pow 2 52 && e != -1074) = true
  · rw [if_pos power]
    rw [Bool.and_eq_true, beq_iff_eq] at power
    have even : (m % 2 == 0) = true := by rw [power.1]; rfl
    rw [if_pos even, Bool.and_eq_true, decide_eq_true_eq, decide_eq_true_eq]
    have half := finer power.1
    dsimp only
    omega
  · rw [if_neg power]
    dsimp only
    split <;>
      (rw [Bool.and_eq_true, decide_eq_true_eq, decide_eq_true_eq]
       omega)

theorem pos_of_readsBack {m : Nat} {e : Int} {num den d : Nat} (pos : 0 < m) (hn : 0 < num)
    (h : readsBack m e num den d = true) : 0 < d := by
  have low := (roundingBounds_around m e pos).1
  have some_ : 0 < (roundingBounds m e).1 * num := Nat.mul_pos (by omega) hn
  rcases Nat.eq_zero_or_pos d with rfl | hd
  · unfold readsBack at h
    split at h <;>
      (rw [Bool.and_eq_true, decide_eq_true_eq, Nat.zero_mul] at h
       omega)
  · exact hd

/-- A unit sixteen places behind the first digit is small enough. -/
theorem unit_small (m : Nat) (e g : Int) (bits : m < 2 ^ 53)
    (low : (10 : ℚ) ^ (g + 16) ≤ m * (2 : ℚ) ^ e) :
    let num := 2 ^ e.toNat * 10 ^ (-g).toNat
    let den := 4 * 2 ^ (-e).toNat * 10 ^ g.toNat
    den < 4 * num ∧ (m = 2 ^ 52 → den ≤ 2 * num) := by
  intro num den
  have units : (num : ℚ) * (4 * (10 : ℚ) ^ g) = den * (2 : ℚ) ^ e := by
    have ten := zpow_eq_toNat 10 (by decide) g
    have two := zpow_eq_toNat 2 (by decide) e
    simp only [Nat.cast_ofNat] at ten two
    rw [ten, two]
    simp only [num, den]
    push_cast
    field_simp
  rw [zpow_add₀ (by norm_num)] at low
  generalize (10 : ℚ) ^ g = u at low units
  have hb : (0 : ℚ) < (2 : ℚ) ^ e := by positivity
  generalize (2 : ℚ) ^ e = b at low units hb
  have hn : (0 : ℚ) < num := by positivity
  have places : (10 : ℚ) ^ (16 : Int) = 10 ^ 16 := rfl
  rw [places] at low
  constructor
  · have small : (m : ℚ) < 2 ^ 53 := by exact_mod_cast bits
    have fine : u < b := by nlinarith
    have wide : (den : ℚ) * b < 4 * num * b := by nlinarith
    exact_mod_cast lt_of_mul_lt_mul_right wide hb.le
  · rintro rfl
    have fine : 2 * u ≤ b := by
      push_cast at low
      linarith
    have wide : (den : ℚ) * b ≤ 2 * num * b := by nlinarith
    exact_mod_cast le_of_mul_le_mul_right wide hb

theorem exists_nearestOnGrid? (m : Nat) (e point : Int) (pos : 0 < m) (bits : m < 2 ^ 53)
    (low : (10 : ℚ) ^ (point - 1) ≤ m * (2 : ℚ) ^ e) :
    ∃ d, nearestOnGrid? m e point 17 = some d := by
  rw [show point - 1 = point - (17 : Nat) + 16 by push_cast; ring] at low
  obtain ⟨fine, finer⟩ := unit_small m e _ bits low
  rw [nearestOnGrid?_eq]
  dsimp only
  rw [if_pos (readsBack_nearest m e _ _ pos (by positivity) fine finer)]
  exact ⟨_, rfl⟩

theorem pos_of_nearestOnGrid? {m : Nat} {e point : Int} {count d : Nat} (pos : 0 < m)
    (h : nearestOnGrid? m e point count = some d) : 0 < d := by
  rw [nearestOnGrid?_eq] at h
  have hn : 0 < 2 ^ e.toNat * 10 ^ (-(point - count)).toNat := by positivity
  dsimp only at h
  split at h
  · next back => exact Option.some.inj h ▸ pos_of_readsBack pos hn back
  split at h
  · next back => exact Option.some.inj h ▸ pos_of_readsBack pos hn back
  split at h
  · next back => exact Option.some.inj h ▸ pos_of_readsBack pos hn back
  · cases h

/-- The search ends where a decimal reads back. -/
theorem exists_shortestFrom {m : Nat} {e point : Int} {fuel count c d : Nat} (from_ : count ≤ c)
    (inside : c < count + fuel) (found : nearestOnGrid? m e point c = some d) :
    ∃ c' d', shortestFrom m e point fuel count = (c', d') ∧
      nearestOnGrid? m e point c' = some d' := by
  induction fuel generalizing count with
  | zero => omega
  | succ fuel ih =>
    rw [shortestFrom]
    cases here : nearestOnGrid? m e point count with
    | some d' => exact ⟨count, d', rfl, here⟩
    | none =>
      have later : count ≠ c := by
        rintro rfl
        rw [found] at here
        cases here
      exact ih (by omega) (by omega)

/-! ## Digits -/

theorem head?_toDigits (n : Nat) (pos : 0 < n) : (Nat.toDigits 10 n).head? ≠ some '0' := by
  induction n using Nat.strongRecOn with
  | ind n ih =>
    rw [Nat.toDigits_eq_if (by decide)]
    split
    · next small => interval_cases n <;> decide
    · rw [List.head?_append_of_ne_nil _ Nat.toDigits_ne_nil]
      exact ih (n / 10) (by omega) (by omega)

theorem isDigits_toDigits (n : Nat) : IsDigits (Nat.toDigits 10 n) :=
  ⟨Nat.toDigits_ne_nil, fun _ => Nat.isDigit_of_mem_toDigits (by decide) (by decide)⟩

/-- Digits in front of which no zero stands. -/
structure Leads (ds : List Char) : Prop where
  digits : IsDigits ds
  lead : ds.head? ≠ some '0'

/-- Without the zeros at its end, a positive number has digits left. -/
theorem leads_stripped (n : Nat) (pos : 0 < n) :
    Leads ((Nat.toDigits 10 n).reverse.dropWhile (· == '0')).reverse := by
  have part : (Nat.toDigits 10 n).rdropWhile (· == '0') <+: Nat.toDigits 10 n :=
    List.rdropWhile_prefix _ _
  have lead := head?_toDigits n pos
  have nonempty : (Nat.toDigits 10 n).rdropWhile (· == '0') ≠ [] := by
    rw [Ne, List.rdropWhile_eq_nil_iff]
    intro zeros
    obtain ⟨c, cs, shape⟩ := List.exists_cons_of_ne_nil (isDigits_toDigits n).1
    rw [shape] at zeros lead
    exact lead (congrArg some (eq_of_beq (zeros c List.mem_cons_self)))
  show Leads ((Nat.toDigits 10 n).rdropWhile (· == '0'))
  obtain ⟨rest, shape⟩ := part
  rw [← shape, List.head?_append_of_ne_nil _ nonempty] at lead
  refine ⟨⟨nonempty, fun c hc => (isDigits_toDigits n).2 c ?_⟩, lead⟩
  rw [← shape]
  exact List.mem_append_left _ hc

theorem leads_shortest (m : Nat) (e : Int) (pos : 0 < m) (bits : m < 2 ^ 53) (least : -1074 ≤ e)
    (greatest : e ≤ 971) : Leads (shortest m e).1 := by
  have low := pointOf_low m e pos bits least greatest
  obtain ⟨d, last⟩ := exists_nearestOnGrid? m e _ pos bits low
  obtain ⟨count, d, found, back⟩ : ∃ count d, shortestFrom m e _ 17 1 = (count, d) ∧
      nearestOnGrid? m e _ count = some d :=
    exists_shortestFrom (by decide) (by decide) last
  have shape : (shortest m e).1 = ((Nat.toDigits 10 d).reverse.dropWhile (· == '0')).reverse := by
    unfold shortest
    dsimp only
    rw [found]
  rw [shape]
  exact leads_stripped d (pos_of_nearestOnGrid? pos back)

/-! ## Layout -/

theorem isDigits_zeros_append (n : Nat) {ds : List Char} (digits : IsDigits ds) :
    IsDigits (List.replicate n '0' ++ ds) := by
  refine ⟨by simp [digits.1], fun c hc => ?_⟩
  rcases List.mem_append.1 hc with hc | hc
  · rw [List.eq_of_mem_replicate hc]
    rfl
  · exact digits.2 c hc

theorem isDigits_append_zeros {ds : List Char} (digits : IsDigits ds) (n : Nat) :
    IsDigits (ds ++ List.replicate n '0') := by
  refine ⟨by simp [digits.1], fun c hc => ?_⟩
  rcases List.mem_append.1 hc with hc | hc
  · exact digits.2 c hc
  · rw [List.eq_of_mem_replicate hc]
    rfl

theorem isDigits_of_subset {ds ws : List Char} (digits : IsDigits ds) (some_ : ws ≠ [])
    (sub : ws ⊆ ds) : IsDigits ws := ⟨some_, fun c hc => digits.2 c (sub hc)⟩

theorem isWhole_zero : IsWhole ['0'] := ⟨by decide, fun _ => rfl⟩

/-- Digits that are laid out are the parts of a number in JSON. -/
theorem layout_parts (ds : List Char) (point : Int) (h : Leads ds) :
    ∃ whole places exponent, IsWhole whole ∧ IsPlaces places ∧ IsExponent exponent ∧
      layout ds point = whole ++ (places ++ exponent) := by
  obtain ⟨digits, lead⟩ := h
  have leads {ws : List Char} (hw : IsDigits ws) (same : ws.head? = ds.head?) : IsWhole ws :=
    ⟨hw, fun zero => absurd (same.symm.trans zero) lead⟩
  have exponent (e : Int) : IsExponent
      ('e' :: (if e < 0 then '-' else '+') :: Nat.toDigits 10 e.natAbs) := by
    refine .inr ⟨'e', [if e < 0 then '-' else '+'], _, by simp, ?_, isDigits_toDigits _, rfl⟩
    split <;> simp
  unfold layout
  dsimp only
  by_cases long : ((ds.length : Int) ≤ point && point ≤ 21) = true
  · rw [if_pos long]
    have whole := isDigits_append_zeros digits (point - ds.length).toNat
    exact ⟨_, [], [], leads whole (List.head?_append_of_ne_nil _ digits.1), .inl rfl, .inl rfl,
      (List.append_nil _).symm⟩
  rw [if_neg long]
  by_cases inside : (0 < point && point ≤ 21) = true
  · rw [if_pos inside]
    rw [Bool.and_eq_true, decide_eq_true_eq, decide_eq_true_eq] at inside long
    have before : ds.take point.toNat ≠ [] := by
      rw [Ne, List.take_eq_nil_iff]
      exact not_or.2 ⟨by omega, digits.1⟩
    have behind : ds.drop point.toNat ≠ [] := by
      rw [Ne, List.drop_eq_nil_iff]
      omega
    have head : (ds.take point.toNat).head? = ds.head? := by
      rw [List.head?_take, if_neg (by omega)]
    exact ⟨ds.take point.toNat, '.' :: ds.drop point.toNat, [],
      leads (isDigits_of_subset digits before (List.take_subset _ _)) head,
      .inr ⟨_, isDigits_of_subset digits behind (List.drop_subset _ _), rfl⟩, .inl rfl, by simp⟩
  rw [if_neg inside]
  by_cases small : (-6 < point && point ≤ 0) = true
  · rw [if_pos small]
    have places := isDigits_zeros_append (-point).toNat digits
    exact ⟨['0'], _, [], isWhole_zero, .inr ⟨_, places, rfl⟩, .inl rfl, by simp⟩
  · rw [if_neg small]
    match ds with
    | [] => exact absurd rfl digits.1
    | [d] => exact ⟨[d], [], _, leads digits rfl, .inl rfl, exponent _, rfl⟩
    | d :: c :: r =>
      have first : IsDigits [d] := isDigits_of_subset digits (by simp) (by simp)
      have rest : IsDigits (c :: r) :=
        isDigits_of_subset digits (by simp) (List.subset_cons_self _ _)
      exact ⟨[d], _, _, leads first rfl, .inr ⟨_, rest, rfl⟩, exponent _, rfl⟩

/-- A finite double is written as a number of JSON. -/
theorem isNumber_text {x : Binary64} (stored : x.IsDouble) (finite_ : x.isFinite = true) :
    IsNumber x.text := by
  cases x with
  | nan => cases finite_
  | infinity _ => cases finite_
  | finite s m e =>
    obtain ⟨bits, least, greatest⟩ := stored
    rw [text]
    by_cases zero : (m == 0) = true
    · rw [if_pos zero]
      exact ⟨[], ['0'], [], [], by decide, isWhole_zero, .inl rfl, .inl rfl, rfl⟩
    · rw [if_neg zero]
      have pos : 0 < m := Nat.pos_of_ne_zero (by simpa using zero)
      obtain ⟨whole, places, exponent, hw, hp, he, shape⟩ :=
        layout_parts _ (shortest m e).2 (leads_shortest m e pos bits least greatest)
      dsimp only
      rw [shape]
      cases s with
      | false => exact ⟨[], whole, places, exponent, by decide, hw, hp, he, by simp⟩
      | true => exact ⟨['-'], whole, places, exponent, by decide, hw, hp, he, by simp⟩

end HttpScript.Binary64
