import Mathlib.Algebra.Order.Field.Power
import Mathlib.Data.Rat.Defs
import Mathlib.Tactic.Linarith
import Mathlib.Tactic.NormNum
import Mathlib.Tactic.Positivity
import Mathlib.Tactic.Ring
import Provision.Double.Shortest

/-!
# The shortest decimal has digits

The search for the shortest decimal of a double passes over grids that are too coarse for
it. The last of them is far finer than the double, so what the search ends with is never
zero, whichever grid it is on.
-/

set_option autoImplicit false

namespace Provision

namespace Decimal

theorem dropZeros_digits_pos (fuel digits : Nat) (e : Int) (h : 0 < digits) :
    0 < (dropZeros fuel digits e).digits := by
  induction fuel generalizing digits e with
  | zero => exact h
  | succ fuel ih =>
    rw [dropZeros]
    by_cases hz : digits % 10 = 0
    · rw [if_pos hz]
      apply ih
      omega
    · rw [if_neg hz]
      exact h

end Decimal

namespace Rounding

theorem tenPower_eq (k : Int) :
    ((tenPower k).1 : ℚ) = (10 : ℚ) ^ k * (tenPower k).2 := by
  by_cases hk : 0 ≤ k
  · obtain ⟨n, rfl⟩ := Int.eq_ofNat_of_zero_le hk
    simp [tenPower]
  · obtain ⟨n, rfl⟩ : ∃ n : Nat, k = -(n : Int) := ⟨(-k).toNat, by omega⟩
    rw [tenPower, if_neg hk]
    simp

theorem tenPower_pos (k : Int) : 0 < (tenPower k).1 ∧ 0 < (tenPower k).2 := by
  unfold tenPower
  split <;> simp

/-- A search that ends on a grid no coarser than the number ends with digits. -/
theorem search_digits_pos (r : Rounding) (tie : Tie) (fuel : Nat) (k : Int) (hd : 0 < r.den)
    (h : (tenPower (k - fuel)).1 * r.den ≤ r.value * (tenPower (k - fuel)).2) :
    0 < (search r tie fuel k).digits := by
  induction fuel generalizing k with
  | zero =>
    have hk : k - (0 : Nat) = k := by omega
    rw [hk] at h
    exact Nat.div_pos h (Nat.mul_pos (tenPower_pos k).1 hd)
  | succ fuel ih =>
    have hk : k - 1 - (fuel : Int) = k - ((fuel + 1 : Nat) : Int) := by omega
    have hnext := ih (k - 1) (by rw [hk]; exact h)
    rw [search]
    split
    · next d _ =>
      by_cases hz : d = 0
      · rw [if_pos hz]
        exact hnext
      · rw [if_neg hz]
        exact Decimal.dropZeros_digits_pos 20 d k (by omega)
    · exact hnext

theorem ofDouble_den_pos (x : Double) : 0 < (ofDouble x).den := by
  unfold ofDouble
  dsimp only
  split <;> simp

theorem ofDouble_value (x : Double) :
    ((ofDouble x).value : ℚ) = x.significand * (2 : ℚ) ^ x.exponent * (ofDouble x).den := by
  have hexp : (2 : ℚ) ^ x.exponent = 4 * (2 : ℚ) ^ (x.exponent - 2) := by
    rw [zpow_sub₀ (by norm_num)]
    norm_num
    ring
  rw [hexp]
  unfold ofDouble
  by_cases h : 0 ≤ x.exponent - 2
  · obtain ⟨n, hn⟩ := Int.eq_ofNat_of_zero_le h
    simp only [hn, Nat.cast_nonneg, if_true, Int.toNat_natCast, Nat.pow_eq, Nat.cast_mul,
      Nat.cast_ofNat, Nat.cast_pow, zpow_natCast, Nat.cast_one, mul_one]
    ring
  · obtain ⟨n, hn⟩ : ∃ n : Nat, x.exponent - 2 = -(n : Int) :=
      ⟨(-(x.exponent - 2)).toNat, by omega⟩
    have hneg : ¬ 0 ≤ -(n : Int) := by omega
    have hone : ((2 : ℚ) ^ n)⁻¹ * 2 ^ n = 1 := inv_mul_cancel₀ (by positivity)
    simp only [hn, hneg, if_false]
    simp only [zpow_neg, zpow_natCast, neg_neg, Int.toNat_natCast, Nat.pow_eq, Nat.cast_pow,
      Nat.cast_mul, Nat.cast_ofNat, mul_one]
    rw [← mul_assoc, mul_assoc, hone, mul_one, mul_comm]

end Rounding

namespace Double

/-- Powers of ten against powers of two: `10 ^ 3` is below `2 ^ 10`, and `10 ^ 10` above
`2 ^ 33`. -/
theorem tenPower_le_twoPower (k b : Int) (hpos : 0 ≤ k → 10 * k ≤ 3 * b)
    (hneg : k < 0 → 33 * k ≤ 10 * b) : (10 : ℚ) ^ k ≤ (2 : ℚ) ^ b := by
  have h10 : (0 : ℚ) ≤ (10 : ℚ) ^ k := by positivity
  have h2 : (0 : ℚ) ≤ (2 : ℚ) ^ b := by positivity
  by_cases hk : 0 ≤ k
  · have hcube : ((10 : ℚ) ^ k) ^ 3 ≤ ((2 : ℚ) ^ b) ^ 3 := by
      calc ((10 : ℚ) ^ k) ^ 3 = ((10 : ℚ) ^ 3) ^ k := by
            rw [← zpow_natCast, ← zpow_natCast, ← zpow_mul, ← zpow_mul, mul_comm]
        _ ≤ ((2 : ℚ) ^ 10) ^ k := zpow_le_zpow_left₀ hk (by norm_num) (by norm_num)
        _ = (2 : ℚ) ^ (10 * k) := by rw [← zpow_natCast, ← zpow_mul]; norm_num
        _ ≤ (2 : ℚ) ^ (3 * b) := zpow_le_zpow_right₀ (by norm_num) (hpos hk)
        _ = ((2 : ℚ) ^ b) ^ 3 := by rw [← zpow_natCast, ← zpow_mul, mul_comm]; norm_num
    exact (pow_le_pow_iff_left₀ h10 h2 (by norm_num)).mp hcube
  · have hlt : k < 0 := by omega
    have htenth : ((10 : ℚ) ^ k) ^ 10 ≤ ((2 : ℚ) ^ b) ^ 10 := by
      calc ((10 : ℚ) ^ k) ^ 10 = (((10 : ℚ) ^ 10) ^ (-k))⁻¹ := by
            rw [← zpow_natCast, ← zpow_natCast, ← zpow_mul, ← zpow_mul, ← zpow_neg]
            congr 1
            ring
        _ ≤ (((2 : ℚ) ^ 33) ^ (-k))⁻¹ := by
            apply inv_anti₀ (by positivity)
            exact zpow_le_zpow_left₀ (by omega) (by norm_num) (by norm_num)
        _ = (2 : ℚ) ^ (33 * k) := by
            rw [← zpow_natCast, ← zpow_mul, ← zpow_neg]
            congr 1
            norm_num
        _ ≤ (2 : ℚ) ^ (10 * b) := zpow_le_zpow_right₀ (by norm_num) (hneg hlt)
        _ = ((2 : ℚ) ^ b) ^ 10 := by rw [← zpow_natCast, ← zpow_mul, mul_comm]; norm_num
    exact (pow_le_pow_iff_left₀ h10 h2 (by norm_num)).mp htenth

theorem significand_pos (x : Double) (hz : x.isZero = false) : 0 < x.significand := by
  unfold significand
  by_cases hf : x.field = 0
  · rw [if_pos hf]
    have hne : x.fraction ≠ 0 := by
      intro h
      simp [isZero, hf, h] at hz
    omega
  · rw [if_neg hf]
    omega

theorem significand_lt (x : Double) : x.significand < 2 ^ 53 := by
  have hf : x.fraction < 0x10000000000000 := Nat.mod_lt _ (by decide)
  unfold significand
  split <;> omega

theorem exponent_bounds (x : Double) (hx : x.isFinite = true) :
    -1074 ≤ x.exponent ∧ x.exponent ≤ 971 := by
  have hlt : x.field < 2047 := by simpa [isFinite] using hx
  unfold exponent
  omega

/-- The shortest decimal of a double that is not zero is not zero. -/
theorem shortest_digits_pos (x : Double) (tie : Tie) (hx : x.isFinite = true)
    (hz : x.isZero = false) : 0 < (x.shortest tie).digits := by
  have hm := significand_pos x hz
  have hlog : x.significand.log2 < 53 :=
    (Nat.log2_lt (by omega)).mpr (significand_lt x)
  have hexp := exponent_bounds x hx
  apply Rounding.search_digits_pos _ _ _ _ (Rounding.ofDouble_den_pos x)
  have hgrid : ∀ k : Int, (10 : ℚ) ^ k ≤ (2 : ℚ) ^ ((x.significand.log2 : Int) + x.exponent) →
      (Rounding.tenPower k).1 * (Rounding.ofDouble x).den ≤
        (Rounding.ofDouble x).value * (Rounding.tenPower k).2 := by
    intro k hk
    have hself : ((2 : ℚ) ^ x.significand.log2) ≤ x.significand := by
      exact_mod_cast Nat.log2_self_le (by omega)
    have hval : (10 : ℚ) ^ k ≤ x.significand * (2 : ℚ) ^ x.exponent := by
      calc (10 : ℚ) ^ k ≤ (2 : ℚ) ^ ((x.significand.log2 : Int) + x.exponent) := hk
        _ = (2 : ℚ) ^ x.significand.log2 * (2 : ℚ) ^ x.exponent := by
            rw [zpow_add₀ (by norm_num), zpow_natCast]
        _ ≤ x.significand * (2 : ℚ) ^ x.exponent := by
            apply mul_le_mul_of_nonneg_right hself
            positivity
    have hq : ((Rounding.tenPower k).1 : ℚ) * (Rounding.ofDouble x).den ≤
        (Rounding.ofDouble x).value * (Rounding.tenPower k).2 := by
      rw [Rounding.tenPower_eq, Rounding.ofDouble_value]
      have hmul := mul_le_mul_of_nonneg_right hval
        (by positivity : (0 : ℚ) ≤ (Rounding.tenPower k).2 * (Rounding.ofDouble x).den)
      linarith
    exact_mod_cast hq
  apply hgrid
  apply tenPower_le_twoPower <;> omega

end Double

end Provision
