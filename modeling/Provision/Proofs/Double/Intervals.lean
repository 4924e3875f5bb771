import Provision.Proofs.Double

/-!
# Doubles told apart by their decimals

The reals that count as a double form an interval, and the intervals of two magnitudes
meet in one end at most. There the significands differ by one, so one of them is odd and
does not own its ends. The shortest decimal lies in the interval of its double, hence it
belongs to no other magnitude.
-/

set_option autoImplicit false

namespace Provision

namespace Decimal

def value (d : Decimal) : ℚ := d.digits * (10 : ℚ) ^ d.exponent

theorem dropZeros_value (fuel digits : Nat) (e : Int) :
    (dropZeros fuel digits e).value = digits * (10 : ℚ) ^ e := by
  induction fuel generalizing digits e with
  | zero => rfl
  | succ fuel ih =>
    rw [dropZeros]
    by_cases hz : digits % 10 = 0
    · have hten : 10 * (digits / 10) = digits := by omega
      have hcast : (10 : ℚ) * (digits / 10 : Nat) = digits := by exact_mod_cast hten
      rw [if_pos hz, ih, zpow_add_one₀ (by norm_num), ← hcast]
      ring
    · rw [if_neg hz]
      rfl

end Decimal

namespace Rounding

/-- Whether a number counts as the one in the middle of the interval. -/
def Contains (r : Rounding) (q : ℚ) : Prop :=
  (r.low < q * r.den ∧ q * r.den < r.high) ∨
    (r.closed = true ∧ r.low ≤ q * r.den ∧ q * r.den ≤ r.high)

theorem Contains.bounds {r : Rounding} {q : ℚ} (h : r.Contains q) :
    r.low ≤ q * r.den ∧ q * r.den ≤ r.high := by
  rcases h with ⟨hlow, hhigh⟩ | ⟨_, hlow, hhigh⟩
  · exact ⟨hlow.le, hhigh.le⟩
  · exact ⟨hlow, hhigh⟩

/-- Only an interval with an even significand holds its ends. -/
theorem Contains.closed_of_end {r : Rounding} {q : ℚ} (h : r.Contains q)
    (hend : q * r.den = r.low ∨ q * r.den = r.high) : r.closed = true := by
  rcases h with ⟨hlow, hhigh⟩ | ⟨hclosed, _, _⟩
  · rcases hend with hend | hend
    · exact absurd hend hlow.ne'
    · exact absurd hend hhigh.ne
  · exact hclosed

theorem contains_of_holds {r : Rounding} {d : Nat} {k : Int}
    (h : r.holds d (tenPower k).1 (tenPower k).2 = true) :
    r.Contains (d * (10 : ℚ) ^ k) := by
  have hunit : (0 : ℚ) < (tenPower k).2 := by exact_mod_cast (tenPower_pos k).2
  have hgrid : ((d * (tenPower k).1 * r.den : Nat) : ℚ) =
      d * (10 : ℚ) ^ k * r.den * (tenPower k).2 := by
    push_cast
    rw [tenPower_eq k]
    ring
  unfold holds at h
  dsimp only at h
  by_cases hc : r.closed = true
  · rw [if_pos hc, Bool.and_eq_true_iff, decide_eq_true_eq, decide_eq_true_eq] at h
    have hlow : ((r.low * (tenPower k).2 : Nat) : ℚ) ≤ (d * (tenPower k).1 * r.den : Nat) :=
      Nat.cast_le.mpr h.1
    have hhigh : ((d * (tenPower k).1 * r.den : Nat) : ℚ) ≤ (r.high * (tenPower k).2 : Nat) :=
      Nat.cast_le.mpr h.2
    rw [hgrid, Nat.cast_mul] at hlow hhigh
    exact .inr ⟨hc, le_of_mul_le_mul_right hlow hunit, le_of_mul_le_mul_right hhigh hunit⟩
  · rw [if_neg hc, Bool.and_eq_true_iff, decide_eq_true_eq, decide_eq_true_eq] at h
    have hlow : ((r.low * (tenPower k).2 : Nat) : ℚ) < (d * (tenPower k).1 * r.den : Nat) :=
      Nat.cast_lt.mpr h.1
    have hhigh : ((d * (tenPower k).1 * r.den : Nat) : ℚ) < (r.high * (tenPower k).2 : Nat) :=
      Nat.cast_lt.mpr h.2
    rw [hgrid, Nat.cast_mul] at hlow hhigh
    exact .inl ⟨lt_of_mul_lt_mul_right hlow hunit.le, lt_of_mul_lt_mul_right hhigh hunit.le⟩

theorem choose_eq (tie : Tie) (d : Nat) : tie.choose d = d ∨ tie.choose d = d + 1 := by
  cases tie with
  | up => exact .inr rfl
  | even =>
    change d + d % 2 = d ∨ d + d % 2 = d + 1
    omega

theorem contains_of_onGrid {r : Rounding} {tie : Tie} {k : Int} {d : Nat}
    (h : r.onGrid tie k = some d) : r.Contains (d * (10 : ℚ) ^ k) := by
  apply contains_of_holds
  unfold onGrid at h
  dsimp only at h
  split at h
  · next hlow hhigh =>
    rcases choose_eq tie (r.value * (tenPower k).2 / ((tenPower k).1 * r.den)) with hc | hc <;>
      rw [hc] at h <;> cases h <;> split_ifs <;> assumption
  · next hlow _ =>
    cases h
    exact hlow
  · next _ hhigh =>
    cases h
    exact hhigh
  · cases h

/-- On a grid finer than the gap below the number, rounding down stays in the interval. -/
theorem contains_floor {r : Rounding} {k : Int} (hden : 0 < r.den) (hhigh : r.value < r.high)
    (hfine : (10 : ℚ) ^ k * r.den ≤ r.value - r.low) :
    r.Contains ((r.value * (tenPower k).2 / ((tenPower k).1 * r.den) : Nat) * (10 : ℚ) ^ k) := by
  have hunit : (0 : ℚ) < (tenPower k).2 := by exact_mod_cast (tenPower_pos k).2
  have hstep : 0 < (tenPower k).1 * r.den := Nat.mul_pos (tenPower_pos k).1 hden
  have hvalue : (r.value : ℚ) < r.high := by exact_mod_cast hhigh
  generalize hd : r.value * (tenPower k).2 / ((tenPower k).1 * r.den) = d
  have hbelow : (d : ℚ) * (10 : ℚ) ^ k * r.den ≤ r.value := by
    have hle : d * ((tenPower k).1 * r.den) ≤ r.value * (tenPower k).2 := by
      rw [← hd]
      exact Nat.div_mul_le_self _ _
    have hq : (d : ℚ) * ((tenPower k).1 * r.den) ≤ r.value * (tenPower k).2 := by
      exact_mod_cast hle
    rw [tenPower_eq] at hq
    apply le_of_mul_le_mul_right _ hunit
    linarith
  have habove : (r.value : ℚ) < (d + 1) * (10 : ℚ) ^ k * r.den := by
    have hlt : r.value * (tenPower k).2 < (d + 1) * ((tenPower k).1 * r.den) := by
      rw [← hd, mul_comm (_ + 1)]
      exact Nat.lt_mul_div_succ _ hstep
    have hq : (r.value : ℚ) * (tenPower k).2 < (d + 1) * ((tenPower k).1 * r.den) := by
      exact_mod_cast hlt
    rw [tenPower_eq] at hq
    apply lt_of_mul_lt_mul_right _ hunit.le
    linarith
  refine .inl ⟨?_, hbelow.trans_lt hvalue⟩
  linarith

/-- A search that ends on a fine grid ends in the interval. -/
theorem contains_search {r : Rounding} (tie : Tie) (fuel : Nat) (k : Int) (hden : 0 < r.den)
    (hhigh : r.value < r.high)
    (hfine : (10 : ℚ) ^ (k - fuel) * r.den ≤ r.value - r.low) :
    r.Contains (search r tie fuel k).value := by
  induction fuel generalizing k with
  | zero =>
    rw [Nat.cast_zero, sub_zero] at hfine
    exact contains_floor hden hhigh hfine
  | succ fuel ih =>
    have hk : k - ((fuel + 1 : Nat) : Int) = k - 1 - fuel := by omega
    rw [hk] at hfine
    have hnext := ih (k - 1) hfine
    rw [search]
    split
    · next d hd =>
      by_cases hz : d = 0
      · rw [if_pos hz]
        exact hnext
      · rw [if_neg hz, Decimal.dropZeros_value]
        exact contains_of_onGrid hd
    · exact hnext

end Rounding

namespace Double

/-- The gap between a double and its lower end, in quarters of the last place. -/
def gapBelow (x : Double) : Nat := if x.fraction = 0 && 1 < x.field then 1 else 2

theorem gapBelow_bounds (x : Double) : 1 ≤ x.gapBelow ∧ x.gapBelow ≤ 2 := by
  unfold gapBelow
  split <;> omega

/-- A quarter of the last place of a double. -/
def quarter (x : Double) : ℚ := (2 : ℚ) ^ (x.exponent - 2)

theorem quarter_pos (x : Double) : 0 < x.quarter := by
  unfold quarter
  positivity

/-- The ends and the middle of the interval of a double are whole numbers of quarters. -/
theorem exists_unit (x : Double) :
    ∃ unit : Nat, (unit : ℚ) = x.quarter * (Rounding.ofDouble x).den ∧
      (Rounding.ofDouble x).low = (4 * x.significand - x.gapBelow) * unit ∧
      (Rounding.ofDouble x).value = 4 * x.significand * unit ∧
      (Rounding.ofDouble x).high = (4 * x.significand + 2) * unit := by
  unfold Rounding.ofDouble quarter gapBelow
  dsimp only
  by_cases h : 0 ≤ x.exponent - 2
  · obtain ⟨n, hn⟩ := Int.eq_ofNat_of_zero_le h
    rw [if_pos h, hn]
    exact ⟨2 ^ n, by simp, by simp⟩
  · obtain ⟨n, hn⟩ : ∃ n : Nat, x.exponent - 2 = -(n : Int) :=
      ⟨(-(x.exponent - 2)).toNat, by omega⟩
    rw [if_neg h, hn]
    exact ⟨1, by simp, by simp⟩

/-- The lower end of the reals that count as a double. -/
def lower (x : Double) : ℚ := (4 * x.significand - x.gapBelow : Nat) * x.quarter

def upper (x : Double) : ℚ := (4 * x.significand + 2 : Nat) * x.quarter

theorem ofDouble_low (x : Double) :
    ((Rounding.ofDouble x).low : ℚ) = x.lower * (Rounding.ofDouble x).den := by
  obtain ⟨unit, hunit, hlow, _, _⟩ := exists_unit x
  rw [hlow, Nat.cast_mul, hunit, lower]
  ring

theorem ofDouble_high (x : Double) :
    ((Rounding.ofDouble x).high : ℚ) = x.upper * (Rounding.ofDouble x).den := by
  obtain ⟨unit, hunit, _, _, hhigh⟩ := exists_unit x
  rw [hhigh, Nat.cast_mul, hunit, upper]
  ring

/-- What counts as a double lies between its ends, and at them when its significand is even. -/
theorem bounds_of_contains {x : Double} {q : ℚ} (h : (Rounding.ofDouble x).Contains q) :
    x.lower ≤ q ∧ q ≤ x.upper ∧ (q = x.lower ∨ q = x.upper → x.significand % 2 = 0) := by
  have hden : (0 : ℚ) < (Rounding.ofDouble x).den := by
    exact_mod_cast Rounding.ofDouble_den_pos x
  obtain ⟨hlow, hhigh⟩ := h.bounds
  rw [ofDouble_low] at hlow
  rw [ofDouble_high] at hhigh
  refine ⟨le_of_mul_le_mul_right hlow hden, le_of_mul_le_mul_right hhigh hden, ?_⟩
  intro hend
  have hclosed : (Rounding.ofDouble x).closed = true := by
    apply h.closed_of_end
    rw [ofDouble_low, ofDouble_high]
    rcases hend with hend | hend
    · exact .inl (by rw [hend])
    · exact .inr (by rw [hend])
  exact of_decide_eq_true hclosed

def Below (x y : Double) : Prop :=
  x.exponent < y.exponent ∨ x.exponent = y.exponent ∧ x.significand < y.significand

/-- The interval of a magnitude ends before those above it begin. -/
theorem upper_le_lower {x y : Double} (h : Below x y) :
    x.upper ≤ y.lower ∧
      (x.significand % 2 = 0 → y.significand % 2 = 0 → x.upper < y.lower) := by
  have hq := quarter_pos x
  have hgap := gapBelow_bounds y
  rcases h with h | ⟨he, hm⟩
  · -- The last place doubles at least, and the significand starts over from its least value.
    have hx := significand_lt x
    have hleast : 0x3fffffffffffff ≤ 4 * y.significand - y.gapBelow := by
      have hfield : 1 < y.field := by
        unfold exponent at h
        omega
      unfold significand gapBelow
      rw [if_neg (by omega)]
      by_cases hf : y.fraction = 0
      · simp [hf, hfield]
      · simp only [hf, decide_false, Bool.false_and, Bool.false_eq_true, if_false]
        omega
    have hdouble : 2 * x.quarter ≤ y.quarter := by
      unfold quarter
      calc 2 * (2 : ℚ) ^ (x.exponent - 2) = (2 : ℚ) ^ (x.exponent - 2 + 1) := by
            rw [zpow_add_one₀ (by norm_num), mul_comm]
        _ ≤ (2 : ℚ) ^ (y.exponent - 2) := zpow_le_zpow_right₀ (by norm_num) (by omega)
    have hlower : (0x7ffffffffffffe : ℚ) * x.quarter ≤ y.lower := by
      have hcast : (0x3fffffffffffff : ℚ) ≤ (4 * y.significand - y.gapBelow : Nat) := by
        exact_mod_cast hleast
      calc (0x7ffffffffffffe : ℚ) * x.quarter = 0x3fffffffffffff * (2 * x.quarter) := by ring
        _ ≤ (4 * y.significand - y.gapBelow : Nat) * y.quarter := by gcongr
    constructor
    · refine le_trans ?_ hlower
      unfold upper
      gcongr
      exact_mod_cast (by omega : 4 * x.significand + 2 ≤ 0x7ffffffffffffe)
    · intro hxe _
      refine lt_of_lt_of_le ?_ hlower
      unfold upper
      gcongr
      exact_mod_cast (by omega : 4 * x.significand + 2 < 0x7ffffffffffffe)
  · have hsame : y.quarter = x.quarter := by rw [quarter, quarter, he]
    unfold upper lower
    rw [hsame]
    constructor
    · gcongr
      omega
    · intro hxe hye
      gcongr
      omega

theorem not_contains_of_below {x y : Double} {q : ℚ} (h : Below x y)
    (hx : (Rounding.ofDouble x).Contains q) : ¬ (Rounding.ofDouble y).Contains q := by
  intro hy
  obtain ⟨hle, hlt⟩ := upper_le_lower h
  obtain ⟨_, hxq, hxend⟩ := bounds_of_contains hx
  obtain ⟨hyq, _, hyend⟩ := bounds_of_contains hy
  -- A common number is the end of both.
  have hupper : q = x.upper := le_antisymm hxq (hle.trans hyq)
  have hlower : q = y.lower := le_antisymm (hxq.trans hle) hyq
  have hends := hlt (hxend (.inr hupper)) (hyend (.inl hlower))
  rw [← hupper, ← hlower] at hends
  exact lt_irrefl q hends

/-- Sign, exponent and significand make up the word of a double. -/
theorem eq_of_parts {x y : Double} (hs : x.negative = y.negative)
    (he : x.exponent = y.exponent) (hm : x.significand = y.significand) : x = y := by
  have hxf : x.fraction < 0x10000000000000 := Nat.mod_lt _ (by decide)
  have hyf : y.fraction < 0x10000000000000 := Nat.mod_lt _ (by decide)
  obtain ⟨hfield, hfraction⟩ : x.field = y.field ∧ x.fraction = y.fraction := by
    unfold exponent at he
    unfold significand at hm
    split_ifs at hm <;> omega
  have hsign : 0x8000000000000000 ≤ x.bits.toNat ↔ 0x8000000000000000 ≤ y.bits.toNat := by
    unfold negative at hs
    exact decide_eq_decide.mp hs
  have hxlt : x.bits.toNat < 2 ^ 64 := x.bits.toNat_lt
  have hylt : y.bits.toNat < 2 ^ 64 := y.bits.toNat_lt
  have hbits : x.bits.toNat = y.bits.toNat := by
    unfold field at hfield
    unfold fraction at hfraction
    omega
  have hword : x.bits = y.bits := UInt64.toNat_inj.mp hbits
  exact congrArg Double.mk hword

/-- Doubles of one sign that share a number are the same. -/
theorem eq_of_contains {x y : Double} {q : ℚ} (hs : x.negative = y.negative)
    (hx : (Rounding.ofDouble x).Contains q) (hy : (Rounding.ofDouble y).Contains q) : x = y := by
  rcases lt_trichotomy x.exponent y.exponent with he | he | he
  · exact absurd hy (not_contains_of_below (.inl he) hx)
  · rcases lt_trichotomy x.significand y.significand with hm | hm | hm
    · exact absurd hy (not_contains_of_below (.inr ⟨he, hm⟩) hx)
    · exact eq_of_parts hs he hm
    · exact absurd hx (not_contains_of_below (.inr ⟨he.symm, hm⟩) hy)
  · exact absurd hx (not_contains_of_below (.inl he) hy)

/-- The shortest decimal of a double counts as the double. -/
theorem contains_shortest (x : Double) (tie : Tie) (hx : x.isFinite = true)
    (hz : x.isZero = false) : (Rounding.ofDouble x).Contains (x.shortest tie).value := by
  have hm := significand_pos x hz
  have hden := Rounding.ofDouble_den_pos x
  have hdenq : (0 : ℚ) < (Rounding.ofDouble x).den := by exact_mod_cast hden
  have hgap := gapBelow_bounds x
  obtain ⟨unit, hunit, hlow, hvalue, hhigh⟩ := exists_unit x
  have hunitq : (0 : ℚ) < unit := by
    rw [hunit]
    exact mul_pos (quarter_pos x) hdenq
  have hunitpos : 0 < unit := by exact_mod_cast hunitq
  unfold shortest
  apply Rounding.contains_search _ _ _ hden
  · rw [hvalue, hhigh]
    gcongr
    omega
  · -- The last grid is finer than a quarter of the last place.
    have hlog : x.significand.log2 < 53 := (Nat.log2_lt (by omega)).mpr (significand_lt x)
    have hexp := exponent_bounds x hx
    have hfine : (10 : ℚ) ^ (((x.significand.log2 : Int) + x.exponent) * 30103 / 100000 + 1 -
        (24 : Nat)) ≤ x.quarter := by
      apply tenPower_le_twoPower <;> omega
    have hdiff : ((Rounding.ofDouble x).value : ℚ) - (Rounding.ofDouble x).low =
        x.gapBelow * unit := by
      have hsplit : (Rounding.ofDouble x).value =
          (Rounding.ofDouble x).low + x.gapBelow * unit := by
        rw [hvalue, hlow, ← add_mul]
        congr 1
        omega
      rw [hsplit, Nat.cast_add, Nat.cast_mul]
      ring
    have hone : (1 : ℚ) ≤ x.gapBelow := by exact_mod_cast hgap.1
    refine (mul_le_mul_of_nonneg_right hfine hdenq.le).trans ?_
    rw [← hunit, hdiff]
    exact le_mul_of_one_le_left hunitq.le hone

theorem shortest_value_pos (x : Double) (tie : Tie) (hx : x.isFinite = true)
    (hz : x.isZero = false) : 0 < (x.shortest tie).value := by
  have hdigits : (0 : ℚ) < (x.shortest tie).digits := by
    exact_mod_cast shortest_digits_pos x tie hx hz
  unfold Decimal.value
  positivity

/-- Two doubles of one sign with the same shortest decimal are the same. -/
theorem eq_of_shortest_value {x y : Double} {tie : Tie} (hs : x.negative = y.negative)
    (hx : x.isFinite = true) (hy : y.isFinite = true) (hxz : x.isZero = false)
    (hyz : y.isZero = false) (h : (x.shortest tie).value = (y.shortest tie).value) : x = y := by
  have hcx := contains_shortest x tie hx hxz
  have hcy := contains_shortest y tie hy hyz
  rw [← h] at hcy
  exact eq_of_contains hs hcx hcy

end Double

end Provision
