import Mathlib.Data.List.Basic
import Provision.Proofs.Identifier

/-!
# Digests of texts that differ in one byte

A digest takes in one byte after the other. Taking in a byte is a bijection of the state,
because the multiplier is odd and so has an inverse among the words. Two states that
differ therefore differ after every further byte, and so do the digests of two texts that
differ in a single place.
-/

set_option autoImplicit false

namespace Provision

def absorb (state : UInt32) (byte : UInt8) : UInt32 := (state ^^^ byte.toUInt32) * 16777619

theorem digest_eq_foldl (bytes : List UInt8) : digest bytes = bytes.foldl absorb 2166136261 := rfl

/-- The multiplier has an inverse. -/
theorem mul_multiplier_inj {v w : UInt32} (h : v * 16777619 = w * 16777619) : v = w := by
  have hunit : (16777619 : UInt32) * 899433627 = 1 := by decide
  have hback := congrArg (· * 899433627) h
  simpa only [UInt32.mul_assoc, hunit, UInt32.mul_one] using hback

theorem absorb_inj_state {v w : UInt32} {byte : UInt8} (h : absorb v byte = absorb w byte) :
    v = w :=
  (UInt32.xor_left_inj _).mp (mul_multiplier_inj h)

theorem absorb_inj_byte {state : UInt32} {a b : UInt8} (h : absorb state a = absorb state b) :
    a = b :=
  UInt8.toUInt32_inj.mp ((UInt32.xor_right_inj _).mp (mul_multiplier_inj h))

/-- States that differ are kept apart by whatever is taken in after them. -/
theorem foldl_absorb_inj {v w : UInt32} (bytes : List UInt8)
    (h : bytes.foldl absorb v = bytes.foldl absorb w) : v = w := by
  induction bytes generalizing v w with
  | nil => exact h
  | cons byte rest ih =>
    apply absorb_inj_state
    exact ih h

def DifferOnce (xs ys : List UInt8) : Prop :=
  xs.length = ys.length ∧ ∃ i : Nat, ∀ j : Nat, xs[j]? ≠ ys[j]? ↔ j = i

/-- Such texts are the same before the place and after it. -/
theorem differOnce_iff {xs ys : List UInt8} :
    DifferOnce xs ys ↔
      ∃ before a b after, a ≠ b ∧ xs = before ++ a :: after ∧ ys = before ++ b :: after := by
  constructor
  · rintro ⟨hlen, i, hi⟩
    have hsame : ∀ j, j ≠ i → xs[j]? = ys[j]? := by
      intro j hj
      by_contra hdiff
      exact hj ((hi j).mp hdiff)
    have hx : i < xs.length := by
      by_contra hout
      have hnone : xs[i]? = ys[i]? := by
        rw [List.getElem?_eq_none (by omega), List.getElem?_eq_none (by omega)]
      exact (hi i).mpr rfl hnone
    have hy : i < ys.length := by omega
    refine ⟨xs.take i, xs[i], ys[i], xs.drop (i + 1), ?_, ?_, ?_⟩
    · intro heq
      apply (hi i).mpr rfl
      rw [List.getElem?_eq_getElem hx, List.getElem?_eq_getElem hy, heq]
    · rw [List.cons_getElem_drop_succ, List.take_append_drop]
    · have hbefore : xs.take i = ys.take i := by
        apply List.ext_getElem?
        intro j
        rw [List.getElem?_take, List.getElem?_take]
        by_cases hj : j < i
        · rw [if_pos hj, if_pos hj, hsame j (by omega)]
        · rw [if_neg hj, if_neg hj]
      have hafter : xs.drop (i + 1) = ys.drop (i + 1) := by
        apply List.ext_getElem?
        intro j
        rw [List.getElem?_drop, List.getElem?_drop, hsame _ (by omega)]
      rw [hbefore, hafter, List.cons_getElem_drop_succ, List.take_append_drop]
  · rintro ⟨before, a, b, after, hab, rfl, rfl⟩
    refine ⟨by simp, before.length, ?_⟩
    intro j
    by_cases hj : j = before.length
    · simp [hj, hab]
    · rcases Nat.lt_or_gt_of_ne hj with hlt | hgt
      · simp [List.getElem?_append_left hlt, hj]
      · obtain ⟨k, rfl⟩ : ∃ k, j = before.length + (k + 1) := ⟨j - before.length - 1, by omega⟩
        simp [List.getElem?_append_right]

/-- Texts that differ in one byte have different digests, and paths that differ in one
byte have different ids. -/
theorem digest_ne_of_differOnce {xs ys : List UInt8} (h : DifferOnce xs ys) :
    digest xs ≠ digest ys ∧
      ∀ p q : String, Identifier.utf8 p = xs → Identifier.utf8 q = ys →
        Identifier.component p ≠ Identifier.component q := by
  have hdigest : digest xs ≠ digest ys := by
    intro heq
    obtain ⟨before, a, b, after, hab, rfl, rfl⟩ := differOnce_iff.mp h
    rw [digest_eq_foldl, digest_eq_foldl, List.foldl_append, List.foldl_append, List.foldl_cons,
      List.foldl_cons] at heq
    exact hab (absorb_inj_byte (foldl_absorb_inj after heq))
  refine ⟨hdigest, ?_⟩
  rintro p q rfl rfl heq
  exact hdigest (Identifier.component_inj.mp heq).2

/-- Two paths that differ in a divider, which the fold drops. -/
theorem digest_ne_of_differOnce_divider :
    DifferOnce (Identifier.utf8 "workload.foo-bar") (Identifier.utf8 "workload.foo_bar") ∧
      Identifier.stem "workload.foo-bar" = Identifier.stem "workload.foo_bar" ∧
      Identifier.component "workload.foo-bar" ≠ Identifier.component "workload.foo_bar" := by
  have hdiffer :
      DifferOnce (Identifier.utf8 "workload.foo-bar") (Identifier.utf8 "workload.foo_bar") :=
    differOnce_iff.mpr ⟨Identifier.utf8 "workload.foo", 45, 95, Identifier.utf8 "bar", by decide,
      by decide, by decide⟩
  exact ⟨hdiffer, by decide +kernel, (digest_ne_of_differOnce hdiffer).2 _ _ rfl rfl⟩

end Provision
