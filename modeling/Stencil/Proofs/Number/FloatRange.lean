import Mathlib.Algebra.Group.Nat.Defs
import Mathlib.Data.Nat.Log
import Stencil.Number.Binary64

/-! # The range of floats

An integer is out of the range of floats when it is rounded to an infinity. The
mantissa of the largest float has all bits set, so this happens from half a unit of
its last bit above it on, the half included: ties go to the even mantissa.
-/

namespace Stencil

theorem twoTo_nat (n : Nat) : twoTo n = 2 ^ n := rfl

theorem twoTo_neg_nat (n : Nat) : twoTo (-n) = 1 := by
  have none : (-(n : Int)).toNat = 0 := by omega
  rw [twoTo, none]

/-- A quotient below an even number is rounded up to it from the half in front of it on. -/
theorem roundQuotient_eq_even {num den k : Nat} (positive : 0 < den) (even : k % 2 = 0)
    (below : num / den < k) : roundQuotient num den = k ↔ (2 * k - 1) * den ≤ 2 * num := by
  obtain ⟨q, hq⟩ : ∃ q, q = num / den := ⟨_, rfl⟩
  obtain ⟨r, hr⟩ : ∃ r, r = num % den := ⟨_, rfl⟩
  have whole : den * q + r = num := by rw [hq, hr, Nat.div_add_mod]
  have small : r < den := by
    rw [hr]
    exact Nat.mod_lt num positive
  rw [← hq] at below
  simp only [roundQuotient, ← hq, ← hr]
  by_cases last : q + 1 = k
  · -- the only neighbour that is not below `k` is reached from the half on
    have scaled : (2 * k - 1) * den = 2 * (den * q) + den := by
      have odd : 2 * k - 1 = 2 * q + 1 := by omega
      rw [odd, Nat.add_mul, Nat.one_mul, Nat.mul_assoc, Nat.mul_comm q den]
    rw [scaled, ← whole]
    split
    · omega
    · split
      · omega
      · split <;> omega
  · have far : q + 2 ≤ k := by omega
    have scaled : den * (q + 2) ≤ den * k := Nat.mul_le_mul_left den far
    have double : (2 * k - 1) * den + den = 2 * (den * k) := by
      have next : 2 * k - 1 + 1 = 2 * k := by omega
      rw [← Nat.succ_mul, Nat.succ_eq_add_one, next, Nat.mul_assoc, Nat.mul_comm k den]
    rw [Nat.mul_add] at scaled
    rw [← whole]
    split
    · omega
    · split
      · omega
      · split <;> omega

namespace Binary64

/-- The least magnitude that is rounded to an infinity. -/
def limit : Nat := twoTo 1024 - twoTo 970

/-- A natural number is scaled so that its mantissa has 53 bits before it is rounded. -/
theorem ofRatio_scaled {n : Nat} (negative : Bool) (positive : n ≠ 0) :
    ofRatio negative n 1 =
      let exponent : Int := n.log2 - 52
      let mantissa := roundQuotient (n * twoTo (-exponent)) (1 * twoTo exponent)
      if mantissa = twoTo 53 then
        if exponent + 1 > 971 then .infinity negative else .finite negative (twoTo 52) (exponent + 1)
      else if exponent > 971 then .infinity negative else .finite negative mantissa exponent := by
  have low : max ((n.log2 : Int) - (Nat.log2 1 : Nat) - (53 : Nat)) (-1074) = n.log2 - 53 := by
    have one : Nat.log2 1 = 0 := by decide
    omega
  have wide : ¬ n * twoTo (-((n.log2 : Int) - 53)) / (1 * twoTo ((n.log2 : Int) - 53)) <
      twoTo (53 : Nat) := by
    have least : 2 ^ n.log2 ≤ n := Nat.log2_self_le positive
    rw [Nat.not_lt, Nat.one_mul]
    obtain ⟨k, few | many⟩ : ∃ k : Nat, n.log2 + k = 53 ∨ n.log2 = 53 + k := by
      rcases Nat.le_total n.log2 53 with h | h
      · exact ⟨53 - n.log2, .inl (by omega)⟩
      · exact ⟨n.log2 - 53, .inr (by omega)⟩
    · have up : -((n.log2 : Int) - 53) = k := by omega
      have down : (n.log2 : Int) - 53 = -(k : Int) := by omega
      rw [up, down, twoTo_nat, twoTo_neg_nat, twoTo_nat, Nat.div_one, ← few, Nat.pow_add]
      exact Nat.mul_le_mul_right _ least
    · have up : -((n.log2 : Int) - 53) = -(k : Int) := by omega
      have down : (n.log2 : Int) - 53 = k := by omega
      rw [up, down, twoTo_nat, twoTo_neg_nat, twoTo_nat, Nat.mul_one,
        Nat.le_div_iff_mul_le (Nat.two_pow_pos k), ← Nat.pow_add, ← many]
      exact least
  have next : (n.log2 : Int) - 53 + 1 = n.log2 - 52 := by omega
  simp only [ofRatio, ofRatioIn, BinaryFormat.double, positive, if_false, low, next]
  rw [if_neg wide]
  split
  · rename_i full
    exact (if_pos full).symm
  · rename_i other
    exact (if_neg other).symm

/-- The limit in units of half the last bit of the largest float. The exponent is kept out of sight:
    its power of two is never computed. -/
theorem limit_eq {k : Nat} (h : k = 970) : limit = (2 ^ 54 - 1) * 2 ^ k := by
  have up : (1024 : Int) = (54 + k : Nat) := by omega
  have down : (970 : Int) = k := by omega
  rw [limit, up, down, twoTo_nat, twoTo_nat, Nat.pow_add, Nat.sub_mul, Nat.one_mul]

/-- A natural number is rounded to an infinity exactly from the limit on. -/
theorem ofRatio_natural {n : Nat} (negative : Bool) (positive : n ≠ 0) :
    (ofRatio negative n 1 = .infinity negative ∧ limit ≤ n) ∨
      ∃ m e, ofRatio negative n 1 = .finite negative m e ∧ n < limit := by
  have least : 2 ^ n.log2 ≤ n := Nat.log2_self_le positive
  have below : n < 2 ^ (n.log2 + 1) := Nat.lt_log2_self
  obtain ⟨k, hk⟩ : ∃ k, k = 970 := ⟨970, rfl⟩
  rw [ofRatio_scaled negative positive, limit_eq hk]
  simp only
  rcases Nat.lt_trichotomy n.log2 1023 with small | edge | large
  · have within : n < (2 ^ 54 - 1) * 2 ^ k := by
      calc n < 2 ^ (n.log2 + 1) := below
        _ ≤ 2 ^ (53 + k) := Nat.pow_le_pow_right (by decide) (by omega)
        _ = 2 ^ 53 * 2 ^ k := Nat.pow_add 2 53 k
        _ ≤ (2 ^ 54 - 1) * 2 ^ k := Nat.mul_le_mul_right _ (by decide)
    right
    split
    · rw [if_neg (by omega)]
      exact ⟨_, _, rfl, within⟩
    · rw [if_neg (by omega)]
      exact ⟨_, _, rfl, within⟩
  · have exponent : (n.log2 : Int) - 52 = (k + 1 : Nat) := by omega
    have quotient : n / 2 ^ (k + 1) < 2 ^ 53 := by
      have top : n.log2 + 1 = 53 + (k + 1) := by omega
      rw [Nat.div_lt_iff_lt_mul (Nat.two_pow_pos (k + 1)), ← Nat.pow_add, ← top]
      exact below
    have rounded := roundQuotient_eq_even (Nat.two_pow_pos (k + 1)) (by decide) quotient
    have half : (2 * 2 ^ 53 - 1) * 2 ^ (k + 1) ≤ 2 * n ↔ (2 ^ 54 - 1) * 2 ^ k ≤ n := by
      rw [Nat.pow_succ]
      omega
    have last : twoTo 53 = 2 ^ 53 := rfl
    rw [exponent, twoTo_nat, twoTo_neg_nat, Nat.mul_one, Nat.one_mul, last]
    split
    · rename_i full
      have beyond := half.mp (rounded.mp full)
      rw [if_pos (by omega)]
      exact .inl ⟨rfl, beyond⟩
    · rename_i short
      have within : ¬ (2 ^ 54 - 1) * 2 ^ k ≤ n := fun beyond => short (rounded.mpr (half.mpr beyond))
      rw [if_neg (by omega)]
      exact .inr ⟨_, _, rfl, Nat.lt_of_not_le within⟩
  · left
    have beyond : (2 ^ 54 - 1) * 2 ^ k ≤ n := by
      calc (2 ^ 54 - 1) * 2 ^ k ≤ 2 ^ 54 * 2 ^ k := Nat.mul_le_mul_right _ (by decide)
        _ = 2 ^ (54 + k) := (Nat.pow_add 2 54 k).symm
        _ ≤ 2 ^ n.log2 := Nat.pow_le_pow_right (by decide) (by omega)
        _ ≤ n := least
    split
    · rw [if_pos (by omega)]
      exact ⟨rfl, beyond⟩
    · rw [if_pos (by omega)]
      exact ⟨rfl, beyond⟩

/-- An integer is out of the range of floats exactly from the limit on. -/
theorem ofInt?_eq_none_iff (i : Int) : ofInt? i = none ↔ limit ≤ i.natAbs := by
  unfold ofInt?
  by_cases zero : i.natAbs = 0
  · have small : ¬ limit ≤ i.natAbs := by
      obtain ⟨k, hk⟩ : ∃ k, k = 970 := ⟨970, rfl⟩
      rw [limit_eq hk, zero, Nat.not_le]
      exact Nat.mul_pos (by decide) (Nat.two_pow_pos _)
    rw [zero] at small ⊢
    simp only [small, iff_false]
    exact fun h => nomatch h
  · obtain ⟨infinite, beyond⟩ | ⟨m, e, finite, within⟩ := ofRatio_natural (i < 0) zero
    · simp only [infinite, beyond]
    · simp only [finite, Nat.not_le.mpr within, reduceCtorEq]

end Binary64

end Stencil
