/-
ZendooSc.Lib.MachineInt — two operations on 64-bit words.

`nextPowerOfTwo` is `usize::next_power_of_two` on a 64-bit target: the
smallest power of two that is not below its argument, wrapped to zero when
that is 2^64. `trailingZeros` is `u64::trailing_zeros`, which is 64 on zero.

Programs compose the two to take a ceiling logarithm. The composition is
right on every word, the wrapped case included
(`trailingZeros_nextPowerOfTwo`): the two conventions cancel.
-/
import Mathlib.Algebra.Group.Nat.Defs
import Mathlib.Data.Nat.Log

namespace ZendooSc.Lib

/-- The smallest power of two that is at least `n`, modulo 2^64. -/
def nextPowerOfTwo (n : UInt64) : UInt64 :=
  if n.toNat ≤ 1 then 1 else UInt64.ofNat (2 ^ (Nat.log2 (n.toNat - 1) + 1))

/-- The number of zero bits below the lowest one bit, 64 if there is none. -/
def trailingZeros (n : UInt64) : ℕ :=
  ((List.range 64).find? fun i => n.toNat.testBit i).getD 64

/-- The exponent of the power of two found is the ceiling logarithm. -/
theorem log2_pred_succ {n : ℕ} (h : 1 < n) : Nat.log2 (n - 1) + 1 = Nat.clog 2 n := by
  have hlog : Nat.log2 (n - 1) = Nat.log 2 (n - 1) := Nat.log2_eq_log_two
  have hpos : 0 < Nat.clog 2 n := Nat.clog_pos Nat.one_lt_two h
  have hle : Nat.clog 2 n ≤ Nat.log 2 (n - 1) + 1 := by
    rw [Nat.clog_le_iff_le_pow Nat.one_lt_two]
    have := Nat.lt_pow_succ_log_self Nat.one_lt_two (n - 1)
    omega
  have hge : Nat.log 2 (n - 1) < Nat.clog 2 n := by
    rw [Nat.lt_clog_iff_pow_lt Nat.one_lt_two]
    have := Nat.pow_log_le_self 2 (x := n - 1) (by omega)
    omega
  omega

theorem toNat_nextPowerOfTwo (n : UInt64) :
    (nextPowerOfTwo n).toNat = 2 ^ Nat.clog 2 n.toNat % 2 ^ 64 := by
  unfold nextPowerOfTwo
  split
  · rename_i h
    rw [Nat.clog_of_right_le_one h]
    rfl
  · rename_i h
    rw [UInt64.toNat_ofNat', log2_pred_succ (by omega)]

/-- A word has a ceiling logarithm of at most 64. -/
theorem clog_le_64 (n : UInt64) : Nat.clog 2 n.toNat ≤ 64 :=
  Nat.clog_le_of_le_pow (Nat.le_of_lt n.toNat_lt)

/-- `trailing_zeros` of `next_power_of_two` is the ceiling logarithm. -/
theorem trailingZeros_nextPowerOfTwo (n : UInt64) :
    trailingZeros (nextPowerOfTwo n) = Nat.clog 2 n.toNat := by
  have hk := clog_le_64 n
  unfold trailingZeros
  rw [toNat_nextPowerOfTwo]
  generalize Nat.clog 2 n.toNat = k at hk ⊢
  rcases Nat.lt_or_eq_of_le hk with hlt | rfl
  · have hmod : 2 ^ k % 2 ^ 64 = 2 ^ k :=
      Nat.mod_eq_of_lt (Nat.pow_lt_pow_right (by omega) hlt)
    have hfind : ((List.range 64).find? fun i => (2 ^ k).testBit i) = some k := by
      rw [List.find?_range_eq_some]
      refine ⟨by simp, by simpa using hlt, fun j hj => ?_⟩
      have hne : k ≠ j := by omega
      simp [hne]
    rw [hmod, hfind]
    rfl
  · -- the power wrapped to zero, which has no one bit
    have hnone : ((List.range 64).find? fun i => (2 ^ 64 % 2 ^ 64).testBit i) = none := by
      simp
    rw [hnone]
    rfl

/-- Below 2^63 the power does not wrap, so its logarithm is the same. -/
theorem log2_nextPowerOfTwo {n : UInt64} (h : n.toNat ≤ 2 ^ 63) :
    Nat.log2 (nextPowerOfTwo n).toNat = Nat.clog 2 n.toNat := by
  have hk : Nat.clog 2 n.toNat ≤ 63 := Nat.clog_le_of_le_pow h
  have hlt : 2 ^ Nat.clog 2 n.toNat < 2 ^ 64 := Nat.pow_lt_pow_right (by omega) (by omega)
  rw [toNat_nextPowerOfTwo, Nat.mod_eq_of_lt hlt, Nat.log2_two_pow]

end ZendooSc.Lib
