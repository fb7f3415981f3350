/-
ZendooSc.Lib.SignedDigits — integers written in a base with signed digits.

`value B ds` reads a list of integers as digits in base `B`, the lowest first.
A digit may be negative, so an integer can have many representations.

Two facts decide when such a representation says what it stands for. Digit
lists of one length whose digits differ by less than the base have different
values (`value_injective`). And digits up to `m` reach every integer between
`-largest B m n` and `largest B m n` as soon as they leave no gap, that is when
`B ≤ 2 * m + 1` (`exists_digits`); no integer outside is reached
(`abs_value_le`). `largest_mul` gives the bound in closed form.
-/
import Mathlib.Algebra.Order.Ring.Abs
import Mathlib.Data.Int.ModEq
import Mathlib.Tactic.Linarith
import Mathlib.Tactic.Ring

namespace ZendooSc.Lib.SignedDigits

/-- The integer the digits stand for, the lowest digit first. -/
def value (B : ℤ) : List ℤ → ℤ
  | [] => 0
  | d :: ds => d + B * value B ds

@[simp] theorem value_nil (B : ℤ) : value B [] = 0 := rfl

@[simp] theorem value_cons (B d : ℤ) (ds : List ℤ) :
    value B (d :: ds) = d + B * value B ds := rfl

/-- The digit by digit difference stands for the difference. -/
theorem value_zipWith_sub (B : ℤ) (ds es : List ℤ) (h : ds.length = es.length) :
    value B (List.zipWith (· - ·) ds es) = value B ds - value B es := by
  induction ds generalizing es with
  | nil =>
    rw [List.length_nil, eq_comm, List.length_eq_zero_iff] at h
    simp [h]
  | cons d ds ih =>
    cases es with
    | nil => simp at h
    | cons e es =>
      have hlen : ds.length = es.length := by simpa using h
      simp only [List.zipWith_cons_cons, value_cons, ih es hlen]
      ring

/-! ## The largest value -/

/-- The value of `n` digits `m`. -/
def largest (B m : ℤ) : ℕ → ℤ
  | 0 => 0
  | n + 1 => m + B * largest B m n

@[simp] theorem largest_zero (B m : ℤ) : largest B m 0 = 0 := rfl

@[simp] theorem largest_succ (B m : ℤ) (n : ℕ) :
    largest B m (n + 1) = m + B * largest B m n := rfl

theorem largest_mul (B m : ℤ) (n : ℕ) : largest B m n * (B - 1) = m * (B ^ n - 1) := by
  induction n with
  | zero => simp
  | succ n ih =>
    have hstep : largest B m (n + 1) * (B - 1) =
        m * (B - 1) + B * (largest B m n * (B - 1)) := by
      rw [largest_succ]
      ring
    rw [hstep, ih]
    ring

theorem largest_nonneg {B m : ℤ} (hB : 0 ≤ B) (hm : 0 ≤ m) (n : ℕ) : 0 ≤ largest B m n := by
  induction n with
  | zero => simp
  | succ n ih =>
    have hmul : 0 ≤ B * largest B m n := mul_nonneg hB ih
    rw [largest_succ]
    omega

/-- Digits up to `m` stay below `largest`. -/
theorem abs_value_le {B m : ℤ} (hB : 0 ≤ B) (ds : List ℤ) (h : ∀ d ∈ ds, |d| ≤ m) :
    |value B ds| ≤ largest B m ds.length := by
  induction ds with
  | nil => simp
  | cons d ds ih =>
    have hd : |d| ≤ m := h d (by simp)
    have hds : |value B ds| ≤ largest B m ds.length := ih fun e he => h e (by simp [he])
    calc |d + B * value B ds|
        ≤ |d| + |B * value B ds| := abs_add_le d _
      _ = |d| + B * |value B ds| := by rw [abs_mul, abs_of_nonneg hB]
      _ ≤ m + B * largest B m ds.length := by
          have hmul := mul_le_mul_of_nonneg_left hds hB
          omega

/-- Digits up to `m` reach everything up to `largest`, if they leave no gap. -/
theorem exists_digits {B m : ℤ} (hB : 0 < B) (hm : B ≤ 2 * m + 1) (n : ℕ) (x : ℤ)
    (hx : |x| ≤ largest B m n) :
    ∃ ds : List ℤ, ds.length = n ∧ (∀ d ∈ ds, |d| ≤ m) ∧ value B ds = x := by
  induction n generalizing x with
  | zero =>
    have hzero : x = 0 := by simpa using hx
    exact ⟨[], rfl, by simp, by simp [hzero]⟩
  | succ n ih =>
    rw [largest_succ, abs_le] at hx
    have hM : 0 ≤ largest B m n := largest_nonneg (by omega) (by omega) n
    -- the rest is the multiple of the base nearest below `x + m`, or all its digits are `m`
    by_cases htop : B * largest B m n ≤ x + m
    · obtain ⟨ds, hlen, hdigits, hvalue⟩ := ih (largest B m n) (by rw [abs_of_nonneg hM])
      refine ⟨(x - B * largest B m n) :: ds, by simp [hlen], ?_, by simp [hvalue]⟩
      have hhead : |x - B * largest B m n| ≤ m := by
        rw [abs_le]
        omega
      simpa [hhead] using hdigits
    · have hdiv := Int.emod_add_mul_ediv (x + m) B
      have hmod := Int.emod_nonneg (x + m) (by omega : B ≠ 0)
      have hmodlt := Int.emod_lt_of_pos (x + m) hB
      have hrest : |(x + m) / B| ≤ largest B m n := by
        rw [abs_le]
        constructor
        · rw [Int.le_ediv_iff_mul_le hB]
          linarith [mul_comm B (largest B m n)]
        · have hlt : (x + m) / B < largest B m n := by
            rw [Int.ediv_lt_iff_lt_mul hB]
            linarith [mul_comm B (largest B m n)]
          omega
      obtain ⟨ds, hlen, hdigits, hvalue⟩ := ih ((x + m) / B) hrest
      refine ⟨(x - B * ((x + m) / B)) :: ds, by simp [hlen], ?_, by simp [hvalue]⟩
      have hhead : |x - B * ((x + m) / B)| ≤ m := by
        rw [abs_le]
        omega
      simpa [hhead] using hdigits

/-! ## Different digits, different values -/

/-- Lists of one length whose digits differ by less than the base. -/
theorem value_injective {B : ℤ} (hB : 0 < B) (ds es : List ℤ) (hlen : ds.length = es.length)
    (hclose : ∀ d ∈ ds, ∀ e ∈ es, |d - e| < B) (heq : value B ds = value B es) : ds = es := by
  induction ds generalizing es with
  | nil =>
    rw [List.length_nil, eq_comm, List.length_eq_zero_iff] at hlen
    exact hlen.symm
  | cons d ds ih =>
    cases es with
    | nil => simp at hlen
    | cons e es =>
      rw [value_cons, value_cons] at heq
      have hdvd : B ∣ d - e := by
        refine ⟨value B es - value B ds, ?_⟩
        rw [mul_sub]
        omega
      have hde : d - e = 0 := Int.eq_zero_of_abs_lt_dvd hdvd (hclose d (by simp) e (by simp))
      have htail : value B ds = value B es := by
        have hmul : B * value B ds = B * value B es := by omega
        exact mul_left_cancel₀ (by omega) hmul
      have hrest : ds = es := ih es (by simpa using hlen)
        (fun a ha b hb => hclose a (by simp [ha]) b (by simp [hb])) htail
      rw [hrest, Int.sub_eq_zero.mp hde]

end ZendooSc.Lib.SignedDigits
