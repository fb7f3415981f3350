/-
ZendooSc.Circuit.GroupHashWindows — what one window of the group hash encodes.

A window reads its input three bits at a time. A chunk is one of the eight
digits ±1, ±2, ±3, ±4, and the window hashes to the sum of its digits times the
entries of its row. The row is a geometric progression (`GroupHashTable`), so
the sum is one number in base 16 with signed digits times the generator.

Two inputs then collide exactly when the order of the generator divides the
difference of their numbers. The digits of a difference run over -8, …, 8, and
`k` of these reach up to 8 * (16^k - 1) / 15. That is below the order of the
curve for 63 chunks and above it for 64, so 63 is the exact limit
(`windows_injective_iff`), and the 128 of `VRFWindow` are over it.
-/
import Mathlib.Algebra.BigOperators.Group.List.Basic
import Mathlib.Data.ZMod.Basic
import Mathlib.GroupTheory.OrderOfElement
import Mathlib.Tactic.NormNum.Prime
import ZendooSc.Circuit.GroupHashTable
import ZendooSc.Lib.PrimeChain
import ZendooSc.Lib.SignedDigits

namespace ZendooSc

open Lib Lib.SignedDigits

/-- Three bits of the input. -/
structure Chunk where
  c0 : Bool
  c1 : Bool
  c2 : Bool
  deriving DecidableEq, Repr

/-- `enc(c) = (1 + c_0 + 2 * c_1) * (1 - 2 * c_2)`. -/
def Chunk.enc (c : Chunk) : ℤ :=
  (1 + c.c0.toNat + 2 * c.c1.toNat) * (1 - 2 * c.c2.toNat)

/-- The chunk whose bits, the lowest first, spell `n`. -/
def Chunk.ofNat (n : ℕ) : Chunk :=
  ⟨n.testBit 0, n.testBit 1, n.testBit 2⟩

variable {G : Type*} [AddCommGroup G]

/-- What a window with the row `segment` makes of its chunks. -/
def windowSum (segment : List G) (chunks : List Chunk) : G :=
  (List.zipWith (fun c entry => c.enc • entry) chunks segment).sum

/-- The number a window stands for. -/
def encodeChunks (chunks : List Chunk) : ℤ :=
  value 16 (chunks.map Chunk.enc)

/-! ## The window as a number -/

theorem windowSum_row (chunks : List Chunk) (n : ℕ) (base : G) (h : chunks.length ≤ n) :
    windowSum (row n base) chunks = encodeChunks chunks • base := by
  induction chunks generalizing n base with
  | nil => simp [windowSum, encodeChunks]
  | cons c cs ih =>
    cases n with
    | zero => simp at h
    | succ n =>
      have hrest : windowSum (row n (16 • base)) cs = encodeChunks cs • (16 • base) :=
        ih n (16 • base) (by simpa using h)
      have hstep : windowSum (row (n + 1) base) (c :: cs) =
          c.enc • base + windowSum (row n (16 • base)) cs := by
        simp [windowSum]
      rw [hstep, hrest]
      simp only [encodeChunks, List.map_cons, value_cons, add_smul, mul_comm (16 : ℤ), mul_smul]
      norm_cast

/-- Inputs collide when the order of the generator divides the difference. -/
theorem windowSum_eq_iff {n : ℕ} {base : G} {cs cs' : List Chunk} (hcs : cs.length ≤ n)
    (hcs' : cs'.length ≤ n) :
    windowSum (row n base) cs = windowSum (row n base) cs' ↔
      (addOrderOf base : ℤ) ∣ encodeChunks cs - encodeChunks cs' := by
  rw [windowSum_row cs n base hcs, windowSum_row cs' n base hcs', ← sub_eq_zero, ← sub_smul,
    addOrderOf_dvd_iff_zsmul_eq_zero]

/-! ## Digits -/

theorem Chunk.enc_injective (c d : Chunk) (h : c.enc = d.enc) : c = d := by
  rcases c with ⟨c0, c1, c2⟩
  rcases d with ⟨d0, d1, d2⟩
  revert c0 c1 c2 d0 d1 d2
  decide

theorem Chunk.abs_enc_sub_le (c d : Chunk) : |c.enc - d.enc| ≤ 8 := by
  rcases c with ⟨c0, c1, c2⟩
  rcases d with ⟨d0, d1, d2⟩
  revert c0 c1 c2 d0 d1 d2
  decide

/-- Every digit up to 8 is the difference of two chunks. -/
theorem exists_chunk_sub (d : ℤ) (h : |d| ≤ 8) : ∃ c c' : Chunk, c.enc - c'.enc = d := by
  have hsmall : ∃ a < 8, ∃ b < 8, (Chunk.ofNat a).enc - (Chunk.ofNat b).enc = d := by
    rw [abs_le] at h
    obtain ⟨hlo, hhi⟩ := h
    interval_cases d <;> decide
  obtain ⟨a, -, b, -, hab⟩ := hsmall
  exact ⟨Chunk.ofNat a, Chunk.ofNat b, hab⟩

/-- Any digits up to 8 are the differences of two inputs. -/
theorem exists_chunks_sub (ds : List ℤ) (h : ∀ d ∈ ds, |d| ≤ 8) :
    ∃ cs cs' : List Chunk, cs.length = ds.length ∧ cs'.length = ds.length ∧
      encodeChunks cs - encodeChunks cs' = value 16 ds := by
  induction ds with
  | nil => exact ⟨[], [], rfl, rfl, rfl⟩
  | cons d ds ih =>
    obtain ⟨c, c', hc⟩ := exists_chunk_sub d (h d (by simp))
    obtain ⟨cs, cs', hcs, hcs', hvalue⟩ := ih fun e he => h e (by simp [he])
    refine ⟨c :: cs, c' :: cs', by simp [hcs], by simp [hcs'], ?_⟩
    simp only [encodeChunks, List.map_cons, value_cons] at hvalue ⊢
    rw [← hc, ← hvalue]
    ring

/-- Inputs of one length have the same number only if they are the same. -/
theorem encodeChunks_injective {cs cs' : List Chunk} (hlen : cs.length = cs'.length)
    (h : encodeChunks cs = encodeChunks cs') : cs = cs' := by
  have hmap : cs.map Chunk.enc = cs'.map Chunk.enc := by
    refine value_injective (by norm_num) _ _ (by simp [hlen]) ?_ h
    intro d hd e he
    obtain ⟨c, -, rfl⟩ := List.mem_map.mp hd
    obtain ⟨c', -, rfl⟩ := List.mem_map.mp he
    have := Chunk.abs_enc_sub_le c c'
    omega
  exact List.map_injective_iff.mpr Chunk.enc_injective hmap

/-- The numbers of two inputs of one length are not far apart. -/
theorem abs_encodeChunks_sub_le {cs cs' : List Chunk} (hlen : cs.length = cs'.length) :
    |encodeChunks cs - encodeChunks cs'| ≤ largest 16 8 cs.length := by
  have hdigits : ∀ d ∈ List.zipWith (· - ·) (cs.map Chunk.enc) (cs'.map Chunk.enc), |d| ≤ 8 := by
    intro d hd
    obtain ⟨i, hi, rfl⟩ := List.mem_iff_getElem.mp hd
    simp only [List.getElem_zipWith, List.getElem_map]
    exact Chunk.abs_enc_sub_le _ _
  have hle := abs_value_le (by norm_num : (0 : ℤ) ≤ 16) _ hdigits
  rw [value_zipWith_sub 16 _ _ (by simp [hlen])] at hle
  simpa [encodeChunks, hlen] using hle

/-! ## The limit -/

/-- 63 digits stay below the order of the curve. -/
theorem largest_lt_order {k : ℕ} (h : k ≤ 63) : largest 16 8 k < 2 ^ 254 := by
  have hmul := largest_mul 16 8 k
  have hpow : (16 : ℤ) ^ k ≤ 16 ^ 63 := pow_le_pow_right₀ (by norm_num) h
  norm_num at hmul hpow ⊢
  omega

/-- 64 digits reach it. -/
theorem order_le_largest {k : ℕ} (h : 63 < k) : 2 ^ 255 ≤ largest 16 8 k := by
  have hmul := largest_mul 16 8 k
  have hpow : (16 : ℤ) ^ 64 ≤ 16 ^ k := pow_le_pow_right₀ (by norm_num) h
  norm_num at hmul hpow ⊢
  omega

/-- Up to 63 chunks do not collide. -/
theorem windowSum_injective {n k : ℕ} {base : G} (hr : 2 ^ 254 < addOrderOf base) (hk : k ≤ 63)
    (hn : k ≤ n) {cs cs' : List Chunk} (hcs : cs.length = k) (hcs' : cs'.length = k)
    (h : windowSum (row n base) cs = windowSum (row n base) cs') : cs = cs' := by
  have hdvd := (windowSum_eq_iff (by omega) (by omega)).mp h
  have hlt : |encodeChunks cs - encodeChunks cs'| < (addOrderOf base : ℤ) := by
    calc |encodeChunks cs - encodeChunks cs'|
        ≤ largest 16 8 cs.length := abs_encodeChunks_sub_le (by omega)
      _ < 2 ^ 254 := largest_lt_order (by omega)
      _ < (addOrderOf base : ℤ) := by exact_mod_cast hr
  have hzero := Int.eq_zero_of_abs_lt_dvd hdvd hlt
  exact encodeChunks_injective (by omega) (by omega)

/-- From 64 chunks on, some do. -/
theorem windowSum_collision {n k : ℕ} {base : G} (hpos : 0 < addOrderOf base)
    (hr : addOrderOf base < 2 ^ 255) (hk : 63 < k) (hn : k ≤ n) :
    ∃ cs cs' : List Chunk, cs.length = k ∧ cs'.length = k ∧ cs ≠ cs' ∧
      windowSum (row n base) cs = windowSum (row n base) cs' := by
  have hreach : |(addOrderOf base : ℤ)| ≤ largest 16 8 k := by
    have hle := order_le_largest hk
    have hr' : (addOrderOf base : ℤ) < 2 ^ 255 := by exact_mod_cast hr
    rw [abs_of_nonneg (by omega)]
    omega
  obtain ⟨ds, hlen, hdigits, hvalue⟩ := exists_digits (by norm_num) (by norm_num) k _ hreach
  obtain ⟨cs, cs', hcs, hcs', hsub⟩ := exists_chunks_sub ds hdigits
  refine ⟨cs, cs', by omega, by omega, ?_, ?_⟩
  · intro heq
    rw [heq, sub_self, hvalue] at hsub
    omega
  · rw [windowSum_eq_iff (by omega) (by omega), hsub, hvalue]

/-! ## The order of the curve -/

/-- The order of the points that `VRFParams::new` starts from. -/
def curveOrder : ℕ :=
  28948022309329048855892746252171976963322203655954433126947083963168578338817

def smallPrimes : List ℕ :=
  [2, 3, 5, 7, 11, 13, 17, 29, 37, 41, 79, 83, 367, 4523, 6451, 10709, 11071, 2265499, 10241261,
    11469583]

/-- From the small primes to `curveOrder`. -/
def curveOrderChain : List Link :=
  [⟨37224484001, 3, [2, 2, 2, 2, 2, 5, 5, 5, 11, 79, 10709]⟩,
    ⟨433568851, 2, [2, 3, 5, 5, 11, 13, 17, 29, 41]⟩,
    ⟨332886617559017, 3, [2, 2, 2, 367, 11071, 10241261]⟩,
    ⟨415749261070673, 3, [2, 2, 2, 2, 2265499, 11469583]⟩,
    ⟨72419270658066050039249, 3, [2, 2, 2, 2, 29, 83, 4523, 415749261070673]⟩,
    ⟨129942003317277863333406104563609448670518081918257, 11,
      [2, 2, 2, 2, 3, 7, 37, 433568851, 332886617559017, 72419270658066050039249]⟩,
    ⟨4322432633228119, 3, [2, 3, 3, 6451, 37224484001]⟩,
    ⟨curveOrder, 5, List.replicate 34 2 ++ [3, 4322432633228119,
      129942003317277863333406104563609448670518081918257]⟩]

theorem curveOrder_prime : curveOrder.Prime := by
  have hsmall : ∀ q ∈ smallPrimes, q.Prime := by norm_num [smallPrimes]
  have hchain : IsChain smallPrimes curveOrderChain := by decide +kernel
  exact hchain.prime hsmall curveOrder (by simp [curveOrderChain])

/-! ## A collision -/

/-- With `collisionRight`, two inputs whose numbers differ by the order of the curve. -/
def collisionLeft : List Chunk :=
  [1, 0, 0, 0, 0, 0, 0, 0, 0, 0, 0, 4, 0, 0, 0, 3, 6, 0, 2, 3, 0, 1, 6, 2, 2, 0, 1, 5, 4, 6, 0, 0,
    0, 0, 0, 0, 0, 0, 0, 0, 0, 0, 0, 0, 0, 0, 0, 0, 0, 0, 0, 0, 0, 0, 0, 0, 0, 0, 0, 0, 0, 0, 0,
    0].map Chunk.ofNat

def collisionRight : List Chunk :=
  [0, 0, 0, 0, 0, 0, 0, 0, 6, 3, 0, 3, 3, 5, 6, 7, 3, 3, 7, 7, 4, 7, 3, 7, 7, 4, 0, 3, 3, 3, 6, 0,
    0, 0, 0, 0, 0, 0, 0, 0, 0, 0, 0, 0, 0, 0, 0, 0, 0, 0, 0, 0, 0, 0, 0, 0, 0, 0, 0, 0, 0, 0, 0,
    6].map Chunk.ofNat

theorem encodeChunks_collision :
    encodeChunks collisionLeft - encodeChunks collisionRight = curveOrder := by
  decide +kernel

/-! ## One window -/

/-- A window of `k` chunks encodes its input injectively if and only if `k ≤ 63`. -/
theorem windows_injective_iff (generators : List G) (h : numWindows ≤ generators.length)
    (table : List (List G)) (htable : computeGroupHashTable generators = .ok table)
    (i : ℕ) (hi : i < numWindows) (segment : List G) (hsegment : table[i]? = some segment)
    (generator : G) (hgenerator : generators[i]? = some generator)
    (r : ℕ) (horder : addOrderOf generator = r) (hlo : 2 ^ 254 < r) (hhi : r < 2 ^ 255)
    (k : ℕ) (hk : k ≤ windowSize) :
    (∀ cs cs' : List Chunk, cs.length = k → cs'.length = k → cs ≠ cs' →
      windowSum segment cs ≠ windowSum segment cs') ↔ k ≤ 63 := by
  have hrow : segment = row windowSize generator := by
    obtain ⟨hlength, rfl⟩ := List.getElem?_eq_some_iff.mp hgenerator
    rw [getElem?_table h htable hi] at hsegment
    exact (Option.some.inj hsegment).symm
  subst hrow horder
  constructor
  · intro hinjective
    by_contra hlarge
    obtain ⟨cs, cs', hcs, hcs', hne, heq⟩ :=
      windowSum_collision (by omega) hhi (by omega : 63 < k) hk
    exact hinjective cs cs' hcs hcs' hne heq
  · intro hsmall cs cs' hcs hcs' hne heq
    exact hne (windowSum_injective hlo hsmall hk hcs hcs' heq)

theorem windows_injective_iff_zmod :
    ∃ (table : List (List (ZMod curveOrder))) (segment : List (ZMod curveOrder)),
      computeGroupHashTable [1, 1] = .ok table ∧ table[1]? = some segment ∧
      ((∀ cs cs' : List Chunk, cs.length = 86 → cs'.length = 86 → cs ≠ cs' →
        windowSum segment cs ≠ windowSum segment cs') ↔ 86 ≤ 63) := by
  have htable := computeGroupHashTable_eq ([1, 1] : List (ZMod curveOrder)) (by decide)
  have hsegment := getElem?_table (by decide) htable (by decide : 1 < numWindows)
  exact ⟨_, _, htable, hsegment,
    windows_injective_iff [1, 1] (by decide) _ htable 1 (by decide) _ hsegment 1 rfl curveOrder
      (ZMod.addOrderOf_one curveOrder) (by decide) (by decide) 86 (by decide)⟩

/-- Two inputs of 64 chunks that a window of the VRF does not tell apart. -/
theorem window_collision :
    ∃ (table : List (List (ZMod curveOrder))) (segment : List (ZMod curveOrder)),
      computeGroupHashTable [1, 1] = .ok table ∧ table[0]? = some segment ∧
      addOrderOf (1 : ZMod curveOrder) = curveOrder ∧ curveOrder.Prime ∧
      2 ^ 254 < curveOrder ∧ curveOrder < 2 ^ 255 ∧
      collisionLeft.length = 64 ∧ collisionRight.length = 64 ∧ 64 ≤ windowSize ∧
      collisionLeft ≠ collisionRight ∧
      windowSum segment collisionLeft = windowSum segment collisionRight := by
  have htable := computeGroupHashTable_eq ([1, 1] : List (ZMod curveOrder)) (by decide)
  have hsegment := getElem?_table (by decide) htable (by decide : 0 < numWindows)
  refine ⟨_, _, htable, hsegment, ZMod.addOrderOf_one curveOrder, curveOrder_prime, by decide,
    by decide, by decide, by decide, by decide, by decide, ?_⟩
  rw [windowSum_eq_iff (by decide) (by decide), encodeChunks_collision]
  show (addOrderOf (1 : ZMod curveOrder) : ℤ) ∣ curveOrder
  rw [ZMod.addOrderOf_one]

end ZendooSc
