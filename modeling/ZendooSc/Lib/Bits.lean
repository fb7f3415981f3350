/-
ZendooSc.Lib.Bits — big-endian bit strings and their packing into a semiring.

A circuit that packs bits into a field element, and a serialiser that writes
an integer as bits, both read a bit string with its most significant bit
first. This module has that reading once, at two types:

* `natBE`, the integer a list of Booleans denotes;
* `packBE`, the Horner sum of a list of semiring elements, which is what a
  packing gadget computes from its bit variables.

`packBE_map_bitVal` says the two agree through the cast. `bitsBE` writes an
integer into a given width, `natBE_bitsBE` is the truncation that causes, and
`bitsBE_drop` says that dropping leading bits is writing into fewer bits.
Nothing here mentions a circuit.
-/
import Mathlib.Data.ZMod.Basic
import Mathlib.Tactic.Ring
import Mathlib.Tactic.Linarith

namespace ZendooSc.Lib

/-! ## Integers -/

/-- The integer a bit string denotes, most significant bit first. -/
def natBE : List Bool → ℕ
  | [] => 0
  | b :: bs => b.toNat * 2 ^ bs.length + natBE bs

@[simp] theorem natBE_nil : natBE [] = 0 := rfl

theorem natBE_cons (b : Bool) (bs : List Bool) :
    natBE (b :: bs) = b.toNat * 2 ^ bs.length + natBE bs := rfl

/-- A string of `n` bits denotes an integer below `2 ^ n`. -/
theorem natBE_lt (bs : List Bool) : natBE bs < 2 ^ bs.length := by
  induction bs with
  | nil => simp
  | cons b bs ih =>
      have hb : b.toNat ≤ 1 := Bool.toNat_le b
      have hmul : b.toNat * 2 ^ bs.length ≤ 2 ^ bs.length := by
        simpa using Nat.mul_le_mul_right (2 ^ bs.length) hb
      rw [natBE_cons, List.length_cons, Nat.pow_succ]
      omega

/-- Concatenation shifts the first string past the second. -/
theorem natBE_append (as bs : List Bool) :
    natBE (as ++ bs) = natBE as * 2 ^ bs.length + natBE bs := by
  induction as with
  | nil => simp
  | cons a as ih =>
      rw [List.cons_append, natBE_cons, natBE_cons, ih, List.length_append, pow_add]
      ring

/-- The `width` low bits of `n`, most significant first. -/
def bitsBE : ℕ → ℕ → List Bool
  | 0, _ => []
  | width + 1, n => n.testBit width :: bitsBE width n

/-- The `width` low bits of `n`, least significant first. -/
def bitsLE (width n : ℕ) : List Bool :=
  (bitsBE width n).reverse

@[simp] theorem length_bitsBE (width n : ℕ) : (bitsBE width n).length = width := by
  induction width with
  | zero => rfl
  | succ width ih => simp [bitsBE, ih]

@[simp] theorem length_bitsLE (width n : ℕ) : (bitsLE width n).length = width := by
  simp [bitsLE]

@[simp] theorem reverse_bitsLE (width n : ℕ) : (bitsLE width n).reverse = bitsBE width n := by
  simp [bitsLE]

/-- Writing into `width` bits keeps the residue modulo `2 ^ width`. -/
theorem natBE_bitsBE (width n : ℕ) : natBE (bitsBE width n) = n % 2 ^ width := by
  induction width with
  | zero => simp [bitsBE, Nat.mod_one]
  | succ width ih =>
      rw [bitsBE, natBE_cons, length_bitsBE, ih, Nat.toNat_testBit, Nat.mod_pow_succ]
      ring

/-- Writing an integer that fits and reading it back is the identity. -/
theorem natBE_bitsBE_of_lt {width n : ℕ} (h : n < 2 ^ width) :
    natBE (bitsBE width n) = n := by
  rw [natBE_bitsBE, Nat.mod_eq_of_lt h]

/-- Strings of one length that denote the same integer are equal. -/
theorem natBE_injective : ∀ (as bs : List Bool), as.length = bs.length →
    natBE as = natBE bs → as = bs
  | [], [], _, _ => rfl
  | [], _ :: _, h, _ => by simp at h
  | _ :: _, [], h, _ => by simp at h
  | a :: as, b :: bs, hlen, h => by
      have hlen' : as.length = bs.length := by simpa using hlen
      have ha := natBE_lt as
      have hb := natBE_lt bs
      rw [natBE_cons, natBE_cons, hlen'] at h
      rw [hlen'] at ha
      -- the strings below the first bit are too short to make up for it
      have hhead : a = b := by
        cases a <;> cases b <;> simp at h ⊢ <;> omega
      have htail : natBE as = natBE bs := by
        rw [hhead] at h
        exact Nat.add_left_cancel h
      rw [hhead, natBE_injective as bs hlen' htail]

/-- Every string is the writing of the integer it denotes. -/
theorem bitsBE_natBE {n : ℕ} (bs : List Bool) (h : bs.length = n) :
    bitsBE n (natBE bs) = bs := by
  refine natBE_injective _ _ (by simp [h]) ?_
  rw [natBE_bitsBE, ← h, Nat.mod_eq_of_lt (natBE_lt bs)]

/-- Dropping the leading bits leaves the integer written into fewer bits. -/
theorem bitsBE_drop (k : ℕ) : ∀ (skip n : ℕ), (bitsBE (skip + k) n).drop skip = bitsBE k n
  | 0, n => by simp
  | skip + 1, n => by
      have hw : skip + 1 + k = (skip + k) + 1 := by omega
      rw [hw, bitsBE, List.drop_succ_cons, bitsBE_drop k skip n]

/-! ## Semiring elements -/

section Pack

variable {F : Type} [CommSemiring F]

/-- The semiring element of one bit. -/
def bitVal (b : Bool) : F := if b then 1 else 0

@[simp] theorem bitVal_true : (bitVal true : F) = 1 := rfl

@[simp] theorem bitVal_false : (bitVal false : F) = 0 := rfl

theorem bitVal_eq_natCast (b : Bool) : (bitVal b : F) = ((b.toNat : ℕ) : F) := by
  cases b <;> simp [bitVal]

/-- Horner's rule on a list of elements, most significant first. -/
def packBE (xs : List F) : F :=
  xs.foldl (fun acc x => 2 * acc + x) 0

/-- The Horner fold from any accumulator. -/
theorem foldl_pack (xs : List F) : ∀ acc : F,
    xs.foldl (fun acc x => 2 * acc + x) acc
      = acc * 2 ^ xs.length + xs.foldl (fun acc x => 2 * acc + x) 0 := by
  induction xs with
  | nil => intro acc; simp
  | cons x xs ih =>
      intro acc
      rw [List.foldl_cons, List.foldl_cons, ih (2 * acc + x), ih (2 * 0 + x),
        List.length_cons, pow_succ]
      ring

theorem packBE_cons (x : F) (xs : List F) :
    packBE (x :: xs) = x * 2 ^ xs.length + packBE xs := by
  rw [packBE, List.foldl_cons, foldl_pack, packBE]
  ring

/-- Packing bits is casting the integer they denote. -/
theorem packBE_map_bitVal (bs : List Bool) :
    packBE (bs.map bitVal) = ((natBE bs : ℕ) : F) := by
  induction bs with
  | nil => simp [packBE]
  | cons b bs ih =>
      rw [List.map_cons, packBE_cons, ih, natBE_cons, List.length_map, bitVal_eq_natCast]
      push_cast
      ring

/-- A list of zeros and ones is a list of bits. -/
theorem exists_map_bitVal (xs : List F) (h : ∀ x ∈ xs, x = 0 ∨ x = 1) :
    ∃ bs : List Bool, xs = bs.map bitVal := by
  induction xs with
  | nil => exact ⟨[], rfl⟩
  | cons x xs ih =>
      obtain ⟨bs, hbs⟩ := ih (fun y hy => h y (List.mem_cons_of_mem x hy))
      rcases h x List.mem_cons_self with hx | hx
      · exact ⟨false :: bs, by simp [hx, hbs]⟩
      · exact ⟨true :: bs, by simp [hx, hbs]⟩

/-- Every bit is a zero or a one. -/
theorem mem_map_bitVal {bs : List Bool} {x : F} (h : x ∈ bs.map bitVal) :
    x = 0 ∨ x = 1 := by
  obtain ⟨b, _, rfl⟩ := List.mem_map.mp h
  cases b
  · exact Or.inl rfl
  · exact Or.inr rfl

end Pack

end ZendooSc.Lib
