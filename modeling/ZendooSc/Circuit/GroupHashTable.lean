/-
ZendooSc.Circuit.GroupHashTable — the parameters of the VRF's group hash.

`VRFParams::compute_group_hash_table` fills one row for every window. It starts
from the window's generator and doubles the running point in place, four times
between one entry and the next. The points are the elements of any abelian
group: the function only copies and doubles them.

`segmentLoop_eq` is the invariant of the inner loop. What the loop still has to
push is the row of the point it holds, so `row` is the closed form of what it
pushes.
-/
import Mathlib.Algebra.Group.Defs
import Mathlib.Algebra.Group.Basic
import Mathlib.Algebra.Group.Nat.Defs
import Mathlib.Algebra.Group.Int.Defs
import Mathlib.Logic.Function.Iterate
import ZendooSc.Calls

namespace ZendooSc

/-- `VRFWindow::WINDOW_SIZE`. -/
def windowSize : ℕ := 128

/-- `VRFWindow::NUM_WINDOWS`. -/
def numWindows : ℕ := 2

variable {G : Type*} [AddCommGroup G]

/-- `double_in_place`. -/
def doubleInPlace (base : G) : G := base + base

/-- The loop over a window: push the point, then double it four times. -/
def segmentLoop : ℕ → List G → G → List G
  | 0, generatorsForSegment, _ => generatorsForSegment
  | n + 1, generatorsForSegment, base =>
      segmentLoop n (generatorsForSegment ++ [base]) (doubleInPlace^[4] base)

/-- The loop over the windows. A generator that is not there is an index out of
bounds. -/
def windowLoop (generators : List G) : List ℕ → List (List G) → Except Panic (List (List G))
  | [], genTable => .ok genTable
  | i :: is, genTable =>
      match generators[i]? with
      | none => .error .indexOutOfBounds
      | some base => windowLoop generators is (genTable ++ [segmentLoop windowSize [] base])

/-- `VRFParams::compute_group_hash_table`. -/
def computeGroupHashTable (generators : List G) : Except Panic (List (List G)) :=
  windowLoop generators (List.range numWindows) []

structure VRFParams (G : Type*) where
  groupHashGenerators : List (List G)

/-- `VRFParams::new`, on the two points it is written with. -/
def VRFParams.new (gen1 gen2 : G) : Except Panic (VRFParams G) := do
  let groupHashGenerators ← computeGroupHashTable [gen1, gen2]
  pure { groupHashGenerators }

/-! ## A row -/

/-- `n` entries, each 16 times the one before. -/
def row : ℕ → G → List G
  | 0, _ => []
  | n + 1, base => base :: row n (16 • base)

@[simp] theorem row_zero (base : G) : row 0 base = [] := rfl

@[simp] theorem row_succ (n : ℕ) (base : G) : row (n + 1) base = base :: row n (16 • base) := rfl

@[simp] theorem length_row (n : ℕ) (base : G) : (row n base).length = n := by
  induction n generalizing base with
  | zero => rfl
  | succ n ih => simp [ih]

theorem doubleInPlace_iterate (n : ℕ) (base : G) : doubleInPlace^[n] base = 2 ^ n • base := by
  induction n with
  | zero =>
    show base = 2 ^ 0 • base
    rw [Nat.pow_zero, one_nsmul]
  | succ n ih =>
    rw [Function.iterate_succ_apply', ih, Nat.pow_succ, Nat.mul_two, add_nsmul, doubleInPlace]

/-- The loop adds the row of its point to what it has pushed. -/
theorem segmentLoop_eq (n : ℕ) (pushed : List G) (base : G) :
    segmentLoop n pushed base = pushed ++ row n base := by
  induction n generalizing pushed base with
  | zero => simp [segmentLoop]
  | succ n ih => rw [segmentLoop, ih, doubleInPlace_iterate, row_succ, List.append_assoc]; rfl

theorem getElem?_row (n : ℕ) (base : G) (j : ℕ) (hj : j < n) :
    (row n base)[j]? = some (2 ^ (4 * j) • base) := by
  induction n generalizing base j with
  | zero => omega
  | succ n ih =>
    cases j with
    | zero => rw [row_succ, List.getElem?_cons_zero, Nat.mul_zero, Nat.pow_zero, one_nsmul]
    | succ j =>
      have hpow : 2 ^ (4 * (j + 1)) = 16 * 2 ^ (4 * j) := by
        rw [Nat.mul_succ, Nat.pow_add, Nat.mul_comm]
      rw [row_succ, List.getElem?_cons_succ, ih (16 • base) j (by omega), hpow, mul_nsmul]

/-! ## The table -/

/-- The loop over the windows adds the row of every generator it reads. -/
theorem windowLoop_eq (generators : List G) (is : List ℕ) (pushed : List (List G))
    (h : ∀ i ∈ is, i < generators.length) :
    windowLoop generators is pushed =
      .ok (pushed ++ is.map fun i => row windowSize (generators.getD i 0)) := by
  induction is generalizing pushed with
  | nil => simp [windowLoop]
  | cons i is ih =>
    have hi : i < generators.length := h i (by simp)
    have hrest := ih (pushed ++ [row windowSize generators[i]]) fun j hj => h j (by simp [hj])
    simp only [windowLoop, List.getElem?_eq_getElem hi, segmentLoop_eq, List.nil_append]
    rw [hrest]
    simp [hi]

/-- The table is one row for each window. -/
theorem computeGroupHashTable_eq (generators : List G) (h : numWindows ≤ generators.length) :
    computeGroupHashTable generators =
      .ok ((List.range numWindows).map fun i => row windowSize (generators.getD i 0)) := by
  rw [computeGroupHashTable, windowLoop_eq, List.nil_append]
  intro i hi
  have := List.mem_range.mp hi
  omega

/-- `VRFParams::new` does not panic, whatever the two points are. -/
theorem VRFParams.new_eq (gen1 gen2 : G) :
    VRFParams.new gen1 gen2 = .ok ⟨[row windowSize gen1, row windowSize gen2]⟩ := by
  rw [VRFParams.new, computeGroupHashTable_eq [gen1, gen2] (by simp [numWindows])]
  rfl

/-- Row `i` of the table is the row of generator `i`. -/
theorem getElem?_table {generators : List G} (h : numWindows ≤ generators.length)
    {table : List (List G)} (htable : computeGroupHashTable generators = .ok table) {i : ℕ}
    (hi : i < numWindows) : table[i]? = some (row windowSize generators[i]) := by
  have hgen : i < generators.length := by omega
  rw [computeGroupHashTable_eq generators h] at htable
  rw [← Except.ok.inj htable]
  simp [hi, hgen]

/-- The table in closed form. -/
theorem computeGroupHashTable_closed_form (generators : List G)
    (h : numWindows ≤ generators.length) :
    ∃ table, computeGroupHashTable generators = .ok table ∧ table.length = numWindows ∧
      ∀ i (hi : i < numWindows), ∃ segment, table[i]? = some segment ∧
        segment.length = windowSize ∧
        (∀ j < windowSize, segment[j]? = some (2 ^ (4 * j) • generators[i])) ∧
        segment[0]? = some generators[i] ∧
        ∀ j, j + 1 < windowSize → segment[j + 1]? = segment[j]?.map fun entry => 16 • entry := by
  have htable := computeGroupHashTable_eq generators h
  refine ⟨_, htable, by simp, fun i hi => ?_⟩
  refine ⟨_, getElem?_table h htable hi, length_row _ _, ?_, ?_, ?_⟩
  · intro j hj
    exact getElem?_row windowSize generators[i] j hj
  · rw [getElem?_row windowSize generators[i] 0 (by decide), Nat.mul_zero, Nat.pow_zero, one_nsmul]
  · intro j hj
    rw [getElem?_row _ _ j (by omega), getElem?_row _ _ (j + 1) hj, Option.map_some,
      Nat.mul_succ, Nat.pow_add, mul_nsmul]

theorem computeGroupHashTable_closed_form_int :
    ∃ table, computeGroupHashTable ([1, 3] : List ℤ) = .ok table ∧ table.length = numWindows ∧
      ∀ i (hi : i < numWindows), ∃ segment, table[i]? = some segment ∧
        segment.length = windowSize ∧
        (∀ j < windowSize, segment[j]? = some (2 ^ (4 * j) • ([1, 3] : List ℤ)[i])) ∧
        segment[0]? = some ([1, 3] : List ℤ)[i] ∧
        ∀ j, j + 1 < windowSize → segment[j + 1]? = segment[j]?.map fun entry => 16 • entry :=
  computeGroupHashTable_closed_form [1, 3] (by decide)

end ZendooSc
