/-
ZendooSc.Lib.MerkleTree — binary Merkle trees and authentication paths.

The leaves of a tree are a function, of which a tree of height `h` uses the first
`2 ^ h`. One level up there are half as many nodes, and they are the leaves of a
tree that is one lower: definitions and proofs go up level by level.

A path is the list of the siblings on the way from a leaf to the root, each with
the side it is on. `climb_authPath` says that the path of a leaf leads to the
root. `climb_sound` is the converse: a path that leads to the root, whoever made
it, is the path of the leaf at its index, and starts from that leaf. It assumes
that no pair hashed on the way collides with one of the tree. That the hash has no
collision at all would be too much to ask of a function into its own arguments.
-/
import Mathlib.Algebra.Order.Ring.Nat
import Mathlib.Data.Nat.Init

namespace ZendooSc.Lib

variable {α : Type} (hash : α × α → α)

/-- The nodes of the next level. -/
def levelUp (leaf : ℕ → α) (i : ℕ) : α := hash (leaf (2 * i), leaf (2 * i + 1))

/-- The root over the first `2 ^ h` leaves. -/
def merkleRoot : ℕ → (ℕ → α) → α
  | 0, leaf => leaf 0
  | h + 1, leaf => merkleRoot h (levelUp hash leaf)

/-- A step of a path: whether the node is the right child, and its sibling. -/
abbrev PathStep (α : Type) := Bool × α

/-- The path of the `i`-th leaf. -/
def authPath : ℕ → (ℕ → α) → ℕ → List (PathStep α)
  | 0, _, _ => []
  | h + 1, leaf, i =>
      (i % 2 == 1, leaf (if i % 2 = 1 then i - 1 else i + 1)) ::
        authPath h (levelUp hash leaf) (i / 2)

/-- A node and its sibling, in the order they are hashed. -/
def children (a : α) (step : PathStep α) : α × α :=
  if step.1 then (step.2, a) else (a, step.2)

/-- From a leaf up a path. -/
def climb : α → List (PathStep α) → α
  | a, [] => a
  | a, step :: path => climb (hash (children a step)) path

/-- The pairs that are hashed on the way. -/
def climbPairs : α → List (PathStep α) → List (α × α)
  | _, [] => []
  | a, step :: path => children a step :: climbPairs (hash (children a step)) path

/-- The index of the leaf a path is for. -/
def pathIndex : List (PathStep α) → ℕ
  | [] => 0
  | step :: path => (if step.1 then 1 else 0) + 2 * pathIndex path

/-- All nodes to the right of a path are empty ones. -/
def rightEmpty : α → List (PathStep α) → Prop
  | _, [] => True
  | e, step :: path => (step.1 = true ∨ step.2 = e) ∧ rightEmpty (hash (e, e)) path

instance decidableRightEmpty [DecidableEq α] (e : α) (path : List (PathStep α)) :
    Decidable (rightEmpty hash e path) :=
  match path with
  | [] => inferInstanceAs (Decidable True)
  | step :: path =>
      have := decidableRightEmpty (hash (e, e)) path
      inferInstanceAs
        (Decidable ((step.1 = true ∨ step.2 = e) ∧ rightEmpty hash (hash (e, e)) path))

/-! ## Sizes and positions -/

theorem length_authPath (h : ℕ) (leaf : ℕ → α) (i : ℕ) : (authPath hash h leaf i).length = h := by
  induction h generalizing leaf i with
  | zero => rfl
  | succ h ih => simp [authPath, ih]

theorem pathIndex_authPath (h : ℕ) (leaf : ℕ → α) {i : ℕ} (hi : i < 2 ^ h) :
    pathIndex (authPath hash h leaf i) = i := by
  induction h generalizing leaf i with
  | zero =>
      have hzero : i = 0 := by simpa using hi
      simp [authPath, pathIndex, hzero]
  | succ h ih =>
      have hhalf : i / 2 < 2 ^ h := by omega
      simp only [authPath, pathIndex, ih _ hhalf, beq_iff_eq]
      split <;> omega

theorem pathIndex_lt (path : List (PathStep α)) : pathIndex path < 2 ^ path.length := by
  induction path with
  | nil => simp [pathIndex]
  | cons step path ih =>
      simp only [pathIndex, List.length_cons, pow_succ]
      split <;> omega

/-- The path of the first leaf is always on the left. -/
theorem all_left_iff (path : List (PathStep α)) :
    (path.all fun step => !step.1) = true ↔ pathIndex path = 0 := by
  induction path with
  | nil => simp [pathIndex]
  | cons step path ih =>
      obtain ⟨right, a⟩ := step
      cases right with
      | false => simp [pathIndex, ih]
      | true => simp [pathIndex]

/-- The path of the last leaf is always on the right. -/
theorem all_right_iff (path : List (PathStep α)) :
    (path.all fun step => step.1) = true ↔ pathIndex path + 1 = 2 ^ path.length := by
  induction path with
  | nil => simp [pathIndex]
  | cons step path ih =>
      have hlt := pathIndex_lt path
      obtain ⟨right, a⟩ := step
      cases right with
      | false =>
          have hne : ¬ 0 + 2 * pathIndex path + 1 = 2 ^ path.length * 2 := by omega
          simpa [pathIndex, pow_succ] using hne
      | true =>
          have hiff : pathIndex path + 1 = 2 ^ path.length ↔
              1 + 2 * pathIndex path + 1 = 2 ^ path.length * 2 := by omega
          simpa [pathIndex, pow_succ, ih] using hiff

/-! ## Paths and roots -/

/-- One step up the path of a leaf is the path of its parent. -/
theorem children_authPath (leaf : ℕ → α) (i : ℕ) :
    hash (children (leaf i) (i % 2 == 1, leaf (if i % 2 = 1 then i - 1 else i + 1)))
      = levelUp hash leaf (i / 2) := by
  rcases Nat.mod_two_eq_zero_or_one i with heven | hodd
  · have hi : 2 * (i / 2) = i := by omega
    simp [children, levelUp, heven, hi]
  · have hi : 2 * (i / 2) = i - 1 := by omega
    have hpos : i - 1 + 1 = i := by omega
    simp [children, levelUp, hodd, hi, hpos]

/-- The path of a leaf leads to the root. -/
theorem climb_authPath (h : ℕ) (leaf : ℕ → α) {i : ℕ} (hi : i < 2 ^ h) :
    climb hash (leaf i) (authPath hash h leaf i) = merkleRoot hash h leaf := by
  induction h generalizing leaf i with
  | zero =>
      have hzero : i = 0 := by simpa using hi
      rw [hzero]
      rfl
  | succ h ih =>
      have hhalf : i / 2 < 2 ^ h := by omega
      rw [authPath, climb, children_authPath hash, ih _ hhalf, merkleRoot]

/-- With nothing but empty leaves after the `i`-th, all is empty to the right of
its path. -/
theorem rightEmpty_authPath (h : ℕ) {leaf : ℕ → α} {e : α} {i : ℕ}
    (hempty : ∀ j, i < j → leaf j = e) : rightEmpty hash e (authPath hash h leaf i) := by
  induction h generalizing leaf e i with
  | zero => trivial
  | succ h ih =>
      have hup : ∀ j, i / 2 < j → levelUp hash leaf j = hash (e, e) := by
        intro j hj
        rw [levelUp, hempty (2 * j) (by omega), hempty (2 * j + 1) (by omega)]
      refine ⟨?_, ih hup⟩
      rcases Nat.mod_two_eq_zero_or_one i with heven | hodd
      · right
        simp [heven, hempty (i + 1) (Nat.lt_succ_self i)]
      · left
        simp [hodd]

theorem pathIndex_cons (step : PathStep α) (path : List (PathStep α)) :
    pathIndex (step :: path) / 2 = pathIndex path ∧
      pathIndex (step :: path) % 2 = if step.1 then 1 else 0 := by
  rw [pathIndex]
  split <;> omega

/-- A path that leads from an element to the root is the path of the leaf at its
index, and the element is that leaf. -/
theorem climb_sound (path : List (PathStep α)) (a : α) (leaf : ℕ → α)
    (hroot : climb hash a path = merkleRoot hash path.length leaf)
    (hfree : ∀ x ∈ climbPairs hash a path, ∀ y ∈ climbPairs hash (leaf (pathIndex path))
      (authPath hash path.length leaf (pathIndex path)), hash x = hash y → x = y) :
    a = leaf (pathIndex path) ∧ path = authPath hash path.length leaf (pathIndex path) := by
  induction path generalizing a leaf with
  | nil => exact ⟨hroot, rfl⟩
  | cons step path ih =>
      obtain ⟨hhalf, hside⟩ := pathIndex_cons step path
      generalize hi : pathIndex (step :: path) = i at hhalf hside hfree ⊢
      simp only [List.length_cons, authPath, climbPairs, children_authPath hash, hhalf] at hfree ⊢
      -- the levels above
      obtain ⟨hnode, hpath⟩ := ih (hash (children a step)) (levelUp hash leaf) hroot
        fun x hx y hy => hfree x (List.mem_cons_of_mem _ hx) y (List.mem_cons_of_mem _ hy)
      -- and the two children of the node
      have hsame : hash (children a step) = hash (children (leaf i)
          (i % 2 == 1, leaf (if i % 2 = 1 then i - 1 else i + 1))) := by
        rw [children_authPath hash, hhalf, hnode]
      have hpair := hfree _ List.mem_cons_self _ List.mem_cons_self hsame
      obtain ⟨right, sibling⟩ := step
      cases right with
      | false =>
          have hmod : i % 2 = 0 := hside
          have hchildren : (a, sibling) = (leaf i, leaf (i + 1)) := by
            simpa [children, hmod] using hpair
          obtain ⟨ha, hsibling⟩ := Prod.mk.inj hchildren
          rw [← hpath, ha, hsibling, hmod]
          exact ⟨rfl, rfl⟩
      | true =>
          have hmod : i % 2 = 1 := hside
          have hchildren : (sibling, a) = (leaf (i - 1), leaf i) := by
            simpa [children, hmod] using hpair
          obtain ⟨hsibling, ha⟩ := Prod.mk.inj hchildren
          rw [← hpath, ha, hsibling, hmod]
          exact ⟨rfl, rfl⟩

end ZendooSc.Lib
