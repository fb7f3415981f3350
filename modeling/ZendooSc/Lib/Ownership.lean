/-
ZendooSc.Lib.Ownership — objects that own boxes of a heap.

A `Store` is a heap of boxes together with the pointer fields of the objects
outside the heap, class by class. Zero is the null pointer. Four operations
act on it: a new box is adopted by a new object, a new object starts out with
null, a box is overwritten in place, and an object releases its box, which
clears the field.

`Owned` is the discipline: every pointer field is null or points to a live box
of the class's type, no two fields share a box, and every live box has a field
that points to it. Each operation keeps it. What follows is that a pointer read
from a field can be followed (`Owned.live`), that an object which releases
its box leaves no other field dangling (`Owned.release`), and that every live
box has exactly one owner (`Owned.existsUnique_owner`).
-/
import Mathlib.Logic.Function.Basic
import Mathlib.Logic.ExistsUnique
import Mathlib.Data.Nat.Notation

namespace ZendooSc.Lib

/-- A heap, and the pointer fields of the objects of each class. -/
structure Store (K B : Type) where
  heap : ℕ → Option B
  fields : K → List ℕ

namespace Store

variable {K B : Type}

/-- The pointer field of the `i`-th object of class `k`. -/
def pointer (s : Store K B) (k : K) (i : ℕ) : Option ℕ := (s.fields k)[i]?

/-- No boxes and no objects. -/
def empty : Store K B := ⟨fun _ => none, fun _ => []⟩

/-- A new object of class `k` whose pointer field is `a`. -/
def addObject [DecidableEq K] (s : Store K B) (k : K) (a : ℕ) : Store K B :=
  { s with fields := Function.update s.fields k (s.fields k ++ [a]) }

/-- A box at `a`. -/
def write (s : Store K B) (a : ℕ) (b : B) : Store K B :=
  { s with heap := Function.update s.heap a (some b) }

/-- A new box at `a`, adopted by a new object. -/
def adopt [DecidableEq K] (s : Store K B) (k : K) (a : ℕ) (b : B) : Store K B :=
  (s.write a b).addObject k a

/-- The box at `a` is freed. -/
def drop (s : Store K B) (a : ℕ) : Store K B :=
  { s with heap := Function.update s.heap a none }

/-- The pointer field of an object is set to null. -/
def clear [DecidableEq K] (s : Store K B) (k : K) (i : ℕ) : Store K B :=
  { s with fields := Function.update s.fields k ((s.fields k).set i 0) }

/-! ## Pointer fields after an operation -/

section Fields

variable [DecidableEq K]

theorem pointer_addObject_of_ne (s : Store K B) {k k' : K} (h : k' ≠ k) (a i : ℕ) :
    (s.addObject k a).pointer k' i = s.pointer k' i := by
  simp [pointer, addObject, Function.update_of_ne h]

/-- A field after a new object: an old one, or the new one. -/
theorem pointer_addObject {s : Store K B} {k k' : K} {a a' i : ℕ} :
    (s.addObject k a).pointer k' i = some a' ↔
      s.pointer k' i = some a' ∨ k' = k ∧ i = (s.fields k).length ∧ a' = a := by
  by_cases hk : k' = k
  · subst hk
    simp only [pointer, addObject, Function.update_self, true_and]
    rcases Nat.lt_trichotomy i (s.fields k').length with hlt | heq | hgt
    · rw [List.getElem?_append_left hlt]
      constructor
      · intro h
        exact .inl h
      · rintro (h | ⟨h, -⟩)
        · exact h
        · omega
    · subst heq
      simp [eq_comm]
    · rw [List.getElem?_eq_none (by simp; omega), List.getElem?_eq_none (by omega)]
      constructor
      · intro h
        cases h
      · rintro (h | ⟨h, -⟩)
        · cases h
        · omega
  · rw [pointer_addObject_of_ne s hk]
    simp [hk]

/-- A field after one was cleared: that one is null, the others are as before. -/
theorem pointer_clear {s : Store K B} {k k' : K} {a' i i' : ℕ}
    (h : (s.clear k i).pointer k' i' = some a') :
    (k' = k ∧ i' = i ∧ a' = 0) ∨ (¬ (k' = k ∧ i' = i) ∧ s.pointer k' i' = some a') := by
  by_cases hk : k' = k
  · subst hk
    simp only [pointer, clear, Function.update_self] at h
    by_cases hi : i' = i
    · subst hi
      rw [List.getElem?_set_self'] at h
      obtain ⟨-, -, rfl⟩ := Option.map_eq_some_iff.mp h
      exact .inl ⟨rfl, rfl, rfl⟩
    · rw [List.getElem?_set_ne (Ne.symm hi)] at h
      exact .inr ⟨fun hboth => hi hboth.2, h⟩
  · refine .inr ⟨fun hboth => hk hboth.1, ?_⟩
    simpa [pointer, clear, Function.update_of_ne hk] using h

theorem pointer_clear_of_ne {s : Store K B} {k k' : K} {i i' : ℕ} (h : ¬ (k' = k ∧ i' = i)) :
    (s.clear k i).pointer k' i' = s.pointer k' i' := by
  by_cases hk : k' = k
  · subst hk
    have hi : i' ≠ i := fun heq => h ⟨rfl, heq⟩
    simp only [pointer, clear, Function.update_self]
    rw [List.getElem?_set_ne (Ne.symm hi)]
  · simp [pointer, clear, Function.update_of_ne hk]

end Fields

/-! ## The discipline -/

/-- Boxes have one owner each, and owners have their box. `fits k b` says that
the box `b` has the type of class `k`. -/
structure Owned (fits : K → B → Prop) (s : Store K B) : Prop where
  null : s.heap 0 = none
  live : ∀ k i a, s.pointer k i = some a → a ≠ 0 → ∃ b, s.heap a = some b ∧ fits k b
  unique : ∀ k i k' i' a, a ≠ 0 → s.pointer k i = some a → s.pointer k' i' = some a →
    k' = k ∧ i' = i
  owner : ∀ a b, s.heap a = some b → ∃ k i, s.pointer k i = some a

variable {fits : K → B → Prop} {s : Store K B}

theorem owned_empty : Owned fits (empty : Store K B) where
  null := rfl
  live := by
    intro k i a h
    cases h
  unique := by
    intro k i k' i' a _ h
    cases h
  owner := by
    intro a b h
    cases h

namespace Owned

theorem heap_ne_zero (h : Owned fits s) {a : ℕ} {b : B} (hb : s.heap a = some b) : a ≠ 0 := by
  intro ha
  rw [ha, h.null] at hb
  cases hb

/-- A live box has exactly one owner. -/
theorem existsUnique_owner (h : Owned fits s) {a : ℕ} {b : B} (hb : s.heap a = some b) :
    ∃! owner : K × ℕ, s.pointer owner.1 owner.2 = some a := by
  obtain ⟨k, i, hp⟩ := h.owner a b hb
  refine ⟨(k, i), hp, ?_⟩
  rintro ⟨k', i'⟩ hp'
  obtain ⟨hk, hi⟩ := h.unique k i k' i' a (h.heap_ne_zero hb) hp hp'
  rw [hk, hi]

/-- No field points where there is no box. -/
theorem not_pointed (h : Owned fits s) {a : ℕ} (ha : a ≠ 0) (hfree : s.heap a = none) {k : K}
    {i : ℕ} (hp : s.pointer k i = some a) : False := by
  obtain ⟨b, hb, -⟩ := h.live k i a hp ha
  rw [hfree] at hb
  cases hb

/-- A box overwritten through a field of its type. -/
theorem write (h : Owned fits s) {k : K} {i a : ℕ} {b : B} (hp : s.pointer k i = some a)
    (ha : a ≠ 0) (hfits : fits k b) : Owned fits (s.write a b) where
  null := by
    have hzero : (s.write a b).heap 0 = s.heap 0 := Function.update_of_ne ha.symm _ _
    rw [hzero, h.null]
  live := by
    intro k' i' a' hp' ha'
    by_cases haa : a' = a
    · subst haa
      obtain ⟨hk, -⟩ := h.unique k i k' i' a' ha' hp hp'
      rw [hk]
      exact ⟨b, Function.update_self _ _ _, hfits⟩
    · have hheap : (s.write a b).heap a' = s.heap a' := Function.update_of_ne haa _ _
      rw [hheap]
      exact h.live k' i' a' hp' ha'
  unique := h.unique
  owner := by
    intro a' b' hb'
    by_cases haa : a' = a
    · rw [haa]
      exact ⟨k, i, hp⟩
    · have hheap : (s.write a b).heap a' = s.heap a' := Function.update_of_ne haa _ _
      rw [hheap] at hb'
      exact h.owner a' b' hb'

variable [DecidableEq K]

/-- An object that starts out with null. -/
theorem addNull (h : Owned fits s) (k : K) : Owned fits (s.addObject k 0) where
  null := h.null
  live := by
    intro k' i a hp ha
    rcases pointer_addObject.mp hp with hold | ⟨-, -, hnew⟩
    · exact h.live k' i a hold ha
    · exact absurd hnew ha
  unique := by
    intro k₁ i₁ k₂ i₂ a ha hp₁ hp₂
    rcases pointer_addObject.mp hp₁ with hold₁ | ⟨-, -, hnew⟩
    · rcases pointer_addObject.mp hp₂ with hold₂ | ⟨-, -, hnew⟩
      · exact h.unique k₁ i₁ k₂ i₂ a ha hold₁ hold₂
      · exact absurd hnew ha
    · exact absurd hnew ha
  owner := by
    intro a b hb
    obtain ⟨k', i, hp⟩ := h.owner a b hb
    exact ⟨k', i, pointer_addObject.mpr (.inl hp)⟩

/-- A new box with its new owner. -/
theorem adopt (h : Owned fits s) {k : K} {a : ℕ} {b : B} (ha : a ≠ 0) (hfree : s.heap a = none)
    (hfits : fits k b) : Owned fits (s.adopt k a b) where
  null := by
    have hzero : (s.adopt k a b).heap 0 = s.heap 0 := Function.update_of_ne ha.symm _ _
    rw [hzero, h.null]
  live := by
    intro k' i a' hp ha'
    rcases pointer_addObject.mp hp with hold | ⟨hk, -, haa⟩
    · have hne : a' ≠ a := by
        intro heq
        subst heq
        exact h.not_pointed ha hfree hold
      have hheap : (s.adopt k a b).heap a' = s.heap a' := Function.update_of_ne hne _ _
      rw [hheap]
      exact h.live k' i a' hold ha'
    · rw [hk, haa]
      exact ⟨b, Function.update_self _ _ _, hfits⟩
  unique := by
    intro k₁ i₁ k₂ i₂ a' ha' hp₁ hp₂
    rcases pointer_addObject.mp hp₁ with hold₁ | ⟨hk₁, hi₁, ha₁⟩
    · rcases pointer_addObject.mp hp₂ with hold₂ | ⟨-, -, ha₂⟩
      · exact h.unique k₁ i₁ k₂ i₂ a' ha' hold₁ hold₂
      · rw [ha₂] at hold₁
        exact absurd hold₁ fun hp => h.not_pointed ha hfree hp
    · rcases pointer_addObject.mp hp₂ with hold₂ | ⟨hk₂, hi₂, -⟩
      · rw [ha₁] at hold₂
        exact absurd hold₂ fun hp => h.not_pointed ha hfree hp
      · exact ⟨hk₂.trans hk₁.symm, hi₂.trans hi₁.symm⟩
  owner := by
    intro a' b' hb'
    by_cases haa : a' = a
    · rw [haa]
      exact ⟨k, (s.fields k).length, pointer_addObject.mpr (.inr ⟨rfl, rfl, rfl⟩)⟩
    · have hheap : (s.adopt k a b).heap a' = s.heap a' := Function.update_of_ne haa _ _
      rw [hheap] at hb'
      obtain ⟨k', i, hp⟩ := h.owner a' b' hb'
      exact ⟨k', i, pointer_addObject.mpr (.inl hp)⟩

/-- A box freed by its owner, whose field is cleared. -/
theorem release (h : Owned fits s) {k : K} {i a : ℕ} (hp : s.pointer k i = some a) (ha : a ≠ 0) :
    Owned fits ((s.drop a).clear k i) where
  null := by
    have hzero : ((s.drop a).clear k i).heap 0 = s.heap 0 := Function.update_of_ne ha.symm _ _
    rw [hzero, h.null]
  live := by
    intro k' i' a' hp' ha'
    rcases pointer_clear hp' with ⟨-, -, hzero⟩ | ⟨hother, hold⟩
    · exact absurd hzero ha'
    · have hne : a' ≠ a := by
        intro heq
        subst heq
        exact hother (h.unique k i k' i' a' ha' hp hold)
      have hheap : ((s.drop a).clear k i).heap a' = s.heap a' := Function.update_of_ne hne _ _
      rw [hheap]
      exact h.live k' i' a' hold ha'
  unique := by
    intro k₁ i₁ k₂ i₂ a' ha' hp₁ hp₂
    rcases pointer_clear hp₁ with ⟨-, -, hzero⟩ | ⟨-, hold₁⟩
    · exact absurd hzero ha'
    · rcases pointer_clear hp₂ with ⟨-, -, hzero⟩ | ⟨-, hold₂⟩
      · exact absurd hzero ha'
      · exact h.unique k₁ i₁ k₂ i₂ a' ha' hold₁ hold₂
  owner := by
    intro a' b hb
    have hne : a' ≠ a := by
      intro heq
      subst heq
      have hfreed : ((s.drop a').clear k i).heap a' = none := Function.update_self _ _ _
      rw [hfreed] at hb
      cases hb
    have hheap : ((s.drop a).clear k i).heap a' = s.heap a' := Function.update_of_ne hne _ _
    rw [hheap] at hb
    obtain ⟨k', i', hp'⟩ := h.owner a' b hb
    have hother : ¬ (k' = k ∧ i' = i) := by
      rintro ⟨rfl, rfl⟩
      rw [hp] at hp'
      exact hne (Option.some_inj.mp hp').symm
    refine ⟨k', i', ?_⟩
    rw [pointer_clear_of_ne hother]
    exact hp'

end Owned

end Store

end ZendooSc.Lib
