/-
ZendooSc.Lib.Lifetimes — what happens to the objects of a store.

`Evolves W F s s'` compares two states of a store from the point of view of the
objects there are in `s`. Each keeps its pointer, unless it is one of `F`, whose
pointer may have become null. Whoever has kept a box finds it as it was, unless
it is one of `W`. Objects created on the way are not spoken of.

The relation is a preorder, so it holds of a sequence of operations when it
holds of each. For an operation of a disciplined store it says that the object
operated on is the only one affected: a new box lies at an address that was
free, and a box that is overwritten or freed has no second owner.
-/
import ZendooSc.Lib.Ownership

namespace ZendooSc.Lib

namespace Store

variable {K B : Type}

/-- The objects of `s` on the way to `s'`: those of `F` may have been freed, and
those of `W` have got another box content. -/
structure Evolves (W F : K → ℕ → Prop) (s s' : Store K B) : Prop where
  pointer : ∀ k i a, s.pointer k i = some a →
    s'.pointer k i = some a ∨ F k i ∧ s'.pointer k i = some 0
  box : ∀ k i a, s.pointer k i = some a → a ≠ 0 → ¬ W k i → s'.pointer k i = some a →
    s'.heap a = s.heap a

namespace Evolves

variable {W W' F F' : K → ℕ → Prop} {s s' s'' : Store K B}

theorem refl (W F : K → ℕ → Prop) (s : Store K B) : Evolves W F s s where
  pointer := by
    intro k i a hp
    exact .inl hp
  box := by
    intro k i a _ _ _ _
    rfl

theorem trans (h : Evolves W F s s') (h' : Evolves W F s' s'') : Evolves W F s s'' where
  pointer := by
    intro k i a hp
    rcases h.pointer k i a hp with hkept | ⟨hF, hzero⟩
    · exact h'.pointer k i a hkept
    · rcases h'.pointer k i 0 hzero with hkept | ⟨-, hzero'⟩
      · exact .inr ⟨hF, hkept⟩
      · exact .inr ⟨hF, hzero'⟩
  box := by
    intro k i a hp ha hW hp''
    rcases h.pointer k i a hp with hp' | ⟨-, hzero⟩
    · exact (h'.box k i a hp' ha hW hp'').trans (h.box k i a hp ha hW hp')
    · -- a pointer that became null would still be null
      have hnull : s''.pointer k i = some 0 := by
        rcases h'.pointer k i 0 hzero with hkept | ⟨-, hzero'⟩
        · exact hkept
        · exact hzero'
      rw [hp''] at hnull
      exact absurd (Option.some.inj hnull) ha

/-- Only what is said of objects there are in `s` matters. -/
theorem mono (h : Evolves W F s s') (hW : ∀ k i, (s.pointer k i).isSome → W k i → W' k i)
    (hF : ∀ k i, (s.pointer k i).isSome → F k i → F' k i) : Evolves W' F' s s' where
  pointer := by
    intro k i a hp
    rcases h.pointer k i a hp with hkept | ⟨hfreed, hzero⟩
    · exact .inl hkept
    · exact .inr ⟨hF k i (by rw [hp]; rfl) hfreed, hzero⟩
  box := by
    intro k i a hp ha hnot hp'
    exact h.box k i a hp ha (fun hw => hnot (hW k i (by rw [hp]; rfl) hw)) hp'

/-- An object there is stays one. -/
theorem isSome_pointer (h : Evolves W F s s') {k : K} {i : ℕ} (hp : (s.pointer k i).isSome) :
    (s'.pointer k i).isSome := by
  obtain ⟨a, ha⟩ := Option.isSome_iff_exists.mp hp
  rcases h.pointer k i a ha with hkept | ⟨-, hzero⟩
  · rw [hkept]
    rfl
  · rw [hzero]
    rfl

/-- An object without a box does not get one. -/
theorem pointer_zero (h : Evolves W F s s') {k : K} {i : ℕ} (hp : s.pointer k i = some 0) :
    s'.pointer k i = some 0 := by
  rcases h.pointer k i 0 hp with hkept | ⟨-, hzero⟩
  · exact hkept
  · exact hzero

end Evolves

/-! ## The operations -/

section Operations

variable [DecidableEq K] {fits : K → B → Prop} {s : Store K B} (W F : K → ℕ → Prop)

theorem evolves_addObject (s : Store K B) (k : K) (a : ℕ) : Evolves W F s (s.addObject k a) where
  pointer := by
    intro k' i a' hp
    exact .inl (pointer_addObject.mpr (.inl hp))
  box := by
    intro k' i a' _ _ _ _
    rfl

/-- A box at an address that was free. -/
theorem evolves_adopt (h : Owned fits s) {k : K} {a : ℕ} (b : B) (hfree : s.heap a = none) :
    Evolves W F s (s.adopt k a b) where
  pointer := by
    intro k' i a' hp
    exact .inl (pointer_addObject.mpr (.inl hp))
  box := by
    intro k' i a' hp ha' _ _
    have hne : a' ≠ a := by
      rintro rfl
      exact h.not_pointed ha' hfree hp
    exact Function.update_of_ne hne _ _

omit [DecidableEq K] in
/-- The owner of a box overwrites it. -/
theorem evolves_write (h : Owned fits s) {k : K} {i a : ℕ} (b : B)
    (hp : s.pointer k i = some a) (hW : W k i) : Evolves W F s (s.write a b) where
  pointer := by
    intro k' i' a' hp'
    exact .inl hp'
  box := by
    intro k' i' a' hp' ha' hnot _
    have hne : a' ≠ a := by
      rintro rfl
      obtain ⟨hk, hi⟩ := h.unique k i k' i' a' ha' hp hp'
      rw [hk, hi] at hnot
      exact hnot hW
    exact Function.update_of_ne hne _ _

/-- The owner of a box frees it. -/
theorem evolves_release (h : Owned fits s) {k : K} {i a : ℕ} (hp : s.pointer k i = some a)
    (hF : F k i) : Evolves W F s ((s.drop a).clear k i) where
  pointer := by
    intro k' i' a' hp'
    by_cases hsame : k' = k ∧ i' = i
    · obtain ⟨rfl, rfl⟩ := hsame
      refine .inr ⟨hF, ?_⟩
      have hlt : i' < (s.fields k').length := (List.getElem?_eq_some_iff.mp hp).1
      simp [pointer, clear, drop, hlt]
    · exact .inl ((pointer_clear_of_ne hsame).trans hp')
  box := by
    intro k' i' a' hp' ha' _ hafter
    have hne : a' ≠ a := by
      rintro rfl
      obtain ⟨rfl, rfl⟩ := h.unique k i k' i' a' ha' hp hp'
      rcases pointer_clear hafter with ⟨-, -, hzero⟩ | ⟨hother, -⟩
      · exact ha' hzero
      · exact hother ⟨rfl, rfl⟩
    exact Function.update_of_ne hne _ _

end Operations

end Store

end ZendooSc.Lib
