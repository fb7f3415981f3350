/-
ZendooSc.Lib.Addresses — stores that differ in addresses, and in some objects.

`target` is the box an object points to. Two stores are the `SameBut` for the
objects of `D` if they have equally many objects of each class, and the same boxes
behind those that are not in `D`. Where the boxes are does not matter, nor which
addresses were used before.

If both stores are disciplined, an operation on an object of one and the same
operation on the object of that number of the other lead to such stores again.
The discipline is what this needs: with it a box that is written or freed is the
target of one object, and a new box was the target of none.
-/
import ZendooSc.Lib.Ownership

namespace ZendooSc.Lib

namespace Store

variable {K B : Type}

/-- The box behind the `i`-th object of class `k`. -/
def target (s : Store K B) (k : K) (i : ℕ) : Option B := (s.pointer k i).bind s.heap

theorem target_of_pointer {s : Store K B} {k : K} {i a : ℕ} (hp : s.pointer k i = some a) :
    s.target k i = s.heap a := by
  rw [target, hp, Option.bind_some]

theorem target_of_none {s : Store K B} {k : K} {i : ℕ} (hp : s.pointer k i = none) :
    s.target k i = none := by
  rw [target, hp, Option.bind_none]

/-- There is an object of a number if the number is small enough. -/
theorem pointer_eq_none {s : Store K B} {k : K} {i : ℕ} :
    s.pointer k i = none ↔ (s.fields k).length ≤ i :=
  List.getElem?_eq_none_iff

/-! ## Targets after an operation -/

section Targets

variable {fits : K → B → Prop} {s : Store K B}

/-- What an object points to, if it is not at `a`. -/
theorem target_update (s : Store K B) (a : ℕ) (b : Option B) {k : K} {i : ℕ}
    (hne : s.pointer k i ≠ some a) :
    (s.pointer k i).bind (Function.update s.heap a b) = s.target k i := by
  rcases hp : s.pointer k i with _ | a'
  · rw [target_of_none hp, Option.bind_none]
  · have haa : a' ≠ a := by
      rintro rfl
      exact hne hp
    rw [target_of_pointer hp, Option.bind_some, Function.update_of_ne haa]

theorem target_write {k : K} {i a : ℕ} (hp : s.pointer k i = some a) (b : B) :
    (s.write a b).target k i = some b := by
  have hwritten : (s.write a b).pointer k i = some a := hp
  rw [target_of_pointer hwritten]
  exact Function.update_self _ _ _

theorem target_write_of_ne (h : Owned fits s) {k : K} {i a : ℕ} (hp : s.pointer k i = some a)
    (ha : a ≠ 0) (b : B) {k' : K} {i' : ℕ} (hne : ¬ (k' = k ∧ i' = i)) :
    (s.write a b).target k' i' = s.target k' i' :=
  target_update s a (some b) fun hp' => hne (h.unique k i k' i' a ha hp hp')

variable [DecidableEq K]

theorem length_addObject (s : Store K B) (k : K) (a : ℕ) (k' : K) :
    ((s.addObject k a).fields k').length
      = (s.fields k').length + if k' = k then 1 else 0 := by
  by_cases hk : k' = k
  · subst hk
    simp [addObject]
  · simp [addObject, hk]

theorem length_clear (s : Store K B) (k : K) (i : ℕ) (k' : K) :
    ((s.clear k i).fields k').length = (s.fields k').length := by
  by_cases hk : k' = k
  · subst hk
    simp [clear]
  · simp [clear, Function.update_of_ne hk]

/-- The other objects, after a new one. -/
theorem pointer_addObject_old (s : Store K B) {k k' : K} (a : ℕ) {i : ℕ}
    (hne : ¬ (k' = k ∧ i = (s.fields k).length)) :
    (s.addObject k a).pointer k' i = s.pointer k' i := by
  ext a'
  rw [pointer_addObject]
  constructor
  · rintro (hold | ⟨hk, hi, -⟩)
    · exact hold
    · exact absurd ⟨hk, hi⟩ hne
  · exact .inl

theorem pointer_addObject_new (s : Store K B) (k : K) (a : ℕ) :
    (s.addObject k a).pointer k (s.fields k).length = some a :=
  pointer_addObject.mpr (.inr ⟨rfl, rfl, rfl⟩)

theorem target_addNull (h : Owned fits s) (k k' : K) (i : ℕ) :
    (s.addObject k 0).target k' i = s.target k' i := by
  by_cases hnew : k' = k ∧ i = (s.fields k).length
  · obtain ⟨rfl, rfl⟩ := hnew
    rw [target_of_pointer (pointer_addObject_new s k' 0),
      target_of_none (pointer_eq_none.mpr (Nat.le_refl _))]
    exact h.null
  · rw [target, pointer_addObject_old s 0 hnew]
    rfl

theorem target_adopt (s : Store K B) (k : K) (a : ℕ) (b : B) :
    (s.adopt k a b).target k (s.fields k).length = some b := by
  have hp : (s.adopt k a b).pointer k (s.fields k).length = some a :=
    pointer_addObject_new (s.write a b) k a
  rw [target_of_pointer hp]
  exact Function.update_self _ _ _

theorem target_adopt_of_ne (h : Owned fits s) {k : K} {a : ℕ} (ha : a ≠ 0)
    (hfree : s.heap a = none) (b : B) {k' : K} {i : ℕ}
    (hne : ¬ (k' = k ∧ i = (s.fields k).length)) :
    (s.adopt k a b).target k' i = s.target k' i := by
  have hp : (s.adopt k a b).pointer k' i = s.pointer k' i :=
    pointer_addObject_old (s.write a b) a hne
  rw [target, hp]
  exact target_update s a (some b) fun hp => h.not_pointed ha hfree hp

theorem target_release {s : Store K B} {k : K} {i a : ℕ} (hnull : s.heap 0 = none) (ha : a ≠ 0)
    (hp : s.pointer k i = some a) : ((s.drop a).clear k i).target k i = none := by
  have hlt : i < (s.fields k).length := (List.getElem?_eq_some_iff.mp hp).1
  have hzero : ((s.drop a).clear k i).pointer k i = some 0 := by
    simp [pointer, clear, drop, hlt]
  rw [target_of_pointer hzero]
  exact (Function.update_of_ne ha.symm _ _).trans hnull

theorem target_release_of_ne (h : Owned fits s) {k : K} {i a : ℕ} (hp : s.pointer k i = some a)
    (ha : a ≠ 0) {k' : K} {i' : ℕ} (hne : ¬ (k' = k ∧ i' = i)) :
    ((s.drop a).clear k i).target k' i' = s.target k' i' := by
  rw [target, pointer_clear_of_ne hne]
  exact target_update s a none fun hp' => hne (h.unique k i k' i' a ha hp hp')

end Targets

/-! ## Two stores -/

/-- The two stores have equally many objects, and those outside `D` have the same
boxes. -/
structure SameBut (D : K → ℕ → Prop) (s s' : Store K B) : Prop where
  length : ∀ k, (s'.fields k).length = (s.fields k).length
  target : ∀ k i, ¬ D k i → s'.target k i = s.target k i

namespace SameBut

variable {fits : K → B → Prop} {D : K → ℕ → Prop} {s s' : Store K B}

theorem refl (D : K → ℕ → Prop) (s : Store K B) : SameBut D s s := ⟨fun _ => rfl, fun _ _ _ => rfl⟩

theorem pointer_none (h : SameBut D s s') {k : K} {i : ℕ} (hp : s.pointer k i = none) :
    s'.pointer k i = none := by
  rw [pointer_eq_none, h.length k]
  exact pointer_eq_none.mp hp

/-- A null pointer is one in both stores. -/
theorem pointer_zero (h : SameBut D s s') (hs : Owned fits s) (hs' : Owned fits s') {k : K} {i : ℕ}
    (hD : ¬ D k i) (hp : s.pointer k i = some 0) : s'.pointer k i = some 0 := by
  have hnone : s'.target k i = none := by
    rw [h.target k i hD, target_of_pointer hp, hs.null]
  rcases hp' : s'.pointer k i with _ | a
  · rw [pointer_eq_none, h.length k, ← pointer_eq_none, hp] at hp'
    cases hp'
  · by_cases ha : a = 0
    · rw [ha]
    · obtain ⟨b, hb, -⟩ := hs'.live k i a hp' ha
      rw [target_of_pointer hp', hb] at hnone
      cases hnone

/-- Where one store has a box behind an object, the other has it too. -/
theorem pointer_box (h : SameBut D s s') (hs' : Owned fits s') {k : K} {i a : ℕ} {b : B}
    (hD : ¬ D k i) (hp : s.pointer k i = some a) (hb : s.heap a = some b) :
    ∃ a', s'.pointer k i = some a' ∧ a' ≠ 0 ∧ s'.heap a' = some b := by
  have htarget : s'.target k i = some b := by
    rw [h.target k i hD, target_of_pointer hp, hb]
  obtain ⟨a', hp', hb'⟩ := Option.bind_eq_some_iff.mp htarget
  exact ⟨a', hp', hs'.heap_ne_zero hb', hb'⟩

theorem write (h : SameBut D s s') (hs : Owned fits s) (hs' : Owned fits s') {k : K}
    {i a a' : ℕ} (hp : s.pointer k i = some a) (hp' : s'.pointer k i = some a') (ha : a ≠ 0)
    (ha' : a' ≠ 0) (b : B) : SameBut D (s.write a b) (s'.write a' b) where
  length := h.length
  target := by
    intro k' i' hD
    by_cases hsame : k' = k ∧ i' = i
    · obtain ⟨rfl, rfl⟩ := hsame
      rw [target_write hp, target_write hp']
    · rw [target_write_of_ne hs hp ha b hsame, target_write_of_ne hs' hp' ha' b hsame,
        h.target k' i' hD]

variable [DecidableEq K]

theorem addNull (h : SameBut D s s') (hs : Owned fits s) (hs' : Owned fits s') (k : K) :
    SameBut D (s.addObject k 0) (s'.addObject k 0) where
  length := by
    intro k'
    rw [length_addObject, length_addObject, h.length]
  target := by
    intro k' i hD
    rw [target_addNull hs, target_addNull hs', h.target k' i hD]

theorem adopt (h : SameBut D s s') (hs : Owned fits s) (hs' : Owned fits s') {a a' : ℕ}
    (ha : a ≠ 0) (ha' : a' ≠ 0) (hfree : s.heap a = none) (hfree' : s'.heap a' = none) (k : K)
    (b : B) : SameBut D (s.adopt k a b) (s'.adopt k a' b) where
  length := by
    intro k'
    rw [Store.adopt, Store.adopt, length_addObject, length_addObject]
    exact congrArg (· + _) (h.length k')
  target := by
    intro k' i hD
    by_cases hnew : k' = k ∧ i = (s.fields k).length
    · obtain ⟨rfl, rfl⟩ := hnew
      rw [target_adopt, ← h.length, target_adopt]
    · have hnew' : ¬ (k' = k ∧ i = (s'.fields k).length) := by
        rw [h.length]
        exact hnew
      rw [target_adopt_of_ne hs ha hfree b hnew, target_adopt_of_ne hs' ha' hfree' b hnew',
        h.target k' i hD]

theorem release (h : SameBut D s s') (hs : Owned fits s) (hs' : Owned fits s') {k : K}
    {i a a' : ℕ} (hp : s.pointer k i = some a) (hp' : s'.pointer k i = some a') (ha : a ≠ 0)
    (ha' : a' ≠ 0) : SameBut D ((s.drop a).clear k i) ((s'.drop a').clear k i) where
  length := by
    intro k'
    rw [length_clear, length_clear]
    exact h.length k'
  target := by
    intro k' i' hD
    by_cases hsame : k' = k ∧ i' = i
    · obtain ⟨rfl, rfl⟩ := hsame
      rw [target_release hs.null ha hp, target_release hs'.null ha' hp']
    · rw [target_release_of_ne hs hp ha hsame, target_release_of_ne hs' hp' ha' hsame,
        h.target k' i' hD]

end SameBut

end Store

end ZendooSc.Lib
