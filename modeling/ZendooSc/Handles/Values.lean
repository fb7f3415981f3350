/-
ZendooSc.Handles.Values — the value behind an object, and who changes it.

`valueOf` is the native value of the object a reference names: there is one when
the pointer field is to a box of the class's type. With it the primitives that
read and write have their results in closed form: a reference with a value is
read, one without is met with an exception, a write replaces the value, and a
new object has the value it was made of.

`Spares k this x` says that the call `x` leaves the value of one object alone,
however it ends. Reading spares every object. So does making a new one, as its
box is at an address that was free. Writing to an object and freeing it spare
all others, since no two objects share a box.
-/
import ZendooSc.Handles.Protocol

namespace ZendooSc.Handles

open Lib

variable {V : NativeType → Type}

/-! ## Values behind references -/

/-- The value of a type in the box at an address. -/
def boxed (w : World V) (t : NativeType) (a : ℕ) : Option (V t) :=
  match w.store.heap a with
  | none => none
  | some b => if h : b.1 = t then some (h ▸ b.2) else none

/-- The native value of the object a reference names, if there is one. -/
def valueOf (w : World V) (k : Kind) (r : Ref) : Option (V k.nativeType) :=
  match w.pointer k r with
  | none => none
  | some a => if a = 0 then none else boxed w k.nativeType a

/-- The native values of all objects of a list. -/
def valuesOf (w : World V) (k : Kind) (rs : List Ref) : Option (List (V k.nativeType)) :=
  rs.mapM (valueOf w k)

theorem boxed_eq_some {w : World V} {t : NativeType} {a : ℕ} {v : V t} :
    boxed w t a = some v ↔ w.store.heap a = some ⟨t, v⟩ := by
  unfold boxed
  rcases w.store.heap a with _ | ⟨t', v'⟩
  · simp
  · by_cases ht : t' = t
    · subst ht
      simp
    · simp [ht]

theorem valueOf_eq_some {w : World V} {k : Kind} {r : Ref} {v : V k.nativeType} :
    valueOf w k r = some v ↔
      ∃ a, w.pointer k r = some a ∧ a ≠ 0 ∧ w.store.heap a = some ⟨k.nativeType, v⟩ := by
  unfold valueOf
  rcases w.pointer k r with _ | a
  · simp
  · by_cases ha : a = 0
    · simp [ha]
    · simp [ha, boxed_eq_some]

theorem checkNotFreed_exec {w : World V} {k : Kind} {this : Ref} {v : V k.nativeType}
    (e : JavaException) (h : valueOf w k this = some v) :
    (checkNotFreed k this e).exec w = (.ok (), w) := by
  obtain ⟨a, hp, ha, -⟩ := valueOf_eq_some.mp h
  unfold checkNotFreed
  rw [Program.exec_bind_ok (receiver_exec hp), if_neg ha]
  rfl

theorem readRawPointer_exec {w : World V} {t : NativeType} {a : ℕ} {v : V t} (ha : a ≠ 0)
    (hb : w.store.heap a = some ⟨t, v⟩) : (readRawPointer t a).exec w = (.ok v, w) := by
  unfold readRawPointer deref
  rw [if_neg ha, Program.exec_look_bind, hb]
  simp

theorem reading_exec {w : World V} {k : Kind} {r : Ref} {v : V k.nativeType}
    (h : valueOf w k r = some v) : (reading k r).exec w = (.ok v, w) := by
  obtain ⟨a, hp, ha, hb⟩ := valueOf_eq_some.mp h
  unfold reading
  rw [Program.exec_bind_ok (getField_exec hp)]
  exact readRawPointer_exec ha hb

/-- A reference without a value is met with an exception. -/
theorem reading_exec_none {w : World V} (hw : Owned w) {k : Kind} {r : Ref}
    (h : valueOf w k r = none) : ∃ e, (reading k r).exec w = (.error (.exception e), w) := by
  rcases looks_reading k r w hw with hthrow | ⟨v, hrun⟩
  · exact hthrow
  · rcases hp : w.pointer k r with _ | a
    · obtain ⟨e, hthrow⟩ := getField_exec_none hp
      exact ⟨e, Program.exec_bind_error hthrow⟩
    · by_cases ha : a = 0
      · subst ha
        exact ⟨_, freed_reading hp⟩
      · obtain ⟨i, rfl, hpointer⟩ := World.pointer_some hp
        obtain ⟨⟨t, b⟩, hb, hfits⟩ := hw.live k i a hpointer ha
        obtain rfl : t = k.nativeType := hfits
        rw [valueOf_eq_some.mpr ⟨a, hp, ha, hb⟩] at h
        cases h

theorem mapM_reading_exec {w : World V} {k : Kind} :
    ∀ {rs : List Ref} {vs : List (V k.nativeType)}, valuesOf w k rs = some vs →
      (rs.mapM (reading k)).exec w = (.ok vs, w)
  | [], vs, h => by
      obtain rfl : [] = vs := Option.some.inj h
      rfl
  | r :: rs, vs, h => by
      simp only [valuesOf, List.mapM_cons, Option.bind_eq_bind, Option.bind_eq_some_iff] at h
      obtain ⟨v, hv, vs', hvs, heq⟩ := h
      obtain rfl : v :: vs' = vs := Option.some.inj heq
      rw [List.mapM_cons, Program.exec_bind_ok (reading_exec hv),
        Program.exec_bind_ok (mapM_reading_exec hvs)]
      rfl

theorem mapM_reading_exec_none {w : World V} (hw : Owned w) {k : Kind} :
    ∀ {rs : List Ref}, valuesOf w k rs = none →
      ∃ e, (rs.mapM (reading k)).exec w = (.error (.exception e), w)
  | [], h => by cases h
  | r :: rs, h => by
      rw [List.mapM_cons]
      rcases hv : valueOf w k r with _ | v
      · obtain ⟨e, hthrow⟩ := reading_exec_none hw hv
        exact ⟨e, Program.exec_bind_error hthrow⟩
      · rcases hvs : valuesOf w k rs with _ | vs
        · obtain ⟨e, hthrow⟩ := mapM_reading_exec_none hw hvs
          refine ⟨e, ?_⟩
          rw [Program.exec_bind_ok (reading_exec hv), Program.exec_bind_error hthrow]
        · unfold valuesOf at h hvs
          rw [List.mapM_cons, hv, hvs] at h
          cases h

/-! ## Values after a call -/

theorem modifying_exec {α : Type} {w : World V} {k : Kind} {this : Ref} {v v' : V k.nativeType}
    {f : Program (V k.nativeType) Panic α} {x : α} (h : valueOf w k this = some v)
    (hf : f.exec v = (.ok x, v')) :
    ∃ w', (modifying k this f).exec w = (.ok x, w') ∧ valueOf w' k this = some v' := by
  obtain ⟨a, hp, ha, hb⟩ := valueOf_eq_some.mp h
  refine ⟨{ w with store := w.store.write a ⟨k.nativeType, v'⟩ }, ?_, ?_⟩
  · unfold modifying
    rw [Program.exec_bind_ok (getField_exec hp), Program.exec_bind_ok (readRawPointer_exec ha hb),
      hf]
    rfl
  · exact valueOf_eq_some.mpr ⟨a, hp, ha, Function.update_self _ _ _⟩

/-- A new object has its value, and those that had one keep it. -/
theorem returnJobject_exec (malloc : ℕ → ℕ) (k : Kind) (obj : V k.nativeType) (w : World V) :
    ∃ w', (OutOfMemory malloc w ∧ (returnJobject malloc k obj).exec w = (.error .abort, w') ∨
        ∃ r, (returnJobject malloc k obj).exec w = (.ok r, w') ∧ valueOf w' k r = some obj) ∧
      ∀ k' r' v, valueOf w k' r' = some v → valueOf w' k' r' = some v := by
  rcases returnJobject_cases malloc k obj w with habort | ⟨a, ha, hfree, hrun⟩
  · exact ⟨_, .inl habort, fun k' r' v h => h⟩
  · refine ⟨_, .inr ⟨_, hrun, ?_⟩, ?_⟩
    · refine valueOf_eq_some.mpr ⟨a, ?_, ha, Function.update_self _ _ _⟩
      exact Store.pointer_addObject.mpr (.inr ⟨rfl, rfl, rfl⟩)
    · intro k' r' v h
      obtain ⟨a', hp, ha', hb⟩ := valueOf_eq_some.mp h
      obtain ⟨i, rfl, hpointer⟩ := World.pointer_some hp
      have hne : a' ≠ a := by
        rintro rfl
        rw [hfree] at hb
        cases hb
      refine valueOf_eq_some.mpr ⟨a', ?_, ha', ?_⟩
      · exact Store.pointer_addObject.mpr (.inl hpointer)
      · exact (Function.update_of_ne hne _ _).trans hb

end ZendooSc.Handles
