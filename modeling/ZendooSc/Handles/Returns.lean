/-
ZendooSc.Handles.Returns — what a call that returned has found.

A method that returns has come past its guard, has found a value behind every
object it reads, and has got a result of the library. The lemmas take such a
call apart from its first statement to its last, one primitive at a time. At the
end is a new object, and `returnObject_returned` says what its value is and that
the other values are as before.

`runFrom_value` carries a value on from there: in every later state of a run the
object has it still, unless it was closed. For the three classes whose objects
change, `Tracks` is what is to be shown of the operations that write to one, and
`Tracks.run` follows the object through a run.
-/
import ZendooSc.Handles.Lifetimes

namespace ZendooSc.Handles

open Lib

variable {V : NativeType → Type} {α β : Type} {w w' : World V} {b : β}

/-! ## Primitives -/

theorem reading_returned (hw : Owned w) {k : Kind} {r : Ref} {f : V k.nativeType → JavaCall V β}
    (h : (reading k r >>= f).exec w = (.ok b, w')) :
    ∃ v, valueOf w k r = some v ∧ (f v).exec w = (.ok b, w') := by
  rcases hv : valueOf w k r with _ | v
  · obtain ⟨e, hthrow⟩ := reading_exec_none hw hv
    rw [Program.exec_bind_error hthrow] at h
    cases h
  · rw [Program.exec_bind_ok (reading_exec hv)] at h
    exact ⟨v, rfl, h⟩

/-- An object whose value may be missing. -/
theorem readingNullable_exec (hw : Owned w) {k : Kind} {r : Ref}
    (hobject : (w.pointer k r).isSome) :
    (readingNullable k r).exec w = (.ok (valueOf w k r), w) := by
  obtain ⟨a, hp⟩ := Option.isSome_iff_exists.mp hobject
  unfold readingNullable readNullableRawPointer
  rw [Program.exec_bind_ok (getField_exec hp)]
  by_cases ha : a = 0
  · have hnone : valueOf w k r = none := by
      unfold valueOf
      rw [hp]
      exact if_pos ha
    rw [if_pos ha, hnone]
    rfl
  · obtain ⟨i, rfl, hpointer⟩ := World.pointer_some hp
    obtain ⟨⟨t, v⟩, hb, hfits⟩ := hw.live k i a hpointer ha
    obtain rfl : t = k.nativeType := hfits
    have hderef := readRawPointer_exec ha hb
    unfold readRawPointer at hderef
    rw [if_neg ha] at hderef
    rw [if_neg ha, Program.exec_map, hderef, valueOf_eq_some.mpr ⟨a, hp, ha, hb⟩]
    rfl

/-- A call that only looks has left the world as it was. -/
theorem Looks.returned {x : JavaCall V α} (hx : Looks x) (hw : Owned w) {f : α → JavaCall V β}
    (h : (x >>= f).exec w = (.ok b, w')) : ∃ a, (f a).exec w = (.ok b, w') := by
  obtain ⟨a, w₁, hrun, hrest⟩ := Program.exec_bind_returned h
  have hsame := hx.world hw
  rw [hrun] at hsame
  obtain rfl : w₁ = w := hsame
  exact ⟨a, hrest⟩

/-- The two parts of a composite object. -/
def partsOf (w : World V) (p : PairKind) (this : Ref) : Option (Ref × Ref) :=
  this.bind fun i => (w.pairs p)[i]?

theorem pairFields_exec {p : PairKind} {this : Ref} {parts : Ref × Ref}
    (h : partsOf w p this = some parts) : (pairFields p this).exec w = (.ok parts, w) := by
  unfold partsOf at h
  unfold pairFields
  rw [Program.exec_look_bind, h]
  rfl

theorem pairFields_returned {p : PairKind} {this : Ref} {f : Ref × Ref → JavaCall V β}
    (h : (pairFields p this >>= f).exec w = (.ok b, w')) :
    ∃ parts, partsOf w p this = some parts ∧ (f parts).exec w = (.ok b, w') := by
  rcases hparts : partsOf w p this with _ | parts
  · unfold partsOf at hparts
    unfold pairFields at h
    rw [bind_assoc, Program.exec_look_bind, hparts] at h
    cases h
  · rw [Program.exec_bind_ok (pairFields_exec hparts)] at h
    exact ⟨parts, rfl, h⟩

theorem native_exec (a : α) (w : World V) :
    (native (.ok a) : JavaCall V α).exec w = (.ok a, w) := rfl

theorem native_returned {x : Except Panic α} {f : α → JavaCall V β}
    (h : (native x >>= f).exec w = (.ok b, w')) :
    ∃ a, x = .ok a ∧ (f a).exec w = (.ok b, w') := by
  rcases x with e | a
  · obtain ⟨thrown, hthrow⟩ := native_error (V := V) (α := α) e
    rw [hthrow] at h
    cases h
  · exact ⟨a, rfl, h⟩

theorem tick_bind_exec (f : ℕ → JavaCall V β) (w : World V) :
    (tick >>= f).exec w = (f w.ticks).exec { w with ticks := w.ticks + 1 } := rfl

/-! ## New objects -/

variable (E : Env V)

/-- What is behind the objects there are is as it was. -/
def KeepsValues (w w' : World V) : Prop :=
  ∀ k r v, valueOf w k r = some v → valueOf w' k r = some v

theorem KeepsValues.trans {w₁ w₂ w₃ : World V} (h : KeepsValues w₁ w₂)
    (h' : KeepsValues w₂ w₃) : KeepsValues w₁ w₃ :=
  fun k r v hv => h' k r v (h k r v hv)

theorem length_valuesOf {k : Kind} {rs : List Ref} {vs : List (V k.nativeType)}
    (h : valuesOf w k rs = some vs) : rs.length = vs.length := by
  induction rs generalizing vs with
  | nil =>
      obtain rfl : [] = vs := Option.some.inj h
      rfl
  | cons r rs ih =>
      simp only [valuesOf, List.mapM_cons, Option.bind_eq_bind, Option.bind_eq_some_iff] at h
      obtain ⟨v, -, rest, hrest, heq⟩ := h
      obtain rfl : v :: rest = vs := Option.some.inj heq
      rw [List.length_cons, List.length_cons, ih hrest]

theorem KeepsValues.valuesOf (h : KeepsValues w w') {k : Kind} {rs : List Ref}
    {vs : List (V k.nativeType)} (hvs : Handles.valuesOf w k rs = some vs) :
    Handles.valuesOf w' k rs = some vs := by
  induction rs generalizing vs with
  | nil => exact hvs
  | cons r rs ih =>
      simp only [Handles.valuesOf, List.mapM_cons, Option.bind_eq_bind, Option.bind_eq_some_iff]
        at hvs ⊢
      obtain ⟨v, hv, rest, hrest, heq⟩ := hvs
      exact ⟨v, h k r v hv, rest, ih hrest, heq⟩

theorem returnObject_returned {k : Kind} {obj : V k.nativeType} {r : Ref}
    (h : (returnObject E k obj).exec w = (.ok r, w')) :
    valueOf w' k r = some obj ∧ KeepsValues w w' := by
  obtain ⟨w₁, hcases, hkeeps⟩ := returnJobject_exec E.malloc k obj w
  rcases hcases with ⟨-, hrun⟩ | ⟨r₁, hrun, hvalue⟩
  · rw [returnObject, hrun] at h
    cases h
  · rw [returnObject, hrun] at h
    cases h
    exact ⟨hvalue, hkeeps⟩

/-- A value that is returned becomes an object with that value, if there is
memory for it. -/
theorem returnObject_exec (k : Kind) (obj : V k.nativeType) (w : World V) :
    OutOfMemory E.malloc w ∧ ((returnObject E k obj).exec w).1 = .error .abort ∨
      ∃ r w', (returnObject E k obj).exec w = (.ok r, w') ∧ valueOf w' k r = some obj := by
  unfold returnObject
  obtain ⟨w', ⟨hfull, hrun⟩ | ⟨r, hrun, hvalue⟩, -⟩ := returnJobject_exec E.malloc k obj w
  · exact .inl ⟨hfull, by rw [hrun]⟩
  · exact .inr ⟨r, w', hrun, hvalue⟩

/-- An `Option` that became an object, and not null. -/
theorem returnOption_returned {k : Kind} {obj : Option (V k.nativeType)} {r : Ref}
    (h : (returnOption E k obj).exec w = (.ok r, w')) (hr : r ≠ none) :
    ∃ v, obj = some v ∧ valueOf w' k r = some v ∧ KeepsValues w w' := by
  rcases obj with _ | v
  · cases h
    exact absurd rfl hr
  · exact ⟨v, rfl, returnObject_returned E h⟩

/-- A `Result` that became an object, and not null. -/
theorem returnResult_returned {k : Kind} {result : Call (V k.nativeType)} {r : Ref}
    (h : (returnResult E k result).exec w = (.ok r, w')) (hr : r ≠ none) :
    ∃ obj, result = pure obj ∧ valueOf w' k r = some obj ∧ KeepsValues w w' := by
  obtain ⟨outcome, rfl, hrest⟩ := native_returned h
  rcases outcome with e | obj
  · cases hrest
    exact absurd rfl hr
  · exact ⟨obj, rfl, returnObject_returned E hrest⟩

/-- A composite object of two new objects. -/
theorem keyPair_returned {p : PairKind} {first : V p.first.nativeType}
    {second : V p.second.nativeType} {r : Ref}
    (h : (do
      let first ← returnObject E p.first first
      let second ← returnObject E p.second second
      newPair p first second : JavaCall V Ref).exec w = (.ok r, w')) :
    ∃ a b, partsOf w' p r = some (a, b) ∧ valueOf w' p.first a = some first ∧
      valueOf w' p.second b = some second ∧ KeepsValues w w' := by
  obtain ⟨a, w₁, hfirst, h₁⟩ := Program.exec_bind_returned h
  obtain ⟨b, w₂, hsecond, h₂⟩ := Program.exec_bind_returned h₁
  obtain ⟨ha, hkeeps₁⟩ := returnObject_returned E hfirst
  obtain ⟨hb, hkeeps₂⟩ := returnObject_returned E hsecond
  obtain ⟨rfl, rfl⟩ : some (w₂.pairs p).length = r ∧
      { w₂ with pairs := Function.update w₂.pairs p (w₂.pairs p ++ [(a, b)]) } = w' := by
    cases h₂
    exact ⟨rfl, rfl⟩
  refine ⟨a, b, ?_, hkeeps₂ _ _ _ ha, hb, hkeeps₁.trans hkeeps₂⟩
  simp [partsOf]

/-! ## One step of a run -/

theorem run_cons (before : List Op) (op : Op) (after : List Op) :
    run E (before ++ op :: after) = runFrom E ((step E op).exec (run E before)).2 after :=
  run_append E before (op :: after)

theorem run_concat (before : List Op) (op : Op) :
    run E (before ++ [op]) = ((step E op).exec (run E before)).2 :=
  run_cons E before op []

/-- The effect of a call does not depend on what is done with its value. -/
theorem discard_world {α : Type} (x : JavaCall V α) (w : World V) :
    ((discard x).exec w).2 = (x.exec w).2 := by
  rw [discard, Program.exec_map]

/-- A call of a run, with its outcome and the world after it. -/
theorem exec_of_outcome {x : JavaCall V α} (op : Op) {before : List Op} {a : α}
    (hop : step E op = discard x) (h : (x.exec (run E before)).1 = .ok a) :
    x.exec (run E before) = (.ok a, run E (before ++ [op])) := by
  rw [run_concat, hop, discard_world, ← h]

/-! ## Later states -/

theorem not_closedDuring {ops : List Op} {n : Kind × Ref}
    (h : ∀ op ∈ ops, ∀ w : World V, n ∉ op.closes w) : ¬ ClosedDuring E w ops n := by
  rintro ⟨before, op, hbefore, hn⟩
  have hop : op ∈ ops := hbefore.subset (by simp)
  exact h op hop _ hn

/-- An object keeps its parts. -/
theorem Evolves.partsOf {writes closes : List (Kind × Ref)} (h : Evolves writes closes w w')
    {p : PairKind} {this : Ref} {parts : Ref × Ref}
    (hparts : Handles.partsOf w p this = some parts) :
    Handles.partsOf w' p this = some parts := by
  obtain ⟨i, rfl, hi⟩ := Option.bind_eq_some_iff.mp hparts
  obtain ⟨rest, hrest⟩ := h.pairs p
  have hlt : i < (w.pairs p).length := (List.getElem?_eq_some_iff.mp hi).1
  show (w'.pairs p)[i]? = some parts
  rw [← hrest, List.getElem?_append_left hlt]
  exact hi

theorem runFrom_partsOf (ops : List Op) (hw : Owned w) {p : PairKind} {this : Ref}
    {parts : Ref × Ref} (h : partsOf w p this = some parts) :
    partsOf (runFrom E w ops) p this = some parts := by
  induction ops generalizing w with
  | nil => exact h
  | cons op ops ih =>
      obtain ⟨howned, hevolves, -⟩ := step_effect E op hw
      exact ih howned (hevolves.partsOf h)

/-- A value that no operation writes to, in a later state. -/
theorem runFrom_value_unwritten (ops : List Op) (hw : Owned w) {k : Kind} {r : Ref}
    {v : V k.nativeType} (hwrites : ∀ op ∈ ops, (k, r) ∉ op.writes)
    (hv : valueOf w k r = some v) :
    valueOf (runFrom E w ops) k r = some v ∨
      ClosedDuring E w ops (k, r) ∧ valueOf (runFrom E w ops) k r = none := by
  obtain ⟨a, hp, ha, -⟩ := valueOf_eq_some.mp hv
  obtain ⟨i, rfl, hpointer⟩ := World.pointer_some hp
  rcases history E ops hw hpointer with ⟨hclosed, hzero⟩ | ⟨-, hkept, hheap⟩
  · refine .inr ⟨hclosed, ?_⟩
    have hzero' : (runFrom E w ops).pointer k (some i) = some 0 := hzero
    unfold valueOf
    rw [hzero']
    rfl
  · have hsame : (runFrom E w ops).pointer k (some i) = w.pointer k (some i) :=
      hkept.trans hpointer.symm
    refine .inl ((valueOf_congr hsame ?_).trans hv)
    intro a' ha' _
    obtain rfl : a = a' := Option.some.inj (hp.symm.trans ha')
    exact hheap ha hwrites

/-- A value of one of the classes that do not change, in a later state. -/
theorem runFrom_value (ops : List Op) (hw : Owned w) {k : Kind} (hk : mutableClass k = false)
    {r : Ref} {v : V k.nativeType} (hv : valueOf w k r = some v) :
    valueOf (runFrom E w ops) k r = some v ∨
      ClosedDuring E w ops (k, r) ∧ valueOf (runFrom E w ops) k r = none := by
  refine runFrom_value_unwritten E ops hw ?_ hv
  intro op _ hmem
  rw [mutableClass_of_writes hmem] at hk
  cases hk

/-- A value found again is the same value. -/
theorem runFrom_value_eq (ops : List Op) (hw : Owned w) {k : Kind} (hk : mutableClass k = false)
    {r : Ref} {v v' : V k.nativeType} (hv : valueOf w k r = some v)
    (hv' : valueOf (runFrom E w ops) k r = some v') : v' = v := by
  rcases runFrom_value E ops hw hk hv with hsame | ⟨-, hnone⟩
  · exact Option.some.inj (hv'.symm.trans hsame)
  · rw [hnone] at hv'
    cases hv'

/-- An object that a call of a run gave out has its value at the end, if nothing
closed it since. -/
theorem run_value_of_call {x : JavaCall V α} {op : Op} (hop : step E op = discard x)
    {before after : List Op} {a : α} {k : Kind} (hk : mutableClass k = false) {r : Ref}
    {v : V k.nativeType} (hrun : (x.exec (run E before)).1 = .ok a)
    (hv : valueOf (x.exec (run E before)).2 k r = some v)
    (hopen : ¬ ClosedDuring E (run E (before ++ [op])) after (k, r)) :
    valueOf (run E (before ++ op :: after)) k r = some v := by
  rw [exec_of_outcome E op hop hrun] at hv
  rw [run_cons, ← run_concat]
  rcases runFrom_value E after (run_owned E _) hk hv with hkept | ⟨hclosed, -⟩
  · exact hkept
  · exact absurd hclosed hopen

/-! ## Objects that change -/

section Tracking

variable {A : Type} {k : Kind} {this : Ref}

/-- An object of a class that changes, and what it stands for. The specification
looks at the world an operation begins in, where its arguments have their values. -/
structure Tracks (k : Kind) (this : Ref) (R : V k.nativeType → A → Prop)
    (spec : World V → Op → A → A) : Prop where
  idle : ∀ w op a, (k, this) ∉ op.writes → spec w op a = a
  step : ∀ w op v a, Owned w → (k, this) ∈ op.writes → valueOf w k this = some v → R v a →
    ∃ v', valueOf ((Handles.step E op).exec w).2 k this = some v' ∧ R v' (spec w op a)

/-- An operation that writes to one object only. -/
theorem eq_of_writes {r : Ref} (h : (k, this) ∈ [(k, r)]) : r = this :=
  (congrArg Prod.snd (List.mem_singleton.mp h)).symm

theorem ne_of_not_writes {r : Ref} (h : (k, this) ∉ [(k, r)]) : r ≠ this := by
  rintro rfl
  exact h (List.mem_singleton.mpr rfl)

/-- The specification along a run. -/
def specFrom (spec : World V → Op → A → A) : World V → List Op → A → A
  | _, [], a => a
  | w, op :: ops, a => specFrom spec ((step E op).exec w).2 ops (spec w op a)

variable {E} {R : V k.nativeType → A → Prop} {spec : World V → Op → A → A}

/-- In every later state the object stands for what the operations made of it. -/
theorem Tracks.run (h : Tracks E k this R spec) (ops : List Op) (hw : Owned w)
    {v : V k.nativeType} {a : A} (hv : valueOf w k this = some v) (hR : R v a) :
    (∃ v', valueOf (runFrom E w ops) k this = some v' ∧ R v' (specFrom E spec w ops a)) ∨
      ClosedDuring E w ops (k, this) := by
  induction ops generalizing w v a with
  | nil => exact .inl ⟨v, hv, hR⟩
  | cons op ops ih =>
      have howned := (step_effect E op hw).owned
      rw [closedDuring_cons]
      by_cases hmem : (k, this) ∈ op.writes
      · obtain ⟨v', hv', hR'⟩ := h.step w op v a hw hmem hv hR
        rcases ih howned hv' hR' with hlater | hclosed
        · exact .inl hlater
        · exact .inr (.inr hclosed)
      · have hnone : ∀ op' ∈ [op], (k, this) ∉ op'.writes := by
          intro op' hop'
          rw [List.mem_singleton.mp hop']
          exact hmem
        rcases runFrom_value_unwritten E [op] hw hnone hv with hv' | ⟨hclosed, -⟩
        · have hR' : R v (spec w op a) := by
            rw [h.idle w op a hmem]
            exact hR
          rcases ih howned hv' hR' with hlater | hclosed
          · exact .inl hlater
          · exact .inr (.inr hclosed)
        · rcases (closedDuring_cons E).mp hclosed with hnow | hlater
          · exact .inr (.inl hnow)
          · exact absurd hlater (not_closedDuring_nil E _ _)

end Tracking

end ZendooSc.Handles
