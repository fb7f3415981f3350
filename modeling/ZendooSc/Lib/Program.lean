/-
ZendooSc.Lib.Program — programs that change a state and can stop early.

A `Program σ ε α` reads and writes a state of type `σ` and either returns a
value or stops with an `ε`. What it wrote before it stopped stays written:
nothing is rolled back. `exec` runs a program from a state and gives the
outcome together with the state it left.

`exec_bind` is the one equation of sequencing. `Safe I bad x` is the safety
property over it: a run of `x` from a state in `I` ends in `I`, however it ends,
and does not stop with `bad`. It is closed under sequencing and loops, so a
program is safe when its steps are. `Moves I R x` says in addition how the last
state relates to the first, by a preorder `R`.
-/
import Mathlib.Data.Nat.Notation

namespace ZendooSc.Lib

/-- A program over the state `σ` that returns an `α` or stops with an `ε`. -/
abbrev Program (σ ε α : Type) := ExceptT ε (StateM σ) α

namespace Program

variable {σ ε α β : Type}

/-- Run a program from a state. -/
def exec (x : Program σ ε α) (s : σ) : Except ε α × σ :=
  x.run s

/-- A computation that does not look at the state. -/
def lift (r : Except ε α) : Program σ ε α :=
  ExceptT.mk (pure r)

/-- Stop here. -/
def stop (e : ε) : Program σ ε α :=
  lift (.error e)

/-- Read something off the state. -/
def look (f : σ → α) : Program σ ε α :=
  ExceptT.mk fun s => (.ok (f s), s)

/-- Change the state. -/
def update (f : σ → σ) : Program σ ε Unit :=
  ExceptT.mk fun s => (.ok (), f s)

/-- Do something to the state that gives a value. -/
def perform (f : σ → α × σ) : Program σ ε α :=
  ExceptT.mk fun s => (.ok (f s).1, (f s).2)

@[simp] theorem exec_pure (a : α) (s : σ) :
    (pure a : Program σ ε α).exec s = (.ok a, s) := rfl

@[simp] theorem exec_lift (r : Except ε α) (s : σ) : (lift r : Program σ ε α).exec s = (r, s) := rfl

@[simp] theorem exec_stop (e : ε) (s : σ) :
    (stop e : Program σ ε α).exec s = (.error e, s) := rfl

@[simp] theorem exec_update (f : σ → σ) (s : σ) :
    (update f : Program σ ε Unit).exec s = (.ok (), f s) := rfl

/-- A sequence runs its second part only if the first returned. -/
theorem exec_bind (x : Program σ ε α) (f : α → Program σ ε β) (s : σ) :
    (x >>= f).exec s =
      match x.exec s with
      | (.ok a, s') => (f a).exec s'
      | (.error e, s') => (.error e, s') := by
  change (ExceptT.bindCont f (x.exec s).1) (x.exec s).2 = _
  rcases x.exec s with ⟨e | a, s'⟩
  · rfl
  · rfl

theorem exec_bind_ok {x : Program σ ε α} {f : α → Program σ ε β} {s s' : σ} {a : α}
    (h : x.exec s = (.ok a, s')) : (x >>= f).exec s = (f a).exec s' := by
  rw [exec_bind, h]

theorem exec_bind_error {x : Program σ ε α} {f : α → Program σ ε β} {s s' : σ} {e : ε}
    (h : x.exec s = (.error e, s')) : (x >>= f).exec s = (.error e, s') := by
  rw [exec_bind, h]

/-- A sequence that returned has two parts that did. -/
theorem exec_bind_returned {x : Program σ ε α} {f : α → Program σ ε β} {s s'' : σ} {b : β}
    (h : (x >>= f).exec s = (.ok b, s'')) :
    ∃ a s', x.exec s = (.ok a, s') ∧ (f a).exec s' = (.ok b, s'') := by
  rw [exec_bind] at h
  rcases hrun : x.exec s with ⟨e | a, s'⟩
  · rw [hrun] at h
    cases h
  · rw [hrun] at h
    exact ⟨a, s', rfl, h⟩

/-- A run of `look f` and then `g`. -/
theorem exec_look_bind (f : σ → α) (g : α → Program σ ε β) (s : σ) :
    (look f >>= g).exec s = (g (f s)).exec s := rfl

/-- A run of `lift r` and then `f`, by what `r` is. -/
theorem exec_lift_bind (r : Except ε α) (f : α → Program σ ε β) (s : σ) :
    (lift r >>= f).exec s =
      match r with
      | .ok a => (f a).exec s
      | .error e => (.error e, s) := by
  rcases r with e | a
  · rfl
  · rfl

/-- What a program returns, mapped. -/
theorem exec_map (f : α → β) (x : Program σ ε α) (s : σ) :
    (f <$> x).exec s = ((x.exec s).1.map f, (x.exec s).2) := by
  rw [map_eq_pure_bind, exec_bind]
  rcases x.exec s with ⟨e | a, s'⟩
  · rfl
  · rfl

/-- A run of `perform f` and then `g`. -/
theorem exec_perform_bind (f : σ → α × σ) (g : α → Program σ ε β) (s : σ) :
    (perform f >>= g).exec s = (g (f s).1).exec (f s).2 := rfl

/-! ## Safety -/

/-- From a state in `I`, `x` ends in a state in `I`, and it does not stop with
`bad`. -/
def Safe (I : σ → Prop) (bad : ε) (x : Program σ ε α) : Prop :=
  ∀ s, I s → I (x.exec s).2 ∧ (x.exec s).1 ≠ .error bad

variable {I : σ → Prop} {bad : ε}

theorem safe_pure (a : α) : Safe I bad (pure a : Program σ ε α) := by
  intro s hs
  refine ⟨hs, ?_⟩
  intro h
  cases h

theorem safe_update {f : σ → σ} (h : ∀ s, I s → I (f s)) :
    Safe I bad (update f : Program σ ε Unit) := by
  intro s hs
  refine ⟨h s hs, ?_⟩
  intro heq
  cases heq

theorem safe_bind {x : Program σ ε α} {f : α → Program σ ε β} (hx : Safe I bad x)
    (hf : ∀ a, Safe I bad (f a)) : Safe I bad (x >>= f) := by
  intro s hs
  obtain ⟨hkeep, hgood⟩ := hx s hs
  rw [exec_bind]
  rcases hrun : x.exec s with ⟨e | a, s'⟩
  · rw [hrun] at hkeep hgood
    refine ⟨hkeep, ?_⟩
    intro heq
    exact hgood (congrArg Except.error (Except.error.inj heq))
  · rw [hrun] at hkeep
    exact hf a s' hkeep

theorem safe_map {x : Program σ ε α} (f : α → β) (hx : Safe I bad x) : Safe I bad (f <$> x) := by
  rw [map_eq_pure_bind]
  exact safe_bind hx fun a => safe_pure (f a)

/-- A loop is safe when its body is. -/
theorem safe_mapM {f : α → Program σ ε β} (hf : ∀ a, Safe I bad (f a)) :
    ∀ as : List α, Safe I bad (as.mapM f)
  | [] => safe_pure []
  | a :: as => by
      rw [List.mapM_cons]
      exact safe_bind (hf a) fun _ => safe_bind (safe_mapM hf as) fun _ => safe_pure _

/-! ## The first state and the last -/

/-- From a state in `I`, `x` ends in a state in `I` that is related to the first,
however it ends. -/
def Moves (I : σ → Prop) (R : σ → σ → Prop) (x : Program σ ε α) : Prop :=
  ∀ s, I s → I (x.exec s).2 ∧ R s (x.exec s).2

variable {R : σ → σ → Prop}

theorem moves_bind (htrans : ∀ ⦃s s' s''⦄, R s s' → R s' s'' → R s s'') {x : Program σ ε α}
    {f : α → Program σ ε β} (hx : Moves I R x) (hf : ∀ a, Moves I R (f a)) :
    Moves I R (x >>= f) := by
  intro s hs
  obtain ⟨hkeep, hrel⟩ := hx s hs
  rw [exec_bind]
  rcases hrun : x.exec s with ⟨e | a, s'⟩
  · rw [hrun] at hkeep hrel
    exact ⟨hkeep, hrel⟩
  · rw [hrun] at hkeep hrel
    obtain ⟨hkeep', hrel'⟩ := hf a s' hkeep
    exact ⟨hkeep', htrans hrel hrel'⟩

theorem moves_map {x : Program σ ε α} (f : α → β) (hx : Moves I R x) : Moves I R (f <$> x) := by
  intro s hs
  rw [exec_map]
  exact hx s hs

end Program

end ZendooSc.Lib
