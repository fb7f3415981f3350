/-
ZendooSc.Lib.Atomicity — programs that throw before they make anything.

Two preorders speak of the first and the last state of a run. `R` holds of every
run. `N`, the stronger promise, holds of the runs that throw. A program keeps
the two promises when it has two phases: one in which every state is related to
the first by both, however it ends, and one in which nothing is thrown.

`Atomic` is what is to be shown, `Steadfast` is the second phase, and the first
phase is `Program.Moves` for both relations. The rules put phases together.
-/
import ZendooSc.Lib.Program

namespace ZendooSc.Lib

namespace Program

variable {σ ε α β : Type} {I : σ → Prop} {R N : σ → σ → Prop} {thrown : ε → Prop}

/-- The last state is in `I` and related by `R` to the first, and by `N` if the
program throws. -/
def Atomic (I : σ → Prop) (R N : σ → σ → Prop) (thrown : ε → Prop) (x : Program σ ε α) : Prop :=
  ∀ s, I s → I (x.exec s).2 ∧ R s (x.exec s).2 ∧
    ∀ e, thrown e → (x.exec s).1 = .error e → N s (x.exec s).2

/-- The last state is in `I` and related by `R` to the first, and the program does
not throw. -/
def Steadfast (I : σ → Prop) (R : σ → σ → Prop) (thrown : ε → Prop) (x : Program σ ε α) : Prop :=
  ∀ s, I s → I (x.exec s).2 ∧ R s (x.exec s).2 ∧ ∀ e, thrown e → (x.exec s).1 ≠ .error e

theorem Moves.atomic {x : Program σ ε α} (h : Moves I (fun s s' => R s s' ∧ N s s') x) :
    Atomic I R N thrown x := by
  intro s hs
  obtain ⟨hkeep, hrel, hnew⟩ := h s hs
  exact ⟨hkeep, hrel, fun _ _ _ => hnew⟩

theorem Steadfast.atomic {x : Program σ ε α} (h : Steadfast I R thrown x) :
    Atomic I R N thrown x := by
  intro s hs
  obtain ⟨hkeep, hrel, hnever⟩ := h s hs
  exact ⟨hkeep, hrel, fun e he hthrow => absurd hthrow (hnever e he)⟩

theorem Atomic.moves {x : Program σ ε α} (h : Atomic I R N thrown x) : Moves I R x :=
  fun s hs => ⟨(h s hs).1, (h s hs).2.1⟩

section Rules

variable (htrans : ∀ ⦃s s' s''⦄, R s s' → R s' s'' → R s s'')

include htrans

/-- The first phase, and then the rest. -/
theorem atomic_bind (hnew : ∀ ⦃s s' s''⦄, N s s' → N s' s'' → N s s'') {x : Program σ ε α}
    {f : α → Program σ ε β} (hx : Moves I (fun s s' => R s s' ∧ N s s') x)
    (hf : ∀ a, Atomic I R N thrown (f a)) : Atomic I R N thrown (x >>= f) := by
  intro s hs
  obtain ⟨hkeep, hrel, hnothing⟩ := hx s hs
  rw [exec_bind]
  rcases hrun : x.exec s with ⟨e | a, s'⟩
  · rw [hrun] at hkeep hrel hnothing
    exact ⟨hkeep, hrel, fun _ _ _ => hnothing⟩
  · rw [hrun] at hkeep hrel hnothing
    obtain ⟨hkeep', hrel', hthrow⟩ := hf a s' hkeep
    exact ⟨hkeep', htrans hrel hrel', fun e he heq => hnew hnothing (hthrow e he heq)⟩

/-- What comes after does not throw. -/
theorem Atomic.andThen {x : Program σ ε α} {f : α → Program σ ε β}
    (hx : Atomic I R N thrown x) (hf : ∀ a, Steadfast I R thrown (f a)) :
    Atomic I R N thrown (x >>= f) := by
  intro s hs
  obtain ⟨hkeep, hrel, hthrow⟩ := hx s hs
  rw [exec_bind]
  rcases hrun : x.exec s with ⟨e | a, s'⟩
  · rw [hrun] at hkeep hrel hthrow
    exact ⟨hkeep, hrel, fun e' he' heq => hthrow e' he' (congrArg _ (Except.error.inj heq))⟩
  · rw [hrun] at hkeep hrel
    obtain ⟨hkeep', hrel', hnever⟩ := hf a s' hkeep
    exact ⟨hkeep', htrans hrel hrel', fun e he heq => absurd heq (hnever e he)⟩

theorem steadfast_bind {x : Program σ ε α} {f : α → Program σ ε β}
    (hx : Steadfast I R thrown x) (hf : ∀ a, Steadfast I R thrown (f a)) :
    Steadfast I R thrown (x >>= f) := by
  intro s hs
  obtain ⟨hkeep, hrel, hnever⟩ := hx s hs
  rw [exec_bind]
  rcases hrun : x.exec s with ⟨e | a, s'⟩
  · rw [hrun] at hkeep hrel hnever
    refine ⟨hkeep, hrel, ?_⟩
    intro e' he' heq
    exact hnever e' he' (congrArg _ (Except.error.inj heq))
  · rw [hrun] at hkeep hrel
    obtain ⟨hkeep', hrel', hnever'⟩ := hf a s' hkeep
    exact ⟨hkeep', htrans hrel hrel', hnever'⟩

/-- A loop that does not throw. -/
theorem steadfast_mapM (hrefl : ∀ s, R s s) {f : α → Program σ ε β}
    (hf : ∀ a, Steadfast I R thrown (f a)) : ∀ as : List α, Steadfast I R thrown (as.mapM f)
  | [] => fun s hs => ⟨hs, hrefl s, nofun⟩
  | a :: as => by
      rw [List.mapM_cons]
      refine steadfast_bind htrans (hf a) fun b => ?_
      refine steadfast_bind htrans (steadfast_mapM hrefl hf as) fun bs => ?_
      exact fun s hs => ⟨hs, hrefl s, nofun⟩

end Rules

end Program

end ZendooSc.Lib
