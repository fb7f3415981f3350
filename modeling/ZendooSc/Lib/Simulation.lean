/-
ZendooSc.Lib.Simulation — a component in a shared state, and its specification.

A component takes steps, and between two of them the rest of the system may
change the state. `IsRun` lists the steps of a run together with the states they
began in: each began where the one before it ended, up to what may happen in
between. The specification takes the same steps. It may look at the state a step
began in, where the arguments of the step have their meaning.

`Simulates` is what is to be shown of one step, and `Simulates.run` carries it
over a run, by induction on the steps.
-/
import Mathlib.Data.List.Basic

namespace ZendooSc.Lib

variable {σ ι α : Type}

/-- The steps of a run that starts in a state, each with the state it began in. -/
def IsRun (between : σ → σ → Prop) (step : σ → ι → σ) : σ → List (σ × ι) → Prop
  | _, [] => True
  | s, (s', i) :: turns => between s s' ∧ IsRun between step (step s' i) turns

/-- Where the specification is after some steps. -/
def specRun (spec : σ → α → ι → α) (a : α) (turns : List (σ × ι)) : α :=
  turns.foldl (fun a turn => spec turn.1 a turn.2) a

/-- The run in which nothing happens in between. -/
def turnsFrom (step : σ → ι → σ) (s : σ) : List ι → List (σ × ι)
  | [] => []
  | i :: is => (s, i) :: turnsFrom step (step s i) is

theorem isRun_turnsFrom {between : σ → σ → Prop} (hrefl : ∀ s, between s s) (step : σ → ι → σ) :
    ∀ (is : List ι) (s : σ), IsRun between step s (turnsFrom step s is)
  | [], _ => True.intro
  | i :: is, s => ⟨hrefl s, isRun_turnsFrom hrefl step is (step s i)⟩

/-- The relation survives what happens in between, and a step of each side. -/
structure Simulates (between : σ → σ → Prop) (step : σ → ι → σ) (spec : σ → α → ι → α)
    (R : σ → α → Prop) : Prop where
  between : ∀ s s' a, between s s' → R s a → R s' a
  step : ∀ s a i, R s a → R (step s i) (spec s a i)

/-- Every step of a run begins in a state related to where the specification is. -/
theorem Simulates.run {between : σ → σ → Prop} {step : σ → ι → σ} {spec : σ → α → ι → α}
    {R : σ → α → Prop} (h : Simulates between step spec R) {s : σ} {a : α}
    {turns : List (σ × ι)} (hR : R s a) (hrun : IsRun between step s turns) :
    ∀ before s' i, before ++ [(s', i)] <+: turns → R s' (specRun spec a before) := by
  induction turns generalizing s a with
  | nil =>
      intro before s' i hbefore
      simp at hbefore
  | cons turn turns ih =>
      intro before s' i hbefore
      obtain ⟨hbetween, hrest⟩ := hrun
      have hbegin : R turn.1 a := h.between s turn.1 a hbetween hR
      cases before with
      | nil =>
          obtain ⟨rfl, -⟩ := List.cons_prefix_cons.mp hbefore
          exact hbegin
      | cons first before =>
          obtain ⟨rfl, htail⟩ := List.cons_prefix_cons.mp hbefore
          exact ih (h.step first.1 a first.2 hbegin) hrest before s' i htail

end ZendooSc.Lib
