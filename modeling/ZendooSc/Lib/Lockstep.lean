/-
ZendooSc.Lib.Lockstep — two programs side by side.

Two programs run in states that are not equal, but related. They are in lockstep
from two states if they come to the same outcome, and to related states. One
outcome, `lost`, is excepted: nothing is said of two runs if one of them is lost.

The rules follow the shape of a program. `outcomes` lists what the steps of a run
come to, `Along` says of a run that each step is allowed in the state it begins in,
and `lockstep_run` goes along two runs of the same allowed steps.
-/
import ZendooSc.Lib.Program

namespace ZendooSc.Lib

namespace Program

variable {σ τ ε α β ι : Type} {R : σ → τ → Prop} {lost : ε}

/-- From these states the programs come to the same outcome and to related states,
unless one of them is lost. -/
def LockstepAt (R : σ → τ → Prop) (lost : ε) (x : Program σ ε α) (y : Program τ ε α) (s : σ)
    (t : τ) : Prop :=
  (x.exec s).1 = .error lost ∨ (y.exec t).1 = .error lost ∨
    (x.exec s).1 = (y.exec t).1 ∧ R (x.exec s).2 (y.exec t).2

/-- From all related states. -/
def Lockstep (R : σ → τ → Prop) (lost : ε) (x : Program σ ε α) (y : Program τ ε α) : Prop :=
  ∀ s t, R s t → LockstepAt R lost x y s t

theorem lockstep_lift (r : Except ε α) :
    Lockstep R lost (lift r : Program σ ε α) (lift r : Program τ ε α) :=
  fun _ _ h => .inr (.inr ⟨rfl, h⟩)

theorem lockstep_pure (a : α) :
    Lockstep R lost (pure a : Program σ ε α) (pure a : Program τ ε α) :=
  lockstep_lift (.ok a)

/-- What is read off related states is the same. -/
theorem lockstep_look {f : σ → α} {g : τ → α} (h : ∀ s t, R s t → f s = g t) :
    Lockstep R lost (look f : Program σ ε α) (look g : Program τ ε α) :=
  fun s t hR => .inr (.inr ⟨congrArg Except.ok (h s t hR), hR⟩)

theorem lockstep_update {f : σ → σ} {g : τ → τ} (h : ∀ s t, R s t → R (f s) (g t)) :
    Lockstep R lost (update f : Program σ ε Unit) (update g : Program τ ε Unit) :=
  fun s t hR => .inr (.inr ⟨rfl, h s t hR⟩)

theorem exec_bind_stopped {x : Program σ ε α} (f : α → Program σ ε β) {s : σ} {e : ε}
    (h : (x.exec s).1 = .error e) : ((x >>= f).exec s).1 = .error e := by
  have hrun : x.exec s = (.error e, (x.exec s).2) := Prod.ext h rfl
  rw [exec_bind_error hrun]

/-- Two sequences are in lockstep if the first parts are, and the second parts are
for what the first have returned. -/
theorem LockstepAt.bind {x : Program σ ε α} {y : Program τ ε α} {f : α → Program σ ε β}
    {g : α → Program τ ε β} {s : σ} {t : τ} (hx : LockstepAt R lost x y s t)
    (hf : ∀ a, (x.exec s).1 = .ok a → Lockstep R lost (f a) (g a)) :
    LockstepAt R lost (x >>= f) (y >>= g) s t := by
  rcases hx with hlost | hlost | ⟨houtcome, hR⟩
  · exact .inl (exec_bind_stopped f hlost)
  · exact .inr (.inl (exec_bind_stopped g hlost))
  · unfold LockstepAt
    rcases hs : x.exec s with ⟨r, s'⟩
    rcases ht : y.exec t with ⟨r', t'⟩
    rw [hs, ht] at houtcome hR
    obtain rfl : r = r' := houtcome
    rcases r with e | a
    · rw [exec_bind_error hs, exec_bind_error ht]
      exact .inr (.inr ⟨rfl, hR⟩)
    · rw [exec_bind_ok hs, exec_bind_ok ht]
      exact hf a (by rw [hs]) s' t' hR

theorem lockstep_bind {x : Program σ ε α} {y : Program τ ε α} {f : α → Program σ ε β}
    {g : α → Program τ ε β} (hx : Lockstep R lost x y) (hf : ∀ a, Lockstep R lost (f a) (g a)) :
    Lockstep R lost (x >>= f) (y >>= g) :=
  fun s t hR => (hx s t hR).bind fun a _ => hf a

theorem LockstepAt.map {x : Program σ ε α} {y : Program τ ε α} (f : α → β) {s : σ} {t : τ}
    (hx : LockstepAt R lost x y s t) : LockstepAt R lost (f <$> x) (f <$> y) s t := by
  rw [map_eq_pure_bind, map_eq_pure_bind]
  exact hx.bind fun a _ => lockstep_pure (f a)

/-- Two loops over one list. -/
theorem lockstep_mapM {f : ι → Program σ ε β} {g : ι → Program τ ε β} {is : List ι}
    (hf : ∀ i ∈ is, Lockstep R lost (f i) (g i)) : Lockstep R lost (is.mapM f) (is.mapM g) := by
  induction is with
  | nil => exact lockstep_pure []
  | cons i is ih =>
      rw [List.forall_mem_cons] at hf
      rw [List.mapM_cons, List.mapM_cons]
      refine lockstep_bind hf.1 fun b => ?_
      exact lockstep_bind (ih hf.2) fun bs => lockstep_pure (b :: bs)

/-! ## Runs -/

/-- What the steps of a run come to, each started where the one before it ended. -/
def outcomes (step : ι → Program σ ε α) : List ι → σ → List (Except ε α)
  | [], _ => []
  | i :: is, s => ((step i).exec s).1 :: outcomes step is ((step i).exec s).2

/-- Every step of a run is allowed in the state it begins in. -/
def Along (allowed : σ → ι → Prop) (step : ι → Program σ ε α) : List ι → σ → Prop
  | [], _ => True
  | i :: is, s => allowed s i ∧ Along allowed step is ((step i).exec s).2

theorem Along.imp {allowed allowed' : σ → ι → Prop} {step : ι → Program σ ε α}
    (h : ∀ s i, allowed s i → allowed' s i) {is : List ι} {s : σ}
    (hs : Along allowed step is s) : Along allowed' step is s := by
  induction is generalizing s with
  | nil => trivial
  | cons i is ih => exact ⟨h s i hs.1, ih hs.2⟩

/-- Two runs of the same allowed steps have the same outcomes, if no step is lost. -/
theorem lockstep_run {allowed : σ → ι → Prop} {f : ι → Program σ ε α} {g : ι → Program τ ε α}
    (h : ∀ s t i, R s t → allowed s i → LockstepAt R lost (f i) (g i) s t) {is : List ι} {s : σ}
    {t : τ} (hR : R s t) (hallowed : Along allowed f is s) (hs : .error lost ∉ outcomes f is s)
    (ht : .error lost ∉ outcomes g is t) :
    outcomes f is s = outcomes g is t ∧
      R (is.foldl (fun s i => ((f i).exec s).2) s) (is.foldl (fun t i => ((g i).exec t).2) t) := by
  induction is generalizing s t with
  | nil => exact ⟨rfl, hR⟩
  | cons i is ih =>
      simp only [outcomes, List.mem_cons, not_or] at hs ht
      obtain ⟨hfirst, hrest⟩ := hallowed
      rcases h s t i hR hfirst with hlost | hlost | ⟨houtcome, hR'⟩
      · exact absurd hlost.symm hs.1
      · exact absurd hlost.symm ht.1
      · obtain ⟨htail, hend⟩ := ih hR' hrest hs.2 ht.2
        refine ⟨?_, hend⟩
        rw [outcomes, outcomes, houtcome, htail]

end Program

end ZendooSc.Lib
