/-
ZendooSc.Lib.Decoding — decoders, by what they accept and what they look at.

A decoder is a function `f : A → Except R B` on raw input. `Decodes f acc view`
describes one completely, up to the names of its errors: it accepts the inputs
in `acc`, and it maps two accepted inputs to the same value exactly when their
`view` is the same. A decoder that ignores part of its input, or fills in what
is missing, has a view that is not injective. A strict one has the input itself
for its view.

Decoders are put together field by field. The rules below give the description
of a composite from those of its parts: a sequence of two, a loop over a list,
a parameter that may be absent, a record built at the end. So the inputs that a
program with many arguments confuses can be read off its parts.
-/
import Mathlib.Data.Option.Basic

namespace ZendooSc.Lib

/-- What the decoder `f` accepts, and what it looks at. -/
structure Decodes {A B R V : Type} (f : A → Except R B) (acc : A → Prop) (view : A → V) :
    Prop where
  accepts : ∀ a, (∃ b, f a = .ok b) ↔ acc a
  views : ∀ a a', acc a → acc a' → (f a = f a' ↔ view a = view a')

/-- One decoder after the other, on the same input. -/
def decodeBoth {A B C R : Type} (f : A → Except R B) (g : A → Except R C) (a : A) :
    Except R (B × C) := do
  let b ← f a
  let c ← g a
  pure (b, c)

/-- A parameter that may be absent. -/
def decodeOptional {A B R : Type} (f : A → Except R B) : Option A → Except R (Option B)
  | none => .ok none
  | some a => some <$> f a

/-- A parameter that must be present: without it the decoder fails with `e`. -/
def decodeRequired {A B R : Type} (e : R) (f : A → Except R B) : Option A → Except R B
  | none => .error e
  | some a => f a

namespace Decodes

variable {A A' B C R V W : Type} {f : A → Except R B} {acc : A → Prop} {view : A → V}

theorem exists_ok (h : Decodes f acc view) {a : A} (ha : acc a) : ∃ b, f a = .ok b :=
  (h.accepts a).mpr ha

/-- Two accepted inputs have values, which are the same when the inputs look the
same. -/
theorem exists_values (h : Decodes f acc view) {a a' : A} (ha : acc a) (ha' : acc a') :
    ∃ b b', f a = .ok b ∧ f a' = .ok b' ∧ (b = b' ↔ view a = view a') := by
  obtain ⟨b, hb⟩ := h.exists_ok ha
  obtain ⟨b', hb'⟩ := h.exists_ok ha'
  have hview := h.views a a' ha ha'
  rw [hb, hb', Except.ok.injEq] at hview
  exact ⟨b, b', hb, hb', hview⟩

/-- Two inputs are decoded to the same value when both are accepted and look
the same. -/
theorem same_value (h : Decodes f acc view) (a a' : A) :
    (∃ b, f a = .ok b ∧ f a' = .ok b) ↔ acc a ∧ acc a' ∧ view a = view a' := by
  constructor
  · rintro ⟨b, hb, hb'⟩
    have ha := (h.accepts a).mp ⟨b, hb⟩
    have ha' := (h.accepts a').mp ⟨b, hb'⟩
    exact ⟨ha, ha', (h.views a a' ha ha').mp (hb.trans hb'.symm)⟩
  · rintro ⟨ha, ha', hview⟩
    obtain ⟨b, hb⟩ := h.exists_ok ha
    exact ⟨b, hb, ((h.views a a' ha ha').mpr hview).symm.trans hb⟩

/-- A decoder on a part of the input. -/
theorem comap (h : Decodes f acc view) (p : A' → A) :
    Decodes (fun a => f (p a)) (fun a => acc (p a)) (fun a => view (p a)) where
  accepts a := h.accepts (p a)
  views a a' := h.views (p a) (p a')

/-- The description may be put differently. -/
theorem congr (h : Decodes f acc view) {acc' : A → Prop} {view' : A → W}
    (hacc : ∀ a, acc a ↔ acc' a)
    (hview : ∀ a a', acc a → acc a' → (view a = view a' ↔ view' a = view' a')) :
    Decodes f acc' view' where
  accepts a := (h.accepts a).trans (hacc a)
  views a a' ha ha' := by
    have hb := (hacc a).mpr ha
    have hb' := (hacc a').mpr ha'
    exact (h.views a a' hb hb').trans (hview a a' hb hb')

/-- The two parts are accepted, and looked at, separately. -/
theorem both {g : A → Except R C} {acc' : A → Prop} {view' : A → W} (h : Decodes f acc view)
    (h' : Decodes g acc' view') :
    Decodes (decodeBoth f g) (fun a => acc a ∧ acc' a) (fun a => (view a, view' a)) where
  accepts a := by
    constructor
    · rintro ⟨bc, hbc⟩
      rcases hf : f a with e | b
      · simp only [decodeBoth, hf] at hbc
        cases hbc
      · rcases hg : g a with e | c
        · simp only [decodeBoth, hf, hg] at hbc
          cases hbc
        · exact ⟨(h.accepts a).mp ⟨b, hf⟩, (h'.accepts a).mp ⟨c, hg⟩⟩
    · rintro ⟨ha, ha'⟩
      obtain ⟨b, hb⟩ := h.exists_ok ha
      obtain ⟨c, hc⟩ := h'.exists_ok ha'
      exact ⟨(b, c), by rw [decodeBoth, hb, hc]; rfl⟩
  views a a' ha ha' := by
    obtain ⟨b, b', hb, hb', hview⟩ := h.exists_values ha.1 ha'.1
    obtain ⟨c, c', hc, hc', hview'⟩ := h'.exists_values ha.2 ha'.2
    have hrun : decodeBoth f g a = .ok (b, c) := by rw [decodeBoth, hb, hc]; rfl
    have hrun' : decodeBoth f g a' = .ok (b', c') := by rw [decodeBoth, hb', hc']; rfl
    rw [hrun, hrun', Except.ok.injEq, Prod.mk.injEq, Prod.mk.injEq, hview, hview']

/-- A value built from what was decoded and from the rest of the input. -/
theorem build {g : A → B → C} {rest : A → W} (h : Decodes f acc view)
    (hg : ∀ a a' b b', g a b = g a' b' ↔ b = b' ∧ rest a = rest a') :
    Decodes (fun a => g a <$> f a) acc (fun a => (view a, rest a)) where
  accepts a := by
    rw [← h.accepts a]
    constructor
    · rintro ⟨c, hc⟩
      rcases hf : f a with e | b
      · rw [hf] at hc
        cases hc
      · exact ⟨b, rfl⟩
    · rintro ⟨b, hb⟩
      exact ⟨g a b, by rw [hb]; rfl⟩
  views a a' ha ha' := by
    obtain ⟨b, b', hb, hb', hview⟩ := h.exists_values ha ha'
    rw [hb, hb', Prod.mk.injEq, ← hview, ← hg a a' b b']
    constructor
    · intro heq
      exact Except.ok.inj heq
    · intro heq
      exact congrArg Except.ok heq

/-- A value built from what was decoded. -/
theorem map {g : B → C} (h : Decodes f acc view) (hg : Function.Injective g) :
    Decodes (fun a => g <$> f a) acc view := by
  have hbuild : Decodes (fun a => g <$> f a) acc (fun a => (view a, ())) := by
    apply h.build
    intro _ _ b b'
    simp [hg.eq_iff]
  apply hbuild.congr
  · intro a
    exact Iff.rfl
  · intro a a' _ _
    simp

/-- Errors may be renamed. -/
theorem mapError {R' : Type} (h : Decodes f acc view) (g : R → R') :
    Decodes (fun a => (f a).mapError g) acc view where
  accepts a := by
    rw [← h.accepts a]
    rcases f a with e | b
    · simp [Except.mapError]
    · simp [Except.mapError]
  views a a' ha ha' := by
    obtain ⟨b, b', hb, hb', hview⟩ := h.exists_values ha ha'
    rw [hb, hb', ← hview]
    simp [Except.mapError]

theorem mapM_exists_ok (h : Decodes f acc view) {as : List A} (has : ∀ a ∈ as, acc a) :
    ∃ bs, as.mapM f = .ok bs := by
  induction as with
  | nil => exact ⟨[], rfl⟩
  | cons a as ih =>
      obtain ⟨b, hb⟩ := h.exists_ok (has a List.mem_cons_self)
      obtain ⟨bs, hbs⟩ := ih fun a' ha' => has a' (List.mem_cons_of_mem _ ha')
      exact ⟨b :: bs, by rw [List.mapM_cons, hb, hbs]; rfl⟩

theorem mapM_accepts (h : Decodes f acc view) {as : List A} {bs : List B}
    (hrun : as.mapM f = .ok bs) : ∀ a ∈ as, acc a := by
  induction as generalizing bs with
  | nil =>
      intro a ha
      cases ha
  | cons a as ih =>
      rw [List.mapM_cons] at hrun
      rcases hf : f a with e | b
      · rw [hf] at hrun
        cases hrun
      · rcases hrest : as.mapM f with e | bs'
        · rw [hf, hrest] at hrun
          cases hrun
        · intro a' ha'
          rcases List.mem_cons.mp ha' with rfl | hmem
          · exact (h.accepts a').mp ⟨b, hf⟩
          · exact ih hrest a' hmem

/-- A loop over a list looks at every element. -/
theorem mapM_views (h : Decodes f acc view) {as as' : List A} (has : ∀ a ∈ as, acc a)
    (has' : ∀ a ∈ as', acc a) : as.mapM f = as'.mapM f ↔ as.map view = as'.map view := by
  induction as generalizing as' with
  | nil =>
      cases as' with
      | nil => exact ⟨fun _ => rfl, fun _ => rfl⟩
      | cons a' as' =>
          obtain ⟨bs, hbs⟩ := h.mapM_exists_ok fun x hx => has' x (List.mem_cons_of_mem _ hx)
          obtain ⟨b, hb⟩ := h.exists_ok (has' a' List.mem_cons_self)
          constructor
          · intro heq
            rw [List.mapM_cons, hb, hbs] at heq
            cases heq
          · intro heq
            cases heq
  | cons a as ih =>
      have hrest := fun x hx => has x (List.mem_cons_of_mem _ hx)
      obtain ⟨b, hb⟩ := h.exists_ok (has a List.mem_cons_self)
      obtain ⟨bs, hbs⟩ := h.mapM_exists_ok hrest
      have hrun : (a :: as).mapM f = .ok (b :: bs) := by rw [List.mapM_cons, hb, hbs]; rfl
      cases as' with
      | nil =>
          constructor
          · intro heq
            rw [hrun] at heq
            cases heq
          · intro heq
            cases heq
      | cons a' as' =>
          have hrest' := fun x hx => has' x (List.mem_cons_of_mem _ hx)
          obtain ⟨b', hb'⟩ := h.exists_ok (has' a' List.mem_cons_self)
          obtain ⟨bs', hbs'⟩ := h.mapM_exists_ok hrest'
          have hrun' : (a' :: as').mapM f = .ok (b' :: bs') := by
            rw [List.mapM_cons, hb', hbs']; rfl
          have hview := h.views a a' (has a List.mem_cons_self) (has' a' List.mem_cons_self)
          have hviews := ih hrest hrest'
          rw [hb, hb', Except.ok.injEq] at hview
          rw [hbs, hbs', Except.ok.injEq] at hviews
          rw [hrun, hrun', Except.ok.injEq, List.cons.injEq, List.map_cons, List.map_cons,
            List.cons.injEq, hview, hviews]

/-- A loop over a list accepts a list of accepted elements. -/
theorem list (h : Decodes f acc view) :
    Decodes (fun as : List A => as.mapM f) (fun as => ∀ a ∈ as, acc a) (List.map view) where
  accepts as := by
    constructor
    · rintro ⟨bs, hbs⟩
      exact h.mapM_accepts hbs
    · intro has
      exact h.mapM_exists_ok has
  views as as' has has' := h.mapM_views has has'

theorem optional (h : Decodes f acc view) :
    Decodes (decodeOptional f) (fun a => ∀ x ∈ a, acc x) (Option.map view) where
  accepts a := by
    cases a with
    | none => simp [decodeOptional]
    | some a =>
        have hmap := (h.map (Option.some_injective B)).accepts a
        simpa [decodeOptional] using hmap
  views a a' ha ha' := by
    cases a with
    | none =>
        cases a' with
        | none => simp
        | some a' =>
            obtain ⟨b', hb'⟩ := h.exists_ok (ha' a' rfl)
            simp [decodeOptional, hb', Functor.map, Except.map]
    | some a =>
        obtain ⟨b, hb⟩ := h.exists_ok (ha a rfl)
        cases a' with
        | none => simp [decodeOptional, hb, Functor.map, Except.map]
        | some a' =>
            have hview := (h.map (Option.some_injective B)).views a a' (ha a rfl) (ha' a' rfl)
            simpa [decodeOptional] using hview

theorem required (h : Decodes f acc view) (e : R) :
    Decodes (decodeRequired e f) (fun a => ∃ x, a = some x ∧ acc x) (Option.map view) where
  accepts a := by
    cases a with
    | none => simp [decodeRequired]
    | some a => simpa [decodeRequired] using h.accepts a
  views a a' ha ha' := by
    obtain ⟨x, rfl, hx⟩ := ha
    obtain ⟨x', rfl, hx'⟩ := ha'
    simpa [decodeRequired] using h.views x x' hx hx'

/-- A record read part by part, and described as a whole. -/
theorem record {W' : Type} {decode : A → Except R C} {acc' : A → Prop} {canonical : A → W'}
    (h : Decodes f acc view) (g : A → B → C) (rest : A → W)
    (hrun : ∀ a, decode a = g a <$> f a)
    (hg : ∀ a a' b b', g a b = g a' b' ↔ b = b' ∧ rest a = rest a')
    (hacc : ∀ a, acc a ↔ acc' a)
    (hview : ∀ a a', acc a → acc a' →
      (view a = view a' ∧ rest a = rest a' ↔ canonical a = canonical a')) :
    Decodes decode acc' canonical := by
  have hbuild := h.build hg
  have hdecode : decode = fun a => g a <$> f a := by
    funext a
    exact hrun a
  rw [hdecode]
  apply hbuild.congr hacc
  intro a a' ha ha'
  rw [Prod.mk.injEq, hview a a' ha ha']

end Decodes

end ZendooSc.Lib
