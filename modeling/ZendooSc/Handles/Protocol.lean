/-
ZendooSc.Handles.Protocol — the rules of the handle protocol.

`Safe` says of a call that it keeps the ownership discipline and runs into no
undefined behaviour. `Protocol needs x` adds what is demanded of freed objects:
if one of the objects `x` needs was freed, then `x` ends in an exception, and
the boxes are as they were.

There is one rule for each primitive, and one for each way of putting calls
together. A call that reads objects and then does something else is described
by listing what it reads; a call that writes comes last.
-/
import ZendooSc.Handles.Operations

namespace ZendooSc.Handles

open Lib

variable {V : NativeType → Type} {α β : Type}

/-- Every box has one owner, and every pointer is null or to a box. -/
def Owned (w : World V) : Prop := w.store.Owned fits

/-- The object was freed: its pointer field is null. -/
def Freed (w : World V) (n : Kind × Ref) : Prop := w.pointer n.1 n.2 = some 0

/-- The call keeps the discipline, and there is no undefined behaviour. -/
def Safe (x : JavaCall V α) : Prop := Program.Safe Owned Halt.ub x

/-- The call is safe, and does not work with freed objects. -/
structure Protocol (needs : World V → List (Kind × Ref)) (x : JavaCall V α) : Prop where
  safe : Safe x
  freed : ∀ w, Owned w → (∃ n ∈ needs w, Freed w n) →
    (∃ e, (x.exec w).1 = .error (.exception e)) ∧ (x.exec w).2.store.heap = w.store.heap

/-! ## Calls that only look -/

/-- The call changes nothing, and returns or throws. -/
def Looks (x : JavaCall V α) : Prop :=
  ∀ w, Owned w → (∃ e, x.exec w = (.error (.exception e), w)) ∨ ∃ a, x.exec w = (.ok a, w)

theorem Looks.safe {x : JavaCall V α} (h : Looks x) : Safe x := by
  intro w hw
  rcases h w hw with ⟨e, hrun⟩ | ⟨a, hrun⟩
  · rw [hrun]
    refine ⟨hw, ?_⟩
    intro heq
    cases heq
  · rw [hrun]
    refine ⟨hw, ?_⟩
    intro heq
    cases heq

theorem looks_pure (a : α) : Looks (pure a : JavaCall V α) := by
  intro w _
  exact .inr ⟨a, rfl⟩

theorem looks_throwJava (e : JavaException) : Looks (throwJava e : JavaCall V α) := by
  intro w _
  exact .inl ⟨e, rfl⟩

theorem looks_native (x : Except Panic α) : Looks (native x : JavaCall V α) := by
  unfold native
  rcases ffiExport x with a | e
  · exact looks_pure a
  · exact looks_throwJava e

/-- A panic is thrown. -/
theorem native_error (e : Panic) :
    ∃ thrown, (native (.error e) : JavaCall V α) = throwJava thrown := by
  cases e with
  | nullPointer => exact ⟨.nullPointer, rfl⟩
  | _ => exact ⟨.runtime _, rfl⟩

/-- What a look leaves is what it found. -/
theorem Looks.world {x : JavaCall V α} (h : Looks x) {w : World V} (hw : Owned w) :
    (x.exec w).2 = w := by
  rcases h w hw with ⟨e, hrun⟩ | ⟨a, hrun⟩
  · rw [hrun]
  · rw [hrun]

theorem Looks.bind {x : JavaCall V α} {f : α → JavaCall V β} (hx : Looks x)
    (hf : ∀ a, Looks (f a)) : Looks (x >>= f) := by
  intro w hw
  rcases hx w hw with ⟨e, hrun⟩ | ⟨a, hrun⟩
  · exact .inl ⟨e, Program.exec_bind_error hrun⟩
  · rw [Program.exec_bind_ok hrun]
    exact hf a w hw

theorem looks_look (f : World V → α) : Looks (Program.look f : JavaCall V α) := by
  intro w _
  exact .inr ⟨f w, rfl⟩

theorem looks_receiver (k : Kind) (this : Ref) : Looks (receiver k this : JavaCall V ℕ) := by
  apply (looks_look _).bind
  intro a
  rcases a with _ | a
  · exact looks_throwJava _
  · exact looks_pure a

theorem looks_checkNotFreed (k : Kind) (this : Ref) (e : JavaException) :
    Looks (checkNotFreed k this e : JavaCall V Unit) := by
  apply (looks_receiver k this).bind
  intro a
  by_cases ha : a = 0
  · rw [if_pos ha]
    exact looks_throwJava e
  · rw [if_neg ha]
    exact looks_pure ()

theorem looks_pairFields (p : PairKind) (this : Ref) :
    Looks (pairFields p this : JavaCall V (Ref × Ref)) := by
  apply (looks_look _).bind
  intro parts
  rcases parts with _ | parts
  · exact looks_throwJava _
  · exact looks_pure parts

/-- The pointer field of a reference, if it names an object. -/
theorem World.pointer_some {w : World V} {k : Kind} {r : Ref} {a : ℕ}
    (h : w.pointer k r = some a) : ∃ i, r = some i ∧ w.store.pointer k i = some a :=
  Option.bind_eq_some_iff.mp h

theorem World.pointer_of_store {w : World V} {k : Kind} {i a : ℕ}
    (h : w.store.pointer k i = some a) : w.pointer k (some i) = some a := h

/-- The pointer field of `this`, when it has one. -/
theorem receiver_exec {w : World V} {k : Kind} {this : Ref} {a : ℕ}
    (h : w.pointer k this = some a) : (receiver k this).exec w = (.ok a, w) := by
  unfold receiver
  rw [Program.exec_look_bind, h]
  rfl

theorem receiver_exec_none {w : World V} {k : Kind} {this : Ref} (h : w.pointer k this = none) :
    (receiver k this).exec w = (.error (.exception .nullPointer), w) := by
  unfold receiver
  rw [Program.exec_look_bind, h]
  rfl

theorem getField_exec {w : World V} {k : Kind} {r : Ref} {a : ℕ} (h : w.pointer k r = some a) :
    (getField k r).exec w = (.ok a, w) := by
  unfold getField
  rw [Program.exec_look_bind, h]
  rfl

theorem getField_exec_none {w : World V} {k : Kind} {r : Ref} (h : w.pointer k r = none) :
    ∃ e, (getField k r).exec w = (.error (.exception e), w) := by
  unfold getField
  rw [Program.exec_look_bind, h]
  exact ⟨_, rfl⟩

/-- A box of the expected type is there to be followed. -/
theorem deref_exec {w : World V} {t : NativeType} {a : ℕ} {b : Box V}
    (hb : w.store.heap a = some b) (ht : b.1 = t) :
    ∃ v, (deref t a).exec w = (.ok v, w) := by
  subst ht
  unfold deref
  rw [Program.exec_look_bind, hb]
  simp only [dite_true]
  exact ⟨b.2, rfl⟩

/-- What the pointer field of a reference can be: there is no object, it was
freed, or there is a value behind it. -/
theorem pointer_cases {w : World V} (hw : Owned w) (k : Kind) (r : Ref) :
    w.pointer k r = none ∨ Freed w (k, r)
    ∨ ∃ i a v, r = some i ∧ w.store.pointer k i = some a ∧ a ≠ 0
        ∧ (readRawPointer k.nativeType a).exec w = (.ok v, w) := by
  rcases hp : w.pointer k r with _ | a
  · exact .inl rfl
  · by_cases ha : a = 0
    · subst ha
      exact .inr (.inl hp)
    · obtain ⟨i, rfl, hpointer⟩ := World.pointer_some hp
      obtain ⟨b, hb, hfits⟩ := hw.live k i a hpointer ha
      obtain ⟨v, hrun⟩ := deref_exec hb hfits
      refine .inr (.inr ⟨i, a, v, rfl, hpointer, ha, ?_⟩)
      rw [readRawPointer, if_neg ha]
      exact hrun

theorem freed_checkNotFreed {w : World V} {k : Kind} {this : Ref} (e : JavaException)
    (h : Freed w (k, this)) : (checkNotFreed k this e).exec w = (.error (.exception e), w) := by
  unfold checkNotFreed
  rw [Program.exec_bind_ok (receiver_exec h)]
  rfl

theorem freed_reading {w : World V} {k : Kind} {r : Ref} (h : Freed w (k, r)) :
    (reading k r).exec w = (.error (.exception .nullPointer), w) := by
  unfold reading
  rw [Program.exec_bind_ok (getField_exec h)]
  rfl

theorem looks_reading (k : Kind) (r : Ref) : Looks (reading k r : JavaCall V _) := by
  intro w hw
  rcases pointer_cases hw k r with hnone | hfreed | ⟨i, a, v, rfl, hp, -, hrun⟩
  · obtain ⟨e, hthrow⟩ := getField_exec_none hnone
    exact .inl ⟨e, Program.exec_bind_error hthrow⟩
  · exact .inl ⟨_, freed_reading hfreed⟩
  · exact .inr ⟨v, (Program.exec_bind_ok (getField_exec (World.pointer_of_store hp))).trans hrun⟩

theorem looks_readingNullable (k : Kind) (r : Ref) :
    Looks (readingNullable k r : JavaCall V _) := by
  intro w hw
  unfold readingNullable readNullableRawPointer
  rcases pointer_cases hw k r with hnone | hfreed | ⟨i, a, v, rfl, hp, ha, hrun⟩
  · obtain ⟨e, hthrow⟩ := getField_exec_none hnone
    exact .inl ⟨e, Program.exec_bind_error hthrow⟩
  · refine .inr ⟨none, ?_⟩
    rw [Program.exec_bind_ok (getField_exec hfreed)]
    rfl
  · refine .inr ⟨some v, ?_⟩
    rw [readRawPointer, if_neg ha] at hrun
    rw [Program.exec_bind_ok (getField_exec (World.pointer_of_store hp)), if_neg ha,
      map_eq_pure_bind, Program.exec_bind_ok hrun]
    rfl

/-! ## Calls that write -/

theorem Safe.bind {x : JavaCall V α} {f : α → JavaCall V β} (hx : Safe x)
    (hf : ∀ a, Safe (f a)) : Safe (x >>= f) :=
  Program.safe_bind hx hf

theorem Safe.map {x : JavaCall V α} (f : α → β) (hx : Safe x) : Safe (f <$> x) :=
  Program.safe_map f hx

theorem safe_pure (a : α) : Safe (pure a : JavaCall V α) := (looks_pure a).safe

theorem safe_tick : Safe (tick : JavaCall V ℕ) := by
  apply (looks_look _).safe.bind
  intro n
  have hupdate : Safe (Program.update fun w : World V => { w with ticks := w.ticks + 1 }) :=
    Program.safe_update fun w hw => hw
  exact hupdate.bind fun _ => safe_pure n

/-- Everything that writing through `&mut` can come to: the object has no value,
or its box is overwritten with a value of the same type. -/
theorem modifying_cases {w : World V} (hw : Owned w) (k : Kind) (r : Ref)
    (f : Program (V k.nativeType) Panic α) :
    (∃ e, (modifying k r f).exec w = (.error (.exception e), w))
    ∨ ∃ i a v, r = some i ∧ w.store.pointer k i = some a ∧ a ≠ 0 ∧
        (modifying k r f).exec w = (native (f.exec v).1).exec
          { w with store := w.store.write a ⟨k.nativeType, (f.exec v).2⟩ } := by
  unfold modifying
  rcases pointer_cases hw k r with hnone | hfreed | ⟨i, a, v, rfl, hp, ha, hrun⟩
  · obtain ⟨e, hthrow⟩ := getField_exec_none hnone
    exact .inl ⟨e, Program.exec_bind_error hthrow⟩
  · rw [Program.exec_bind_ok (getField_exec hfreed)]
    exact .inl ⟨_, rfl⟩
  · refine .inr ⟨i, a, v, rfl, hp, ha, ?_⟩
    rw [Program.exec_bind_ok (getField_exec (World.pointer_of_store hp)),
      Program.exec_bind_ok hrun]
    exact Program.exec_bind_ok (Program.exec_update _ w)

theorem safe_modifying (k : Kind) (r : Ref) (f : Program (V k.nativeType) Panic α) :
    Safe (modifying k r f) := by
  intro w hw
  rcases modifying_cases hw k r f with ⟨e, hrun⟩ | ⟨i, a, v, -, hp, ha, hrun⟩
  · rw [hrun]
    exact ⟨hw, fun heq => by cases heq⟩
  · rw [hrun]
    have hwritten : Owned { w with store := w.store.write a ⟨k.nativeType, (f.exec v).2⟩ } :=
      Store.Owned.write hw hp ha rfl
    exact (looks_native (f.exec v).1).safe _ hwritten

theorem freed_modifying {w : World V} {k : Kind} {r : Ref} (h : Freed w (k, r))
    (f : Program (V k.nativeType) Panic α) :
    (modifying k r f).exec w = (.error (.exception .nullPointer), w) := by
  unfold modifying
  rw [Program.exec_bind_ok (getField_exec h)]
  rfl

/-- The allocator has no address to give. -/
def OutOfMemory (malloc : ℕ → ℕ) (w : World V) : Prop :=
  malloc w.ticks = 0 ∨ (w.store.heap (malloc w.ticks)).isSome

/-- Everything that boxing a value can come to. -/
theorem returnJobject_cases (malloc : ℕ → ℕ) (k : Kind) (obj : V k.nativeType) (w : World V) :
    OutOfMemory malloc w ∧
      (returnJobject malloc k obj).exec w = (.error .abort, { w with ticks := w.ticks + 1 })
    ∨ ∃ a, a ≠ 0 ∧ w.store.heap a = none ∧ (returnJobject malloc k obj).exec w =
        (.ok (some (w.store.fields k).length),
          { w with ticks := w.ticks + 1, store := w.store.adopt k a ⟨k.nativeType, obj⟩ }) := by
  have htick : (tick : JavaCall V ℕ).exec w = (.ok w.ticks, { w with ticks := w.ticks + 1 }) := rfl
  unfold returnJobject
  rw [Program.exec_bind_ok htick, Program.exec_look_bind]
  by_cases hbad : malloc w.ticks = 0 ∨ (w.store.heap (malloc w.ticks)).isSome
  · simp only [id, if_pos hbad]
    exact .inl ⟨hbad, rfl⟩
  · simp only [id, if_neg hbad]
    rw [not_or, Option.not_isSome_iff_eq_none] at hbad
    exact .inr ⟨malloc w.ticks, hbad.1, hbad.2, rfl⟩

theorem safe_returnJobject (malloc : ℕ → ℕ) (k : Kind) (obj : V k.nativeType) :
    Safe (returnJobject malloc k obj) := by
  intro w hw
  rcases returnJobject_cases malloc k obj w with ⟨-, hrun⟩ | ⟨a, ha, hfree, hrun⟩
  · rw [hrun]
    exact ⟨hw, fun heq => by cases heq⟩
  · rw [hrun]
    exact ⟨Store.Owned.adopt hw ha hfree rfl, fun heq => by cases heq⟩

theorem safe_newNullObject (k : Kind) : Safe (newNullObject k : JavaCall V Ref) := by
  apply (looks_look _).safe.bind
  intro w
  have hupdate : Safe (Program.update fun w : World V =>
      { w with store := w.store.addObject k 0 }) :=
    Program.safe_update fun w hw => Store.Owned.addNull hw k
  exact hupdate.bind fun _ => safe_pure _

theorem safe_newPair (p : PairKind) (a b : Ref) : Safe (newPair p a b : JavaCall V Ref) := by
  apply (looks_look _).safe.bind
  intro w
  have hupdate : Safe (Program.update fun w : World V =>
      { w with pairs := Function.update w.pairs p (w.pairs p ++ [(a, b)]) }) :=
    Program.safe_update fun w hw => hw
  exact hupdate.bind fun _ => safe_pure _

theorem dropBox_exec {w : World V} {t : NativeType} {a : ℕ} {b : Box V}
    (hb : w.store.heap a = some b) (ht : b.1 = t) :
    (dropBox t a).exec w = (.ok (), { w with store := w.store.drop a }) := by
  unfold dropBox
  rw [Program.exec_look_bind, hb]
  simp only [if_pos ht]
  rfl

/-- The owner of a box frees it: the box is gone, and the field is null. The two
conventions come to the same, as the field was not written in between. -/
theorem freeObject_exec {w : World V} (hw : Owned w) (convention : FreeConvention) {k : Kind}
    {i a : ℕ} (hp : w.store.pointer k i = some a) (ha : a ≠ 0) :
    (freeObject convention k.nativeType k (some i)).exec w =
      (.ok (), { w with store := (w.store.drop a).clear k i }) := by
  obtain ⟨b, hb, hfits⟩ := hw.live k i a hp ha
  have hpointer : w.pointer k (some i) = some a := hp
  have hdrop : (nativeFree k.nativeType a).exec w =
      (.ok (), { w with store := w.store.drop a }) := by
    unfold nativeFree
    rw [if_neg ha]
    exact dropBox_exec hb hfits
  unfold freeObject
  rw [Program.exec_bind_ok (receiver_exec hpointer)]
  simp only [if_neg ha]
  rcases convention with _ | _
  · rw [Program.exec_bind_ok hdrop]
    rfl
  · refine (Program.exec_bind_ok (getField_exec hpointer)).trans ?_
    rw [Program.exec_bind_ok hdrop]
    rfl

/-- Freeing is safe, however often it is done. -/
theorem safe_freeObject (convention : FreeConvention) (k : Kind) (this : Ref) :
    Safe (freeObject convention k.nativeType k this : JavaCall V Unit) := by
  intro w hw
  rcases hp : w.pointer k this with _ | a
  · unfold freeObject
    rw [Program.exec_bind_error (receiver_exec_none hp)]
    exact ⟨hw, fun heq => by cases heq⟩
  · by_cases ha : a = 0
    · unfold freeObject
      rw [Program.exec_bind_ok (receiver_exec hp)]
      simp only [if_pos ha]
      exact ⟨hw, fun heq => by cases heq⟩
    · obtain ⟨i, rfl, hpointer⟩ := World.pointer_some hp
      rw [freeObject_exec hw convention hpointer ha]
      exact ⟨Store.Owned.release hw hpointer ha, fun heq => by cases heq⟩

/-! ## The rules of the protocol -/

section Rules

variable {needs needs' : World V → List (Kind × Ref)}

/-- A call that needs nothing. -/
theorem Protocol.ofSafe {x : JavaCall V α} (h : Safe x) : Protocol (fun _ => []) x where
  safe := h
  freed := by
    intro w _ hfreed
    obtain ⟨n, hn, -⟩ := hfreed
    cases hn

/-- A call that only throws needs whatever one likes. -/
theorem Protocol.throw (e : JavaException) : Protocol needs (throwJava e : JavaCall V α) where
  safe := (looks_throwJava e).safe
  freed := by
    intro w _ _
    exact ⟨⟨e, rfl⟩, rfl⟩

/-- A call does not have to say all it needs. -/
theorem Protocol.weaken {x : JavaCall V α} (h : Protocol needs x)
    (hsub : ∀ w, needs' w ⊆ needs w) : Protocol needs' x where
  safe := h.safe
  freed := by
    intro w hw hfreed
    obtain ⟨n, hn, hzero⟩ := hfreed
    exact h.freed w hw ⟨n, hsub w hn, hzero⟩

/-- A call that throws for its freed objects does so whatever comes after it. -/
theorem Protocol.andThen {x : JavaCall V α} {f : α → JavaCall V β} (hx : Protocol needs x)
    (hf : ∀ a, Safe (f a)) : Protocol needs (x >>= f) where
  safe := hx.safe.bind hf
  freed := by
    intro w hw hfreed
    obtain ⟨⟨e, hthrow⟩, hheap⟩ := hx.freed w hw hfreed
    rcases hrun : x.exec w with ⟨result, w'⟩
    rw [hrun] at hthrow hheap
    simp only at hthrow
    rw [hthrow] at hrun
    rw [Program.exec_bind_error hrun]
    exact ⟨⟨e, rfl⟩, hheap⟩

theorem Protocol.map {x : JavaCall V α} (f : α → β) (hx : Protocol needs x) :
    Protocol needs (f <$> x) := by
  rw [map_eq_pure_bind]
  exact hx.andThen fun a => safe_pure (f a)

/-- A look at the world, before a call that needs something. -/
theorem Protocol.look {x : JavaCall V α} {f : α → JavaCall V β} (hx : Looks x)
    (hf : ∀ a, Protocol needs (f a)) : Protocol needs (x >>= f) where
  safe := hx.safe.bind fun a => (hf a).safe
  freed := by
    intro w hw hfreed
    rcases hx w hw with ⟨e, hrun⟩ | ⟨a, hrun⟩
    · rw [Program.exec_bind_error hrun]
      exact ⟨⟨e, rfl⟩, rfl⟩
    · rw [Program.exec_bind_ok hrun]
      exact (hf a).freed w hw hfreed

/-- A look at the world that itself throws if a certain object was freed. -/
theorem Protocol.need {x : JavaCall V α} {f : α → JavaCall V β} {n : Kind × Ref} (hx : Looks x)
    (hn : ∀ w, Freed w n → ∃ e, x.exec w = (.error (.exception e), w))
    (hf : ∀ a, Protocol needs (f a)) : Protocol (fun w => n :: needs w) (x >>= f) where
  safe := hx.safe.bind fun a => (hf a).safe
  freed := by
    intro w hw hfreed
    obtain ⟨m, hm, hzero⟩ := hfreed
    rcases List.mem_cons.mp hm with hfirst | hrest
    · rw [hfirst] at hzero
      obtain ⟨e, hrun⟩ := hn w hzero
      rw [Program.exec_bind_error hrun]
      exact ⟨⟨e, rfl⟩, rfl⟩
    · exact (Protocol.look hx hf).freed w hw ⟨m, hrest, hzero⟩

theorem Protocol.read {k : Kind} {r : Ref} {f : V k.nativeType → JavaCall V β}
    (hf : ∀ v, Protocol needs (f v)) :
    Protocol (fun w => (k, r) :: needs w) (reading k r >>= f) :=
  Protocol.need (looks_reading k r) (fun _ hzero => ⟨_, freed_reading hzero⟩) hf

theorem Protocol.guard {k : Kind} {this : Ref} {e : JavaException} {x : JavaCall V β}
    (hx : Protocol needs x) :
    Protocol (fun w => (k, this) :: needs w) (checkNotFreed k this e >>= fun _ => x) :=
  Protocol.need (looks_checkNotFreed k this e) (fun _ hzero => ⟨e, freed_checkNotFreed e hzero⟩)
    fun _ => hx

/-- The parts of a composite object, and a call that needs them. -/
theorem Protocol.pair {p : PairKind} {this : Ref} {f : Ref × Ref → JavaCall V β}
    (hf : ∀ a b, Protocol (fun w => (p.first, a) :: (p.second, b) :: needs w) (f (a, b))) :
    Protocol (fun w => parts w p this ++ needs w) (pairFields p this >>= f) where
  safe := (looks_pairFields p this).safe.bind fun ab => (hf ab.1 ab.2).safe
  freed := by
    intro w hw hfreed
    obtain ⟨n, hn, hzero⟩ := hfreed
    unfold pairFields
    rw [bind_assoc, Program.exec_look_bind]
    rcases hparts : (this.bind fun i => (w.pairs p)[i]? : Option (Ref × Ref)) with _ | ⟨a, b⟩
    · exact ⟨⟨_, rfl⟩, rfl⟩
    · rw [parts, hparts] at hn
      exact (hf a b).freed w hw ⟨n, hn, hzero⟩

/-- A list of objects of one class, read one by one. -/
theorem Protocol.readAll {k : Kind} {f : List (V k.nativeType) → JavaCall V β}
    (hf : ∀ vs, Protocol needs (f vs)) :
    ∀ rs : List Ref, Protocol (fun w => rs.map (k, ·) ++ needs w)
      (rs.mapM (reading k) >>= f)
  | [] => hf []
  | r :: rs => by
      rw [List.mapM_cons, bind_assoc]
      apply Protocol.read
      intro v
      rw [bind_assoc]
      simp only [pure_bind]
      exact Protocol.readAll (fun vs => hf (v :: vs)) rs

/-- A write to an object, and then whatever is safe. -/
theorem Protocol.modify {k : Kind} {r : Ref} {f : Program (V k.nativeType) Panic α} :
    Protocol (fun _ => [(k, r)]) (modifying k r f : JavaCall V α) where
  safe := safe_modifying k r f
  freed := by
    intro w _ hfreed
    obtain ⟨n, hn, hzero⟩ := hfreed
    rw [List.mem_singleton.mp hn] at hzero
    rw [freed_modifying hzero]
    exact ⟨⟨_, rfl⟩, rfl⟩

end Rules

end ZendooSc.Handles
