/-
ZendooSc.Handles.HashRuns — hash objects in whole runs.

`computePoseidonHash` makes a hash object, gives it the elements, takes the result
and frees the object again. On a freed element it leaves the object behind, which
is where the handle protocol fails. `computePoseidonHash_hashes` is about the other
calls: the result is the hash of the elements, the only box that is left is the one
of the result, and the world is the one that the four public operations would
have left.

`poseidon_hash_runs` is about a hash object that the caller keeps: the digest it
stands for follows from the operations of the run alone, those on other objects
included.
-/
import Mathlib.Algebra.Group.Nat.Defs
import ZendooSc.Handles.PoseidonRefinement
import ZendooSc.Handles.Returns

namespace ZendooSc.Handles

open Lib

variable {V : NativeType → Type} {E : Env V} {M : HashModel (V .fieldElement)}
  {digestOf : V .fieldHash → Digest (V .fieldElement)} {w : World V}

/-! ## One hash state, overwritten -/

/-- The world with another hash state at an address. -/
def withState (w : World V) (a : ℕ) (s : V .fieldHash) : World V :=
  { w with store := w.store.write a ⟨.fieldHash, s⟩ }

theorem withState_self {a : ℕ} {s : V .fieldHash}
    (h : w.store.heap a = some ⟨.fieldHash, s⟩) : withState w a s = w := by
  have hheap : Function.update w.store.heap a (some ⟨.fieldHash, s⟩) = w.store.heap := by
    rw [← h, Function.update_eq_self]
  unfold withState Store.write
  rw [hheap]

theorem withState_withState (a : ℕ) (s s' : V .fieldHash) :
    withState (withState w a s) a s' = withState w a s' := by
  simp [withState, Store.write]

theorem withState_heap (a : ℕ) (s : V .fieldHash) :
    (withState w a s).store.heap a = some ⟨.fieldHash, s⟩ :=
  Function.update_self _ _ _

/-- An element is in another box. -/
theorem withState_value {a : ℕ} {s s' : V .fieldHash}
    (h : w.store.heap a = some ⟨.fieldHash, s⟩) {r : Ref} {x : V .fieldElement}
    (hx : valueOf w .fieldElement r = some x) :
    valueOf (withState w a s') .fieldElement r = some x := by
  obtain ⟨b, hp, hb, hheap⟩ := valueOf_eq_some.mp hx
  have hne : b ≠ a := by
    rintro rfl
    rw [h] at hheap
    cases hheap
  exact valueOf_eq_some.mpr ⟨b, hp, hb, (Function.update_of_ne hne _ _).trans hheap⟩

theorem withState_values {a : ℕ} {s s' : V .fieldHash}
    (h : w.store.heap a = some ⟨.fieldHash, s⟩) {rs : List Ref} {xs : List (V .fieldElement)}
    (hxs : valuesOf w .fieldElement rs = some xs) :
    valuesOf (withState w a s') .fieldElement rs = some xs := by
  induction rs generalizing xs with
  | nil => exact hxs
  | cons r rs ih =>
      simp only [valuesOf, List.mapM_cons, Option.bind_eq_bind, Option.bind_eq_some_iff] at hxs ⊢
      obtain ⟨x, hx, rest, hrest, heq⟩ := hxs
      exact ⟨x, withState_value h hx, rest, ih hrest, heq⟩

/-! ## The loop -/

theorem update_exec_withState (hlib : FollowsHashModel E.toNativeLib M digestOf) {i a : ℕ}
    (hp : w.store.pointer .poseidonHash i = some a) (ha : a ≠ 0) {s : V .fieldHash}
    (hs : w.store.heap a = some ⟨.fieldHash, s⟩) {input : Ref} {x : V .fieldElement}
    (hx : valueOf w .fieldElement input = some x) :
    ∃ s', (PoseidonHash.update E (some i) input).exec w = (.ok (), withState w a s') ∧
      digestOf s' = (digestOf s).update x := by
  obtain ⟨s', hrun, hdigest⟩ := hlib.update x s
  have hvalue : valueOf w .poseidonHash (some i) = some s := valueOf_eq_some.mpr ⟨a, hp, ha, hs⟩
  have hread : (readRawPointer Kind.poseidonHash.nativeType a).exec w = (.ok s, w) :=
    readRawPointer_exec ha hs
  have hmodify : (modifying .poseidonHash (some i) (E.updatePoseidonHash x)).exec w
      = (.ok (), withState w a s') := by
    unfold modifying
    rw [Program.exec_bind_ok (getField_exec (World.pointer_of_store hp)),
      Program.exec_bind_ok hread, hrun]
    rfl
  refine ⟨s', ?_, hdigest⟩
  unfold PoseidonHash.update
  rw [Program.exec_bind_ok (checkNotFreed_exec _ hvalue),
    Program.exec_bind_ok (reading_exec hvalue), Program.exec_bind_ok (reading_exec hx), hmodify]

/-- The loop gives all the elements to the hash object, as the updates would one
after the other. -/
theorem updateAll_exec (hlib : FollowsHashModel E.toNativeLib M digestOf) {i a : ℕ}
    (hp : w.store.pointer .poseidonHash i = some a) (ha : a ≠ 0) {s : V .fieldHash}
    (hs : w.store.heap a = some ⟨.fieldHash, s⟩) {inputs : List Ref}
    {xs : List (V .fieldElement)} (hxs : valuesOf w .fieldElement inputs = some xs) :
    ∃ s', (PoseidonHash.updateAll E (some i) inputs).exec w = (.ok (), withState w a s') ∧
      digestOf s' = { digestOf s with inputs := (digestOf s).inputs ++ xs } ∧
      runFrom E w (inputs.map (.poseidonUpdate (some i))) = withState w a s' := by
  induction inputs generalizing w s xs with
  | nil =>
      obtain rfl : [] = xs := Option.some.inj hxs
      refine ⟨s, ?_, ?_, (withState_self hs).symm⟩
      · rw [withState_self hs]
        rfl
      · rw [List.append_nil]
  | cons input inputs ih =>
      simp only [valuesOf, List.mapM_cons, Option.bind_eq_bind, Option.bind_eq_some_iff] at hxs
      obtain ⟨x, hx, rest, hrest, heq⟩ := hxs
      obtain rfl : x :: rest = xs := Option.some.inj heq
      obtain ⟨s₁, hrun, hdigest⟩ := update_exec_withState hlib hp ha hs hx
      have hp₁ : (withState w a s₁).store.pointer .poseidonHash i = some a := hp
      obtain ⟨s₂, hloop, hdigest₂, hops⟩ :=
        ih hp₁ (withState_heap a s₁) (withState_values hs hrest)
      refine ⟨s₂, ?_, ?_, ?_⟩
      · rw [withState_withState] at hloop
        exact (Program.exec_bind_ok hrun).trans hloop
      · rw [hdigest₂, hdigest]
        simp [Digest.update]
      · rw [withState_withState] at hops
        rw [← hops, List.map_cons]
        show runFrom E ((PoseidonHash.update E (some i) input).exec w).2 _ = _
        rw [hrun]

/-! ## The whole call -/

/-- The object that a new hash will be. -/
def nextDigest (w : World V) : Ref := some (w.store.fields .poseidonHash).length

/-- The public operations for a hash of a list, up to the result. -/
def hashOps (w : World V) (inputs : List Ref) : List Op :=
  .poseidonConstantLength (Int32.ofNat inputs.length) (some []) ::
    inputs.map (.poseidonUpdate (nextDigest w))

theorem inputSize_eq {n : ℕ} (h : n < 2 ^ 31) :
    (Int32.ofNat n).toInt64.toUInt64 = UInt64.ofNat n := by
  have hmsb : (BitVec.ofNat 32 n).msb = false := by
    rw [BitVec.msb_eq_decide, BitVec.toNat_ofNat]
    simp
    omega
  refine UInt64.eq_of_toBitVec_eq ?_
  show (BitVec.ofNat 32 n).signExtend 64 = BitVec.ofNat 64 n
  rw [BitVec.signExtend_eq_setWidth_of_msb_false hmsb]
  refine BitVec.eq_of_toNat_eq ?_
  simp
  omega

/-- A hash of as many elements as were announced is admitted. -/
theorem finalize_constantLength {d : Digest (V .fieldElement)} {xs : List (V .fieldElement)}
    (hd : d = ⟨.constantLength (UInt64.ofNat xs.length), [], xs⟩) (hlen : xs.length < 2 ^ 31) :
    M.finalize d = some (M.hash (.constantLength (UInt64.ofNat xs.length)) [] xs) := by
  subst hd
  have hsize : (UInt64.ofNat xs.length).toNat = xs.length := by
    rw [UInt64.toNat_ofNat']
    omega
  exact if_pos hsize.symm

/-- Making the hash object and giving it the elements. -/
theorem hashOps_exec (hlib : FollowsHashModel E.toNativeLib M digestOf) {inputs : List Ref}
    {xs : List (V .fieldElement)} (hxs : valuesOf w .fieldElement inputs = some xs)
    (hlen : inputs.length < 2 ^ 31) :
    (OutOfMemory E.malloc w ∧ ∃ w', (PoseidonHash.getInstanceConstantLength E
        (Int32.ofNat inputs.length) (some [])).exec w = (.error .abort, w')) ∨
      ∃ a h s, a ≠ 0 ∧ w.store.heap a = none ∧
        (PoseidonHash.getInstanceConstantLength E (Int32.ofNat inputs.length) (some [])).exec w
          = (.ok (nextDigest w), withDigest w a h) ∧
        (PoseidonHash.updateAll E (nextDigest w) inputs).exec (withDigest w a h)
          = (.ok (), withState (withDigest w a h) a s) ∧
        runFrom E w (hashOps w inputs) = withState (withDigest w a h) a s ∧
        M.finalize (digestOf s)
          = some (M.hash (.constantLength (UInt64.ofNat inputs.length)) [] xs) := by
  obtain ⟨h, hinit, hdigest⟩ := hlib.initConstantLength (UInt64.ofNat inputs.length) []
  have hnew := newDigest_exec E (Int32.ofNat inputs.length) w
  rw [inputSize_eq hlen] at hnew
  have hinit' : E.getPoseidonHashConstantLength (UInt64.ofNat inputs.length) none = .ok h := hinit
  rw [hinit'] at hnew
  rcases returnJobject_cases E.malloc .poseidonHash h w with ⟨hfull, hrun⟩ | ⟨a, ha, hfree, hrun⟩
  · exact .inl ⟨hfull, _, hnew.trans hrun⟩
  · have hmade : (PoseidonHash.getInstanceConstantLength E (Int32.ofNat inputs.length)
        (some [])).exec w = (.ok (nextDigest w), withDigest w a h) := hnew.trans hrun
    have hheap : (withDigest w a h).store.heap a = some ⟨.fieldHash, h⟩ :=
      Function.update_self _ _ _
    have hobject : (returnObject E .poseidonHash h).exec w
        = (.ok (nextDigest w), withDigest w a h) := hrun
    have hlive := (returnObject_returned E hobject).2.valuesOf hxs
    obtain ⟨s, hloop, hdigest', hops⟩ :=
      updateAll_exec hlib (withDigest_pointer w a h) ha hheap hlive
    refine .inr ⟨a, h, s, ha, hfree, hmade, hloop, ?_, ?_⟩
    · rw [← hops]
      show runFrom E ((discard (PoseidonHash.getInstanceConstantLength E
        (Int32.ofNat inputs.length) (some []))).exec w).2 _ = _
      rw [discard_world, hmade]
      rfl
    · rw [length_valuesOf hxs] at hlen hdigest ⊢
      refine finalize_constantLength ?_ hlen
      rw [hdigest', hdigest]
      rfl

/-- What the call comes to. -/
theorem computePoseidonHash_cases (hlib : FollowsHashModel E.toNativeLib M digestOf)
    (hw : Owned w) {inputs : List Ref} {xs : List (V .fieldElement)}
    (hxs : valuesOf w .fieldElement inputs = some xs) (hlen : inputs.length < 2 ^ 31) :
    ((OutOfMemory E.malloc w ∨ OutOfMemory E.malloc (runFrom E w (hashOps w inputs))) ∧
        ((PoseidonHash.computePoseidonHash E inputs).exec w).1 = .error .abort) ∨
      ∃ r w' b, (PoseidonHash.computePoseidonHash E inputs).exec w = (.ok r, w') ∧
        valueOf w' .fieldElement r
          = some (M.hash (.constantLength (UInt64.ofNat inputs.length)) [] xs) ∧
        w.store.heap b = none ∧
        w'.store.heap = Function.update w.store.heap b (some ⟨.fieldElement,
          M.hash (.constantLength (UInt64.ofNat inputs.length)) [] xs⟩) ∧
        runFrom E w (hashOps w inputs ++ [.poseidonFinalize (nextDigest w),
          .free .poseidonHash (nextDigest w)]) = w' := by
  unfold PoseidonHash.computePoseidonHash
  rcases hashOps_exec hlib hxs hlen with ⟨hfull, w', hrun⟩ |
    ⟨a, h, s, ha, hfree, hmade, hloop, hops, hfinal⟩
  · rw [Program.exec_bind_error hrun]
    exact .inl ⟨.inl hfull, rfl⟩
  · generalize M.hash (.constantLength (UInt64.ofNat inputs.length)) [] xs = y at hfinal ⊢
    rw [Program.exec_bind_ok hmade, Program.exec_bind_ok hloop, hops]
    have hw₂ := runFrom_owned E (hashOps w inputs) hw
    rw [hops] at hw₂
    have hp₂ : (withState (withDigest w a h) a s).store.pointer .poseidonHash
        (w.store.fields .poseidonHash).length = some a := withDigest_pointer w a h
    have hs := withState_heap (w := withDigest w a h) a s
    have hvalue :
        valueOf (withState (withDigest w a h) a s) .poseidonHash (nextDigest w) = some s :=
      valueOf_eq_some.mpr ⟨a, hp₂, ha, hs⟩
    -- what is behind the other addresses
    have hother : ∀ x, x ≠ a →
        (withState (withDigest w a h) a s).store.heap x = w.store.heap x := by
      intro x hx
      exact (Function.update_of_ne hx _ _).trans (Function.update_of_ne hx _ _)
    generalize withState (withDigest w a h) a s = w₂ at hw₂ hp₂ hs hvalue hother hops ⊢
    have hfinalize : (PoseidonHash.finalizeHash E (nextDigest w)).exec w₂
        = (returnJobject E.malloc .fieldElement y).exec w₂ := by
      unfold PoseidonHash.finalizeHash
      rw [Program.exec_bind_ok (checkNotFreed_exec _ hvalue),
        Program.exec_bind_ok (reading_exec hvalue), hlib.finalize s y hfinal]
      rfl
    rcases returnJobject_cases E.malloc .fieldElement y w₂ with ⟨hfull, hrun⟩ |
      ⟨b, hb, hbfree, hrun⟩
    · rw [Program.exec_bind_error (hfinalize.trans hrun)]
      exact .inl ⟨.inr hfull, rfl⟩
    · have hreturned := hfinalize.trans hrun
      have hba : b ≠ a := by
        rintro rfl
        rw [hs] at hbfree
        cases hbfree
      have hw₃ : Owned { w₂ with
          ticks := w₂.ticks + 1, store := w₂.store.adopt .fieldElement b ⟨.fieldElement, y⟩ } :=
        Store.Owned.adopt hw₂ hb hbfree rfl
      have hp₃ : (w₂.store.adopt .fieldElement b ⟨.fieldElement, y⟩).pointer .poseidonHash
          (w.store.fields .poseidonHash).length = some a :=
        Store.pointer_addObject.mpr (.inl hp₂)
      have hclosed := freeObject_exec hw₃ .field hp₃ ha
      refine .inr ⟨some (w₂.store.fields .fieldElement).length, { w₂ with
        ticks := w₂.ticks + 1
        store := ((w₂.store.adopt .fieldElement b ⟨.fieldElement, y⟩).drop a).clear .poseidonHash
          (w.store.fields .poseidonHash).length }, b, ?_, ?_, ?_, ?_, ?_⟩
      · rw [Program.exec_bind_ok hreturned]
        exact Program.exec_bind_ok hclosed
      · refine valueOf_eq_some.mpr ⟨b, ?_, hb, ?_⟩
        · have hne : ¬ (Kind.fieldElement = Kind.poseidonHash ∧
              (w₂.store.fields .fieldElement).length = (w.store.fields .poseidonHash).length) :=
            fun hboth => Kind.noConfusion hboth.1
          have hkept : (((w₂.store.adopt .fieldElement b ⟨.fieldElement, y⟩).drop a).clear
              .poseidonHash (w.store.fields .poseidonHash).length).pointer .fieldElement
                (w₂.store.fields .fieldElement).length
              = (w₂.store.adopt .fieldElement b ⟨.fieldElement, y⟩).pointer .fieldElement
                (w₂.store.fields .fieldElement).length := Store.pointer_clear_of_ne hne
          exact hkept.trans (Store.pointer_addObject.mpr (.inr ⟨rfl, rfl, rfl⟩))
        · exact (Function.update_of_ne hba _ _).trans (Function.update_self _ _ _)
      · rw [← hother b hba]
        exact hbfree
      · funext x
        show Function.update (Function.update w₂.store.heap b _) a none x = _
        by_cases hxa : x = a
        · rw [hxa, Function.update_self, Function.update_of_ne hba.symm, hfree]
        · rw [Function.update_of_ne hxa]
          by_cases hxb : x = b
          · rw [hxb, Function.update_self, Function.update_self]
          · rw [Function.update_of_ne hxb, Function.update_of_ne hxb, hother x hxa]
      · rw [runFrom, List.foldl_append]
        show ((free .poseidonHash (nextDigest w)).exec
          ((discard (PoseidonHash.finalizeHash E (nextDigest w))).exec
            (runFrom E w (hashOps w inputs))).2).2 = _
        rw [hops, discard_world, hreturned]
        exact congrArg Prod.snd hclosed

/-- On live elements `computePoseidonHash` returns their hash, or runs out of memory
for one of its two objects. One box is left, that of the result, and the world is
the one after the public operations. -/
theorem computePoseidonHash_hashes (hlib : FollowsHashModel E.toNativeLib M digestOf)
    (ops : List Op) {inputs : List Ref} {xs : List (V .fieldElement)}
    (hxs : valuesOf (run E ops) .fieldElement inputs = some xs) (hlen : inputs.length < 2 ^ 31) :
    ((OutOfMemory E.malloc (run E ops) ∨
        OutOfMemory E.malloc (run E (ops ++ hashOps (run E ops) inputs))) ∧
        ((PoseidonHash.computePoseidonHash E inputs).exec (run E ops)).1 = .error .abort) ∨
      ∃ r b, ((PoseidonHash.computePoseidonHash E inputs).exec (run E ops)).1 = .ok r ∧
        valueOf (run E (ops ++ [.computePoseidonHash inputs])) .fieldElement r
          = some (M.hash (.constantLength (UInt64.ofNat inputs.length)) [] xs) ∧
        (run E ops).store.heap b = none ∧
        (run E (ops ++ [.computePoseidonHash inputs])).store.heap
          = Function.update (run E ops).store.heap b (some ⟨.fieldElement,
              M.hash (.constantLength (UInt64.ofNat inputs.length)) [] xs⟩) ∧
        run E (ops ++ [.computePoseidonHash inputs])
          = run E (ops ++ (hashOps (run E ops) inputs ++
              [.poseidonFinalize (nextDigest (run E ops)),
                .free .poseidonHash (nextDigest (run E ops))])) := by
  rw [run_append, run_append E ops (hashOps (run E ops) inputs ++ _)]
  rcases computePoseidonHash_cases hlib (run_owned E ops) hxs hlen with
    hfull | ⟨r, w', b, hrun, hvalue, hfree, hheap, hops⟩
  · exact .inl hfull
  · have hworld : run E (ops ++ [.computePoseidonHash inputs]) = w' := by
      rw [run_concat]
      show ((discard (PoseidonHash.computePoseidonHash E inputs)).exec (run E ops)).2 = w'
      rw [discard_world, hrun]
    rw [hworld]
    refine .inr ⟨r, b, ?_, hvalue, hfree, hheap, hops.symm⟩
    rw [hrun]

/-- Two elements and their sum. -/
theorem computePoseidonHash_hashes_two :
    valueOf (run digestEnv ([.fieldElementFromLong 3, .fieldElementFromLong 4] ++
      [.computePoseidonHash [some 0, some 1]])) .fieldElement (some 2) = some 7 := by
  have hvalues : valuesOf (run digestEnv [.fieldElementFromLong 3, .fieldElementFromLong 4])
      .fieldElement [some 0, some 1] = some [3, 4] := rfl
  rcases computePoseidonHash_hashes digestEnv_follows
    [.fieldElementFromLong 3, .fieldElementFromLong 4] hvalues (by decide) with
    ⟨-, habort⟩ | ⟨r, b, hreturned, hvalue, -⟩
  · cases habort
  · cases hreturned
    exact hvalue

/-! ## A hash object through a run -/

namespace Factory

/-- The operation that a static method is. -/
def op : Factory → Op
  | getInstance => .poseidonVariableLength false (some [])
  | getInstanceWith personalization => .poseidonVariableLength false personalization
  | getInstanceConstantLength inputSize => .poseidonConstantLength inputSize (some [])
  | getInstanceConstantLengthWith inputSize personalization =>
      .poseidonConstantLength inputSize personalization
  | getInstanceVariableLength modRate => .poseidonVariableLength modRate (some [])
  | getInstanceVariableLengthWith modRate personalization =>
      .poseidonVariableLength modRate personalization

theorem step_op (E : Env V) (factory : Factory) :
    step E factory.op = discard (factory.make E) := by
  cases factory with
  | _ => rfl

end Factory

/-- What an operation makes of a digest. One on another object does nothing. -/
def digestSpec (this : Ref) (w : World V) (op : Op) (d : Digest (V .fieldElement)) :
    Digest (V .fieldElement) :=
  match op with
  | .poseidonUpdate digest input => if digest = this then (Use.update input).spec w d else d
  | .poseidonReset digest personalization =>
      if digest = this then (Use.reset personalization).spec w d else d
  | _ => d

/-- The two operations that write to a hash object do to it what they do to the digest. -/
theorem poseidonHash_tracks (hlib : FollowsHashModel E.toNativeLib M digestOf) (this : Ref) :
    Tracks E .poseidonHash this (fun h d => digestOf h = d) (digestSpec this) where
  idle := by
    intro w op d hop
    cases op with
    | poseidonUpdate digest input => exact if_neg (ne_of_not_writes hop)
    | poseidonReset digest personalization => exact if_neg (ne_of_not_writes hop)
    | _ => rfl
  step := by
    intro w op h d hw hop hv hd
    cases op with
    | poseidonUpdate digest input =>
        obtain rfl : digest = this := eq_of_writes hop
        have hcall := call_represents hlib hw ⟨h, hv, hd⟩ (.update input)
        rw [exec_update rfl] at hcall
        rw [digestSpec, if_pos rfl]
        exact hcall
    | poseidonReset digest personalization =>
        obtain rfl : digest = this := eq_of_writes hop
        have hcall := call_represents hlib hw ⟨h, hv, hd⟩ (.reset personalization)
        rw [exec_reset rfl] at hcall
        rw [digestSpec, if_pos rfl]
        exact hcall
    | _ => simp [Op.writes] at hop

/-- A hash object through every run of the interface: until it is closed it stands
for the elements it was given since it was made or last reset, whatever is done to
other objects in between, and it answers any call but a reset that succeeds. -/
theorem poseidon_hash_runs (hlib : FollowsHashModel E.toNativeLib M digestOf)
    (before ops : List Op) {factory : Factory} {this : Ref}
    (hmake : ((factory.make E).exec (run E before)).1 = .ok this) :
    ∃ xs, livePersonalization (run E before) factory.personalization = some xs ∧
      ((∀ u, Conforms E M digestOf this (run E (before ++ factory.op :: ops))
          (specFrom E (digestSpec this) (run E (before ++ [factory.op])) ops
            (.fresh factory.mode xs)) u ↔
          ∀ personalization, u = .reset personalization →
            livePersonalization (run E (before ++ factory.op :: ops)) personalization = none) ∧
        Represents digestOf this (run E (before ++ factory.op :: ops))
          (specFrom E (digestSpec this) (run E (before ++ [factory.op])) ops
            (.fresh factory.mode xs)) ∨
        ClosedDuring E (run E (before ++ [factory.op])) ops (.poseidonHash, this)) := by
  have hmade := exec_of_outcome E factory.op (factory.step_op E) hmake
  obtain ⟨hw, xs, hlive, h, hv, hfresh⟩ := make_represents hlib (run_owned E before) hmade
  refine ⟨xs, hlive, ?_⟩
  rw [run_cons, ← run_concat]
  rcases (poseidonHash_tracks hlib this).run ops hw hv hfresh with hlater | hclosed
  · have howned := runFrom_owned E ops hw
    exact .inl ⟨conforms_iff hlib howned hlater, hlater⟩
  · exact .inr hclosed

/-- Two elements, and between the updates of one hash another is used and closed. -/
def betweenUpdates : List Op :=
  [.poseidonUpdate (some 0) (some 0), .poseidonConstantLength 1 (some []),
    .poseidonUpdate (some 1) (some 1), .poseidonUpdate (some 0) (some 1),
    .poseidonFinalize (some 1), .free .poseidonHash (some 1)]

/-- The hash was given a personalization and two elements, and not those of the other. -/
theorem poseidon_hash_runs_two :
    let w := run digestEnv ([.fieldElementFromLong 3, .fieldElementFromLong 4] ++
      .poseidonConstantLength 2 (some [some 0]) :: betweenUpdates)
    let d : Digest ℕ := ⟨.constantLength 2, [3], [3, 4]⟩
    Represents (V := DigestValue) id (some 0) w d ∧
      Conforms digestEnv sumModel id (some 0) w d .finalizeHash ∧
      ¬ Conforms digestEnv sumModel id (some 0) w d (.reset (some [])) := by
  have hopen : ¬ ClosedDuring digestEnv (run digestEnv
      ([.fieldElementFromLong 3, .fieldElementFromLong 4] ++
        [.poseidonConstantLength 2 (some [some 0])])) betweenUpdates (.poseidonHash, some 0) := by
    refine not_closedDuring digestEnv ?_
    intro op hop w
    simp only [betweenUpdates, List.mem_cons, List.not_mem_nil, or_false] at hop
    rcases hop with rfl | rfl | rfl | rfl | rfl | rfl
    all_goals simp [Op.closes]
  have hmake : (((Factory.getInstanceConstantLengthWith 2 (some [some 0])).make digestEnv).exec
      (run digestEnv [.fieldElementFromLong 3, .fieldElementFromLong 4])).1 = .ok (some 0) := rfl
  obtain ⟨xs, hlive, ⟨hconforms, hstands⟩ | hclosed⟩ :=
    poseidon_hash_runs digestEnv_follows _ betweenUpdates hmake
  · obtain rfl : [3] = xs := Option.some.inj hlive
    refine ⟨hstands, (hconforms .finalizeHash).mpr ?_, ?_⟩
    · intro personalization hfinalize
      cases hfinalize
    · intro hreset
      have hnone := (hconforms (.reset (some []))).mp hreset _ rfl
      cases hnone
  · exact absurd hclosed hopen

end ZendooSc.Handles
