/-
ZendooSc.Handles.Footprints — what an operation can reach.

`Op.writes` lists the objects whose box an operation may overwrite, and
`Op.closes` those it frees. `Evolves` says that nothing else happens to the
objects there are: the others keep their pointer and the content of their box,
and the parts of a composite object stay its parts.

A method first looks at its arguments, and may then write to one object or free
it. Making objects comes last, and is not followed by anything that throws. So
there are two kinds of calls, `Prepares` and `Makes`, and a method is `Atomic`
if it is calls of the first kind followed by calls of the second: when it throws,
it has made nothing.
-/
import ZendooSc.Handles.OperationTheorems
import ZendooSc.Lib.Atomicity
import ZendooSc.Lib.Lifetimes

namespace ZendooSc.Handles

open Lib

variable {V : NativeType → Type} {α β : Type}

/-! ## Footprints -/

/-- The objects whose box an operation may overwrite. -/
def Op.writes : Op → List (Kind × Ref)
  | .poseidonUpdate this _ | .poseidonReset this _ => [(.poseidonHash, this)]
  | .merkleAppend this _ | .merkleFinalizeInPlace this | .merkleReset this =>
      [(.inMemoryOptimizedMerkleTree, this)]
  | .treeAddScCr this _ | .treeAddFwt this _ | .treeAddBtr this _ | .treeAddCert this _
  | .treeAddCsw this _ | .treeNativeAddCertLeaf this _ _ | .treeAddCertLeaf this _ _
  | .treeGetCrtLeaves this _ | .treeGetScCrCommitment this _ | .treeGetFwtCommitment this _
  | .treeGetBtrCommitment this _ | .treeGetCertCommitment this _ | .treeGetCswCommitment this _
  | .treeGetScCommitment this _ | .treeGetScExistenceProof this _ | .treeGetScAbsenceProof this _
  | .treeGetCommitment this => [(.commitmentTree, this)]
  | _ => []

/-- The parts that closing a composite object frees. If the one that comes first
is null, the other is not reached. -/
def closedParts (w : World V) (p : PairKind) (this : Ref) : List (Kind × Ref) :=
  match this.bind fun i => (w.pairs p)[i]? with
  | none => []
  | some (first, second) =>
      match p with
      | .schnorrKeyPair | .vrfKeyPair =>
          (p.second, second) ::
            if (w.pointer p.second second).isSome then [(p.first, first)] else []
      | .vrfProveResult =>
          (p.first, first) ::
            if (w.pointer p.first first).isSome then [(p.second, second)] else []

/-- The objects an operation frees. -/
def Op.closes (w : World V) : Op → List (Kind × Ref)
  | .free k this => [(k, this)]
  | .closePair p this => closedParts w p this
  | _ => []

/-- The objects there are have evolved: those of `closes` may have been freed, and
those of `writes` overwritten. -/
structure Evolves (writes closes : List (Kind × Ref)) (w w' : World V) : Prop where
  store : w.store.Evolves (fun k i => (k, some i) ∈ writes) (fun k i => (k, some i) ∈ closes)
    w'.store
  pairs : ∀ p, w.pairs p <+: w'.pairs p

/-- There are no more objects than before, and no more boxes. -/
structure NothingNew (w w' : World V) : Prop where
  fields : ∀ k, (w'.store.fields k).length = (w.store.fields k).length
  heap : ∀ a, w.store.heap a = none → w'.store.heap a = none
  pairs : w'.pairs = w.pairs

variable {writes closes : List (Kind × Ref)}

theorem Evolves.refl (w : World V) : Evolves writes closes w w :=
  ⟨.refl _ _ _, fun _ => List.prefix_refl _⟩

theorem Evolves.trans ⦃w w' w'' : World V⦄ (h : Evolves writes closes w w')
    (h' : Evolves writes closes w' w'') : Evolves writes closes w w'' :=
  ⟨h.store.trans h'.store, fun p => (h.pairs p).trans (h'.pairs p)⟩

theorem NothingNew.refl (w : World V) : NothingNew w w :=
  ⟨fun _ => rfl, fun _ h => h, rfl⟩

theorem NothingNew.trans ⦃w w' w'' : World V⦄ (h : NothingNew w w') (h' : NothingNew w' w'') :
    NothingNew w w'' :=
  ⟨fun k => (h'.fields k).trans (h.fields k), fun a ha => h'.heap a (h.heap a ha),
    h'.pairs.trans h.pairs⟩

/-! ## Two phases -/

/-- The call ended in a Java exception. -/
def Thrown (h : Halt) : Prop := ∃ e, h = .exception e

/-- The call keeps to its footprint and makes nothing. -/
def Prepares (writes closes : List (Kind × Ref)) (x : JavaCall V α) : Prop :=
  Program.Moves Owned (fun w w' => Evolves writes closes w w' ∧ NothingNew w w') x

/-- The call keeps to its footprint and throws nothing. -/
def Makes (writes closes : List (Kind × Ref)) (x : JavaCall V α) : Prop :=
  Program.Steadfast Owned (Evolves writes closes) Thrown x

/-- The call keeps to its footprint, and has made nothing if it throws. -/
def Atomic (writes closes : List (Kind × Ref)) (x : JavaCall V α) : Prop :=
  Program.Atomic Owned (Evolves writes closes) NothingNew Thrown x

theorem Prepares.atomic {x : JavaCall V α} (h : Prepares writes closes x) :
    Atomic writes closes x :=
  Program.Moves.atomic h

theorem Makes.atomic {x : JavaCall V α} (h : Makes writes closes x) : Atomic writes closes x :=
  Program.Steadfast.atomic h

theorem Atomic.moves {x : JavaCall V α} (h : Atomic writes closes x) :
    Program.Moves Owned (Evolves writes closes) x :=
  Program.Atomic.moves h

theorem Prepares.bind {x : JavaCall V α} {f : α → JavaCall V β} (hx : Prepares writes closes x)
    (hf : ∀ a, Prepares writes closes (f a)) : Prepares writes closes (x >>= f) :=
  Program.moves_bind (fun _ _ _ h h' => ⟨h.1.trans h'.1, h.2.trans h'.2⟩) hx hf

theorem Prepares.map {x : JavaCall V α} (f : α → β) (hx : Prepares writes closes x) :
    Prepares writes closes (f <$> x) :=
  Program.moves_map f hx

theorem Makes.bind {x : JavaCall V α} {f : α → JavaCall V β} (hx : Makes writes closes x)
    (hf : ∀ a, Makes writes closes (f a)) : Makes writes closes (x >>= f) :=
  Program.steadfast_bind Evolves.trans hx hf

/-- Preparations, and then the rest of the call. -/
theorem Prepares.andThen {x : JavaCall V α} {f : α → JavaCall V β}
    (hx : Prepares writes closes x) (hf : ∀ a, Atomic writes closes (f a)) :
    Atomic writes closes (x >>= f) :=
  Program.atomic_bind Evolves.trans NothingNew.trans hx hf

/-- A call, and then new objects. -/
theorem Atomic.andThen {x : JavaCall V α} {f : α → JavaCall V β} (hx : Atomic writes closes x)
    (hf : ∀ a, Makes writes closes (f a)) : Atomic writes closes (x >>= f) :=
  Program.Atomic.andThen Evolves.trans hx hf

theorem makes_pure (a : α) : Makes writes closes (pure a : JavaCall V α) :=
  fun w hw => ⟨hw, Evolves.refl w, nofun⟩

theorem Makes.map {x : JavaCall V α} (f : α → β) (hx : Makes writes closes x) :
    Makes writes closes (f <$> x) := by
  rw [map_eq_pure_bind]
  exact hx.bind fun a => makes_pure (f a)

theorem Atomic.map {x : JavaCall V α} (f : α → β) (hx : Atomic writes closes x) :
    Atomic writes closes (f <$> x) := by
  rw [map_eq_pure_bind]
  exact hx.andThen fun a => makes_pure (f a)

/-! ## The primitives -/

theorem Looks.prepares {x : JavaCall V α} (h : Looks x) : Prepares writes closes x := by
  intro w hw
  rw [h.world hw]
  exact ⟨hw, Evolves.refl w, NothingNew.refl w⟩

theorem Looks.andThen {x : JavaCall V α} {f : α → JavaCall V β} (hx : Looks x)
    (hf : ∀ a, Atomic writes closes (f a)) : Atomic writes closes (x >>= f) :=
  hx.prepares.andThen hf

theorem Looks.atomic {x : JavaCall V α} (h : Looks x) : Atomic writes closes x :=
  h.prepares.atomic

/-- A loop that only looks. -/
theorem looks_mapM {f : α → JavaCall V β} (hf : ∀ a, Looks (f a)) :
    ∀ as : List α, Looks (as.mapM f)
  | [] => looks_pure []
  | a :: as => by
      rw [List.mapM_cons]
      exact (hf a).bind fun _ => (looks_mapM hf as).bind fun _ => looks_pure _

theorem looks_mapM_reading (k : Kind) (rs : List Ref) :
    Looks (rs.mapM (reading k) : JavaCall V (List (V k.nativeType))) :=
  looks_mapM (looks_reading k) rs

theorem prepares_tick : Prepares writes closes (tick : JavaCall V ℕ) := by
  intro w hw
  exact ⟨hw, ⟨.refl _ _ _, fun _ => List.prefix_refl _⟩, fun _ => rfl, fun _ h => h, rfl⟩

theorem prepares_modifying {k : Kind} {r : Ref} (f : Program (V k.nativeType) Panic α)
    (h : (k, r) ∈ writes) : Prepares writes closes (modifying k r f) := by
  intro w hw
  refine ⟨(safe_modifying k r f w hw).1, ?_⟩
  rcases modifying_cases hw k r f with ⟨e, hrun⟩ | ⟨i, a, v, rfl, hp, ha, hrun⟩
  · rw [hrun]
    exact ⟨Evolves.refl w, NothingNew.refl w⟩
  · have hwritten : Owned { w with store := w.store.write a ⟨k.nativeType, (f.exec v).2⟩ } :=
      Store.Owned.write hw hp ha rfl
    rw [hrun, (looks_native (f.exec v).1).world hwritten]
    refine ⟨⟨Store.evolves_write _ _ hw _ hp h, fun _ => List.prefix_refl _⟩, fun _ => rfl, ?_, rfl⟩
    intro a' hfree
    have hne : a' ≠ a := by
      rintro rfl
      exact hw.not_pointed ha hfree hp
    exact (Function.update_of_ne hne _ _).trans hfree

theorem prepares_freeObject (convention : FreeConvention) {k : Kind} {this : Ref}
    (h : (k, this) ∈ closes) :
    Prepares writes closes (freeObject convention k.nativeType k this : JavaCall V Unit) := by
  intro w hw
  refine ⟨(safe_freeObject convention k this w hw).1, ?_⟩
  rcases hp : w.pointer k this with _ | a
  · unfold freeObject
    rw [Program.exec_bind_error (receiver_exec_none hp)]
    exact ⟨Evolves.refl w, NothingNew.refl w⟩
  · by_cases ha : a = 0
    · unfold freeObject
      rw [Program.exec_bind_ok (receiver_exec hp), if_pos ha]
      exact ⟨Evolves.refl w, NothingNew.refl w⟩
    · obtain ⟨i, rfl, hpointer⟩ := World.pointer_some hp
      rw [freeObject_exec hw convention hpointer ha]
      refine ⟨⟨Store.evolves_release _ _ hw hpointer h, fun _ => List.prefix_refl _⟩, ?_, ?_, rfl⟩
      · intro k'
        by_cases hk : k' = k
        · subst hk
          simp [Store.clear, Store.drop]
        · simp [Store.clear, Store.drop, Function.update_of_ne hk]
      · intro a' hfree
        by_cases haa : a' = a
        · subst haa
          exact Function.update_self _ _ _
        · exact (Function.update_of_ne haa _ _).trans hfree

theorem makes_returnJobject (malloc : ℕ → ℕ) (k : Kind) (obj : V k.nativeType) :
    Makes writes closes (returnJobject malloc k obj) := by
  intro w hw
  refine ⟨(safe_returnJobject malloc k obj w hw).1, ?_⟩
  rcases returnJobject_cases malloc k obj w with ⟨-, hrun⟩ | ⟨a, ha, hfree, hrun⟩
  · rw [hrun]
    refine ⟨⟨.refl _ _ _, fun _ => List.prefix_refl _⟩, ?_⟩
    rintro _ ⟨e, rfl⟩ heq
    cases heq
  · rw [hrun]
    exact ⟨⟨Store.evolves_adopt _ _ hw _ hfree, fun _ => List.prefix_refl _⟩, nofun⟩

theorem makes_newNullObject (k : Kind) :
    Makes writes closes (newNullObject k : JavaCall V Ref) := by
  intro w hw
  refine ⟨(safe_newNullObject k w hw).1, ⟨Store.evolves_addObject _ _ _ _ _, fun _ => ?_⟩, nofun⟩
  exact List.prefix_refl _

theorem makes_newPair (p : PairKind) (a b : Ref) :
    Makes writes closes (newPair p a b : JavaCall V Ref) := by
  intro w hw
  refine ⟨hw, ⟨.refl _ _ _, ?_⟩, nofun⟩
  intro p'
  show w.pairs p' <+: Function.update w.pairs p (w.pairs p ++ [(a, b)]) p'
  by_cases hp : p' = p
  · subst hp
    rw [Function.update_self]
    exact List.prefix_append _ _
  · simp [Function.update_of_ne hp]

/-! ## Returning objects -/

section Operations

variable (E : Env V)

theorem makes_returnObject (k : Kind) (obj : V k.nativeType) :
    Makes writes closes (returnObject E k obj) :=
  makes_returnJobject E.malloc k obj

theorem returnResult_atomic (k : Kind) (result : Call (V k.nativeType)) :
    Atomic writes closes (returnResult E k result) := by
  refine (looks_native result).andThen ?_
  intro r
  rcases r with e | obj
  · exact (makes_pure none).atomic
  · exact (makes_returnObject E k obj).atomic

theorem makes_returnOption (k : Kind) (obj : Option (V k.nativeType)) :
    Makes writes closes (returnOption E k obj) := by
  rcases obj with _ | obj
  · exact makes_pure none
  · exact makes_returnObject E k obj

theorem looks_returnBool (result : Call Bool) : Looks (returnBool result : JavaCall V Bool) := by
  refine (looks_native result).bind ?_
  intro r
  rcases r with e | b
  · exact looks_pure false
  · exact looks_pure b

/-- A guard, one object that is read, and what is done with its value. -/
theorem query_atomic {k : Kind} {this : Ref} {e : JavaException}
    {f : V k.nativeType → JavaCall V α} (hf : ∀ v, Atomic writes closes (f v)) :
    Atomic writes closes (checkNotFreed k this e >>= fun _ => reading k this >>= f) :=
  (looks_checkNotFreed k this e).andThen fun _ => (looks_reading k this).andThen hf

/-! ## Encodings -/

theorem serialize_atomic (k : Kind) (this : Ref) (compressed : Bool) :
    Atomic writes closes (serialize E k this compressed) := by
  have hmethod : ∀ wasFreed flag,
      Atomic writes closes (serializeMethod E k wasFreed this flag) := by
    intro wasFreed flag
    rcases wasFreed with _ | e
    · refine (looks_receiver k this).andThen fun _ => ?_
      exact (looks_reading k this).andThen fun _ => (looks_native _).atomic
    · exact query_atomic fun _ => (looks_native _).atomic
  cases k with
  | poseidonHash | inMemoryOptimizedMerkleTree | commitmentTree => exact (looks_throwJava _).atomic
  | _ =>
      simp only [serialize]
      exact hmethod _ _

theorem deserializeMethod_atomic (k : Kind) (incorrect : Option String)
    (bytes : Option (List UInt8)) (checked compressed : Option Bool) :
    Atomic writes closes (deserializeMethod E k incorrect bytes checked compressed) := by
  have hrest : Atomic writes closes (native (convertByteArray bytes) >>= fun objBytes =>
      native (E.deserialize k.nativeType objBytes checked compressed) >>= returnOption E k) := by
    refine (looks_native _).andThen fun objBytes => ?_
    exact (looks_native _).andThen fun obj => (makes_returnOption E k obj).atomic
  rcases incorrect with _ | what
  · exact hrest
  · rcases bytes with _ | objBytes
    · exact (looks_throwJava _).andThen fun _ => hrest
    · by_cases hlength : objBytes.length ≠ E.encodedLength k
      · simp only [deserializeMethod, if_pos hlength]
        exact (looks_throwJava _).andThen fun _ => hrest
      · simp only [deserializeMethod, if_neg hlength]
        exact hrest

theorem deserialize_atomic (k : Kind) (bytes : Option (List UInt8)) (check compressed : Bool) :
    Atomic writes closes (deserialize E k bytes check compressed) := by
  cases k with
  | poseidonHash | inMemoryOptimizedMerkleTree | commitmentTree => exact (looks_throwJava _).atomic
  | _ =>
      simp only [deserialize]
      exact deserializeMethod_atomic E _ _ bytes _ _

theorem prepares_free {k : Kind} {this : Ref} (h : (k, this) ∈ closes) :
    Prepares writes closes (free k this : JavaCall V Unit) := by
  obtain ⟨convention, hfree⟩ := free_eq_freeObject (V := V) k this
  rw [hfree]
  exact prepares_freeObject convention h

/-! ## Field elements, signatures and VRF -/

theorem equals_atomic (this o : Ref) :
    Atomic writes closes (FieldElement.equals E this o) := by
  refine (looks_receiver .fieldElement this).andThen fun _ => ?_
  by_cases hsame : o = this
  · rw [if_pos hsame]
    exact (looks_pure true).atomic
  · by_cases hnull : o = none
    · rw [if_neg hsame, if_pos hnull]
      exact (looks_pure false).atomic
    · rw [if_neg hsame, if_neg hnull]
      refine (looks_reading .fieldElement this).andThen fun field1 => ?_
      exact (looks_reading .fieldElement o).andThen fun field2 => (looks_pure _).atomic

theorem verifySignature_atomic (this signature message : Ref) :
    Atomic writes closes (SchnorrPublicKey.verifySignature E this signature message) := by
  refine query_atomic fun publicKey => ?_
  refine (looks_reading .fieldElement message).andThen fun message => ?_
  exact (looks_reading .schnorrSignature signature).andThen fun signature =>
    (looks_returnBool _).atomic

theorem proofToHash_atomic (this proof message : Ref) :
    Atomic writes closes (VRFPublicKey.proofToHash E this proof message) := by
  refine query_atomic fun publicKey => ?_
  refine (looks_reading .fieldElement message).andThen fun message => ?_
  exact (looks_reading .vrfProof proof).andThen fun proof => returnResult_atomic E .fieldElement _

theorem schnorrGetPublicKey_atomic (this : Ref) :
    Atomic writes closes (SchnorrSecretKey.getPublicKey E this) :=
  query_atomic fun _ => (looks_native _).andThen fun pk =>
    (makes_returnObject E .schnorrPublicKey pk).atomic

theorem vrfGetPublicKey_atomic (this : Ref) :
    Atomic writes closes (VRFSecretKey.getPublicKey E this) :=
  query_atomic fun _ => (looks_native _).andThen fun pk =>
    (makes_returnObject E .vrfPublicKey pk).atomic

/-- A key pair is made of two new objects. -/
theorem makes_keyPair {p : PairKind} (sk : V p.first.nativeType) (pk : V p.second.nativeType) :
    Makes writes closes (do
      let first ← returnObject E p.first sk
      let second ← returnObject E p.second pk
      newPair p first second) :=
  (makes_returnObject E p.first sk).bind fun first =>
    (makes_returnObject E p.second pk).bind fun second => makes_newPair p first second

theorem schnorrGenerate_atomic : Atomic writes closes (SchnorrKeyPair.generate E) :=
  prepares_tick.andThen fun _ => (looks_native _).andThen fun keys =>
    (makes_keyPair E (p := .schnorrKeyPair) keys.2 keys.1).atomic

theorem vrfGenerate_atomic : Atomic writes closes (VRFKeyPair.generate E) :=
  prepares_tick.andThen fun _ => (looks_native _).andThen fun keys =>
    (makes_keyPair E (p := .vrfKeyPair) keys.2 keys.1).atomic

theorem signMessage_atomic (this message : Ref) :
    Atomic writes closes (SchnorrKeyPair.signMessage E this message) := by
  refine (looks_pairFields .schnorrKeyPair this).andThen fun parts => ?_
  refine (looks_reading .schnorrSecretKey parts.1).andThen fun secretKey => ?_
  refine (looks_reading .schnorrPublicKey parts.2).andThen fun publicKey => ?_
  refine (looks_reading .fieldElement message).andThen fun message => ?_
  exact prepares_tick.andThen fun random => returnResult_atomic E .schnorrSignature _

theorem prove_atomic (this message : Ref) :
    Atomic writes closes (VRFKeyPair.prove E this message) := by
  refine (looks_pairFields .vrfKeyPair this).andThen fun parts => ?_
  refine (looks_reading .vrfSecretKey parts.1).andThen fun secretKey => ?_
  refine (looks_reading .vrfPublicKey parts.2).andThen fun publicKey => ?_
  refine (looks_reading .fieldElement message).andThen fun message => ?_
  refine prepares_tick.andThen fun random => (looks_native _).andThen fun result => ?_
  rcases result with e | ⟨proof, vrfOut⟩
  · exact (makes_pure none).atomic
  · exact (makes_keyPair E (p := .vrfProveResult) proof vrfOut).atomic

/-! ## Poseidon hash -/

theorem looks_readPersonalization (personalization : Option (List Ref)) :
    Looks (PoseidonHash.readPersonalization personalization :
      JavaCall V (Option (List (V .fieldElement)))) := by
  refine (looks_native _).bind fun refs => ?_
  refine (looks_mapM_reading .fieldElement refs).bind fun fields => ?_
  exact looks_pure _

theorem getInstanceConstantLength_atomic (inputSize : Int32)
    (personalization : Option (List Ref)) :
    Atomic writes closes
      (PoseidonHash.getInstanceConstantLength E inputSize personalization) :=
  (looks_readPersonalization personalization).andThen fun _ => (looks_native _).andThen fun h =>
    (makes_returnObject E .poseidonHash h).atomic

theorem getInstanceVariableLength_atomic (modRate : Bool) (personalization : Option (List Ref)) :
    Atomic writes closes (PoseidonHash.getInstanceVariableLength E modRate personalization) :=
  (looks_readPersonalization personalization).andThen fun _ => (looks_native _).andThen fun h =>
    (makes_returnObject E .poseidonHash h).atomic

theorem prepares_update {this : Ref} (input : Ref) (h : (.poseidonHash, this) ∈ writes) :
    Prepares writes closes (PoseidonHash.update E this input) := by
  refine (looks_checkNotFreed .poseidonHash this _).prepares.bind fun _ => ?_
  refine (looks_reading .poseidonHash this).prepares.bind fun _ => ?_
  refine (looks_reading .fieldElement input).prepares.bind fun input => ?_
  exact prepares_modifying _ h

theorem finalizeHash_atomic (this : Ref) :
    Atomic writes closes (PoseidonHash.finalizeHash E this) :=
  query_atomic fun _ => returnResult_atomic E .fieldElement _

theorem prepares_reset {this : Ref} (personalization : Option (List Ref))
    (h : (.poseidonHash, this) ∈ writes) :
    Prepares writes closes (PoseidonHash.reset E this personalization) := by
  refine (looks_checkNotFreed .poseidonHash this _).prepares.bind fun _ => ?_
  refine (looks_reading .poseidonHash this).prepares.bind fun _ => ?_
  refine (looks_readPersonalization personalization).prepares.bind fun fields => ?_
  exact prepares_modifying _ h

/-! ## Merkle trees -/

theorem append_atomic {this : Ref} (input : Ref)
    (h : (.inMemoryOptimizedMerkleTree, this) ∈ writes) :
    Atomic writes closes (InMemoryOptimizedMerkleTree.append E this input) := by
  refine (looks_checkNotFreed .inMemoryOptimizedMerkleTree this _).andThen fun _ => ?_
  refine (looks_reading .fieldElement input).andThen fun leaf => ?_
  exact ((prepares_modifying _ h).map isOk).atomic

theorem finalizeTree_atomic (this : Ref) :
    Atomic writes closes (InMemoryOptimizedMerkleTree.finalizeTree E this) :=
  query_atomic fun _ => returnResult_atomic E .inMemoryOptimizedMerkleTree _

theorem finalizeTreeInPlace_atomic {this : Ref}
    (h : (.inMemoryOptimizedMerkleTree, this) ∈ writes) :
    Atomic writes closes (InMemoryOptimizedMerkleTree.finalizeTreeInPlace E this) :=
  (looks_checkNotFreed .inMemoryOptimizedMerkleTree this _).andThen fun _ =>
    ((prepares_modifying _ h).map isOk).atomic

theorem root_atomic (this : Ref) :
    Atomic writes closes (InMemoryOptimizedMerkleTree.root E this) :=
  query_atomic fun _ => (looks_native _).andThen fun root =>
    (makes_returnOption E .fieldElement root).atomic

theorem getMerklePath_atomic (this : Ref) (leafIndex : Int64) :
    Atomic writes closes (InMemoryOptimizedMerkleTree.getMerklePath E this leafIndex) :=
  query_atomic fun _ => (looks_native _).andThen fun path =>
    (makes_returnOption E .merklePath path).atomic

theorem merkleReset_atomic {this : Ref} (h : (.inMemoryOptimizedMerkleTree, this) ∈ writes) :
    Atomic writes closes (InMemoryOptimizedMerkleTree.reset E this) :=
  (looks_checkNotFreed .inMemoryOptimizedMerkleTree this _).andThen fun _ =>
    (prepares_modifying _ h).atomic

theorem verifyMethod_atomic (this leaf root : Ref)
    (check : V .gingerMHTPath → V .fieldElement → V .fieldElement → Call Bool) :
    Atomic writes closes (MerklePath.verifyMethod E this leaf root check) := by
  refine (looks_checkNotFreed .merklePath this _).andThen fun _ => ?_
  refine (looks_reading .fieldElement leaf).andThen fun leaf => ?_
  refine (looks_reading .fieldElement root).andThen fun root => ?_
  refine (looks_reading .merklePath this).andThen fun path => ?_
  by_cases hvalid : E.isValidPath path = true
  · rw [if_pos hvalid]
    exact (looks_returnBool _).atomic
  · rw [if_neg hvalid]
    exact (looks_pure false).atomic

theorem apply_atomic (this leaf : Ref) : Atomic writes closes (MerklePath.apply E this leaf) := by
  refine query_atomic fun path => ?_
  refine (looks_reading .fieldElement leaf).andThen fun leaf => ?_
  exact (looks_native _).andThen fun root => (makes_returnObject E .fieldElement root).atomic

theorem pathQuery_atomic (this : Ref) (f : V .gingerMHTPath → Except Panic α) :
    Atomic writes closes (MerklePath.query this f) :=
  query_atomic fun _ => (looks_native _).atomic

/-! ## Commitment trees -/

theorem nativeAdd_atomic {Args Dec : Type} (decode : Args → Decode Dec)
    (add : Dec → Program (V .commitmentTree) Panic Bool) {this : Ref} (args : Args)
    (e : JavaException) (h : (.commitmentTree, this) ∈ writes) :
    Atomic writes closes (checkNotFreed .commitmentTree this e >>= fun _ =>
      CommitmentTree.nativeAdd decode add this args) := by
  refine (looks_checkNotFreed .commitmentTree this e).andThen fun _ => ?_
  refine (looks_decoding _).andThen fun decoded => ?_
  rcases decoded with _ | decoded
  · exact (looks_pure false).atomic
  · exact (prepares_modifying _ h).atomic

theorem nativeAddCertLeaf_atomic {this : Ref} (scId leaf : Option (List UInt8))
    (h : (.commitmentTree, this) ∈ writes) :
    Atomic writes closes (CommitmentTree.nativeAddCertLeaf E this scId leaf) := by
  refine (looks_receiver .commitmentTree this).andThen fun _ => ?_
  refine (looks_readScId E scId).andThen fun scId => ?_
  refine (looks_readScId E leaf).andThen fun leafFe => ?_
  exact (prepares_modifying _ h).atomic

theorem makes_returnLeaves (leaves : List (V .fieldElement)) :
    Makes writes closes (CommitmentTree.returnLeaves E leaves) :=
  (makes_newNullObject .fieldElement).bind fun _ =>
    Program.steadfast_mapM Evolves.trans Evolves.refl
      (fun leaf => makes_returnObject E .fieldElement leaf) leaves

theorem getCrtLeaves_atomic {this : Ref} (scId : Option (List UInt8))
    (h : (.commitmentTree, this) ∈ writes) :
    Atomic writes closes (CommitmentTree.getCrtLeaves E this scId) := by
  refine (looks_checkNotFreed .commitmentTree this _).andThen fun _ => ?_
  refine (looks_readScId E scId).andThen fun scId => ?_
  refine (prepares_modifying _ h).andThen fun leaves => ?_
  rcases leaves with _ | leaves
  · exact (makes_pure none).atomic
  · exact ((makes_returnLeaves E leaves).map some).atomic

theorem queryTree_atomic (k : Kind)
    (get : V .fieldElement → Program (V .commitmentTree) Panic (Option (V k.nativeType)))
    {this : Ref} (scId : Option (List UInt8)) (h : (.commitmentTree, this) ∈ writes) :
    Atomic writes closes (CommitmentTree.queryTree E k get this scId) := by
  refine (looks_checkNotFreed .commitmentTree this _).andThen fun _ => ?_
  refine (looks_readScId E scId).andThen fun scId => ?_
  exact (prepares_modifying _ h).andThen fun found => (makes_returnOption E k found).atomic

theorem getCommitment_atomic {this : Ref} (h : (.commitmentTree, this) ∈ writes) :
    Atomic writes closes (CommitmentTree.getCommitment E this) :=
  (looks_checkNotFreed .commitmentTree this _).andThen fun _ =>
    (prepares_modifying _ h).andThen fun found => (makes_returnOption E .fieldElement found).atomic

theorem verifyScCommitment_atomic (scCommitment existenceProof commitment : Ref) :
    Atomic writes closes
      (CommitmentTree.verifyScCommitment E scCommitment existenceProof commitment) := by
  refine (looks_reading .fieldElement scCommitment).andThen fun scCommitmentFe => ?_
  refine (looks_reading .scExistenceProof existenceProof).andThen fun scCommitmentProof => ?_
  exact (looks_reading .fieldElement commitment).andThen fun commitmentFe =>
    (looks_native _).atomic

theorem verifyScAbsence_atomic (scId : Option (List UInt8)) (absenceProof commitment : Ref) :
    Atomic writes closes (CommitmentTree.verifyScAbsence E scId absenceProof commitment) := by
  refine (looks_readScId E scId).andThen fun scId => ?_
  refine (looks_reading .scAbsenceProof absenceProof).andThen fun scAbsenceProof => ?_
  exact (looks_reading .fieldElement commitment).andThen fun commitmentFe =>
    (looks_native _).atomic

/-! ## Certificates -/

theorem getConstant_atomic (schnorrPublicKeys : List Ref) (threshold : Int64) :
    Atomic writes closes
      (NaiveThresholdSigProof.getConstant E schnorrPublicKeys threshold) :=
  (looks_mapM_reading .schnorrPublicKey schnorrPublicKeys).andThen fun _ =>
    returnResult_atomic E .fieldElement _

theorem createMsgToSign_atomic (args : NaiveThresholdSigProof.CertificateArgs) :
    Atomic writes closes (NaiveThresholdSigProof.createMsgToSign E args) := by
  refine (looks_readBtList args.bt).andThen fun btList => ?_
  refine (looks_reading .fieldElement args.scId).andThen fun scId => ?_
  refine (looks_reading .fieldElement args.endCumulativeScTxCommTreeRoot).andThen fun root => ?_
  exact returnResult_atomic E .fieldElement _

theorem looks_readSigAndPk (sig : Ref × Ref) :
    Looks (NaiveThresholdSigProof.readSigAndPk sig :
      JavaCall V (Option (V .schnorrSig) × V .g2)) :=
  (looks_readingNullable .schnorrSignature sig.1).bind fun _ =>
    (looks_reading .schnorrPublicKey sig.2).bind fun _ => looks_pure _

theorem createProof_atomic (args : NaiveThresholdSigProof.CertificateArgs)
    (schnorrSignatures schnorrPublicKeys : List Ref) (threshold : Int64)
    (provingKeyPath : Option JavaString) (checkProvingKey zk compressedPk compressProof : Bool) :
    Atomic writes closes
      (NaiveThresholdSigProof.createProof E args schnorrSignatures schnorrPublicKeys threshold
        provingKeyPath checkProvingKey zk compressedPk compressProof) := by
  refine (looks_readBtList args.bt).andThen fun btList => ?_
  by_cases hlength : schnorrSignatures.length ≠ schnorrPublicKeys.length
  · rw [if_pos hlength]
    exact (looks_native _).atomic
  · rw [if_neg hlength]
    refine (looks_mapM looks_readSigAndPk _).andThen fun sigsAndPks => ?_
    refine (looks_reading .fieldElement args.scId).andThen fun scId => ?_
    refine (looks_reading .fieldElement args.endCumulativeScTxCommTreeRoot).andThen fun root => ?_
    refine (looks_native _).andThen fun path => ?_
    refine prepares_tick.andThen fun random => (looks_native _).andThen fun result => ?_
    rcases result with e | result
    · exact (looks_pure none).atomic
    · exact (looks_pure (some result)).atomic

theorem verifyProof_atomic (args : NaiveThresholdSigProof.CertificateArgs) (constant : Ref)
    (quality : Int64) (proof : Option (List UInt8)) (checkProof : Bool)
    (verificationKeyPath : Option JavaString) (checkVerificationKey : Bool) :
    Atomic writes closes
      (NaiveThresholdSigProof.verifyProof E args constant quality proof checkProof
        verificationKeyPath checkVerificationKey) := by
  refine (looks_readBtList args.bt).andThen fun btList => ?_
  refine (looks_reading .fieldElement args.scId).andThen fun scId => ?_
  refine (looks_reading .fieldElement args.endCumulativeScTxCommTreeRoot).andThen fun root => ?_
  refine (looks_reading .fieldElement constant).andThen fun constant => ?_
  refine (looks_native _).andThen fun proofBytes => (looks_native _).andThen fun vkPath => ?_
  exact prepares_tick.andThen fun random => (looks_returnBool _).atomic

end Operations

end ZendooSc.Handles
