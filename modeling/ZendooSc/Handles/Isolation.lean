/-
ZendooSc.Handles.Isolation — what an operation cannot see.

It cannot see where a box is. Two processes may have allocators of which nothing is
known: one hands out an address as soon as it is free again, and the other never.
And it cannot see an object that is not among its arguments. The object may have
different values in the two processes, or be freed in one of them.

`Alike D x y` says of a call of each process that they come to the same outcome,
and to worlds that still differ in the objects of `D` only, unless memory runs out
for one of them. Every operation is alike in both processes if it does not mention
an object of `D`. So the answers of a run, exceptions included, depend on the
objects it mentions (`untouched_objects_invisible`), and neither on the others nor
on the allocator. In particular they do not depend on when the others are freed
(`early_frees_invisible`).
-/
import ZendooSc.Handles.PoseidonRefinement
import ZendooSc.Handles.Returns
import ZendooSc.Lib.Addresses
import ZendooSc.Lib.Lockstep

namespace ZendooSc.Handles

open Lib

variable {V : NativeType → Type} {α β : Type}

/-! ## What an operation answers -/

/-- What a public method gives back. -/
inductive Answer where
  | done
  | bool (b : Bool)
  | object (r : Ref)
  | objects (rs : Option (List Ref))
  | parts (ab : Ref × Ref)
  | bytes (bytes : List UInt8)
  | index (i : UInt64)
  | proof (result : Option (List UInt8 × UInt64))
  deriving DecidableEq

/-- An operation, with its answer. -/
def answer (E : Env V) : Op → JavaCall V Answer
  | .serialize k this compressed => .bytes <$> serialize E k this compressed
  | .deserialize k bytes check compressed => .object <$> deserialize E k bytes check compressed
  | .free k this => (fun _ => .done) <$> free k this
  | .newPair p first second => .object <$> ZendooSc.newPair p first second
  | .pairParts p this => .parts <$> pairFields p this
  | .closePair p this => (fun _ => .done) <$> closePair p this
  | .fieldElementFromLong value => .object <$> FieldElement.createFromLong E value
  | .fieldElementRandom seed => .object <$> FieldElement.createRandom E seed
  | .fieldElementPrint this => (fun _ => .done) <$> FieldElement.printFieldElementBytes E this
  | .fieldElementEquals this o => .bool <$> FieldElement.equals E this o
  | .schnorrVerifySignature this signature message =>
      .bool <$> SchnorrPublicKey.verifySignature E this signature message
  | .schnorrVerifyKey this => .bool <$> SchnorrPublicKey.verifyKey E this
  | .schnorrGetPublicKey this => .object <$> SchnorrSecretKey.getPublicKey E this
  | .schnorrNewSignature => .object <$> SchnorrSignature.new
  | .schnorrIsValidSignature this => .bool <$> SchnorrSignature.isValidSignature E this
  | .schnorrKeyPairOfSecretKey secretKey => .object <$> SchnorrKeyPair.ofSecretKey E secretKey
  | .schnorrGenerate => .object <$> SchnorrKeyPair.generate E
  | .schnorrSignMessage this message => .object <$> SchnorrKeyPair.signMessage E this message
  | .vrfVerifyKey this => .bool <$> VRFPublicKey.verifyKey E this
  | .vrfProofToHash this proof message => .object <$> VRFPublicKey.proofToHash E this proof message
  | .vrfGetPublicKey this => .object <$> VRFSecretKey.getPublicKey E this
  | .vrfIsValidProof this => .bool <$> VRFProof.isValidVRFProof E this
  | .vrfKeyPairOfSecretKey secretKey => .object <$> VRFKeyPair.ofSecretKey E secretKey
  | .vrfGenerate => .object <$> VRFKeyPair.generate E
  | .vrfProve this message => .object <$> VRFKeyPair.prove E this message
  | .poseidonConstantLength inputSize personalization =>
      .object <$> PoseidonHash.getInstanceConstantLength E inputSize personalization
  | .poseidonVariableLength modRate personalization =>
      .object <$> PoseidonHash.getInstanceVariableLength E modRate personalization
  | .poseidonUpdate this input => (fun _ => .done) <$> PoseidonHash.update E this input
  | .poseidonFinalize this => .object <$> PoseidonHash.finalizeHash E this
  | .poseidonReset this personalization =>
      (fun _ => .done) <$> PoseidonHash.reset E this personalization
  | .computePoseidonHash inputs => .object <$> PoseidonHash.computePoseidonHash E inputs
  | .merkleInit height processingStep =>
      .object <$> InMemoryOptimizedMerkleTree.init E height processingStep
  | .merkleAppend this input => .bool <$> InMemoryOptimizedMerkleTree.append E this input
  | .merkleFinalize this => .object <$> InMemoryOptimizedMerkleTree.finalizeTree E this
  | .merkleFinalizeInPlace this =>
      .bool <$> InMemoryOptimizedMerkleTree.finalizeTreeInPlace E this
  | .merkleRoot this => .object <$> InMemoryOptimizedMerkleTree.root E this
  | .merkleGetPath this leafIndex =>
      .object <$> InMemoryOptimizedMerkleTree.getMerklePath E this leafIndex
  | .merkleReset this => (fun _ => .done) <$> InMemoryOptimizedMerkleTree.reset E this
  | .pathVerify this merkleTreeHeight leaf root =>
      .bool <$> MerklePath.verify E this merkleTreeHeight leaf root
  | .pathVerifyWithoutLengthCheck this leaf root =>
      .bool <$> MerklePath.verifyWithoutLengthCheck E this leaf root
  | .pathApply this leaf => .object <$> MerklePath.apply E this leaf
  | .pathIsLeftmost this => .bool <$> MerklePath.isLeftmost E this
  | .pathIsRightmost this => .bool <$> MerklePath.isRightmost E this
  | .pathAreRightLeavesEmpty this => .bool <$> MerklePath.areRightLeavesEmpty E this
  | .pathLeafIndex this => .index <$> MerklePath.leafIndex E this
  | .treeInit => .object <$> CommitmentTree.init E
  | .treeAddScCr this args => .bool <$> CommitmentTree.addScCr E this args
  | .treeAddFwt this args => .bool <$> CommitmentTree.addFwt E this args
  | .treeAddBtr this args => .bool <$> CommitmentTree.addBtr E this args
  | .treeAddCert this args => .bool <$> CommitmentTree.addCert E this args
  | .treeAddCsw this args => .bool <$> CommitmentTree.addCsw E this args
  | .treeNativeAddCertLeaf this scId leaf =>
      .bool <$> CommitmentTree.nativeAddCertLeaf E this scId leaf
  | .treeAddCertLeaf this scId leaf => .bool <$> CommitmentTree.addCertLeaf E this scId leaf
  | .treeGetCrtLeaves this scId => .objects <$> CommitmentTree.getCrtLeaves E this scId
  | .treeGetScCrCommitment this scId => .object <$> CommitmentTree.getScCrCommitment E this scId
  | .treeGetFwtCommitment this scId => .object <$> CommitmentTree.getFwtCommitment E this scId
  | .treeGetBtrCommitment this scId => .object <$> CommitmentTree.getBtrCommitment E this scId
  | .treeGetCertCommitment this scId => .object <$> CommitmentTree.getCertCommitment E this scId
  | .treeGetCswCommitment this scId => .object <$> CommitmentTree.getCswCommitment E this scId
  | .treeGetScCommitment this scId => .object <$> CommitmentTree.getScCommitment E this scId
  | .treeGetScExistenceProof this scId =>
      .object <$> CommitmentTree.getScExistenceProof E this scId
  | .treeGetScAbsenceProof this scId => .object <$> CommitmentTree.getScAbsenceProof E this scId
  | .treeGetCommitment this => .object <$> CommitmentTree.getCommitment E this
  | .treeVerifyScCommitment scCommitment existenceProof commitment =>
      .bool <$> CommitmentTree.verifyScCommitment E scCommitment existenceProof commitment
  | .treeVerifyScAbsence scId absenceProof commitment =>
      .bool <$> CommitmentTree.verifyScAbsence E scId absenceProof commitment
  | .getConstant schnorrPublicKeys threshold =>
      .object <$> NaiveThresholdSigProof.getConstant E schnorrPublicKeys threshold
  | .createMsgToSign args => .object <$> NaiveThresholdSigProof.createMsgToSign E args
  | .createProof args sigs pks threshold path checkPk zk compressedPk compressProof =>
      .proof <$> NaiveThresholdSigProof.createProof E args sigs pks threshold path checkPk zk
        compressedPk compressProof
  | .verifyProof args constant quality proof checkProof path checkVk =>
      .bool <$> NaiveThresholdSigProof.verifyProof E args constant quality proof checkProof path
        checkVk

/-- What a call leaves does not depend on what is made of its value. -/
theorem discard_map (f : α → β) (x : JavaCall V α) : discard (f <$> x) = discard x :=
  (comp_map f (fun _ => ()) x).symm

theorem discard_unit (x : JavaCall V Unit) : discard x = x :=
  id_map x

/-- A step is an operation whose answer is not looked at. -/
theorem discard_answer (E : Env V) (op : Op) : discard (answer E op) = step E op := by
  cases op with
  | free | closePair | fieldElementPrint | poseidonUpdate | poseidonReset | merkleReset =>
      exact (discard_map _ _).trans (discard_unit _)
  | _ => exact discard_map _ _

/-! ## Two worlds -/

/-- The objects an operation looks at: those whose value it needs, those it frees,
and the signatures of `createProof`. -/
def Op.mentions (w : World V) (op : Op) : List (Kind × Ref) :=
  op.needs w ++
    match op with
    | .free k this => [(k, this)]
    | .closePair p this => parts w p this
    | .createProof _ schnorrSignatures .. => schnorrSignatures.map (Kind.schnorrSignature, ·)
    | _ => []

/-- The two worlds have the same objects, but for those of `D`, which may have
different values. -/
structure AgreeBut (D : Kind × Ref → Prop) (w w' : World V) : Prop where
  store : w.store.SameBut (fun k i => D (k, some i)) w'.store
  pairs : w'.pairs = w.pairs
  ticks : w'.ticks = w.ticks
  old : ∀ k i, D (k, some i) → i < (w.store.fields k).length

/-- The two worlds can be reached, and agree. -/
structure Twins (D : Kind × Ref → Prop) (w w' : World V) : Prop where
  owned : Owned w
  owned' : Owned w'
  agree : AgreeBut D w w'

/-- From two such worlds the calls come to the same outcome and to such worlds,
unless memory runs out for one of them. -/
def AlikeAt (D : Kind × Ref → Prop) (x y : JavaCall V α) (w w' : World V) : Prop :=
  Program.LockstepAt (Twins D) Halt.abort x y w w'

def Alike (D : Kind × Ref → Prop) (x y : JavaCall V α) : Prop :=
  Program.Lockstep (Twins D) Halt.abort x y

variable {D : Kind × Ref → Prop}

namespace Twins

variable {w w' : World V} {k : Kind} {r : Ref}

theorem pointer_none (h : Twins D w w') (hp : w.pointer k r = none) : w'.pointer k r = none := by
  rcases r with _ | i
  · rfl
  · exact h.agree.store.pointer_none hp

theorem isSome_pointer (h : Twins D w w') (hp : (w.pointer k r).isSome) :
    (w'.pointer k r).isSome := by
  obtain ⟨a, ha⟩ := Option.isSome_iff_exists.mp hp
  obtain ⟨i, rfl, hpointer⟩ := World.pointer_some ha
  have hlt : i < (w'.store.fields k).length := by
    rw [h.agree.store.length]
    exact (List.getElem?_eq_some_iff.mp hpointer).1
  have hsome : w'.pointer k (some i) = some (w'.store.fields k)[i] :=
    List.getElem?_eq_getElem hlt
  rw [hsome]
  rfl

/-- A reference outside `D` leads nowhere in both worlds, or to null, or to the same
value. -/
theorem reference (h : Twins D w w') (hr : ¬ D (k, r)) :
    (w.pointer k r = none ∧ w'.pointer k r = none) ∨
    (Freed w (k, r) ∧ Freed w' (k, r)) ∨
    ∃ v, valueOf w k r = some v ∧ valueOf w' k r = some v := by
  rcases r with _ | i
  · exact .inl ⟨rfl, rfl⟩
  · rcases hp : w.store.pointer k i with _ | a
    · exact .inl ⟨hp, h.agree.store.pointer_none hp⟩
    · by_cases ha : a = 0
      · subst ha
        exact .inr (.inl ⟨hp, h.agree.store.pointer_zero h.owned h.owned' hr hp⟩)
      · obtain ⟨⟨t, v⟩, hb, hfits⟩ := h.owned.live k i a hp ha
        obtain rfl : t = k.nativeType := hfits
        obtain ⟨a', hp', ha', hb'⟩ := h.agree.store.pointer_box h.owned' hr hp hb
        exact .inr (.inr ⟨v, valueOf_eq_some.mpr ⟨a, World.pointer_of_store hp, ha, hb⟩,
          valueOf_eq_some.mpr ⟨a', World.pointer_of_store hp', ha', hb'⟩⟩)

theorem valueOf_eq (h : Twins D w w') (hr : ¬ D (k, r)) : valueOf w' k r = valueOf w k r := by
  rcases h.reference hr with ⟨hp, hp'⟩ | ⟨hp, hp'⟩ | ⟨v, hv, hv'⟩
  · rw [valueOf, valueOf, hp, hp']
  · have hzero : w.pointer k r = some 0 := hp
    have hzero' : w'.pointer k r = some 0 := hp'
    rw [valueOf, valueOf, hzero, hzero']
    rfl
  · rw [hv, hv']

/-- An object that is made now is not in `D`. -/
theorem not_new (h : Twins D w w') (k : Kind) : ¬ D (k, some (w.store.fields k).length) :=
  fun hD => Nat.lt_irrefl _ (h.agree.old k _ hD)

end Twins

/-! ## Putting calls together -/

theorem Alike.bind {x y : JavaCall V α} {f g : α → JavaCall V β} (hx : Alike D x y)
    (hf : ∀ a, Alike D (f a) (g a)) : Alike D (x >>= f) (y >>= g) :=
  Program.lockstep_bind hx hf

theorem AlikeAt.bind {w w' : World V} {x y : JavaCall V α} {f g : α → JavaCall V β}
    (hx : AlikeAt D x y w w') (hf : ∀ a, (x.exec w).1 = .ok a → Alike D (f a) (g a)) :
    AlikeAt D (x >>= f) (y >>= g) w w' :=
  Program.LockstepAt.bind hx hf

theorem AlikeAt.map {w w' : World V} {x y : JavaCall V α} (f : α → β) (hx : AlikeAt D x y w w') :
    AlikeAt D (f <$> x) (f <$> y) w w' :=
  Program.LockstepAt.map f hx

theorem Alike.map {x y : JavaCall V α} (f : α → β) (hx : Alike D x y) :
    Alike D (f <$> x) (f <$> y) :=
  fun w w' h => (hx w w' h).map f

theorem Alike.ite {c : Prop} [Decidable c] {x x' y y' : JavaCall V α} (hx : Alike D x y)
    (hx' : Alike D x' y') : Alike D (if c then x else x') (if c then y else y') := by
  by_cases hc : c
  · rw [if_pos hc, if_pos hc]
    exact hx
  · rw [if_neg hc, if_neg hc]
    exact hx'

theorem alike_pure (a : α) : Alike D (pure a : JavaCall V α) (pure a) :=
  Program.lockstep_pure a

theorem alike_throwJava (e : JavaException) :
    Alike D (throwJava e : JavaCall V α) (throwJava e) :=
  Program.lockstep_lift _

theorem alike_native (x : Except Panic α) : Alike D (native x : JavaCall V α) (native x) := by
  unfold native
  rcases ffiExport x with a | e
  · exact alike_pure a
  · exact alike_throwJava e

/-- Two calls that come to the same outcome and leave the worlds as they were. -/
theorem alike_of_exec {x y : JavaCall V α}
    (h : ∀ w w', Twins D w w' → ∃ result, x.exec w = (result, w) ∧ y.exec w' = (result, w')) :
    Alike D x y := by
  intro w w' htwins
  obtain ⟨result, hx, hy⟩ := h w w' htwins
  unfold Program.LockstepAt
  rw [hx, hy]
  exact .inr (.inr ⟨rfl, htwins⟩)

/-! ## The primitives -/

theorem alike_tick : Alike D (tick : JavaCall V ℕ) tick := by
  have hlook : Alike D (Program.look World.ticks : JavaCall V ℕ) (Program.look World.ticks) :=
    Program.lockstep_look fun w w' h => h.agree.ticks.symm
  have hupdate : Alike D (Program.update fun w : World V => { w with ticks := w.ticks + 1 })
      (Program.update fun w : World V => { w with ticks := w.ticks + 1 }) :=
    Program.lockstep_update fun w w' h =>
      ⟨h.owned, h.owned', h.agree.store, h.agree.pairs, congrArg (· + 1) h.agree.ticks,
        h.agree.old⟩
  exact hlook.bind fun n => hupdate.bind fun _ => alike_pure n

/-- Here it matters only that there is an object. -/
theorem alike_receiver (k : Kind) (this : Ref) {x y : JavaCall V β} (hx : Alike D x y) :
    Alike D (receiver k this >>= fun _ => x) (receiver k this >>= fun _ => y) := by
  intro w w' h
  unfold Program.LockstepAt
  rcases hp : w.pointer k this with _ | a
  · rw [Program.exec_bind_error (receiver_exec_none hp),
      Program.exec_bind_error (receiver_exec_none (h.pointer_none hp))]
    exact .inr (.inr ⟨rfl, h⟩)
  · obtain ⟨a', hp'⟩ := Option.isSome_iff_exists.mp (h.isSome_pointer (by rw [hp]; rfl))
    rw [Program.exec_bind_ok (receiver_exec hp), Program.exec_bind_ok (receiver_exec hp')]
    exact hx w w' h

theorem alike_checkNotFreed {k : Kind} {this : Ref} (hthis : ¬ D (k, this)) (e : JavaException) :
    Alike D (checkNotFreed k this e : JavaCall V Unit) (checkNotFreed k this e) := by
  refine alike_of_exec fun w w' h => ?_
  rcases h.reference hthis with ⟨hp, hp'⟩ | ⟨hp, hp'⟩ | ⟨v, hv, hv'⟩
  · exact ⟨_, Program.exec_bind_error (receiver_exec_none hp),
      Program.exec_bind_error (receiver_exec_none hp')⟩
  · exact ⟨_, freed_checkNotFreed e hp, freed_checkNotFreed e hp'⟩
  · exact ⟨_, checkNotFreed_exec e hv, checkNotFreed_exec e hv'⟩

/-- A reference that names no object is met with one exception. -/
theorem getField_exec_unwrap {w w' : World V} {k : Kind} {r : Ref} (hp : w.pointer k r = none)
    (hp' : w'.pointer k r = none) (f g : ℕ → JavaCall V β) :
    ∃ result, (getField k r >>= f).exec w = (result, w) ∧
      (getField k r >>= g).exec w' = (result, w') := by
  obtain ⟨e, hthrow⟩ := native_error (V := V) (α := ℕ) .unwrapError
  have hfield : ∀ w₁ : World V, w₁.pointer k r = none →
      (getField k r).exec w₁ = (.error (.exception e), w₁) := by
    intro w₁ hnone
    unfold getField
    rw [Program.exec_look_bind, hnone]
    exact congrArg (fun x : JavaCall V ℕ => x.exec w₁) hthrow
  exact ⟨.error (.exception e), Program.exec_bind_error (hfield w hp),
    Program.exec_bind_error (hfield w' hp')⟩

theorem alike_reading {k : Kind} {r : Ref} (hr : ¬ D (k, r)) :
    Alike D (reading k r : JavaCall V (V k.nativeType)) (reading k r) := by
  refine alike_of_exec fun w w' h => ?_
  rcases h.reference hr with ⟨hp, hp'⟩ | ⟨hp, hp'⟩ | ⟨v, hv, hv'⟩
  · exact getField_exec_unwrap hp hp' _ _
  · exact ⟨_, freed_reading hp, freed_reading hp'⟩
  · exact ⟨_, reading_exec hv, reading_exec hv'⟩

theorem alike_readAll {k : Kind} {rs : List Ref} (hrs : ∀ r ∈ rs, ¬ D (k, r)) :
    Alike D (rs.mapM (reading k) : JavaCall V (List (V k.nativeType))) (rs.mapM (reading k)) :=
  Program.lockstep_mapM fun r hr => alike_reading (hrs r hr)

theorem alike_readingNullable {k : Kind} {r : Ref} (hr : ¬ D (k, r)) :
    Alike D (readingNullable k r : JavaCall V (Option (V k.nativeType))) (readingNullable k r) := by
  refine alike_of_exec fun w w' h => ?_
  rcases hp : w.pointer k r with _ | a
  · exact getField_exec_unwrap hp (h.pointer_none hp) _ _
  · have hobject : (w.pointer k r).isSome := by
      rw [hp]
      rfl
    refine ⟨_, readingNullable_exec h.owned hobject, ?_⟩
    rw [readingNullable_exec h.owned' (h.isSome_pointer hobject), h.valueOf_eq hr]

theorem alike_pairFields (p : PairKind) (this : Ref) :
    Alike D (pairFields p this : JavaCall V (Ref × Ref)) (pairFields p this) := by
  have hlook : Alike D
      (Program.look fun w : World V => this.bind fun i => (w.pairs p)[i]?)
      (Program.look fun w : World V => this.bind fun i => (w.pairs p)[i]?) := by
    refine Program.lockstep_look fun w w' h => ?_
    rw [h.agree.pairs]
  refine hlook.bind fun parts => ?_
  rcases parts with _ | parts
  · exact alike_throwJava _
  · exact alike_pure parts

/-- The parts of a composite object, and a call that looks at them. -/
theorem alike_parts {w w' : World V} (h : Twins D w w') {p : PairKind} {this : Ref}
    (hparts : ∀ n ∈ parts w p this, ¬ D n) {f g : Ref × Ref → JavaCall V β}
    (hf : ∀ a b, ¬ D (p.first, a) → ¬ D (p.second, b) → Alike D (f (a, b)) (g (a, b))) :
    AlikeAt D (pairFields p this >>= f) (pairFields p this >>= g) w w' := by
  refine (alike_pairFields p this w w' h).bind fun ab hab => ?_
  have hfound : (this.bind fun i => (w.pairs p)[i]?) = some ab := by
    unfold pairFields at hab
    rw [Program.exec_look_bind] at hab
    rcases hlook : (this.bind fun i => (w.pairs p)[i]? : Option (Ref × Ref)) with _ | found
    · rw [hlook] at hab
      cases hab
    · rw [hlook] at hab
      exact congrArg some (Except.ok.inj hab)
  rw [parts, hfound] at hparts
  exact hf ab.1 ab.2 (hparts _ (by simp)) (hparts _ (by simp))

/-- A native function with `&mut` on the value of an object writes to a box of the
same object in both worlds. -/
theorem alike_modifying {k : Kind} {r : Ref} (hr : ¬ D (k, r))
    (f : Program (V k.nativeType) Panic α) : Alike D (modifying k r f) (modifying k r f) := by
  intro w w' h
  unfold Program.LockstepAt
  rcases h.reference hr with ⟨hp, hp'⟩ | ⟨hp, hp'⟩ | ⟨v, hv, hv'⟩
  · obtain ⟨result, hrun, hrun'⟩ := getField_exec_unwrap hp hp' _ _
    unfold modifying
    rw [hrun, hrun']
    exact .inr (.inr ⟨rfl, h⟩)
  · rw [freed_modifying hp, freed_modifying hp']
    exact .inr (.inr ⟨rfl, h⟩)
  · obtain ⟨a, hp, ha, hb⟩ := valueOf_eq_some.mp hv
    obtain ⟨a', hp', ha', hb'⟩ := valueOf_eq_some.mp hv'
    obtain ⟨i, rfl, hstore⟩ := World.pointer_some hp
    have hstore' : w'.store.pointer k i = some a' := hp'
    unfold modifying
    rw [Program.exec_bind_ok (getField_exec hp), Program.exec_bind_ok (getField_exec hp'),
      Program.exec_bind_ok (readRawPointer_exec ha hb),
      Program.exec_bind_ok (readRawPointer_exec ha' hb')]
    have hwritten : Twins D { w with store := w.store.write a ⟨k.nativeType, (f.exec v).2⟩ }
        { w' with store := w'.store.write a' ⟨k.nativeType, (f.exec v).2⟩ } := {
      owned := Store.Owned.write h.owned hstore ha rfl
      owned' := Store.Owned.write h.owned' hstore' ha' rfl
      agree := ⟨h.agree.store.write h.owned h.owned' hstore hstore' ha ha' _, h.agree.pairs,
        h.agree.ticks, h.agree.old⟩ }
    exact alike_native (f.exec v).1 _ _ hwritten

/-- There are not fewer objects than before. -/
theorem AgreeBut.old_addObject {w w' : World V} (h : AgreeBut D w w') (k : Kind) (a : ℕ)
    (k' : Kind) (i : ℕ) (hD : D (k', some i)) :
    i < ((w.store.addObject k a).fields k').length := by
  rw [Store.length_addObject]
  exact Nat.lt_add_right _ (h.old k' i hD)

/-- A new object has the same number in both worlds, if there is memory for it. -/
theorem alike_returnJobject (malloc malloc' : ℕ → ℕ) (k : Kind) (obj : V k.nativeType) :
    Alike D (returnJobject malloc k obj) (returnJobject malloc' k obj) := by
  intro w w' h
  unfold Program.LockstepAt
  rcases returnJobject_cases malloc k obj w with ⟨-, hrun⟩ | ⟨a, ha, hfree, hrun⟩
  · rw [hrun]
    exact .inl rfl
  · rcases returnJobject_cases malloc' k obj w' with ⟨-, hrun'⟩ | ⟨a', ha', hfree', hrun'⟩
    · rw [hrun']
      exact .inr (.inl rfl)
    · rw [hrun, hrun', h.agree.store.length]
      refine .inr (.inr ⟨rfl, ?_⟩)
      exact {
        owned := Store.Owned.adopt h.owned ha hfree rfl
        owned' := Store.Owned.adopt h.owned' ha' hfree' rfl
        agree := ⟨h.agree.store.adopt h.owned h.owned' ha ha' hfree hfree' k _, h.agree.pairs,
          congrArg (· + 1) h.agree.ticks, h.agree.old_addObject k a⟩ }

theorem alike_newNullObject (k : Kind) :
    Alike D (newNullObject k : JavaCall V Ref) (newNullObject k) := by
  intro w w' h
  refine .inr (.inr ⟨?_, ?_⟩)
  · exact congrArg (fun n => Except.ok (some n)) (h.agree.store.length k).symm
  · exact {
      owned := Store.Owned.addNull h.owned k
      owned' := Store.Owned.addNull h.owned' k
      agree := ⟨h.agree.store.addNull h.owned h.owned' k, h.agree.pairs, h.agree.ticks,
        h.agree.old_addObject k 0⟩ }

theorem alike_newPair (p : PairKind) (a b : Ref) :
    Alike D (newPair p a b : JavaCall V Ref) (newPair p a b) := by
  intro w w' h
  refine .inr (.inr ⟨?_, ?_⟩)
  · show Except.ok (some (w.pairs p).length) = Except.ok (some (w'.pairs p).length)
    rw [h.agree.pairs]
  · refine ⟨h.owned, h.owned', h.agree.store, ?_, h.agree.ticks, h.agree.old⟩
    show Function.update w'.pairs p (w'.pairs p ++ [(a, b)])
      = Function.update w.pairs p (w.pairs p ++ [(a, b)])
    rw [h.agree.pairs]

theorem alike_free {k : Kind} {this : Ref} (hthis : ¬ D (k, this)) :
    Alike D (free k this : JavaCall V Unit) (free k this) := by
  obtain ⟨convention, hfree⟩ := free_eq_freeObject (V := V) k this
  rw [hfree]
  intro w w' h
  unfold Program.LockstepAt
  rcases h.reference hthis with ⟨hp, hp'⟩ | ⟨hp, hp'⟩ | ⟨v, hv, hv'⟩
  · unfold freeObject
    rw [Program.exec_bind_error (receiver_exec_none hp),
      Program.exec_bind_error (receiver_exec_none hp')]
    exact .inr (.inr ⟨rfl, h⟩)
  · unfold freeObject
    rw [Program.exec_bind_ok (receiver_exec hp), Program.exec_bind_ok (receiver_exec hp')]
    exact .inr (.inr ⟨rfl, h⟩)
  · obtain ⟨a, hp, ha, -⟩ := valueOf_eq_some.mp hv
    obtain ⟨a', hp', ha', -⟩ := valueOf_eq_some.mp hv'
    obtain ⟨i, rfl, hstore⟩ := World.pointer_some hp
    have hstore' : w'.store.pointer k i = some a' := hp'
    rw [freeObject_exec h.owned convention hstore ha,
      freeObject_exec h.owned' convention hstore' ha']
    refine .inr (.inr ⟨rfl, ?_⟩)
    exact {
      owned := Store.Owned.release h.owned hstore ha
      owned' := Store.Owned.release h.owned' hstore' ha'
      agree := {
        store := h.agree.store.release h.owned h.owned' hstore hstore' ha ha'
        pairs := h.agree.pairs
        ticks := h.agree.ticks
        old := by
          intro k' j hD
          rw [Store.length_clear]
          exact h.agree.old k' j hD } }

/-! ## Returning objects -/

section Operations

variable (L : NativeLib V) (malloc malloc' : ℕ → ℕ)

theorem alike_returnObject (k : Kind) (obj : V k.nativeType) :
    Alike D (returnObject ⟨L, malloc⟩ k obj) (returnObject ⟨L, malloc'⟩ k obj) :=
  alike_returnJobject malloc malloc' k obj

theorem alike_returnResult (k : Kind) (result : Call (V k.nativeType)) :
    Alike D (returnResult ⟨L, malloc⟩ k result) (returnResult ⟨L, malloc'⟩ k result) := by
  refine (alike_native result).bind fun r => ?_
  rcases r with e | obj
  · exact alike_pure none
  · exact alike_returnObject L malloc malloc' k obj

theorem alike_returnOption (k : Kind) (obj : Option (V k.nativeType)) :
    Alike D (returnOption ⟨L, malloc⟩ k obj) (returnOption ⟨L, malloc'⟩ k obj) := by
  rcases obj with _ | obj
  · exact alike_pure none
  · exact alike_returnObject L malloc malloc' k obj

theorem alike_returnBool (result : Call Bool) :
    Alike D (returnBool result : JavaCall V Bool) (returnBool result) := by
  refine (alike_native result).bind fun r => ?_
  rcases r with e | b
  · exact alike_pure false
  · exact alike_pure b

/-- A guard, one object that is read, and what is done with its value. -/
theorem alike_query {k : Kind} {this : Ref} {e : JavaException} (hthis : ¬ D (k, this))
    {f g : V k.nativeType → JavaCall V α} (hf : ∀ v, Alike D (f v) (g v)) :
    Alike D (checkNotFreed k this e >>= fun _ => reading k this >>= f)
      (checkNotFreed k this e >>= fun _ => reading k this >>= g) :=
  (alike_checkNotFreed hthis e).bind fun _ => (alike_reading hthis).bind hf

/-! ## Encodings -/

theorem alike_serialize {k : Kind} {this : Ref} (hthis : ¬ D (k, this)) (compressed : Bool) :
    Alike D (serialize ⟨L, malloc⟩ k this compressed)
      (serialize ⟨L, malloc'⟩ k this compressed) := by
  have hmethod : ∀ wasFreed flag, Alike D (serializeMethod ⟨L, malloc⟩ k wasFreed this flag)
      (serializeMethod ⟨L, malloc'⟩ k wasFreed this flag) := by
    intro wasFreed flag
    rcases wasFreed with _ | e
    · exact alike_receiver k this ((alike_reading hthis).bind fun _ => alike_native _)
    · exact alike_query hthis fun _ => alike_native _
  cases k with
  | poseidonHash | inMemoryOptimizedMerkleTree | commitmentTree => exact alike_throwJava _
  | _ =>
      simp only [serialize]
      exact hmethod _ _

theorem alike_deserializeMethod (k : Kind) (incorrect : Option String)
    (bytes : Option (List UInt8)) (checked compressed : Option Bool) :
    Alike D (deserializeMethod ⟨L, malloc⟩ k incorrect bytes checked compressed)
      (deserializeMethod ⟨L, malloc'⟩ k incorrect bytes checked compressed) := by
  have hrest : Alike D
      (native (convertByteArray bytes) >>= fun objBytes =>
        native (L.deserialize k.nativeType objBytes checked compressed)
          >>= returnOption ⟨L, malloc⟩ k)
      (native (convertByteArray bytes) >>= fun objBytes =>
        native (L.deserialize k.nativeType objBytes checked compressed)
          >>= returnOption ⟨L, malloc'⟩ k) :=
    (alike_native _).bind fun _ => (alike_native _).bind (alike_returnOption L malloc malloc' k)
  rcases incorrect with _ | what
  · exact hrest
  · rcases bytes with _ | objBytes
    · exact (alike_throwJava _).bind fun _ => hrest
    · by_cases hlength : objBytes.length ≠ L.encodedLength k
      · simp only [deserializeMethod, if_pos hlength]
        exact (alike_throwJava _).bind fun _ => hrest
      · simp only [deserializeMethod, if_neg hlength]
        exact hrest

theorem alike_deserialize (k : Kind) (bytes : Option (List UInt8)) (check compressed : Bool) :
    Alike D (deserialize ⟨L, malloc⟩ k bytes check compressed)
      (deserialize ⟨L, malloc'⟩ k bytes check compressed) := by
  cases k with
  | poseidonHash | inMemoryOptimizedMerkleTree | commitmentTree => exact alike_throwJava _
  | _ =>
      simp only [deserialize]
      exact alike_deserializeMethod L malloc malloc' _ _ bytes _ _

/-! ## Field elements, signatures and VRF -/

theorem alike_print {this : Ref} (hthis : ¬ D (.fieldElement, this)) :
    Alike D (FieldElement.printFieldElementBytes ⟨L, malloc⟩ this)
      (FieldElement.printFieldElementBytes ⟨L, malloc'⟩ this) :=
  alike_query hthis fun _ => (alike_native _).bind fun _ => alike_pure ()

/-- The boxes are looked at only if there are two objects. -/
theorem alike_equals {this o : Ref}
    (hmentions : ∀ n ∈ (if o = this ∨ o = none then [] else
      [(Kind.fieldElement, this), (Kind.fieldElement, o)]), ¬ D n) :
    Alike D (FieldElement.equals ⟨L, malloc⟩ this o) (FieldElement.equals ⟨L, malloc'⟩ this o) := by
  refine alike_receiver .fieldElement this ?_
  by_cases hsame : o = this
  · rw [if_pos hsame]
    exact alike_pure true
  · by_cases hnull : o = none
    · rw [if_neg hsame, if_pos hnull]
      exact alike_pure false
    · rw [if_neg (not_or.mpr ⟨hsame, hnull⟩)] at hmentions
      rw [if_neg hsame, if_neg hnull]
      refine (alike_reading (hmentions _ (by simp))).bind fun field1 => ?_
      exact (alike_reading (hmentions _ (by simp))).bind fun field2 => alike_pure _

theorem alike_verifySignature {this signature message : Ref} (hthis : ¬ D (.schnorrPublicKey, this))
    (hmessage : ¬ D (.fieldElement, message)) (hsignature : ¬ D (.schnorrSignature, signature)) :
    Alike D (SchnorrPublicKey.verifySignature ⟨L, malloc⟩ this signature message)
      (SchnorrPublicKey.verifySignature ⟨L, malloc'⟩ this signature message) := by
  refine alike_query hthis fun publicKey => ?_
  refine (alike_reading hmessage).bind fun message => ?_
  exact (alike_reading hsignature).bind fun signature => alike_returnBool _

theorem alike_proofToHash {this proof message : Ref} (hthis : ¬ D (.vrfPublicKey, this))
    (hmessage : ¬ D (.fieldElement, message)) (hproof : ¬ D (.vrfProof, proof)) :
    Alike D (VRFPublicKey.proofToHash ⟨L, malloc⟩ this proof message)
      (VRFPublicKey.proofToHash ⟨L, malloc'⟩ this proof message) := by
  refine alike_query hthis fun publicKey => ?_
  refine (alike_reading hmessage).bind fun message => ?_
  exact (alike_reading hproof).bind fun proof =>
    alike_returnResult L malloc malloc' .fieldElement _

theorem alike_schnorrGetPublicKey {this : Ref} (hthis : ¬ D (.schnorrSecretKey, this)) :
    Alike D (SchnorrSecretKey.getPublicKey ⟨L, malloc⟩ this)
      (SchnorrSecretKey.getPublicKey ⟨L, malloc'⟩ this) :=
  alike_query hthis fun _ => (alike_native _).bind fun pk =>
    alike_returnObject L malloc malloc' .schnorrPublicKey pk

theorem alike_vrfGetPublicKey {this : Ref} (hthis : ¬ D (.vrfSecretKey, this)) :
    Alike D (VRFSecretKey.getPublicKey ⟨L, malloc⟩ this)
      (VRFSecretKey.getPublicKey ⟨L, malloc'⟩ this) :=
  alike_query hthis fun _ => (alike_native _).bind fun pk =>
    alike_returnObject L malloc malloc' .vrfPublicKey pk

/-- Two new objects, and a composite object of them. -/
theorem alike_keyPair {p : PairKind} (first : V p.first.nativeType)
    (second : V p.second.nativeType) :
    Alike D
      (returnObject ⟨L, malloc⟩ p.first first >>= fun a =>
        returnObject ⟨L, malloc⟩ p.second second >>= fun b => newPair p a b)
      (returnObject ⟨L, malloc'⟩ p.first first >>= fun a =>
        returnObject ⟨L, malloc'⟩ p.second second >>= fun b => newPair p a b) :=
  (alike_returnObject L malloc malloc' p.first first).bind fun a =>
    (alike_returnObject L malloc malloc' p.second second).bind fun b => alike_newPair p a b

theorem alike_schnorrGenerate :
    Alike D (SchnorrKeyPair.generate ⟨L, malloc⟩) (SchnorrKeyPair.generate ⟨L, malloc'⟩) :=
  alike_tick.bind fun _ => (alike_native _).bind fun keys =>
    alike_keyPair L malloc malloc' (p := .schnorrKeyPair) keys.2 keys.1

theorem alike_vrfGenerate :
    Alike D (VRFKeyPair.generate ⟨L, malloc⟩) (VRFKeyPair.generate ⟨L, malloc'⟩) :=
  alike_tick.bind fun _ => (alike_native _).bind fun keys =>
    alike_keyPair L malloc malloc' (p := .vrfKeyPair) keys.2 keys.1

variable {w w' : World V}

theorem alike_signMessage (h : Twins D w w') {this message : Ref}
    (hparts : ∀ n ∈ parts w .schnorrKeyPair this, ¬ D n)
    (hmessage : ¬ D (.fieldElement, message)) :
    AlikeAt D (SchnorrKeyPair.signMessage ⟨L, malloc⟩ this message)
      (SchnorrKeyPair.signMessage ⟨L, malloc'⟩ this message) w w' := by
  refine alike_parts h hparts fun skObject pkObject hsk hpk => ?_
  refine (alike_reading hsk).bind fun secretKey => ?_
  refine (alike_reading hpk).bind fun publicKey => ?_
  refine (alike_reading hmessage).bind fun message => ?_
  exact alike_tick.bind fun random => alike_returnResult L malloc malloc' .schnorrSignature _

theorem alike_prove (h : Twins D w w') {this message : Ref}
    (hparts : ∀ n ∈ parts w .vrfKeyPair this, ¬ D n) (hmessage : ¬ D (.fieldElement, message)) :
    AlikeAt D (VRFKeyPair.prove ⟨L, malloc⟩ this message)
      (VRFKeyPair.prove ⟨L, malloc'⟩ this message) w w' := by
  refine alike_parts h hparts fun skObject pkObject hsk hpk => ?_
  refine (alike_reading hsk).bind fun secretKey => ?_
  refine (alike_reading hpk).bind fun publicKey => ?_
  refine (alike_reading hmessage).bind fun message => ?_
  refine alike_tick.bind fun random => (alike_native _).bind fun result => ?_
  rcases result with e | ⟨proof, vrfOut⟩
  · exact alike_pure none
  · exact alike_keyPair L malloc malloc' (p := .vrfProveResult) proof vrfOut

theorem alike_closePair (h : Twins D w w') {p : PairKind} {this : Ref}
    (hparts : ∀ n ∈ parts w p this, ¬ D n) :
    AlikeAt D (closePair p this : JavaCall V Unit) (closePair p this) w w' := by
  refine alike_parts h hparts fun first second hfirst hsecond => ?_
  cases p with
  | schnorrKeyPair | vrfKeyPair => exact (alike_free hsecond).bind fun _ => alike_free hfirst
  | vrfProveResult => exact (alike_free hfirst).bind fun _ => alike_free hsecond

/-! ## Poseidon hash -/

theorem alike_readPersonalization {personalization : Option (List Ref)}
    (hrefs : ∀ r ∈ personalization.getD [], ¬ D (.fieldElement, r)) :
    Alike D (PoseidonHash.readPersonalization personalization :
        JavaCall V (Option (List (V .fieldElement))))
      (PoseidonHash.readPersonalization personalization) := by
  rcases personalization with _ | refs
  · obtain ⟨e, hthrow⟩ := native_error (V := V) (α := List Ref) .unwrapError
    have hnull : ∀ w : World V, (PoseidonHash.readPersonalization none :
        JavaCall V (Option (List (V .fieldElement)))).exec w = (.error (.exception e), w) := by
      intro w
      unfold PoseidonHash.readPersonalization
      exact Program.exec_bind_error (congrArg (·.exec w) hthrow)
    exact alike_of_exec fun w w' _ => ⟨_, hnull w, hnull w'⟩
  · exact (alike_readAll hrefs).bind fun fields => alike_pure _

theorem alike_getInstanceConstantLength (inputSize : Int32) {personalization : Option (List Ref)}
    (hrefs : ∀ r ∈ personalization.getD [], ¬ D (.fieldElement, r)) :
    Alike D (PoseidonHash.getInstanceConstantLength ⟨L, malloc⟩ inputSize personalization)
      (PoseidonHash.getInstanceConstantLength ⟨L, malloc'⟩ inputSize personalization) :=
  (alike_readPersonalization hrefs).bind fun _ => (alike_native _).bind fun h =>
    alike_returnObject L malloc malloc' .poseidonHash h

theorem alike_getInstanceVariableLength (modRate : Bool) {personalization : Option (List Ref)}
    (hrefs : ∀ r ∈ personalization.getD [], ¬ D (.fieldElement, r)) :
    Alike D (PoseidonHash.getInstanceVariableLength ⟨L, malloc⟩ modRate personalization)
      (PoseidonHash.getInstanceVariableLength ⟨L, malloc'⟩ modRate personalization) :=
  (alike_readPersonalization hrefs).bind fun _ => (alike_native _).bind fun h =>
    alike_returnObject L malloc malloc' .poseidonHash h

theorem alike_update {this input : Ref} (hthis : ¬ D (.poseidonHash, this))
    (hinput : ¬ D (.fieldElement, input)) :
    Alike D (PoseidonHash.update ⟨L, malloc⟩ this input)
      (PoseidonHash.update ⟨L, malloc'⟩ this input) :=
  alike_query hthis fun _ => (alike_reading hinput).bind fun _ => alike_modifying hthis _

theorem alike_finalizeHash {this : Ref} (hthis : ¬ D (.poseidonHash, this)) :
    Alike D (PoseidonHash.finalizeHash ⟨L, malloc⟩ this)
      (PoseidonHash.finalizeHash ⟨L, malloc'⟩ this) :=
  alike_query hthis fun _ => alike_returnResult L malloc malloc' .fieldElement _

theorem alike_poseidonReset {this : Ref} {personalization : Option (List Ref)}
    (hthis : ¬ D (.poseidonHash, this))
    (hrefs : ∀ r ∈ personalization.getD [], ¬ D (.fieldElement, r)) :
    Alike D (PoseidonHash.reset ⟨L, malloc⟩ this personalization)
      (PoseidonHash.reset ⟨L, malloc'⟩ this personalization) :=
  alike_query hthis fun _ => (alike_readPersonalization hrefs).bind fun _ =>
    alike_modifying hthis _

theorem alike_updateAll {digest : Ref} (hdigest : ¬ D (.poseidonHash, digest)) {inputs : List Ref}
    (hinputs : ∀ r ∈ inputs, ¬ D (.fieldElement, r)) :
    Alike D (PoseidonHash.updateAll ⟨L, malloc⟩ digest inputs)
      (PoseidonHash.updateAll ⟨L, malloc'⟩ digest inputs) := by
  induction inputs with
  | nil => exact alike_pure ()
  | cons fe inputs ih =>
      rw [List.forall_mem_cons] at hinputs
      exact (alike_update L malloc malloc' hdigest hinputs.1).bind fun _ => ih hinputs.2

/-- The hash object that is made on the way is new, and so outside `D`. -/
theorem alike_computePoseidonHash (h : Twins D w w') {inputs : List Ref}
    (hinputs : ∀ r ∈ inputs, ¬ D (.fieldElement, r)) :
    AlikeAt D (PoseidonHash.computePoseidonHash ⟨L, malloc⟩ inputs)
      (PoseidonHash.computePoseidonHash ⟨L, malloc'⟩ inputs) w w' := by
  have hnew : Alike D
      (PoseidonHash.getInstanceConstantLength ⟨L, malloc⟩ (Int32.ofNat inputs.length) (some []))
      (PoseidonHash.getInstanceConstantLength ⟨L, malloc'⟩ (Int32.ofNat inputs.length)
        (some [])) :=
    alike_getInstanceConstantLength L malloc malloc' _ (by simp)
  refine AlikeAt.bind (hnew w w' h) fun digest hreturned => ?_
  have hdigest : ¬ D (.poseidonHash, digest) := by
    rcases newDigest_cases ⟨L, malloc⟩ (Int32.ofNat inputs.length) w with
      ⟨e, hrun⟩ | hrun | ⟨a, d, -, -, hrun⟩
    · rw [hrun] at hreturned
      cases hreturned
    · rw [hrun] at hreturned
      cases hreturned
    · rw [hrun] at hreturned
      cases hreturned
      exact h.not_new .poseidonHash
  refine (alike_updateAll L malloc malloc' hdigest hinputs).bind fun _ => ?_
  refine (alike_finalizeHash L malloc malloc' hdigest).bind fun hashOutput => ?_
  exact (alike_free hdigest).bind fun _ => alike_pure hashOutput

/-! ## Merkle trees -/

theorem alike_append {this input : Ref} (hthis : ¬ D (.inMemoryOptimizedMerkleTree, this))
    (hinput : ¬ D (.fieldElement, input)) :
    Alike D (InMemoryOptimizedMerkleTree.append ⟨L, malloc⟩ this input)
      (InMemoryOptimizedMerkleTree.append ⟨L, malloc'⟩ this input) := by
  refine (alike_checkNotFreed hthis _).bind fun _ => ?_
  refine (alike_reading hinput).bind fun leaf => ?_
  exact (alike_modifying hthis _).map isOk

theorem alike_finalizeTree {this : Ref} (hthis : ¬ D (.inMemoryOptimizedMerkleTree, this)) :
    Alike D (InMemoryOptimizedMerkleTree.finalizeTree ⟨L, malloc⟩ this)
      (InMemoryOptimizedMerkleTree.finalizeTree ⟨L, malloc'⟩ this) :=
  alike_query hthis fun _ => alike_returnResult L malloc malloc' .inMemoryOptimizedMerkleTree _

theorem alike_finalizeTreeInPlace {this : Ref}
    (hthis : ¬ D (.inMemoryOptimizedMerkleTree, this)) :
    Alike D (InMemoryOptimizedMerkleTree.finalizeTreeInPlace ⟨L, malloc⟩ this)
      (InMemoryOptimizedMerkleTree.finalizeTreeInPlace ⟨L, malloc'⟩ this) :=
  (alike_checkNotFreed hthis _).bind fun _ => (alike_modifying hthis _).map isOk

theorem alike_root {this : Ref} (hthis : ¬ D (.inMemoryOptimizedMerkleTree, this)) :
    Alike D (InMemoryOptimizedMerkleTree.root ⟨L, malloc⟩ this)
      (InMemoryOptimizedMerkleTree.root ⟨L, malloc'⟩ this) :=
  alike_query hthis fun _ => (alike_native _).bind
    (alike_returnOption L malloc malloc' .fieldElement)

theorem alike_getMerklePath {this : Ref} (hthis : ¬ D (.inMemoryOptimizedMerkleTree, this))
    (leafIndex : Int64) :
    Alike D (InMemoryOptimizedMerkleTree.getMerklePath ⟨L, malloc⟩ this leafIndex)
      (InMemoryOptimizedMerkleTree.getMerklePath ⟨L, malloc'⟩ this leafIndex) :=
  alike_query hthis fun _ => (alike_native _).bind
    (alike_returnOption L malloc malloc' .merklePath)

theorem alike_merkleReset {this : Ref} (hthis : ¬ D (.inMemoryOptimizedMerkleTree, this)) :
    Alike D (InMemoryOptimizedMerkleTree.reset ⟨L, malloc⟩ this)
      (InMemoryOptimizedMerkleTree.reset ⟨L, malloc'⟩ this) :=
  (alike_checkNotFreed hthis _).bind fun _ => alike_modifying hthis _

theorem alike_verifyMethod {this leaf root : Ref} (hthis : ¬ D (.merklePath, this))
    (hleaf : ¬ D (.fieldElement, leaf)) (hroot : ¬ D (.fieldElement, root))
    (check : V .gingerMHTPath → V .fieldElement → V .fieldElement → Call Bool) :
    Alike D (MerklePath.verifyMethod ⟨L, malloc⟩ this leaf root check)
      (MerklePath.verifyMethod ⟨L, malloc'⟩ this leaf root check) := by
  refine (alike_checkNotFreed hthis _).bind fun _ => ?_
  refine (alike_reading hleaf).bind fun leaf => ?_
  refine (alike_reading hroot).bind fun root => ?_
  refine (alike_reading hthis).bind fun path => ?_
  exact (alike_returnBool _).ite (alike_pure false)

theorem alike_apply {this leaf : Ref} (hthis : ¬ D (.merklePath, this))
    (hleaf : ¬ D (.fieldElement, leaf)) :
    Alike D (MerklePath.apply ⟨L, malloc⟩ this leaf) (MerklePath.apply ⟨L, malloc'⟩ this leaf) := by
  refine alike_query hthis fun path => ?_
  refine (alike_reading hleaf).bind fun leaf => ?_
  exact (alike_native _).bind fun root =>
    alike_returnObject L malloc malloc' .fieldElement root

theorem alike_pathQuery {this : Ref} (hthis : ¬ D (.merklePath, this))
    (f : V .gingerMHTPath → Except Panic α) :
    Alike D (MerklePath.query this f) (MerklePath.query this f) :=
  alike_query hthis fun _ => alike_native _

/-! ## Commitment trees -/

theorem alike_nativeAdd {Args Dec : Type} (decode : Args → Decode Dec)
    (add : Dec → Program (V .commitmentTree) Panic Bool) {this : Ref}
    (hthis : ¬ D (.commitmentTree, this)) (args : Args) (e : JavaException) :
    Alike D
      (checkNotFreed .commitmentTree this e >>= fun _ =>
        CommitmentTree.nativeAdd decode add this args)
      (checkNotFreed .commitmentTree this e >>= fun _ =>
        CommitmentTree.nativeAdd decode add this args) := by
  refine (alike_checkNotFreed hthis e).bind fun _ => ?_
  have hdecoding : Alike D (CommitmentTree.decoding (decode args) : JavaCall V (Option Dec))
      (CommitmentTree.decoding (decode args)) := by
    rcases decode args with (e | _) | decoded
    · exact alike_native (.error e)
    · exact alike_pure none
    · exact alike_pure (some decoded)
  refine hdecoding.bind fun decoded => ?_
  rcases decoded with _ | decoded
  · exact alike_pure false
  · exact alike_modifying hthis _

theorem alike_readScId (scId : Option (List UInt8)) :
    Alike D (CommitmentTree.readScId ⟨L, malloc⟩ scId)
      (CommitmentTree.readScId ⟨L, malloc'⟩ scId) :=
  alike_native _

theorem alike_nativeAddCertLeaf {this : Ref} (hthis : ¬ D (.commitmentTree, this))
    (scId leaf : Option (List UInt8)) :
    Alike D (CommitmentTree.nativeAddCertLeaf ⟨L, malloc⟩ this scId leaf)
      (CommitmentTree.nativeAddCertLeaf ⟨L, malloc'⟩ this scId leaf) := by
  refine alike_receiver .commitmentTree this ?_
  refine (alike_readScId L malloc malloc' scId).bind fun scId => ?_
  refine (alike_readScId L malloc malloc' leaf).bind fun leafFe => ?_
  exact alike_modifying hthis _

theorem alike_returnLeaves (leaves : List (V .fieldElement)) :
    Alike D (CommitmentTree.returnLeaves ⟨L, malloc⟩ leaves)
      (CommitmentTree.returnLeaves ⟨L, malloc'⟩ leaves) :=
  (alike_newNullObject .fieldElement).bind fun _ =>
    Program.lockstep_mapM fun leaf _ => alike_returnObject L malloc malloc' .fieldElement leaf

theorem alike_getCrtLeaves {this : Ref} (hthis : ¬ D (.commitmentTree, this))
    (scId : Option (List UInt8)) :
    Alike D (CommitmentTree.getCrtLeaves ⟨L, malloc⟩ this scId)
      (CommitmentTree.getCrtLeaves ⟨L, malloc'⟩ this scId) := by
  refine (alike_checkNotFreed hthis _).bind fun _ => ?_
  refine (alike_readScId L malloc malloc' scId).bind fun scId => ?_
  refine (alike_modifying hthis _).bind fun leaves => ?_
  rcases leaves with _ | leaves
  · exact alike_pure none
  · exact (alike_returnLeaves L malloc malloc' leaves).map some

theorem alike_queryTree (k : Kind)
    (get : V .fieldElement → Program (V .commitmentTree) Panic (Option (V k.nativeType)))
    {this : Ref} (hthis : ¬ D (.commitmentTree, this)) (scId : Option (List UInt8)) :
    Alike D (CommitmentTree.queryTree ⟨L, malloc⟩ k get this scId)
      (CommitmentTree.queryTree ⟨L, malloc'⟩ k get this scId) := by
  refine (alike_checkNotFreed hthis _).bind fun _ => ?_
  refine (alike_readScId L malloc malloc' scId).bind fun scId => ?_
  exact (alike_modifying hthis _).bind (alike_returnOption L malloc malloc' k)

theorem alike_getCommitment {this : Ref} (hthis : ¬ D (.commitmentTree, this)) :
    Alike D (CommitmentTree.getCommitment ⟨L, malloc⟩ this)
      (CommitmentTree.getCommitment ⟨L, malloc'⟩ this) :=
  (alike_checkNotFreed hthis _).bind fun _ =>
    (alike_modifying hthis _).bind (alike_returnOption L malloc malloc' .fieldElement)

theorem alike_verifyScCommitment {scCommitment existenceProof commitment : Ref}
    (hscCommitment : ¬ D (.fieldElement, scCommitment))
    (hproof : ¬ D (.scExistenceProof, existenceProof))
    (hcommitment : ¬ D (.fieldElement, commitment)) :
    Alike D
      (CommitmentTree.verifyScCommitment ⟨L, malloc⟩ scCommitment existenceProof commitment)
      (CommitmentTree.verifyScCommitment ⟨L, malloc'⟩ scCommitment existenceProof commitment) := by
  refine (alike_reading hscCommitment).bind fun scCommitmentFe => ?_
  refine (alike_reading hproof).bind fun scCommitmentProof => ?_
  exact (alike_reading hcommitment).bind fun commitmentFe => alike_native _

theorem alike_verifyScAbsence (scId : Option (List UInt8)) {absenceProof commitment : Ref}
    (hproof : ¬ D (.scAbsenceProof, absenceProof))
    (hcommitment : ¬ D (.fieldElement, commitment)) :
    Alike D (CommitmentTree.verifyScAbsence ⟨L, malloc⟩ scId absenceProof commitment)
      (CommitmentTree.verifyScAbsence ⟨L, malloc'⟩ scId absenceProof commitment) := by
  refine (alike_readScId L malloc malloc' scId).bind fun scId => ?_
  refine (alike_reading hproof).bind fun scAbsenceProof => ?_
  exact (alike_reading hcommitment).bind fun commitmentFe => alike_native _

/-! ## Certificates -/

theorem alike_readBtList (bt : Option (List (Option JavaBackwardTransfer))) :
    Alike D (NaiveThresholdSigProof.readBtList bt : JavaCall V (List BackwardTransfer))
      (NaiveThresholdSigProof.readBtList bt) :=
  alike_native _

theorem alike_getConstant {schnorrPublicKeys : List Ref}
    (hkeys : ∀ r ∈ schnorrPublicKeys, ¬ D (.schnorrPublicKey, r)) (threshold : Int64) :
    Alike D (NaiveThresholdSigProof.getConstant ⟨L, malloc⟩ schnorrPublicKeys threshold)
      (NaiveThresholdSigProof.getConstant ⟨L, malloc'⟩ schnorrPublicKeys threshold) :=
  (alike_readAll hkeys).bind fun _ => alike_returnResult L malloc malloc' .fieldElement _

theorem alike_createMsgToSign {args : NaiveThresholdSigProof.CertificateArgs}
    (hscId : ¬ D (.fieldElement, args.scId))
    (hroot : ¬ D (.fieldElement, args.endCumulativeScTxCommTreeRoot)) :
    Alike D (NaiveThresholdSigProof.createMsgToSign ⟨L, malloc⟩ args)
      (NaiveThresholdSigProof.createMsgToSign ⟨L, malloc'⟩ args) := by
  refine (alike_readBtList args.bt).bind fun btList => ?_
  refine (alike_reading hscId).bind fun scId => ?_
  refine (alike_reading hroot).bind fun root => ?_
  exact alike_returnResult L malloc malloc' .fieldElement _

theorem alike_readSigsAndPks {sigs pks : List Ref}
    (hsigs : ∀ r ∈ sigs, ¬ D (.schnorrSignature, r))
    (hpks : ∀ r ∈ pks, ¬ D (.schnorrPublicKey, r)) :
    Alike D ((sigs.zip pks).mapM NaiveThresholdSigProof.readSigAndPk :
        JavaCall V (List (Option (V .schnorrSig) × V .g2)))
      ((sigs.zip pks).mapM NaiveThresholdSigProof.readSigAndPk) := by
  refine Program.lockstep_mapM fun sig hsig => ?_
  obtain ⟨hmem, hmem'⟩ := List.of_mem_zip hsig
  refine (alike_readingNullable (hsigs _ hmem)).bind fun signature => ?_
  exact (alike_reading (hpks _ hmem')).bind fun publicKey => alike_pure _

theorem alike_createProof {args : NaiveThresholdSigProof.CertificateArgs}
    {schnorrSignatures schnorrPublicKeys : List Ref}
    (hsigs : ∀ r ∈ schnorrSignatures, ¬ D (.schnorrSignature, r))
    (hpks : ∀ r ∈ schnorrPublicKeys, ¬ D (.schnorrPublicKey, r))
    (hscId : ¬ D (.fieldElement, args.scId))
    (hroot : ¬ D (.fieldElement, args.endCumulativeScTxCommTreeRoot)) (threshold : Int64)
    (provingKeyPath : Option JavaString) (checkProvingKey zk compressedPk compressProof : Bool) :
    Alike D
      (NaiveThresholdSigProof.createProof ⟨L, malloc⟩ args schnorrSignatures schnorrPublicKeys
        threshold provingKeyPath checkProvingKey zk compressedPk compressProof)
      (NaiveThresholdSigProof.createProof ⟨L, malloc'⟩ args schnorrSignatures schnorrPublicKeys
        threshold provingKeyPath checkProvingKey zk compressedPk compressProof) := by
  refine (alike_readBtList args.bt).bind fun btList => (alike_native _).ite ?_
  refine (alike_readSigsAndPks hsigs hpks).bind fun sigsAndPks => ?_
  refine (alike_reading hscId).bind fun scId => ?_
  refine (alike_reading hroot).bind fun root => ?_
  refine (alike_native _).bind fun path => ?_
  refine alike_tick.bind fun random => (alike_native _).bind fun result => ?_
  rcases result with e | result
  · exact alike_pure none
  · exact alike_pure (some result)

theorem alike_verifyProof {args : NaiveThresholdSigProof.CertificateArgs} {constant : Ref}
    (hscId : ¬ D (.fieldElement, args.scId))
    (hroot : ¬ D (.fieldElement, args.endCumulativeScTxCommTreeRoot))
    (hconstant : ¬ D (.fieldElement, constant)) (quality : Int64) (proof : Option (List UInt8))
    (checkProof : Bool) (verificationKeyPath : Option JavaString) (checkVerificationKey : Bool) :
    Alike D
      (NaiveThresholdSigProof.verifyProof ⟨L, malloc⟩ args constant quality proof checkProof
        verificationKeyPath checkVerificationKey)
      (NaiveThresholdSigProof.verifyProof ⟨L, malloc'⟩ args constant quality proof checkProof
        verificationKeyPath checkVerificationKey) := by
  refine (alike_readBtList args.bt).bind fun btList => ?_
  refine (alike_reading hscId).bind fun scId => ?_
  refine (alike_reading hroot).bind fun root => ?_
  refine (alike_reading hconstant).bind fun constant => ?_
  refine (alike_native _).bind fun proofBytes => (alike_native _).bind fun vkPath => ?_
  exact alike_tick.bind fun random => alike_returnBool _

end Operations

/-! ## Runs -/

/-- Every operation of one library is alike in both processes, if it mentions no
object of `D`. -/
theorem answer_alike {E E' : Env V} (hsame : E'.toNativeLib = E.toNativeLib) (op : Op)
    {w w' : World V} (h : Twins D w w') (hop : ∀ n ∈ op.mentions w, ¬ D n) :
    AlikeAt D (answer E op) (answer E' op) w w' := by
  obtain ⟨L, malloc⟩ := E
  obtain ⟨L', malloc'⟩ := E'
  obtain rfl : L' = L := hsame
  have hneeds : ∀ n ∈ op.needs w, ¬ D n := fun n hn => hop n (List.mem_append_left _ hn)
  cases op with
  | serialize k this compressed =>
      exact (alike_serialize L' _ _ (hneeds _ (.head _)) compressed w w' h).map _
  | deserialize k bytes check compressed =>
      exact (alike_deserialize L' _ _ k bytes check compressed w w' h).map _
  | free k this => exact (alike_free (hop _ (.head _)) w w' h).map _
  | newPair p first second => exact (alike_newPair p first second w w' h).map _
  | pairParts p this => exact (alike_pairFields p this w w' h).map _
  | closePair p this => exact (alike_closePair h hop).map _
  | fieldElementFromLong value =>
      exact (alike_returnObject L' _ _ .fieldElement _ w w' h).map _
  | fieldElementRandom seed => exact (alike_returnObject L' _ _ .fieldElement _ w w' h).map _
  | fieldElementPrint this => exact (alike_print L' _ _ (hneeds _ (.head _)) w w' h).map _
  | fieldElementEquals this o => exact (alike_equals L' _ _ hneeds w w' h).map _
  | schnorrVerifySignature this signature message =>
      exact (alike_verifySignature L' _ _ (hneeds _ (.head _)) (hneeds _ (.tail _ (.head _)))
        (hneeds _ (.tail _ (.tail _ (.head _)))) w w' h).map _
  | schnorrVerifyKey this | vrfVerifyKey this | schnorrIsValidSignature this
  | vrfIsValidProof this =>
      exact (alike_query (hneeds _ (.head _)) (fun _ => alike_native _) w w' h).map _
  | schnorrGetPublicKey this =>
      exact (alike_schnorrGetPublicKey L' _ _ (hneeds _ (.head _)) w w' h).map _
  | schnorrNewSignature => exact (alike_newNullObject .schnorrSignature w w' h).map _
  | schnorrKeyPairOfSecretKey secretKey =>
      exact ((alike_schnorrGetPublicKey L' _ _ (hneeds _ (.head _))).bind (fun publicKey =>
        alike_newPair .schnorrKeyPair secretKey publicKey) w w' h).map _
  | schnorrGenerate => exact (alike_schnorrGenerate L' _ _ w w' h).map _
  | schnorrSignMessage this message =>
      exact (alike_signMessage L' _ _ h (fun n hn => hneeds n (List.mem_append_left _ hn))
        (hneeds _ (List.mem_append_right _ (.head _)))).map _
  | vrfProofToHash this proof message =>
      exact (alike_proofToHash L' _ _ (hneeds _ (.head _)) (hneeds _ (.tail _ (.head _)))
        (hneeds _ (.tail _ (.tail _ (.head _)))) w w' h).map _
  | vrfGetPublicKey this =>
      exact (alike_vrfGetPublicKey L' _ _ (hneeds _ (.head _)) w w' h).map _
  | vrfKeyPairOfSecretKey secretKey =>
      exact ((alike_vrfGetPublicKey L' _ _ (hneeds _ (.head _))).bind (fun publicKey =>
        alike_newPair .vrfKeyPair secretKey publicKey) w w' h).map _
  | vrfGenerate => exact (alike_vrfGenerate L' _ _ w w' h).map _
  | vrfProve this message =>
      exact (alike_prove L' _ _ h (fun n hn => hneeds n (List.mem_append_left _ hn))
        (hneeds _ (List.mem_append_right _ (.head _)))).map _
  | poseidonConstantLength inputSize personalization =>
      exact (alike_getInstanceConstantLength L' _ _ inputSize
        (fun r hr => hneeds _ (List.mem_map_of_mem hr)) w w' h).map _
  | poseidonVariableLength modRate personalization =>
      exact (alike_getInstanceVariableLength L' _ _ modRate
        (fun r hr => hneeds _ (List.mem_map_of_mem hr)) w w' h).map _
  | poseidonUpdate this input =>
      exact (alike_update L' _ _ (hneeds _ (.head _)) (hneeds _ (.tail _ (.head _))) w w' h).map _
  | poseidonFinalize this =>
      exact (alike_finalizeHash L' _ _ (hneeds _ (.head _)) w w' h).map _
  | poseidonReset this personalization =>
      exact (alike_poseidonReset L' _ _ (hneeds _ (.head _))
        (fun r hr => hneeds _ (.tail _ (List.mem_map_of_mem hr))) w w' h).map _
  | computePoseidonHash inputs =>
      exact (alike_computePoseidonHash L' _ _ h
        fun r hr => hneeds _ (List.mem_map_of_mem hr)).map _
  | merkleInit height processingStep =>
      exact (alike_returnResult L' _ _ .inMemoryOptimizedMerkleTree _ w w' h).map _
  | merkleAppend this input =>
      exact (alike_append L' _ _ (hneeds _ (.head _)) (hneeds _ (.tail _ (.head _))) w w' h).map _
  | merkleFinalize this => exact (alike_finalizeTree L' _ _ (hneeds _ (.head _)) w w' h).map _
  | merkleFinalizeInPlace this =>
      exact (alike_finalizeTreeInPlace L' _ _ (hneeds _ (.head _)) w w' h).map _
  | merkleRoot this => exact (alike_root L' _ _ (hneeds _ (.head _)) w w' h).map _
  | merkleGetPath this leafIndex =>
      exact (alike_getMerklePath L' _ _ (hneeds _ (.head _)) leafIndex w w' h).map _
  | merkleReset this => exact (alike_merkleReset L' _ _ (hneeds _ (.head _)) w w' h).map _
  | pathVerify this merkleTreeHeight leaf root =>
      exact (alike_verifyMethod L' _ _ (hneeds _ (.head _)) (hneeds _ (.tail _ (.head _)))
        (hneeds _ (.tail _ (.tail _ (.head _)))) _ w w' h).map _
  | pathVerifyWithoutLengthCheck this leaf root =>
      exact (alike_verifyMethod L' _ _ (hneeds _ (.head _)) (hneeds _ (.tail _ (.head _)))
        (hneeds _ (.tail _ (.tail _ (.head _)))) _ w w' h).map _
  | pathApply this leaf =>
      exact (alike_apply L' _ _ (hneeds _ (.head _)) (hneeds _ (.tail _ (.head _))) w w' h).map _
  | pathIsLeftmost this | pathIsRightmost this | pathAreRightLeavesEmpty this
  | pathLeafIndex this => exact (alike_pathQuery (hneeds _ (.head _)) _ w w' h).map _
  | treeInit => exact (alike_returnObject L' _ _ .commitmentTree _ w w' h).map _
  | treeAddScCr this args | treeAddFwt this args | treeAddBtr this args | treeAddCert this args
  | treeAddCsw this args =>
      exact (alike_nativeAdd _ _ (hneeds _ (.head _)) args _ w w' h).map _
  | treeNativeAddCertLeaf this scId leaf =>
      exact (alike_nativeAddCertLeaf L' _ _ (hneeds _ (.head _)) scId leaf w w' h).map _
  | treeAddCertLeaf this scId leaf =>
      have hthis : ¬ D (.commitmentTree, this) := hneeds _ (.head _)
      exact ((alike_checkNotFreed hthis _).bind (fun _ =>
        alike_nativeAddCertLeaf L' _ _ hthis scId leaf) w w' h).map _
  | treeGetCrtLeaves this scId =>
      exact (alike_getCrtLeaves L' _ _ (hneeds _ (.head _)) scId w w' h).map _
  | treeGetScCrCommitment this scId | treeGetFwtCommitment this scId
  | treeGetBtrCommitment this scId | treeGetCertCommitment this scId
  | treeGetCswCommitment this scId | treeGetScCommitment this scId
  | treeGetScExistenceProof this scId | treeGetScAbsenceProof this scId =>
      exact (alike_queryTree L' _ _ _ _ (hneeds _ (.head _)) scId w w' h).map _
  | treeGetCommitment this =>
      exact (alike_getCommitment L' _ _ (hneeds _ (.head _)) w w' h).map _
  | treeVerifyScCommitment scCommitment existenceProof commitment =>
      exact (alike_verifyScCommitment L' _ _ (hneeds _ (.head _)) (hneeds _ (.tail _ (.head _)))
        (hneeds _ (.tail _ (.tail _ (.head _)))) w w' h).map _
  | treeVerifyScAbsence scId absenceProof commitment =>
      exact (alike_verifyScAbsence L' _ _ scId (hneeds _ (.head _)) (hneeds _ (.tail _ (.head _)))
        w w' h).map _
  | getConstant schnorrPublicKeys threshold =>
      exact (alike_getConstant L' _ _ (fun r hr => hneeds _ (List.mem_map_of_mem hr)) threshold
        w w' h).map _
  | createMsgToSign args =>
      exact (alike_createMsgToSign L' _ _ (hneeds _ (.head _)) (hneeds _ (.tail _ (.head _)))
        w w' h).map _
  | createProof args sigs pks threshold path checkPk zk compressedPk compressProof =>
      have hsigs : ∀ r ∈ sigs, ¬ D (.schnorrSignature, r) :=
        fun r hr => hop _ (List.mem_append_right _ (List.mem_map_of_mem hr))
      have hpks : ∀ r ∈ pks, ¬ D (.schnorrPublicKey, r) :=
        fun r hr => hneeds _ (List.mem_append_left _ (List.mem_map_of_mem hr))
      exact (alike_createProof L' _ _ hsigs hpks (hneeds _ (List.mem_append_right _ (.head _)))
        (hneeds _ (List.mem_append_right _ (.tail _ (.head _)))) threshold path checkPk zk
        compressedPk compressProof w w' h).map _
  | verifyProof args constant quality proof checkProof path checkVk =>
      exact (alike_verifyProof L' _ _ (hneeds _ (.head _)) (hneeds _ (.tail _ (.head _)))
        (hneeds _ (.tail _ (.tail _ (.head _)))) quality proof checkProof path checkVk
        w w' h).map _

/-- The answers of the operations of a run that starts in a world. -/
def answers (E : Env V) (w : World V) (ops : List Op) : List (Except Halt Answer) :=
  Program.outcomes (answer E) ops w

/-- No operation of the run mentions an object of `D`. -/
def Avoids (D : Kind × Ref → Prop) (E : Env V) (ops : List Op) (w : World V) : Prop :=
  Program.Along (fun w op => ∀ n ∈ op.mentions w, ¬ D n) (answer E) ops w

theorem foldl_answer (E : Env V) (w : World V) (ops : List Op) :
    ops.foldl (fun w op => ((answer E op).exec w).2) w = runFrom E w ops := by
  unfold runFrom
  congr 1
  funext w op
  rw [← discard_answer, discard_world]

/-- Two runs of the same operations, none of which mentions an object of `D`. -/
theorem answers_alike {E E' : Env V} (hsame : E'.toNativeLib = E.toNativeLib) {w w' : World V}
    (h : Twins D w w') {ops : List Op} (havoids : Avoids D E ops w)
    (hmemory : .error .abort ∉ answers E w ops) (hmemory' : .error .abort ∉ answers E' w' ops) :
    answers E w ops = answers E' w' ops ∧ AgreeBut D (runFrom E w ops) (runFrom E' w' ops) := by
  obtain ⟨hanswers, hend⟩ := Program.lockstep_run
    (fun w w' op h hop => answer_alike hsame op h hop) h havoids hmemory hmemory'
  rw [foldl_answer, foldl_answer] at hend
  exact ⟨hanswers, hend.agree⟩

/-- The object that the two processes below have in common, but for its value. -/
def firstElement : Kind × Ref := (.fieldElement, some 0)

theorem AgreeBut.refl {w : World V}
    (hold : ∀ k i, D (k, some i) → i < (w.store.fields k).length) : AgreeBut D w w :=
  ⟨Store.SameBut.refl _ _, rfl, rfl, hold⟩

/-- One of the processes frees an object in which they differ. -/
theorem AgreeBut.free_right {w w' : World V} (h : AgreeBut D w w') (hw' : Owned w') {k : Kind}
    {r : Ref} (hr : (w'.pointer k r).isSome → D (k, r)) :
    AgreeBut D w ((free k r).exec w').2 := by
  obtain ⟨convention, hfree⟩ := free_eq_freeObject (V := V) k r
  rw [hfree]
  rcases hp : w'.pointer k r with _ | a
  · unfold freeObject
    rw [Program.exec_bind_error (receiver_exec_none hp)]
    exact h
  · obtain ⟨i, rfl, hpointer⟩ := World.pointer_some hp
    by_cases ha : a = 0
    · subst ha
      unfold freeObject
      rw [Program.exec_bind_ok (receiver_exec hp)]
      exact h
    · rw [freeObject_exec hw' convention hpointer ha]
      refine ⟨⟨fun k' => ?_, fun k' j hj => ?_⟩, h.pairs, h.ticks, h.old⟩
      · rw [Store.length_clear]
        exact h.store.length k'
      · have hne : ¬ (k' = k ∧ j = i) := by
          rintro ⟨rfl, rfl⟩
          exact hj (hr (by rw [hp]; rfl))
        rw [Store.target_release_of_ne hw' hpointer ha hne]
        exact h.store.target k' j hj

theorem isSome_pointer_iff {w : World V} {k : Kind} {i : ℕ} :
    (w.pointer k (some i)).isSome ↔ i < (w.store.fields k).length := by
  simp [World.pointer, Store.pointer]

/-- Calls that free some objects. -/
def freeing (objects : List (Kind × Ref)) : List Op := objects.map fun n => .free n.1 n.2

theorem AgreeBut.freeing_right (E : Env V) {objects : List (Kind × Ref)} {w w' : World V}
    (h : AgreeBut D w w') (hw' : Owned w')
    (hobjects : ∀ n ∈ objects, (w.pointer n.1 n.2).isSome → D n) :
    AgreeBut D w (runFrom E w' (freeing objects)) := by
  induction objects generalizing w' with
  | nil => exact h
  | cons n objects ih =>
      rw [List.forall_mem_cons] at hobjects
      have hn : (w'.pointer n.1 n.2).isSome → D (n.1, n.2) := by
        intro hsome
        refine hobjects.1 ?_
        rcases hr : n.2 with _ | i
        · rw [hr] at hsome
          cases hsome
        · rw [hr, isSome_pointer_iff, h.store.length] at hsome
          exact isSome_pointer_iff.mpr hsome
      exact ih (h.free_right hw' hn) (free_safe n.1 n.2 w' hw').1 hobjects.2

/-- Objects may be freed as soon as no later operation mentions them. The answers are
the same as if they were kept, and so are the other objects at the end. -/
theorem early_frees_invisible (E : Env V) (before ops : List Op) (objects : List (Kind × Ref))
    (havoids : Avoids (· ∈ objects) E ops (run E before))
    (hmemory : .error .abort ∉ answers E (run E before) ops)
    (hmemory' : .error .abort ∉ answers E (run E (before ++ freeing objects)) ops) :
    answers E (run E (before ++ freeing objects)) ops = answers E (run E before) ops ∧
      AgreeBut (fun n => n ∈ objects ∧ ((run E before).pointer n.1 n.2).isSome)
        (run E (before ++ ops)) (run E (before ++ freeing objects ++ ops)) := by
  have hagree : AgreeBut (fun n => n ∈ objects ∧ ((run E before).pointer n.1 n.2).isSome)
      (run E before) (run E (before ++ freeing objects)) := by
    rw [run_append]
    refine AgreeBut.freeing_right E (AgreeBut.refl fun k i hi => ?_) (run_owned E before)
      fun n hn hsome => ⟨hn, hsome⟩
    exact isSome_pointer_iff.mp hi.2
  have htwins := Twins.mk (run_owned E before) (run_owned E (before ++ freeing objects)) hagree
  have havoids' : Avoids (fun n => n ∈ objects ∧ ((run E before).pointer n.1 n.2).isSome) E ops
      (run E before) := havoids.imp fun w op hop n hn hD => hop n hn hD.1
  obtain ⟨hanswers, hend⟩ := answers_alike rfl htwins havoids' hmemory hmemory'
  rw [run_append E before ops, run_append E (before ++ freeing objects) ops]
  exact ⟨hanswers.symm, hend⟩

/-- Two elements, of which the hash needs one. -/
theorem early_frees_invisible_two :
    answers digestEnv (run digestEnv ([.fieldElementFromLong 5, .fieldElementFromLong 7]
        ++ freeing [firstElement, firstElement]))
      [.poseidonVariableLength false (some []), .poseidonUpdate (some 0) (some 1),
        .poseidonFinalize (some 0)]
      = [.ok (.object (some 0)), .ok .done, .ok (.object (some 2))] := by
  have hanswers : answers digestEnv (run digestEnv [.fieldElementFromLong 5,
      .fieldElementFromLong 7]) [.poseidonVariableLength false (some []),
        .poseidonUpdate (some 0) (some 1), .poseidonFinalize (some 0)]
      = [.ok (.object (some 0)), .ok .done, .ok (.object (some 2))] := rfl
  have hanswers' : answers digestEnv (run digestEnv ([.fieldElementFromLong 5,
      .fieldElementFromLong 7] ++ freeing [firstElement, firstElement]))
        [.poseidonVariableLength false (some []), .poseidonUpdate (some 0) (some 1),
          .poseidonFinalize (some 0)]
      = [.ok (.object (some 0)), .ok .done, .ok (.object (some 2))] := rfl
  have havoids : Avoids (· ∈ [firstElement, firstElement]) digestEnv
      [.poseidonVariableLength false (some []), .poseidonUpdate (some 0) (some 1),
        .poseidonFinalize (some 0)]
      (run digestEnv [.fieldElementFromLong 5, .fieldElementFromLong 7]) := by
    refine ⟨?_, ?_, ?_, trivial⟩
    all_goals simp [Op.mentions, Op.needs, firstElement]
  rw [(early_frees_invisible digestEnv _ _ _ havoids (by rw [hanswers]; simp)
    (by rw [hanswers']; simp)).1, hanswers]

end ZendooSc.Handles
