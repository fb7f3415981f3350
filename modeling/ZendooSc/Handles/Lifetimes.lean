/-
ZendooSc.Handles.Lifetimes — objects over whole runs.

`step_effect` is what one operation does to the objects there are: those it
closes end up with the null pointer, those it writes to may get another value,
and all others are as before. `step_throws` is what is left behind by an
operation that throws: nothing, or, if it was `computePoseidonHash`, one hash
object.

Over a run this gives the history of an object. `object_history`: its pointer is
the one it was made with until an operation closes it and null from then on, and
its value changes only by the operations that write to it, which there are for
three of the classes. `heap_empty_iff`: a program that ends by freeing objects
frees all memory exactly when it closes every object that is live.
-/
import ZendooSc.Handles.Footprints
import ZendooSc.Handles.Runs
import ZendooSc.Handles.Values

namespace ZendooSc.Handles

open Lib

variable {V : NativeType → Type} (E : Env V)

/-! ## Freeing -/

/-- Freeing an object leaves it with the null pointer. -/
theorem free_exec {w : World V} (hw : Owned w) {k : Kind} {this : Ref} {a : ℕ}
    (hp : w.pointer k this = some a) :
    ∃ w', (free k this).exec w = (.ok (), w') ∧ w'.pointer k this = some 0 := by
  obtain ⟨convention, hfree⟩ := free_eq_freeObject (V := V) k this
  rw [hfree]
  by_cases ha : a = 0
  · subst ha
    refine ⟨w, ?_, hp⟩
    unfold freeObject
    rw [Program.exec_bind_ok (receiver_exec hp)]
    rfl
  · obtain ⟨i, rfl, hpointer⟩ := World.pointer_some hp
    refine ⟨_, freeObject_exec hw convention hpointer ha, ?_⟩
    have hlt : i < (w.store.fields k).length := (List.getElem?_eq_some_iff.mp hpointer).1
    simp [World.pointer, Store.pointer, Store.clear, Store.drop, hlt]

theorem free_exec_none {w : World V} {k : Kind} {this : Ref} (hp : w.pointer k this = none) :
    (free k this).exec w = (.error (.exception .nullPointer), w) := by
  obtain ⟨convention, hfree⟩ := free_eq_freeObject (V := V) k this
  rw [hfree]
  unfold freeObject
  exact Program.exec_bind_error (receiver_exec_none hp)

/-- An object without a box stays one. -/
theorem Evolves.pointer_zero {writes closes : List (Kind × Ref)} {w w' : World V}
    (h : Evolves writes closes w w') {k : Kind} {r : Ref} (hp : w.pointer k r = some 0) :
    w'.pointer k r = some 0 := by
  obtain ⟨i, rfl, hpointer⟩ := World.pointer_some hp
  exact h.store.pointer_zero hpointer

/-- What a call does to the objects there are, when it closes those of a list. -/
structure Effect (writes closes : List (Kind × Ref)) (w w' : World V) : Prop where
  owned : Owned w'
  evolves : Evolves writes closes w w'
  closed : ∀ n ∈ closes, (w.pointer n.1 n.2).isSome → w'.pointer n.1 n.2 = some 0

/-- One object is freed and then another, unless the first is null. -/
theorem free_free_effect {w : World V} (hw : Owned w) (k₁ k₂ : Kind) (r₁ r₂ : Ref) :
    Effect [] ((k₁, r₁) :: if (w.pointer k₁ r₁).isSome then [(k₂, r₂)] else []) w
        ((free k₁ r₁ >>= fun _ => free k₂ r₂ : JavaCall V Unit).exec w).2 ∧
      NothingNew w ((free k₁ r₁ >>= fun _ => free k₂ r₂ : JavaCall V Unit).exec w).2 := by
  rcases hp : w.pointer k₁ r₁ with _ | a
  · rw [Program.exec_bind_error (free_exec_none hp)]
    refine ⟨⟨hw, Evolves.refl w, ?_⟩, NothingNew.refl w⟩
    intro n hn hsome
    simp only [Option.isSome_none, Bool.false_eq_true, if_false, List.mem_singleton] at hn
    rw [hn, hp] at hsome
    cases hsome
  · simp only [Option.isSome_some, if_true]
    have hfirst : Prepares [] [(k₁, r₁), (k₂, r₂)] (free k₁ r₁ : JavaCall V Unit) :=
      prepares_free (by simp)
    have hsecond : Prepares [] [(k₁, r₁), (k₂, r₂)] (free k₂ r₂ : JavaCall V Unit) :=
      prepares_free (by simp)
    obtain ⟨howned, hevolves, hnew⟩ := hfirst.bind (fun _ => hsecond) w hw
    refine ⟨⟨howned, hevolves, ?_⟩, hnew⟩
    obtain ⟨w₁, hrun₁, hzero₁⟩ := free_exec hw hp
    obtain ⟨howned₁, hevolves₁, -⟩ := hfirst w hw
    obtain ⟨-, hevolves₂, -⟩ := hsecond _ howned₁
    rw [hrun₁] at howned₁ hevolves₁ hevolves₂
    rw [Program.exec_bind_ok hrun₁]
    intro n hn hsome
    rcases List.mem_cons.mp hn with rfl | hn
    · exact hevolves₂.pointer_zero hzero₁
    · rw [List.mem_singleton.mp hn] at hsome ⊢
      have hsome₁ : (w₁.pointer k₂ r₂).isSome := by
        obtain ⟨b, hb⟩ := Option.isSome_iff_exists.mp hsome
        obtain ⟨j, rfl, hpointer⟩ := World.pointer_some hb
        exact hevolves₁.store.isSome_pointer (by rw [hpointer]; rfl)
      obtain ⟨b, hb⟩ := Option.isSome_iff_exists.mp hsome₁
      obtain ⟨w₂, hrun₂, hzero₂⟩ := free_exec howned₁ hb
      rw [hrun₂]
      exact hzero₂

/-- Closing a composite object closes the parts that are reached, and makes
nothing. -/
theorem closePair_effect {w : World V} (hw : Owned w) (p : PairKind) (this : Ref) :
    Effect [] (closedParts w p this) w ((closePair p this).exec w).2 ∧
      NothingNew w ((closePair p this).exec w).2 := by
  unfold closePair pairFields closedParts
  rw [bind_assoc, Program.exec_look_bind]
  rcases (this.bind fun i => (w.pairs p)[i]? : Option (Ref × Ref)) with _ | ⟨first, second⟩
  · exact ⟨⟨hw, Evolves.refl w, nofun⟩, NothingNew.refl w⟩
  · cases p with
    | schnorrKeyPair | vrfKeyPair | vrfProveResult => exact free_free_effect hw _ _ _ _

/-! ## The hash of a list -/

/-- What is said of objects there are not does not matter. -/
theorem Evolves.mono {writes closes writes' closes' : List (Kind × Ref)} {w w' : World V}
    (h : Evolves writes closes w w')
    (hwrites : ∀ n ∈ writes, (w.pointer n.1 n.2).isSome → n ∈ writes')
    (hcloses : ∀ n ∈ closes, (w.pointer n.1 n.2).isSome → n ∈ closes') :
    Evolves writes' closes' w w' :=
  ⟨h.store.mono (fun _ _ hsome hmem => hwrites _ hmem hsome)
    fun _ _ hsome hmem => hcloses _ hmem hsome, h.pairs⟩

/-- The object that comes next is not there yet. -/
theorem pointer_next (w : World V) (k : Kind) :
    w.pointer k (some (w.store.fields k).length) = none :=
  List.getElem?_eq_none (Nat.le_refl _)

/-- A footprint of an object that was not there. -/
theorem Evolves.ofNew {writes closes : List (Kind × Ref)} {w w₁ w₂ : World V} {k : Kind}
    (h₁ : Evolves [] [] w w₁) (h₂ : Evolves writes closes w₁ w₂)
    (hwrites : ∀ n ∈ writes, n = (k, some (w.store.fields k).length))
    (hcloses : ∀ n ∈ closes, n = (k, some (w.store.fields k).length)) : Evolves [] [] w w₂ := by
  have hnext : ∀ n : Kind × Ref, n = (k, some (w.store.fields k).length) →
      ¬ (w.pointer n.1 n.2).isSome := by
    rintro _ rfl
    simp [pointer_next]
  refine (Evolves.trans (h₁.mono nofun nofun) h₂).mono ?_ ?_
  · intro n hn hsome
    exact absurd hsome (hnext n (hwrites n hn))
  · intro n hn hsome
    exact absurd hsome (hnext n (hcloses n hn))

/-- A world with a new hash object. -/
def withDigest (w : World V) (a : ℕ) (h : V .fieldHash) : World V :=
  { w with ticks := w.ticks + 1, store := w.store.adopt .poseidonHash a ⟨.fieldHash, h⟩ }

theorem withDigest_owned {w : World V} (hw : Owned w) {a : ℕ} (h : V .fieldHash) (ha : a ≠ 0)
    (hfree : w.store.heap a = none) : Owned (withDigest w a h) :=
  Store.Owned.adopt hw ha hfree rfl

theorem withDigest_pointer (w : World V) (a : ℕ) (h : V .fieldHash) :
    (withDigest w a h).store.pointer .poseidonHash (w.store.fields .poseidonHash).length
      = some a :=
  Store.pointer_addObject.mpr (.inr ⟨rfl, rfl, rfl⟩)

theorem withDigest_evolves {w : World V} (hw : Owned w) {a : ℕ} (h : V .fieldHash)
    (hfree : w.store.heap a = none) : Evolves [] [] w (withDigest w a h) :=
  ⟨Store.evolves_adopt _ _ hw _ hfree, fun _ => List.prefix_refl _⟩

/-- Everything that making the hash object can come to. -/
theorem newDigest_cases (inputSize : Int32) (w : World V) :
    (∃ e, (PoseidonHash.getInstanceConstantLength E inputSize (some [])).exec w =
        (.error (.exception e), w))
    ∨ (PoseidonHash.getInstanceConstantLength E inputSize (some [])).exec w =
        (.error .abort, { w with ticks := w.ticks + 1 })
    ∨ ∃ a h, a ≠ 0 ∧ w.store.heap a = none ∧
        (PoseidonHash.getInstanceConstantLength E inputSize (some [])).exec w =
          (.ok (some (w.store.fields .poseidonHash).length), withDigest w a h) := by
  have hnew := newDigest_exec E inputSize w
  rcases hlib : E.getPoseidonHashConstantLength inputSize.toInt64.toUInt64 none with e | h
  · obtain ⟨thrown, hthrow⟩ := native_error e
    rw [hlib, hthrow] at hnew
    exact .inl ⟨thrown, hnew⟩
  · rw [hlib] at hnew
    rcases returnJobject_cases E.malloc .poseidonHash h w with ⟨-, hrun⟩ | ⟨a, ha, hfree, hrun⟩
    · exact .inr (.inl (hnew.trans hrun))
    · exact .inr (.inr ⟨a, h, ha, hfree, hnew.trans hrun⟩)

/-- The loop over the elements, and the result. -/
def hashAll (digest : Ref) (inputs : List Ref) : JavaCall V Ref :=
  PoseidonHash.updateAll E digest inputs >>= fun _ => PoseidonHash.finalizeHash E digest

theorem computePoseidonHash_eq (inputs : List Ref) :
    PoseidonHash.computePoseidonHash E inputs =
      PoseidonHash.getInstanceConstantLength E (Int32.ofNat inputs.length) (some []) >>=
        fun digest => hashAll E digest inputs >>= fun hashOutput =>
          free .poseidonHash digest >>= fun _ => pure hashOutput := by
  unfold PoseidonHash.computePoseidonHash hashAll
  simp only [bind_assoc]

theorem prepares_updateAll {closes : List (Kind × Ref)} (digest : Ref) :
    ∀ inputs : List Ref,
      Prepares [(.poseidonHash, digest)] closes (PoseidonHash.updateAll E digest inputs)
  | [] => (looks_pure ()).prepares
  | fe :: inputs =>
      (prepares_update E fe (List.mem_singleton.mpr rfl)).bind fun _ =>
        prepares_updateAll digest inputs

theorem hashAll_atomic {closes : List (Kind × Ref)} (digest : Ref) (inputs : List Ref) :
    Atomic [(.poseidonHash, digest)] closes (hashAll E digest inputs) :=
  (prepares_updateAll E digest inputs).andThen fun _ => finalizeHash_atomic E digest

/-- The hash object of `computePoseidonHash` is new, so what happens to it is
nobody else's business. -/
theorem computePoseidonHash_evolves {w : World V} (hw : Owned w) (inputs : List Ref) :
    Evolves [] [] w ((PoseidonHash.computePoseidonHash E inputs).exec w).2 := by
  rw [computePoseidonHash_eq]
  rcases newDigest_cases E (Int32.ofNat inputs.length) w with
    ⟨e, hrun⟩ | hrun | ⟨a, h, ha, hfree, hrun⟩
  · rw [Program.exec_bind_error hrun]
    exact Evolves.refl w
  · rw [Program.exec_bind_error hrun]
    exact ⟨.refl _ _ _, fun _ => List.prefix_refl _⟩
  · rw [Program.exec_bind_ok hrun]
    have hrest : Program.Moves Owned
        (Evolves [(.poseidonHash, some (w.store.fields .poseidonHash).length)]
          [(.poseidonHash, some (w.store.fields .poseidonHash).length)])
        (hashAll E (some (w.store.fields .poseidonHash).length) inputs >>= fun hashOutput =>
          free .poseidonHash (some (w.store.fields .poseidonHash).length) >>= fun _ =>
            pure hashOutput) := by
      refine Program.moves_bind Evolves.trans (hashAll_atomic E _ inputs).moves fun _ => ?_
      refine (Prepares.andThen (prepares_free (List.mem_singleton.mpr rfl)) ?_).moves
      exact fun _ => (looks_pure _).atomic
    exact (withDigest_evolves hw h hfree).ofNew (hrest _ (withDigest_owned hw h ha hfree)).2
      (fun _ => List.mem_singleton.mp) fun _ => List.mem_singleton.mp

/-- One hash object has come up, with its box. -/
structure OneHashMore (w w' : World V) : Prop where
  fields : ∀ k, (w'.store.fields k).length =
    (w.store.fields k).length + if k = .poseidonHash then 1 else 0
  box : ∃ a, a ≠ 0 ∧ w.store.heap a = none ∧ (w'.store.heap a).isSome ∧
    w'.pointer .poseidonHash (some (w.store.fields .poseidonHash).length) = some a ∧
    ∀ a', a' ≠ a → w.store.heap a' = none → w'.store.heap a' = none
  pairs : w'.pairs = w.pairs

theorem withDigest_oneMore {w : World V} {a : ℕ} {h : V .fieldHash} (ha : a ≠ 0)
    (hfree : w.store.heap a = none) {w' : World V}
    (hevolves : Evolves [(.poseidonHash, some (w.store.fields .poseidonHash).length)] []
      (withDigest w a h) w') (howned : Owned w') (hnew : NothingNew (withDigest w a h) w') :
    OneHashMore w w' where
  fields := by
    intro k
    rw [hnew.fields k]
    by_cases hk : k = .poseidonHash
    · subst hk
      simp [withDigest, Store.adopt, Store.addObject, Store.write]
    · simp [withDigest, Store.adopt, Store.addObject, Store.write, hk]
  box := by
    have hkept : w'.store.pointer .poseidonHash (w.store.fields .poseidonHash).length = some a := by
      rcases hevolves.store.pointer _ _ a (withDigest_pointer w a h) with hkept | ⟨hclosed, -⟩
      · exact hkept
      · cases hclosed
    obtain ⟨b, hb, -⟩ := howned.live _ _ a hkept ha
    refine ⟨a, ha, hfree, by rw [hb]; rfl, hkept, ?_⟩
    intro a' hne hnone
    exact hnew.heap a' ((Function.update_of_ne hne _ _).trans hnone)
  pairs := hnew.pairs

/-- If `computePoseidonHash` throws, its hash object was not made or is left
behind. -/
theorem computePoseidonHash_throws {w : World V} (hw : Owned w) {inputs : List Ref}
    {e : JavaException}
    (hthrow : ((PoseidonHash.computePoseidonHash E inputs).exec w).1 = .error (.exception e)) :
    NothingNew w ((PoseidonHash.computePoseidonHash E inputs).exec w).2 ∨
      OneHashMore w ((PoseidonHash.computePoseidonHash E inputs).exec w).2 := by
  rw [computePoseidonHash_eq] at hthrow ⊢
  rcases newDigest_cases E (Int32.ofNat inputs.length) w with
    ⟨e', hrun⟩ | hrun | ⟨a, h, ha, hfree, hrun⟩
  · rw [Program.exec_bind_error hrun]
    exact .inl (NothingNew.refl w)
  · rw [Program.exec_bind_error hrun] at hthrow
    cases hthrow
  · rw [Program.exec_bind_ok hrun] at hthrow ⊢
    have hatomic : Atomic [(.poseidonHash, some (w.store.fields .poseidonHash).length)] []
        (hashAll E (some (w.store.fields .poseidonHash).length) inputs) :=
      hashAll_atomic E _ inputs
    obtain ⟨howned, hevolves, hquiet⟩ := hatomic _ (withDigest_owned hw h ha hfree)
    rcases hall : (hashAll E (some (w.store.fields .poseidonHash).length) inputs).exec
      (withDigest w a h) with ⟨halt | hashOutput, w'⟩
    · rw [hall] at howned hevolves hquiet
      rw [Program.exec_bind_error hall] at hthrow ⊢
      have hnew := hquiet _ ⟨e, rfl⟩ hthrow
      exact .inr (withDigest_oneMore ha hfree hevolves howned hnew)
    · -- the object is there to be freed, so nothing is thrown any more
      rw [hall] at howned hevolves
      rw [Program.exec_bind_ok hall] at hthrow
      have hpointer : w'.pointer .poseidonHash (some (w.store.fields .poseidonHash).length)
          = some a := by
        rcases hevolves.store.pointer _ _ a (withDigest_pointer w a h) with hkept | ⟨hclosed, -⟩
        · exact hkept
        · cases hclosed
      obtain ⟨w'', hfreed, -⟩ := free_exec howned hpointer
      rw [Program.exec_bind_ok hfreed] at hthrow
      cases hthrow

/-! ## One operation -/

/-- Every operation keeps to its footprint and makes nothing before it throws.
The two that do more than one thing to an object are treated above. -/
theorem step_atomic (op : Op) (hhash : ∀ inputs, op ≠ .computePoseidonHash inputs)
    (hpair : ∀ p this, op ≠ .closePair p this) (w : World V) :
    Atomic op.writes (op.closes w) (step E op) := by
  cases op with
  | computePoseidonHash inputs => exact absurd rfl (hhash inputs)
  | closePair p this => exact absurd rfl (hpair p this)
  | serialize k this compressed => exact (serialize_atomic E k this compressed).map _
  | deserialize k bytes check compressed =>
      exact (deserialize_atomic E k bytes check compressed).map _
  | free k this => exact (prepares_free (List.mem_singleton.mpr rfl)).atomic
  | newPair p first second => exact (makes_newPair p first second).atomic.map _
  | pairParts p this => exact (looks_pairFields p this).atomic.map _
  | fieldElementFromLong value => exact (makes_returnObject E .fieldElement _).atomic.map _
  | fieldElementRandom seed => exact (makes_returnObject E .fieldElement _).atomic.map _
  | fieldElementPrint this =>
      exact query_atomic fun _ => ((looks_native _).bind fun _ => looks_pure ()).atomic
  | fieldElementEquals this o => exact (equals_atomic E this o).map _
  | schnorrVerifySignature this signature message =>
      exact (verifySignature_atomic E this signature message).map _
  | schnorrVerifyKey this => exact (query_atomic fun _ => (looks_native _).atomic).map _
  | schnorrGetPublicKey this => exact (schnorrGetPublicKey_atomic E this).map _
  | schnorrNewSignature => exact (makes_newNullObject .schnorrSignature).atomic.map _
  | schnorrIsValidSignature this => exact (query_atomic fun _ => (looks_native _).atomic).map _
  | schnorrKeyPairOfSecretKey secretKey =>
      exact ((schnorrGetPublicKey_atomic E secretKey).andThen fun publicKey =>
        makes_newPair .schnorrKeyPair secretKey publicKey).map _
  | schnorrGenerate => exact (schnorrGenerate_atomic E).map _
  | schnorrSignMessage this message => exact (signMessage_atomic E this message).map _
  | vrfVerifyKey this => exact (query_atomic fun _ => (looks_native _).atomic).map _
  | vrfProofToHash this proof message => exact (proofToHash_atomic E this proof message).map _
  | vrfGetPublicKey this => exact (vrfGetPublicKey_atomic E this).map _
  | vrfIsValidProof this => exact (query_atomic fun _ => (looks_native _).atomic).map _
  | vrfKeyPairOfSecretKey secretKey =>
      exact ((vrfGetPublicKey_atomic E secretKey).andThen fun publicKey =>
        makes_newPair .vrfKeyPair secretKey publicKey).map _
  | vrfGenerate => exact (vrfGenerate_atomic E).map _
  | vrfProve this message => exact (prove_atomic E this message).map _
  | poseidonConstantLength inputSize personalization =>
      exact (getInstanceConstantLength_atomic E inputSize personalization).map _
  | poseidonVariableLength modRate personalization =>
      exact (getInstanceVariableLength_atomic E modRate personalization).map _
  | poseidonUpdate this input =>
      exact (prepares_update E input (List.mem_singleton.mpr rfl)).atomic
  | poseidonFinalize this => exact (finalizeHash_atomic E this).map _
  | poseidonReset this personalization =>
      exact (prepares_reset E personalization (List.mem_singleton.mpr rfl)).atomic
  | merkleInit height processingStep =>
      exact (returnResult_atomic E .inMemoryOptimizedMerkleTree _).map _
  | merkleAppend this input => exact (append_atomic E input (List.mem_singleton.mpr rfl)).map _
  | merkleFinalize this => exact (finalizeTree_atomic E this).map _
  | merkleFinalizeInPlace this =>
      exact (finalizeTreeInPlace_atomic E (List.mem_singleton.mpr rfl)).map _
  | merkleRoot this => exact (root_atomic E this).map _
  | merkleGetPath this leafIndex => exact (getMerklePath_atomic E this leafIndex).map _
  | merkleReset this => exact merkleReset_atomic E (List.mem_singleton.mpr rfl)
  | pathVerify this merkleTreeHeight leaf root =>
      exact (verifyMethod_atomic E this leaf root _).map _
  | pathVerifyWithoutLengthCheck this leaf root =>
      exact (verifyMethod_atomic E this leaf root _).map _
  | pathApply this leaf => exact (apply_atomic E this leaf).map _
  | pathIsLeftmost this => exact (pathQuery_atomic this _).map _
  | pathIsRightmost this => exact (pathQuery_atomic this _).map _
  | pathAreRightLeavesEmpty this => exact (pathQuery_atomic this _).map _
  | pathLeafIndex this => exact (pathQuery_atomic this _).map _
  | treeInit => exact (makes_returnObject E .commitmentTree _).atomic.map _
  | treeAddScCr this args => exact (nativeAdd_atomic _ _ args _ (List.mem_singleton.mpr rfl)).map _
  | treeAddFwt this args => exact (nativeAdd_atomic _ _ args _ (List.mem_singleton.mpr rfl)).map _
  | treeAddBtr this args => exact (nativeAdd_atomic _ _ args _ (List.mem_singleton.mpr rfl)).map _
  | treeAddCert this args => exact (nativeAdd_atomic _ _ args _ (List.mem_singleton.mpr rfl)).map _
  | treeAddCsw this args => exact (nativeAdd_atomic _ _ args _ (List.mem_singleton.mpr rfl)).map _
  | treeNativeAddCertLeaf this scId leaf =>
      exact (nativeAddCertLeaf_atomic E scId leaf (List.mem_singleton.mpr rfl)).map _
  | treeAddCertLeaf this scId leaf =>
      exact ((looks_checkNotFreed .commitmentTree this _).andThen fun _ =>
        nativeAddCertLeaf_atomic E scId leaf (List.mem_singleton.mpr rfl)).map _
  | treeGetCrtLeaves this scId =>
      exact (getCrtLeaves_atomic E scId (List.mem_singleton.mpr rfl)).map _
  | treeGetScCrCommitment this scId | treeGetFwtCommitment this scId
  | treeGetBtrCommitment this scId | treeGetCertCommitment this scId
  | treeGetCswCommitment this scId | treeGetScCommitment this scId
  | treeGetScExistenceProof this scId | treeGetScAbsenceProof this scId =>
      exact (queryTree_atomic E _ _ scId (List.mem_singleton.mpr rfl)).map _
  | treeGetCommitment this => exact (getCommitment_atomic E (List.mem_singleton.mpr rfl)).map _
  | treeVerifyScCommitment scCommitment existenceProof commitment =>
      exact (verifyScCommitment_atomic E scCommitment existenceProof commitment).map _
  | treeVerifyScAbsence scId absenceProof commitment =>
      exact (verifyScAbsence_atomic E scId absenceProof commitment).map _
  | getConstant schnorrPublicKeys threshold =>
      exact (getConstant_atomic E schnorrPublicKeys threshold).map _
  | createMsgToSign args => exact (createMsgToSign_atomic E args).map _
  | createProof args sigs pks threshold path checkPk zk compressedPk compressProof =>
      exact (createProof_atomic E args sigs pks threshold path checkPk zk compressedPk
        compressProof).map _
  | verifyProof args constant quality proof checkProof path checkVk =>
      exact (verifyProof_atomic E args constant quality proof checkProof path checkVk).map _

/-- What one operation does to the objects there are. -/
theorem step_effect (op : Op) {w : World V} (hw : Owned w) :
    Effect op.writes (op.closes w) w ((step E op).exec w).2 := by
  by_cases hhash : ∃ inputs, op = .computePoseidonHash inputs
  · obtain ⟨inputs, rfl⟩ := hhash
    refine ⟨(step_safe E _ w hw).1, ?_, nofun⟩
    rw [step, discard, Program.exec_map]
    exact computePoseidonHash_evolves E hw inputs
  · by_cases hpair : ∃ p this, op = .closePair p this
    · obtain ⟨p, this, rfl⟩ := hpair
      exact (closePair_effect hw p this).1
    · obtain ⟨howned, hevolves, -⟩ := step_atomic E op (fun inputs heq => hhash ⟨inputs, heq⟩)
        (fun p this heq => hpair ⟨p, this, heq⟩) w w hw
      refine ⟨howned, hevolves, ?_⟩
      intro n hn hsome
      cases op with
      | free k this =>
          rw [List.mem_singleton.mp hn] at hsome ⊢
          obtain ⟨a, ha⟩ := Option.isSome_iff_exists.mp hsome
          obtain ⟨w', hrun, hzero⟩ := free_exec hw ha
          rw [step, hrun]
          exact hzero
      | closePair p this => exact absurd ⟨p, this, rfl⟩ hpair
      | _ => cases hn

/-- What an operation leaves behind that throws. -/
theorem step_throws (op : Op) {w : World V} (hw : Owned w) {e : JavaException}
    (hthrow : ((step E op).exec w).1 = .error (.exception e)) :
    NothingNew w ((step E op).exec w).2 ∨
      (∃ inputs, op = .computePoseidonHash inputs) ∧ OneHashMore w ((step E op).exec w).2 := by
  by_cases hhash : ∃ inputs, op = .computePoseidonHash inputs
  · obtain ⟨inputs, rfl⟩ := hhash
    rw [step, discard, Program.exec_map] at hthrow ⊢
    have hinner : ((PoseidonHash.computePoseidonHash E inputs).exec w).1
        = .error (.exception e) := by
      rcases hrun : ((PoseidonHash.computePoseidonHash E inputs).exec w).1 with halt | r
      · rw [hrun] at hthrow
        exact congrArg _ (Except.error.inj hthrow)
      · rw [hrun] at hthrow
        cases hthrow
    rcases computePoseidonHash_throws E hw hinner with hnew | hmore
    · exact .inl hnew
    · exact .inr ⟨⟨inputs, rfl⟩, hmore⟩
  · by_cases hpair : ∃ p this, op = .closePair p this
    · obtain ⟨p, this, rfl⟩ := hpair
      exact .inl (closePair_effect hw p this).2
    · obtain ⟨-, -, hquiet⟩ := step_atomic E op (fun inputs heq => hhash ⟨inputs, heq⟩)
        (fun p this heq => hpair ⟨p, this, heq⟩) w w hw
      exact .inl (hquiet _ ⟨e, rfl⟩ hthrow)

/-! ## Runs -/

/-- The world after some operations, from any world. -/
def runFrom (w : World V) (ops : List Op) : World V :=
  ops.foldl (fun w op => ((step E op).exec w).2) w

theorem run_append (before after : List Op) :
    run E (before ++ after) = runFrom E (run E before) after :=
  List.foldl_append

/-- An operation of the list closes the object. -/
def ClosedDuring (w : World V) (ops : List Op) (n : Kind × Ref) : Prop :=
  ∃ before op, before ++ [op] <+: ops ∧ n ∈ op.closes (runFrom E w before)

theorem not_closedDuring_nil (w : World V) (n : Kind × Ref) : ¬ ClosedDuring E w [] n := by
  rintro ⟨before, op, hprefix, -⟩
  simp at hprefix

theorem closedDuring_cons {w : World V} {op : Op} {ops : List Op} {n : Kind × Ref} :
    ClosedDuring E w (op :: ops) n ↔
      n ∈ op.closes w ∨ ClosedDuring E ((step E op).exec w).2 ops n := by
  constructor
  · rintro ⟨before, op', hprefix, hn⟩
    rcases before with _ | ⟨first, before⟩
    · obtain rfl : op' = op := (List.cons_prefix_cons.mp hprefix).1
      exact .inl hn
    · obtain ⟨rfl, hrest⟩ := List.cons_prefix_cons.mp hprefix
      exact .inr ⟨before, op', hrest, hn⟩
  · rintro (hn | ⟨before, op', hprefix, hn⟩)
    · exact ⟨[], op, List.cons_prefix_cons.mpr ⟨rfl, List.nil_prefix⟩, hn⟩
    · exact ⟨op :: before, op', List.cons_prefix_cons.mpr ⟨rfl, hprefix⟩, hn⟩

theorem runFrom_owned (ops : List Op) {w : World V} (hw : Owned w) : Owned (runFrom E w ops) :=
  foldl_owned E ops w hw

/-- The pointer of an object, and the box behind it, after some operations. -/
theorem history (ops : List Op) {w : World V} (hw : Owned w) {k : Kind} {i a : ℕ}
    (hp : w.store.pointer k i = some a) :
    ClosedDuring E w ops (k, some i) ∧ (runFrom E w ops).store.pointer k i = some 0 ∨
      ¬ ClosedDuring E w ops (k, some i) ∧ (runFrom E w ops).store.pointer k i = some a ∧
        (a ≠ 0 → (∀ op ∈ ops, (k, some i) ∉ op.writes) →
          (runFrom E w ops).store.heap a = w.store.heap a) := by
  induction ops generalizing w a with
  | nil => exact .inr ⟨not_closedDuring_nil E w _, hp, fun _ _ => rfl⟩
  | cons op ops ih =>
      obtain ⟨howned, hevolves, hclosed⟩ := step_effect E op hw
      rw [closedDuring_cons]
      by_cases hmem : (k, some i) ∈ op.closes w
      · have hzero : ((step E op).exec w).2.store.pointer k i = some 0 :=
          hclosed _ hmem (by show (w.store.pointer k i).isSome = true; rw [hp]; rfl)
        rcases ih howned hzero with ⟨-, hend⟩ | ⟨-, hend, -⟩
        · exact .inl ⟨.inl hmem, hend⟩
        · exact .inl ⟨.inl hmem, hend⟩
      · have hkept : ((step E op).exec w).2.store.pointer k i = some a := by
          rcases hevolves.store.pointer k i a hp with hkept | ⟨hcloses, -⟩
          · exact hkept
          · exact absurd hcloses hmem
        rcases ih howned hkept with ⟨hlater, hend⟩ | ⟨hnever, hend, hheap⟩
        · exact .inl ⟨.inr hlater, hend⟩
        · refine .inr ⟨?_, hend, ?_⟩
          · rintro (hnow | hlater)
            · exact hmem hnow
            · exact hnever hlater
          · intro ha hwrites
            rw [List.forall_mem_cons] at hwrites
            exact (hheap ha hwrites.2).trans (hevolves.store.box k i a hp ha hwrites.1 hkept)

/-- The classes whose values can change. -/
def mutableClass : Kind → Bool
  | .poseidonHash | .inMemoryOptimizedMerkleTree | .commitmentTree => true
  | _ => false

theorem mutableClass_of_writes {op : Op} {n : Kind × Ref} (h : n ∈ op.writes) :
    mutableClass n.1 = true := by
  cases op with
  | poseidonUpdate | poseidonReset | merkleAppend | merkleFinalizeInPlace | merkleReset
  | treeAddScCr | treeAddFwt | treeAddBtr | treeAddCert | treeAddCsw | treeNativeAddCertLeaf
  | treeAddCertLeaf | treeGetCrtLeaves | treeGetScCrCommitment | treeGetFwtCommitment
  | treeGetBtrCommitment | treeGetCertCommitment | treeGetCswCommitment | treeGetScCommitment
  | treeGetScExistenceProof | treeGetScAbsenceProof | treeGetCommitment =>
      rw [List.mem_singleton.mp h]
      rfl
  | _ => cases h

/-- A value is known by the pointer and the box behind it. -/
theorem valueOf_congr {w w' : World V} {k : Kind} {r : Ref}
    (hp : w'.pointer k r = w.pointer k r)
    (hb : ∀ a, w.pointer k r = some a → a ≠ 0 → w'.store.heap a = w.store.heap a) :
    valueOf w' k r = valueOf w k r := by
  unfold valueOf boxed
  rw [hp]
  rcases hpointer : w.pointer k r with _ | a
  · rfl
  · by_cases ha : a = 0
    · simp only [if_pos ha]
    · simp only [if_neg ha, hb a hpointer ha]

/-- An object keeps its pointer until it is closed, and has the null pointer ever
after. Its value changes only by the operations that write to it, which there
are for three of the classes. -/
theorem object_history (before after : List Op) {k : Kind} {r : Ref} {a : ℕ}
    (hp : (run E before).pointer k r = some a) :
    ClosedDuring E (run E before) after (k, r) ∧
        (run E (before ++ after)).pointer k r = some 0 ∨
      ¬ ClosedDuring E (run E before) after (k, r) ∧
        (run E (before ++ after)).pointer k r = some a ∧
        ((mutableClass k = true → ∀ op ∈ after, (k, r) ∉ op.writes) →
          valueOf (run E (before ++ after)) k r = valueOf (run E before) k r) := by
  obtain ⟨i, rfl, hpointer⟩ := World.pointer_some hp
  rw [run_append]
  rcases history E after (run_owned E before) hpointer with
    hclosed | ⟨hopen, hend, hheap⟩
  · exact .inl hclosed
  · refine .inr ⟨hopen, hend, ?_⟩
    intro hwrites
    refine valueOf_congr (hend.trans hpointer.symm) ?_
    intro a' ha' hne
    obtain rfl : a = a' := Option.some.inj (hp.symm.trans ha')
    refine hheap hne ?_
    intro op hop hmem
    exact hwrites (mutableClass_of_writes hmem) op hop hmem

/-- A second element leaves the first one where it is. -/
theorem object_history_two :
    (run unitEnv ([.fieldElementFromLong 1] ++ [.fieldElementFromLong 2])).pointer
      .fieldElement (some 0) = some 1 := by
  have hp : (run unitEnv [.fieldElementFromLong 1]).pointer .fieldElement (some 0) = some 1 := rfl
  rcases object_history unitEnv [.fieldElementFromLong 1] [.fieldElementFromLong 2] hp with
    ⟨⟨before, op, hprefix, hn⟩, -⟩ | ⟨-, hkept, -⟩
  · have hop : op ∈ [Op.fieldElementFromLong 2] := hprefix.subset (by simp)
    rw [List.mem_singleton.mp hop] at hn
    cases hn
  · exact hkept

/-! ## Exceptions -/

/-- Nothing is written, nothing closed and nothing made. -/
theorem store_unchanged {w w' : World V} (hw : Owned w) (h : Evolves [] [] w w')
    (hnew : NothingNew w w') :
    w'.store.heap = w.store.heap ∧ w'.store.fields = w.store.fields := by
  have hkept : ∀ k i a, w.store.pointer k i = some a → w'.store.pointer k i = some a := by
    intro k i a hp
    rcases h.store.pointer k i a hp with hkept | ⟨hcloses, -⟩
    · exact hkept
    · cases hcloses
  constructor
  · funext a
    rcases hb : w.store.heap a with _ | b
    · exact hnew.heap a hb
    · obtain ⟨k, i, hp⟩ := hw.owner a b hb
      rw [← hb]
      exact h.store.box k i a hp (hw.heap_ne_zero hb) nofun (hkept k i a hp)
  · funext k
    refine List.ext_getElem? ?_
    intro i
    rcases hp : (w.store.fields k)[i]? with _ | a
    · rw [List.getElem?_eq_none_iff] at hp ⊢
      rw [hnew.fields k]
      exact hp
    · exact hkept k i a hp

/-- An operation that throws has made no object and no box, but for
`computePoseidonHash`, which may leave one hash object behind. If it is one that
writes to no object and closes none, it leaves all objects and boxes as they
were. -/
theorem exception_safety (before : List Op) (op : Op) {e : JavaException}
    (hthrow : ((step E op).exec (run E before)).1 = .error (.exception e)) :
    (NothingNew (run E before) (run E (before ++ [op])) ∧
        (op.writes = [] → op.closes (run E before) = [] →
          (run E (before ++ [op])).store.heap = (run E before).store.heap ∧
            (run E (before ++ [op])).store.fields = (run E before).store.fields)) ∨
      (∃ inputs, op = .computePoseidonHash inputs) ∧
        OneHashMore (run E before) (run E (before ++ [op])) := by
  have hlast : run E (before ++ [op]) = ((step E op).exec (run E before)).2 := by
    rw [run_append]
    rfl
  have hw := run_owned E before
  rw [hlast]
  rcases step_throws E op hw hthrow with hnew | hmore
  · refine .inl ⟨hnew, ?_⟩
    intro hwrites hcloses
    have hevolves := (step_effect E op hw).evolves
    rw [hwrites, hcloses] at hevolves
    exact store_unchanged hw hevolves hnew
  · exact .inr hmore

/-- A freed element is printed. -/
theorem exception_safety_freed :
    (run unitEnv ([.fieldElementFromLong 1, .free .fieldElement (some 0)] ++
        [.fieldElementPrint (some 0)])).store.heap =
      (run unitEnv [.fieldElementFromLong 1, .free .fieldElement (some 0)]).store.heap := by
  have hthrow : ((step unitEnv (.fieldElementPrint (some 0))).exec
      (run unitEnv [.fieldElementFromLong 1, .free .fieldElement (some 0)])).1 =
        .error (.exception (.illegalState "Field element was freed.")) := rfl
  rcases exception_safety unitEnv _ _ hthrow with ⟨-, hsame⟩ | ⟨⟨inputs, hop⟩, -⟩
  · exact (hsame rfl rfl).1
  · cases hop

/-! ## The end of a program -/

/-- Operations that only free. -/
def OnlyFrees (ops : List Op) : Prop :=
  ∀ op ∈ ops, (∃ k r, op = .free k r) ∨ ∃ p r, op = .closePair p r

theorem runFrom_nothingNew {ops : List Op} (hfrees : OnlyFrees ops) {w : World V}
    (hw : Owned w) : NothingNew w (runFrom E w ops) := by
  induction ops generalizing w with
  | nil => exact NothingNew.refl w
  | cons op ops ih =>
      unfold OnlyFrees at hfrees ih
      rw [List.forall_mem_cons] at hfrees
      have hfirst : NothingNew w ((step E op).exec w).2 := by
        rcases hfrees.1 with ⟨k, r, rfl⟩ | ⟨p, r, rfl⟩
        · have hprepares : Prepares [] [(k, r)] (free k r : JavaCall V Unit) :=
            prepares_free (List.mem_singleton.mpr rfl)
          exact (hprepares w hw).2.2
        · exact (closePair_effect hw p r).2
      exact hfirst.trans (ih hfrees.2 (step_safe E op w hw).1)

/-- After a run and some freeing, no box is left if and only if the freeing closed
every object that was live. -/
theorem heap_empty_iff (ops frees : List Op) (hfrees : OnlyFrees frees) :
    (∀ a, (run E (ops ++ frees)).store.heap a = none) ↔
      ∀ k i a, (run E ops).pointer k (some i) = some a → a ≠ 0 →
        ClosedDuring E (run E ops) frees (k, some i) := by
  have hw := run_owned E ops
  have hend := runFrom_owned E frees hw
  rw [run_append]
  constructor
  · intro hempty k i a hp ha
    rcases history E frees hw hp with ⟨hclosed, -⟩ | ⟨-, hkept, -⟩
    · exact hclosed
    · obtain ⟨b, hb, -⟩ := hend.live k i a hkept ha
      rw [hempty a] at hb
      cases hb
  · intro hclosed a
    rcases hb : (runFrom E (run E ops) frees).store.heap a with _ | b
    · rfl
    · -- the owner of a box at the end was an object before the freeing
      obtain ⟨k, i, hp⟩ := hend.owner a b hb
      have ha := hend.heap_ne_zero hb
      have hlt : i < ((run E ops).store.fields k).length := by
        rw [← (runFrom_nothingNew E hfrees hw).fields k]
        exact (List.getElem?_eq_some_iff.mp hp).1
      have hbefore : (run E ops).store.pointer k i = some ((run E ops).store.fields k)[i] :=
        List.getElem?_eq_getElem hlt
      rcases history E frees hw hbefore with ⟨-, hzero⟩ | ⟨hopen, hkept, -⟩
      · rw [hp] at hzero
        exact absurd (Option.some.inj hzero) ha
      · rw [hp] at hkept
        rw [← Option.some.inj hkept] at hbefore
        exact absurd (hclosed k i a hbefore ha) hopen

/-- A key pair that is closed twice leaves nothing behind. With one of its keys
freed, the other one is left. -/
theorem heap_empty_iff_pair :
    (∀ a, (run unitEnv ([.schnorrGenerate] ++ [.closePair .schnorrKeyPair (some 0),
        .closePair .schnorrKeyPair (some 0)])).store.heap a = none) ∧
      ¬ ∀ a, (run unitEnv ([.schnorrGenerate] ++
        [.free .schnorrPublicKey (some 0)])).store.heap a = none := by
  have hpairs : OnlyFrees [.closePair .schnorrKeyPair (some 0),
      .closePair .schnorrKeyPair (some 0)] := by
    intro op hop
    simp only [List.mem_cons, List.not_mem_nil, or_false, or_self] at hop
    exact .inr ⟨_, _, hop⟩
  have hfree : OnlyFrees [.free .schnorrPublicKey (some 0)] := by
    intro op hop
    exact .inl ⟨_, _, List.mem_singleton.mp hop⟩
  constructor
  · refine (heap_empty_iff unitEnv [.schnorrGenerate] _ hpairs).mpr ?_
    intro k i a hp _
    refine ⟨[], .closePair .schnorrKeyPair (some 0), by simp, ?_⟩
    -- only the two classes of the pair have an object, and one each
    have hkey : (k, i) = (.schnorrPublicKey, 0) ∨ (k, i) = (.schnorrSecretKey, 0) := by
      cases k with
      | schnorrPublicKey =>
          cases i with
          | zero => exact .inl rfl
          | succ i => cases hp
      | schnorrSecretKey =>
          cases i with
          | zero => exact .inr rfl
          | succ i => cases hp
      | _ => cases hp
    rcases hkey with heq | heq
    · cases heq
      exact List.mem_cons_self
    · cases heq
      exact List.mem_cons_of_mem _ List.mem_cons_self
  · intro hempty
    obtain ⟨before, op, hprefix, hmem⟩ := (heap_empty_iff unitEnv [.schnorrGenerate] _ hfree).mp
      hempty .schnorrSecretKey 0 2 rfl (by decide)
    have hop : op ∈ [Op.free .schnorrPublicKey (some 0)] := hprefix.subset (by simp)
    rw [List.mem_singleton.mp hop] at hmem
    simp [Op.closes] at hmem

end ZendooSc.Handles
