/-
ZendooSc.Handles.Runs — the handle protocol over whole runs.

A run is a list of operations, from a world without objects. An abort ends the
process, so the states after one are reached by no program. They are covered all
the same.

`HandleProtocol` is what is asked of a run: in every state the live boxes have
one owner each and the pointer fields are null or point to live boxes, no step
runs into undefined behaviour, and a step that needs the value of a freed object
ends in an exception and leaves the boxes alone.

Ownership and the absence of undefined behaviour hold of every run (`run_owned`,
`step_safe`). The last demand fails for one operation. `computePoseidonHash`
creates a hash object and frees it at its end, with no `finally` around what is
in between, so a freed argument leaves the box of that object behind.
`handleProtocol_iff` says that there is nothing else.
-/
import ZendooSc.Handles.OperationTheorems

namespace ZendooSc.Handles

open Lib

variable {V : NativeType → Type} (E : Env V)

/-! ## Steps -/

/-- Every operation but `computePoseidonHash` follows the protocol. -/
theorem step_protocol (op : Op) (hop : ∀ inputs, op ≠ .computePoseidonHash inputs) :
    Protocol (fun w => op.needs w) (step E op) := by
  cases op with
  | computePoseidonHash inputs => exact absurd rfl (hop inputs)
  | serialize k this compressed => exact (serialize_protocol E k this compressed).map _
  | deserialize k bytes check compressed =>
      exact Protocol.ofSafe ((deserialize_safe E k bytes check compressed).map _)
  | free k this => exact Protocol.ofSafe (free_safe k this)
  | newPair p first second => exact Protocol.ofSafe ((safe_newPair p first second).map _)
  | pairParts p this => exact Protocol.ofSafe ((looks_pairFields p this).safe.map _)
  | closePair p this => exact Protocol.ofSafe (closePair_safe p this)
  | fieldElementFromLong value =>
      exact Protocol.ofSafe ((safe_returnObject E .fieldElement _).map _)
  | fieldElementRandom seed =>
      exact Protocol.ofSafe ((safe_returnObject E .fieldElement _).map _)
  | fieldElementPrint this => exact printFieldElementBytes_protocol E this
  | fieldElementEquals this o => exact (equals_protocol E this o).map _
  | schnorrVerifySignature this signature message =>
      exact (verifySignature_protocol E this signature message).map _
  | schnorrVerifyKey this => exact (schnorrVerifyKey_protocol E this).map _
  | schnorrGetPublicKey this => exact (schnorrGetPublicKey_protocol E this).map _
  | schnorrNewSignature =>
      exact Protocol.ofSafe ((safe_newNullObject .schnorrSignature).map _)
  | schnorrIsValidSignature this => exact (isValidSignature_protocol E this).map _
  | schnorrKeyPairOfSecretKey secretKey => exact (schnorrOfSecretKey_protocol E secretKey).map _
  | schnorrGenerate => exact Protocol.ofSafe ((schnorrGenerate_safe E).map _)
  | schnorrSignMessage this message => exact (signMessage_protocol E this message).map _
  | vrfVerifyKey this => exact (vrfVerifyKey_protocol E this).map _
  | vrfProofToHash this proof message => exact (proofToHash_protocol E this proof message).map _
  | vrfGetPublicKey this => exact (vrfGetPublicKey_protocol E this).map _
  | vrfIsValidProof this => exact (isValidVRFProof_protocol E this).map _
  | vrfKeyPairOfSecretKey secretKey => exact (vrfOfSecretKey_protocol E secretKey).map _
  | vrfGenerate => exact Protocol.ofSafe ((vrfGenerate_safe E).map _)
  | vrfProve this message => exact (prove_protocol E this message).map _
  | poseidonConstantLength inputSize personalization =>
      exact ((getInstanceConstantLength_protocol E inputSize personalization).weaken
        fun _ => List.subset_append_left _ _).map _
  | poseidonVariableLength modRate personalization =>
      exact ((getInstanceVariableLength_protocol E modRate personalization).weaken
        fun _ => List.subset_append_left _ _).map _
  | poseidonUpdate this input => exact update_protocol E this input
  | poseidonFinalize this => exact (finalizeHash_protocol E this).map _
  | poseidonReset this personalization =>
      exact (poseidonReset_protocol E this personalization).weaken
        fun _ => List.cons_subset_cons _ (List.subset_append_left _ _)
  | merkleInit height processingStep =>
      exact Protocol.ofSafe ((merkleInit_safe E height processingStep).map _)
  | merkleAppend this input => exact (append_protocol E this input).map _
  | merkleFinalize this => exact (finalizeTree_protocol E this).map _
  | merkleFinalizeInPlace this => exact (finalizeTreeInPlace_protocol E this).map _
  | merkleRoot this => exact (root_protocol E this).map _
  | merkleGetPath this leafIndex => exact (getMerklePath_protocol E this leafIndex).map _
  | merkleReset this => exact merkleReset_protocol E this
  | pathVerify this merkleTreeHeight leaf root =>
      exact (verifyMethod_protocol E this leaf root _).map _
  | pathVerifyWithoutLengthCheck this leaf root =>
      exact (verifyMethod_protocol E this leaf root _).map _
  | pathApply this leaf => exact (apply_protocol E this leaf).map _
  | pathIsLeftmost this => exact (pathQuery_protocol this _).map _
  | pathIsRightmost this => exact (pathQuery_protocol this _).map _
  | pathAreRightLeavesEmpty this => exact (pathQuery_protocol this _).map _
  | pathLeafIndex this => exact (pathQuery_protocol this _).map _
  | treeInit => exact Protocol.ofSafe ((safe_returnObject E .commitmentTree _).map _)
  | treeAddScCr this args => exact (nativeAdd_protocol _ _ this args _).map _
  | treeAddFwt this args => exact (nativeAdd_protocol _ _ this args _).map _
  | treeAddBtr this args => exact (nativeAdd_protocol _ _ this args _).map _
  | treeAddCert this args => exact (nativeAdd_protocol _ _ this args _).map _
  | treeAddCsw this args => exact (nativeAdd_protocol _ _ this args _).map _
  | treeNativeAddCertLeaf this scId leaf =>
      exact (nativeAddCertLeaf_protocol E this scId leaf).map _
  | treeAddCertLeaf this scId leaf => exact (addCertLeaf_protocol E this scId leaf).map _
  | treeGetCrtLeaves this scId => exact (getCrtLeaves_protocol E this scId).map _
  | treeGetScCrCommitment this scId => exact (queryTree_protocol E _ _ this scId).map _
  | treeGetFwtCommitment this scId => exact (queryTree_protocol E _ _ this scId).map _
  | treeGetBtrCommitment this scId => exact (queryTree_protocol E _ _ this scId).map _
  | treeGetCertCommitment this scId => exact (queryTree_protocol E _ _ this scId).map _
  | treeGetCswCommitment this scId => exact (queryTree_protocol E _ _ this scId).map _
  | treeGetScCommitment this scId => exact (queryTree_protocol E _ _ this scId).map _
  | treeGetScExistenceProof this scId => exact (queryTree_protocol E _ _ this scId).map _
  | treeGetScAbsenceProof this scId => exact (queryTree_protocol E _ _ this scId).map _
  | treeGetCommitment this => exact (getCommitment_protocol E this).map _
  | treeVerifyScCommitment scCommitment existenceProof commitment =>
      exact (verifyScCommitment_protocol E scCommitment existenceProof commitment).map _
  | treeVerifyScAbsence scId absenceProof commitment =>
      exact (verifyScAbsence_protocol E scId absenceProof commitment).map _
  | getConstant schnorrPublicKeys threshold =>
      exact ((getConstant_protocol E schnorrPublicKeys threshold).weaken
        fun _ => List.subset_append_left _ _).map _
  | createMsgToSign args => exact (createMsgToSign_protocol E args).map _
  | createProof args sigs pks threshold path checkPk zk compressedPk compressProof =>
      exact (createProof_protocol E args sigs pks threshold path checkPk zk compressedPk
        compressProof).map _
  | verifyProof args constant quality proof checkProof path checkVk =>
      exact (verifyProof_protocol E args constant quality proof checkProof path checkVk).map _

/-- Every operation keeps the ownership discipline. -/
theorem step_safe (op : Op) : Safe (step E op) := by
  by_cases hop : ∃ inputs, op = .computePoseidonHash inputs
  · obtain ⟨inputs, rfl⟩ := hop
    exact (computePoseidonHash_safe E inputs).map _
  · exact (step_protocol E op fun inputs heq => hop ⟨inputs, heq⟩).safe

/-! ## The hash object that stays behind -/

/-- The objects are as before, and every live box still is. -/
structure KeepsBoxes (w w' : World V) : Prop where
  fields : w'.store.fields = w.store.fields
  live : ∀ a, (w.store.heap a).isSome → (w'.store.heap a).isSome

theorem KeepsBoxes.refl (w : World V) : KeepsBoxes w w := ⟨rfl, fun _ h => h⟩

theorem KeepsBoxes.trans {w w' w'' : World V} (h : KeepsBoxes w w') (h' : KeepsBoxes w' w'') :
    KeepsBoxes w w'' :=
  ⟨h'.fields.trans h.fields, fun a ha => h'.live a (h.live a ha)⟩

theorem KeepsBoxes.freed {w w' : World V} (h : KeepsBoxes w w') {n : Kind × Ref}
    (hn : Freed w n) : Freed w' n := by
  unfold Freed World.pointer Store.pointer at hn ⊢
  rw [h.fields]
  exact hn

/-- Writing through `&mut` frees nothing. -/
theorem modifying_keepsBoxes {α : Type} {w : World V} (hw : Owned w) (k : Kind) (r : Ref)
    (f : Program (V k.nativeType) Panic α) : KeepsBoxes w ((modifying k r f).exec w).2 := by
  rcases modifying_cases hw k r f with ⟨e, hrun⟩ | ⟨i, a, v, -, hp, ha, hrun⟩
  · rw [hrun]
    exact KeepsBoxes.refl w
  · have hwritten : Owned { w with store := w.store.write a ⟨k.nativeType, (f.exec v).2⟩ } :=
      Store.Owned.write hw hp ha rfl
    rw [hrun, (looks_native (f.exec v).1).world hwritten]
    refine ⟨rfl, ?_⟩
    intro a' hlive
    by_cases haa : a' = a
    · subst haa
      simp [Store.write]
    · simpa [Store.write, Function.update_of_ne haa] using hlive

/-- What comes after a look keeps the boxes. -/
theorem Looks.keepsBoxes {α β : Type} {x : JavaCall V α} {f : α → JavaCall V β} (hx : Looks x)
    {w : World V} (hw : Owned w) (hf : ∀ a, KeepsBoxes w ((f a).exec w).2) :
    KeepsBoxes w ((x >>= f).exec w).2 := by
  rcases hx w hw with ⟨e, hrun⟩ | ⟨a, hrun⟩
  · rw [Program.exec_bind_error hrun]
    exact KeepsBoxes.refl w
  · rw [Program.exec_bind_ok hrun]
    exact hf a

theorem update_keepsBoxes {w : World V} (hw : Owned w) (this input : Ref) :
    KeepsBoxes w ((PoseidonHash.update E this input).exec w).2 := by
  apply (looks_checkNotFreed .poseidonHash this _).keepsBoxes hw
  intro _
  apply (looks_reading .poseidonHash this).keepsBoxes hw
  intro _
  apply (looks_reading .fieldElement input).keepsBoxes hw
  intro input
  exact modifying_keepsBoxes hw .poseidonHash this _

/-- A freed element ends the loop over the elements, and nothing was freed up to
there. -/
theorem updateAll_freed (digest fe : Ref) :
    ∀ (inputs : List Ref) (w : World V), Owned w → fe ∈ inputs → Freed w (.fieldElement, fe) →
      ∃ e w', (PoseidonHash.updateAll E digest inputs).exec w = (.error e, w') ∧ KeepsBoxes w w'
  | [], _, _, hmem, _ => by cases hmem
  | input :: inputs, w, hw, hmem, hfreed => by
      have hkeeps := update_keepsBoxes E hw digest input
      have howned := ((update_protocol E digest input).safe w hw).1
      rcases hrun : (PoseidonHash.update E digest input).exec w with ⟨e | u, w'⟩
      · rw [hrun] at hkeeps
        exact ⟨e, w', Program.exec_bind_error hrun, hkeeps⟩
      · rw [hrun] at hkeeps howned
        rcases List.mem_cons.mp hmem with hfirst | hrest
        · subst hfirst
          obtain ⟨⟨e, hthrow⟩, -⟩ :=
            (update_protocol E digest fe).freed w hw ⟨(.fieldElement, fe), by simp, hfreed⟩
          rw [hrun] at hthrow
          cases hthrow
        · obtain ⟨e, w'', hrest, hkeeps'⟩ :=
            updateAll_freed digest fe inputs w' howned hrest (hkeeps.freed hfreed)
          refine ⟨e, w'', ?_, hkeeps.trans hkeeps'⟩
          exact (Program.exec_bind_ok hrun).trans hrest

/-- The library has a hash state for so many inputs, and does not panic. -/
def CreatesDigest (n : ℕ) : Prop :=
  ∃ h, E.getPoseidonHashConstantLength (Int32.ofNat n).toInt64.toUInt64 none = .ok h

theorem newDigest_exec (inputSize : Int32) (w : World V) :
    (PoseidonHash.getInstanceConstantLength E inputSize (some [])).exec w =
      (native (E.getPoseidonHashConstantLength inputSize.toInt64.toUInt64 none) >>=
        returnObject E .poseidonHash).exec w := rfl

/-- If the library panics, `computePoseidonHash` comes to an end before it has
created anything. -/
theorem computePoseidonHash_panic {inputs : List Ref} (h : ¬ CreatesDigest E inputs.length)
    (w : World V) :
    ∃ e, (PoseidonHash.computePoseidonHash E inputs).exec w = (.error (.exception e), w) := by
  have hnew := newDigest_exec E (Int32.ofNat inputs.length) w
  rcases hlib : E.getPoseidonHashConstantLength (Int32.ofNat inputs.length).toInt64.toUInt64 none
    with e | digest
  · obtain ⟨thrown, hthrow⟩ := native_error e
    rw [hlib, hthrow] at hnew
    exact ⟨thrown, Program.exec_bind_error hnew⟩
  · exact absurd ⟨digest, hlib⟩ h

/-- A hash object that was created for a freed element is not freed. -/
theorem computePoseidonHash_leaves {inputs : List Ref} {fe : Ref} {w : World V} (hw : Owned w)
    (hnew : CreatesDigest E inputs.length) (hmem : fe ∈ inputs)
    (hfreed : Freed w (.fieldElement, fe)) :
    (∃ w', (PoseidonHash.computePoseidonHash E inputs).exec w = (.error .abort, w'))
    ∨ ∃ e w' a, (PoseidonHash.computePoseidonHash E inputs).exec w = (.error e, w') ∧
        w.store.heap a = none ∧ (w'.store.heap a).isSome := by
  obtain ⟨h, hlib⟩ := hnew
  have hcreate := newDigest_exec E (Int32.ofNat inputs.length) w
  rw [hlib] at hcreate
  unfold PoseidonHash.computePoseidonHash
  rcases returnJobject_cases E.malloc .poseidonHash h w with ⟨-, hrun⟩ | ⟨a, ha, hfree, hrun⟩
  · exact .inl ⟨_, Program.exec_bind_error (hcreate.trans hrun)⟩
  · rw [Program.exec_bind_ok (hcreate.trans hrun)]
    have hadopted : Owned { w with
        ticks := w.ticks + 1, store := w.store.adopt .poseidonHash a ⟨_, h⟩ } :=
      Store.Owned.adopt hw ha hfree rfl
    have hfreed' : Freed { w with
        ticks := w.ticks + 1, store := w.store.adopt .poseidonHash a ⟨_, h⟩ }
          (.fieldElement, fe) := by
      obtain ⟨i, rfl, hzero⟩ := World.pointer_some hfreed
      exact Store.pointer_addObject.mpr (.inl hzero)
    obtain ⟨e, w', hstop, hkeeps⟩ :=
      updateAll_freed E _ fe inputs _ hadopted hmem hfreed'
    refine .inr ⟨e, w', a, Program.exec_bind_error hstop, hfree, hkeeps.live a ?_⟩
    simp [Store.adopt, Store.write, Store.addObject]

/-! ## What is asked of a run -/

/-- Live boxes have one owner each, and pointer fields are null or point to a
live box of their type. -/
structure WellOwned (w : World V) : Prop where
  owner : ∀ a b, w.store.heap a = some b →
    ∃! owner : Kind × ℕ, w.store.pointer owner.1 owner.2 = some a
  pointer : ∀ k i a, w.store.pointer k i = some a → a = 0 ∨ ∃ b, w.store.heap a = some b ∧ fits k b

/-- The step neither follows nor frees an address without a box, and if it needs
an object that was freed, it ends in an exception and no box has changed. -/
structure Obeys (w : World V) (op : Op) : Prop where
  noUb : ((step E op).exec w).1 ≠ .error .ub
  freed : (∃ n ∈ op.needs w, Freed w n) →
    (∃ e, ((step E op).exec w).1 = .error (.exception e)) ∧
      ((step E op).exec w).2.store.heap = w.store.heap

/-- The world after some operations. -/
def run (ops : List Op) : World V :=
  ops.foldl (fun w op => ((step E op).exec w).2) World.start

/-- The protocol, at every moment of a run. -/
structure HandleProtocol (ops : List Op) : Prop where
  states : ∀ before, before <+: ops → WellOwned (run E before)
  steps : ∀ before op, before ++ [op] <+: ops → Obeys E (run E before) op

/-- `computePoseidonHash` on a freed element, for which a hash object is created. -/
def LeavesDigest (w : World V) : Op → Prop
  | .computePoseidonHash inputs =>
      (∃ fe ∈ inputs, Freed w (.fieldElement, fe)) ∧ CreatesDigest E inputs.length
  | _ => False

/-! ## Runs -/

theorem wellOwned_of_owned {w : World V} (hw : Owned w) : WellOwned w where
  owner := by
    intro a b hb
    exact hw.existsUnique_owner hb
  pointer := by
    intro k i a hp
    by_cases ha : a = 0
    · exact .inl ha
    · exact .inr (hw.live k i a hp ha)

theorem foldl_owned (ops : List Op) (w : World V) (hw : Owned w) :
    Owned (ops.foldl (fun w op => ((step E op).exec w).2) w) := by
  induction ops generalizing w with
  | nil => exact hw
  | cons op ops ih => exact ih _ (step_safe E op w hw).1

/-- The ownership discipline holds in every state of every run. -/
theorem run_owned (ops : List Op) : Owned (run E ops) :=
  foldl_owned E ops World.start Store.owned_empty

/-- A step obeys the protocol unless it leaves a hash object behind. -/
theorem obeys_iff {w : World V} (hw : Owned w) (op : Op) :
    Obeys E w op ↔ ¬ LeavesDigest E w op := by
  by_cases hop : ∃ inputs, op = .computePoseidonHash inputs
  · obtain ⟨inputs, rfl⟩ := hop
    have hstep : (step E (.computePoseidonHash inputs)).exec w =
        (discard (PoseidonHash.computePoseidonHash E inputs)).exec w := rfl
    constructor
    · intro hobeys hleaves
      obtain ⟨⟨fe, hmem, hfreed⟩, hnew⟩ := hleaves
      have hneeds : ∃ n ∈ Op.needs w (.computePoseidonHash inputs), Freed w n :=
        ⟨(.fieldElement, fe), List.mem_map.mpr ⟨fe, hmem, rfl⟩, hfreed⟩
      obtain ⟨⟨e, hthrow⟩, hheap⟩ := hobeys.freed hneeds
      rw [hstep, discard, map_eq_pure_bind] at hthrow hheap
      rcases computePoseidonHash_leaves E hw hnew hmem hfreed with
        ⟨w', hrun⟩ | ⟨e', w', a, hrun, hbefore, hafter⟩
      · rw [Program.exec_bind_error hrun] at hthrow
        cases hthrow
      · rw [Program.exec_bind_error hrun] at hheap
        rw [hheap, hbefore] at hafter
        cases hafter
    · intro hleaves
      refine ⟨(step_safe E _ w hw).2, ?_⟩
      intro hneeds
      obtain ⟨n, hn, hfreed⟩ := hneeds
      obtain ⟨fe, hmem, rfl⟩ := List.mem_map.mp hn
      have hpanic : ¬ CreatesDigest E inputs.length :=
        fun hnew => hleaves ⟨⟨fe, hmem, hfreed⟩, hnew⟩
      obtain ⟨e, hrun⟩ := computePoseidonHash_panic E hpanic w
      rw [hstep, discard, map_eq_pure_bind, Program.exec_bind_error hrun]
      exact ⟨⟨e, rfl⟩, rfl⟩
  · have hprotocol := step_protocol E op fun inputs heq => hop ⟨inputs, heq⟩
    have hleaves : ¬ LeavesDigest E w op := by
      intro h
      cases op with
      | computePoseidonHash inputs => exact hop ⟨inputs, rfl⟩
      | _ => exact h
    exact iff_of_true ⟨(hprotocol.safe w hw).2, hprotocol.freed w hw⟩ hleaves

/-- A run obeys the protocol exactly when no step of it computes a Poseidon hash
of a freed element. -/
theorem handleProtocol_iff (ops : List Op) :
    HandleProtocol E ops ↔
      ∀ before op, before ++ [op] <+: ops → ¬ LeavesDigest E (run E before) op := by
  constructor
  · intro h before op hbefore
    exact (obeys_iff E (run_owned E before) op).mp (h.steps before op hbefore)
  · intro h
    refine ⟨fun before _ => wellOwned_of_owned (run_owned E before), ?_⟩
    intro before op hbefore
    exact (obeys_iff E (run_owned E before) op).mpr (h before op hbefore)

/-- A library in which every call succeeds with a default value. -/
def defaultLib (V : NativeType → Type) [∀ t, Inhabited (V t)] : NativeLib V where
  encodedLength := fun _ => 0
  serialize := fun _ _ _ => .ok []
  deserialize := fun _ _ _ _ => .ok (some default)
  deserializeFieldElement := fun _ => some default
  fieldElementFrom := fun _ => default
  getRandomFieldElement := fun _ => default
  fieldElementEq := fun _ _ => true
  schnorrGenerateKey := fun _ => .ok (default, default)
  schnorrGetPublicKey := fun _ => .ok default
  schnorrVerifyPublicKey := fun _ => .ok true
  schnorrSign := fun _ _ _ _ => pure default
  schnorrVerifySignature := fun _ _ _ => pure true
  isValidSignature := fun _ => .ok true
  vrfGenerateKey := fun _ => .ok (default, default)
  vrfGetPublicKey := fun _ => .ok default
  vrfVerifyPublicKey := fun _ => .ok true
  vrfProve := fun _ _ _ _ => pure (default, default)
  vrfProofToHash := fun _ _ _ => pure default
  isValidVRFProof := fun _ => .ok true
  getPoseidonHashConstantLength := fun _ _ => .ok default
  getPoseidonHashVariableLength := fun _ _ => .ok default
  updatePoseidonHash := fun _ => pure ()
  finalizePoseidonHash := fun _ => pure default
  resetPoseidonHash := fun _ => pure ()
  newGingerMHT := fun _ _ => pure default
  appendLeafToGingerMHT := fun _ => pure (.ok ())
  finalizeGingerMHT := fun _ => pure default
  finalizeGingerMHTInPlace := pure (.ok ())
  getGingerMHTRoot := fun _ => .ok (some default)
  getGingerMHTPath := fun _ _ => .ok (some default)
  resetGingerMHT := pure ()
  isValidPath := fun _ => true
  verifyGingerMerklePath := fun _ _ _ _ => pure true
  verifyGingerMerklePathWithoutLengthCheck := fun _ _ _ => .ok true
  getRootFromPath := fun _ _ => .ok default
  isPathLeftmost := fun _ => .ok true
  isPathRightmost := fun _ => .ok true
  areRightLeavesEmpty := fun _ => .ok true
  getLeafIndexFromPath := fun _ => .ok 0
  createCommitmentTree := default
  addScc := fun _ => pure true
  addFwt := fun _ => pure true
  addBwtr := fun _ => pure true
  addCert := fun _ => pure true
  addCertLeaf := fun _ _ => pure true
  addCsw := fun _ => pure true
  getCertLeaves := fun _ => pure (some [])
  getScc := fun _ => pure (some default)
  getFwtCommitment := fun _ => pure (some default)
  getBwtrCommitment := fun _ => pure (some default)
  getCertCommitment := fun _ => pure (some default)
  getCswCommitment := fun _ => pure (some default)
  getScCommitment := fun _ => pure (some default)
  getCommitment := pure (some default)
  getScExistenceProof := fun _ => pure (some default)
  getScAbsenceProof := fun _ => pure (some default)
  verifyScCommitment := fun _ _ _ => .ok true
  verifyScAbsence := fun _ _ _ => .ok true
  computePksThresholdHash := fun _ _ => pure default
  computeMsgToSign := fun _ => pure default
  createNaiveThresholdSigProof := fun _ _ _ _ _ _ _ _ _ _ => pure ([], 0)
  verifyNaiveThresholdSigProof := fun _ _ _ _ _ _ _ _ _ _ => pure true

/-- Values without information, at addresses in order from 1. -/
def unitEnv : Env (fun _ => Unit) :=
  { defaultLib fun _ => Unit with malloc := fun n => n + 1 }

/-- A field element is created and freed, and then hashed. -/
theorem handleProtocol_counterexample :
    ¬ HandleProtocol unitEnv [.fieldElementFromLong 1, .free .fieldElement (some 0),
      .computePoseidonHash [some 0]] := by
  intro h
  have hobeys := h.steps [.fieldElementFromLong 1, .free .fieldElement (some 0)]
    (.computePoseidonHash [some 0]) (List.prefix_refl _)
  have howned := run_owned unitEnv [.fieldElementFromLong 1, .free .fieldElement (some 0)]
  have hfreed : Freed (run unitEnv [.fieldElementFromLong 1, .free .fieldElement (some 0)])
      (.fieldElement, some 0) := rfl
  apply (obeys_iff unitEnv howned _).mp hobeys
  exact ⟨⟨some 0, List.mem_singleton.mpr rfl, hfreed⟩, (), rfl⟩

end ZendooSc.Handles
