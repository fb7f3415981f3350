/-
ZendooSc.Handles.OperationTheorems — every operation follows the protocol.

One lemma for each family of methods, in the order of `Handles.Operations`. A
proof goes through the method from its first statement to its last: the guard,
the objects it reads, and then what it does with the values, which is safe. What
the method needs is on the way there.

`computePoseidonHash` is the exception. It creates a hash object before it looks
at its arguments, so it is safe, and no more.
-/
import ZendooSc.Handles.Protocol

namespace ZendooSc.Handles

open Lib

variable {V : NativeType → Type} (E : Env V)

/-! ## Returning objects -/

theorem safe_native {α : Type} (x : Except Panic α) : Safe (native x : JavaCall V α) :=
  (looks_native x).safe

theorem safe_returnObject (k : Kind) (obj : V k.nativeType) : Safe (returnObject E k obj) :=
  safe_returnJobject E.malloc k obj

theorem safe_returnResult (k : Kind) (result : Call (V k.nativeType)) :
    Safe (returnResult E k result) := by
  apply (safe_native result).bind
  intro r
  rcases r with e | obj
  · exact safe_pure none
  · exact safe_returnObject E k obj

theorem safe_returnOption (k : Kind) (obj : Option (V k.nativeType)) :
    Safe (returnOption E k obj) := by
  rcases obj with _ | obj
  · exact safe_pure none
  · exact safe_returnObject E k obj

theorem safe_returnBool (result : Call Bool) : Safe (returnBool result : JavaCall V Bool) := by
  apply (safe_native result).bind
  intro r
  rcases r with e | b
  · exact safe_pure false
  · exact safe_pure b

/-- A guard before a call that needs the object anyway. -/
theorem Protocol.checked {β : Type} {needs : World V → List (Kind × Ref)} {k : Kind} {this : Ref}
    {e : JavaException} {x : JavaCall V β} (hx : Protocol needs x) :
    Protocol needs (checkNotFreed k this e >>= fun _ => x) :=
  Protocol.look (looks_checkNotFreed k this e) fun _ => hx

/-- A question about one object. -/
theorem query_protocol {α : Type} (k : Kind) (this : Ref) (e : JavaException)
    (f : V k.nativeType → JavaCall V α) (hf : ∀ v, Safe (f v)) :
    Protocol (fun _ => [(k, this)])
      (checkNotFreed k this e >>= fun _ => reading k this >>= f) := by
  apply Protocol.checked
  apply Protocol.read
  intro v
  exact Protocol.ofSafe (hf v)

/-! ## Encodings -/

theorem serializeMethod_protocol (k : Kind) (wasFreed : Option JavaException) (this : Ref)
    (compressed : Option Bool) :
    Protocol (fun _ => [(k, this)]) (serializeMethod E k wasFreed this compressed) := by
  rcases wasFreed with _ | e
  · apply Protocol.look (looks_receiver k this)
    intro _
    apply Protocol.read
    intro v
    exact Protocol.ofSafe (safe_native _)
  · exact query_protocol k this e _ fun v => safe_native _

theorem serialize_protocol (k : Kind) (this : Ref) (compressed : Bool) :
    Protocol (fun _ => [(k, this)]) (serialize E k this compressed) := by
  cases k with
  | poseidonHash | inMemoryOptimizedMerkleTree | commitmentTree => exact Protocol.throw _
  | _ =>
      simp only [serialize]
      exact serializeMethod_protocol E _ _ this _

theorem deserializeMethod_safe (k : Kind) (incorrect : Option String)
    (bytes : Option (List UInt8)) (checked compressed : Option Bool) :
    Safe (deserializeMethod E k incorrect bytes checked compressed) := by
  have hrest : Safe (native (convertByteArray bytes) >>= fun objBytes =>
      native (E.deserialize k.nativeType objBytes checked compressed) >>= returnOption E k) := by
    apply (safe_native _).bind
    intro objBytes
    exact (safe_native _).bind fun obj => safe_returnOption E k obj
  rcases incorrect with _ | what
  · exact hrest
  · rcases bytes with _ | objBytes
    · exact (looks_throwJava _).safe.bind fun _ => hrest
    · by_cases hlength : objBytes.length ≠ E.encodedLength k
      · simp only [deserializeMethod, if_pos hlength]
        exact (looks_throwJava _).safe.bind fun _ => hrest
      · simp only [deserializeMethod, if_neg hlength]
        exact hrest

theorem deserialize_safe (k : Kind) (bytes : Option (List UInt8)) (check compressed : Bool) :
    Safe (deserialize E k bytes check compressed) := by
  cases k with
  | poseidonHash | inMemoryOptimizedMerkleTree | commitmentTree =>
      exact (looks_throwJava _).safe
  | _ =>
      simp only [deserialize]
      exact deserializeMethod_safe E _ _ bytes _ _

/-- Every class frees boxes of its own type, in one of the two conventions. -/
theorem free_eq_freeObject (k : Kind) (this : Ref) : ∃ convention,
    (free k this : JavaCall V Unit) = freeObject convention k.nativeType k this := by
  cases k with
  | schnorrPublicKey | schnorrSecretKey | vrfPublicKey | vrfSecretKey | poseidonHash =>
      exact ⟨.field, rfl⟩
  | _ => exact ⟨.argument, rfl⟩

theorem free_safe (k : Kind) (this : Ref) : Safe (free k this : JavaCall V Unit) := by
  obtain ⟨convention, hfree⟩ := free_eq_freeObject k this
  rw [hfree]
  exact safe_freeObject convention k this

/-! ## Field elements -/

theorem printFieldElementBytes_protocol (this : Ref) :
    Protocol (fun _ => [(.fieldElement, this)]) (FieldElement.printFieldElementBytes E this) :=
  query_protocol .fieldElement this _ _ fun _ => (safe_native _).bind fun _ => safe_pure ()

theorem equals_protocol (this o : Ref) :
    Protocol (fun _ => if o = this ∨ o = none then [] else
      [(.fieldElement, this), (.fieldElement, o)]) (FieldElement.equals E this o) := by
  unfold FieldElement.equals
  apply Protocol.look (looks_receiver .fieldElement this)
  intro _
  by_cases hsame : o = this
  · simp only [hsame, if_true, true_or]
    exact Protocol.ofSafe (safe_pure true)
  · by_cases hnull : o = none
    · simp only [if_neg hsame, if_pos hnull, if_pos (Or.inr hnull : o = this ∨ o = none)]
      exact Protocol.ofSafe (safe_pure false)
    · simp only [hsame, hnull, or_self, if_false]
      apply Protocol.read
      intro field1
      apply Protocol.read
      intro field2
      exact Protocol.ofSafe (safe_pure _)

/-! ## Schnorr signatures and VRF -/

theorem verifySignature_protocol (this signature message : Ref) :
    Protocol (fun _ => [(.schnorrPublicKey, this), (.fieldElement, message),
      (.schnorrSignature, signature)])
      (SchnorrPublicKey.verifySignature E this signature message) := by
  apply Protocol.checked
  apply Protocol.read
  intro publicKey
  apply Protocol.read
  intro message
  apply Protocol.read
  intro signature
  exact Protocol.ofSafe (safe_returnBool _)

theorem proofToHash_protocol (this proof message : Ref) :
    Protocol (fun _ => [(.vrfPublicKey, this), (.fieldElement, message), (.vrfProof, proof)])
      (VRFPublicKey.proofToHash E this proof message) := by
  apply Protocol.checked
  apply Protocol.read
  intro publicKey
  apply Protocol.read
  intro message
  apply Protocol.read
  intro proof
  exact Protocol.ofSafe (safe_returnResult E _ _)

theorem schnorrVerifyKey_protocol (this : Ref) :
    Protocol (fun _ => [(.schnorrPublicKey, this)]) (SchnorrPublicKey.verifyKey E this) :=
  query_protocol .schnorrPublicKey this _ _ fun _ => safe_native _

theorem vrfVerifyKey_protocol (this : Ref) :
    Protocol (fun _ => [(.vrfPublicKey, this)]) (VRFPublicKey.verifyKey E this) :=
  query_protocol .vrfPublicKey this _ _ fun _ => safe_native _

theorem schnorrGetPublicKey_protocol (this : Ref) :
    Protocol (fun _ => [(.schnorrSecretKey, this)]) (SchnorrSecretKey.getPublicKey E this) :=
  query_protocol .schnorrSecretKey this _ _ fun _ =>
    (safe_native _).bind fun _ => safe_returnObject E _ _

theorem vrfGetPublicKey_protocol (this : Ref) :
    Protocol (fun _ => [(.vrfSecretKey, this)]) (VRFSecretKey.getPublicKey E this) :=
  query_protocol .vrfSecretKey this _ _ fun _ =>
    (safe_native _).bind fun _ => safe_returnObject E _ _

theorem isValidSignature_protocol (this : Ref) :
    Protocol (fun _ => [(.schnorrSignature, this)]) (SchnorrSignature.isValidSignature E this) :=
  query_protocol .schnorrSignature this _ _ fun _ => safe_native _

theorem isValidVRFProof_protocol (this : Ref) :
    Protocol (fun _ => [(.vrfProof, this)]) (VRFProof.isValidVRFProof E this) :=
  query_protocol .vrfProof this _ _ fun _ => safe_native _

/-- The secret key is shared with the caller, the public key is new. -/
theorem schnorrOfSecretKey_protocol (secretKey : Ref) :
    Protocol (fun _ => [(.schnorrSecretKey, secretKey)])
      (SchnorrKeyPair.ofSecretKey E secretKey) :=
  (schnorrGetPublicKey_protocol E secretKey).andThen fun publicKey =>
    safe_newPair .schnorrKeyPair secretKey publicKey

theorem vrfOfSecretKey_protocol (secretKey : Ref) :
    Protocol (fun _ => [(.vrfSecretKey, secretKey)]) (VRFKeyPair.ofSecretKey E secretKey) :=
  (vrfGetPublicKey_protocol E secretKey).andThen fun publicKey =>
    safe_newPair .vrfKeyPair secretKey publicKey

theorem schnorrGenerate_safe : Safe (SchnorrKeyPair.generate E) := by
  apply safe_tick.bind
  intro random
  apply (safe_native _).bind
  intro keys
  apply (safe_returnObject E .schnorrSecretKey keys.2).bind
  intro secretKey
  apply (safe_returnObject E .schnorrPublicKey keys.1).bind
  intro publicKey
  exact safe_newPair .schnorrKeyPair secretKey publicKey

theorem vrfGenerate_safe : Safe (VRFKeyPair.generate E) := by
  apply safe_tick.bind
  intro random
  apply (safe_native _).bind
  intro keys
  apply (safe_returnObject E .vrfSecretKey keys.2).bind
  intro secretKey
  apply (safe_returnObject E .vrfPublicKey keys.1).bind
  intro publicKey
  exact safe_newPair .vrfKeyPair secretKey publicKey

theorem signMessage_protocol (this message : Ref) :
    Protocol (fun w => parts w .schnorrKeyPair this ++ [(.fieldElement, message)])
      (SchnorrKeyPair.signMessage E this message) := by
  apply Protocol.pair
  intro skObject pkObject
  apply Protocol.read
  intro secretKey
  apply Protocol.read
  intro publicKey
  apply Protocol.read
  intro message
  exact Protocol.ofSafe (safe_tick.bind fun random => safe_returnResult E _ _)

theorem prove_protocol (this message : Ref) :
    Protocol (fun w => parts w .vrfKeyPair this ++ [(.fieldElement, message)])
      (VRFKeyPair.prove E this message) := by
  apply Protocol.pair
  intro skObject pkObject
  apply Protocol.read
  intro secretKey
  apply Protocol.read
  intro publicKey
  apply Protocol.read
  intro message
  apply Protocol.ofSafe
  apply safe_tick.bind
  intro random
  apply (safe_native _).bind
  intro result
  rcases result with e | ⟨proof, vrfOut⟩
  · exact safe_pure none
  · apply (safe_returnObject E .vrfProof proof).bind
    intro proof
    apply (safe_returnObject E .fieldElement vrfOut).bind
    intro vrfOut
    exact safe_newPair .vrfProveResult proof vrfOut

/-- Closing a composite object closes its parts, whatever else points to them. -/
theorem closePair_safe (p : PairKind) (this : Ref) : Safe (closePair p this : JavaCall V Unit) := by
  apply (looks_pairFields p this).safe.bind
  intro ab
  cases p with
  | schnorrKeyPair | vrfKeyPair | vrfProveResult =>
      exact (free_safe _ _).bind fun _ => free_safe _ _

/-! ## Poseidon hash -/

/-- Reading the elements of the personalization, before a call. -/
theorem Protocol.personalization {β : Type} {needs : World V → List (Kind × Ref)}
    {f : Option (List (V .fieldElement)) → JavaCall V β} (hf : ∀ fields, Protocol needs (f fields))
    (personalization : Option (List Ref)) :
    Protocol (fun w => (personalization.getD []).map (Kind.fieldElement, ·) ++ needs w)
      (PoseidonHash.readPersonalization personalization >>= f) := by
  rcases personalization with _ | refs
  · exact (Protocol.throw (.runtime .unwrapError)).andThen fun fields => (hf fields).safe
  · have hread : (PoseidonHash.readPersonalization (some refs) >>= f) =
        (refs.mapM (reading .fieldElement) >>= fun fields => f (nonEmpty fields)) := by
      show ((refs.mapM (reading .fieldElement) >>= fun fields => pure (nonEmpty fields)) >>= f) = _
      simp only [bind_assoc, pure_bind]
    rw [hread]
    apply Protocol.readAll
    intro fields
    exact hf (nonEmpty fields)

theorem getInstanceConstantLength_protocol (inputSize : Int32)
    (personalization : Option (List Ref)) :
    Protocol (fun _ => (personalization.getD []).map (Kind.fieldElement, ·) ++ [])
      (PoseidonHash.getInstanceConstantLength E inputSize personalization) := by
  apply Protocol.personalization
  intro fields
  exact Protocol.ofSafe ((safe_native _).bind fun h => safe_returnObject E .poseidonHash h)

theorem getInstanceVariableLength_protocol (modRate : Bool)
    (personalization : Option (List Ref)) :
    Protocol (fun _ => (personalization.getD []).map (Kind.fieldElement, ·) ++ [])
      (PoseidonHash.getInstanceVariableLength E modRate personalization) := by
  apply Protocol.personalization
  intro fields
  exact Protocol.ofSafe ((safe_native _).bind fun h => safe_returnObject E .poseidonHash h)

theorem update_protocol (this input : Ref) :
    Protocol (fun _ => [(.poseidonHash, this), (.fieldElement, input)])
      (PoseidonHash.update E this input) := by
  apply Protocol.checked
  apply Protocol.read
  intro _
  apply Protocol.read
  intro input
  exact Protocol.ofSafe (safe_modifying _ _ _)

theorem finalizeHash_protocol (this : Ref) :
    Protocol (fun _ => [(.poseidonHash, this)]) (PoseidonHash.finalizeHash E this) :=
  query_protocol .poseidonHash this _ _ fun _ => safe_returnResult E .fieldElement _

theorem poseidonReset_protocol (this : Ref) (personalization : Option (List Ref)) :
    Protocol (fun _ => (.poseidonHash, this) ::
        ((personalization.getD []).map (Kind.fieldElement, ·) ++ []))
      (PoseidonHash.reset E this personalization) := by
  apply Protocol.checked
  apply Protocol.read
  intro _
  apply Protocol.personalization
  intro fields
  exact Protocol.ofSafe (safe_modifying _ _ _)

theorem updateAll_safe (digest : Ref) :
    ∀ inputs : List Ref, Safe (PoseidonHash.updateAll E digest inputs)
  | [] => safe_pure ()
  | fe :: inputs => (update_protocol E digest fe).safe.bind fun _ => updateAll_safe digest inputs

/-- The temporary hash object of `computePoseidonHash` is freed through its own
reference, so this is safe whatever happens in between. -/
theorem computePoseidonHash_safe (inputs : List Ref) :
    Safe (PoseidonHash.computePoseidonHash E inputs) := by
  apply (getInstanceConstantLength_protocol E _ (some [])).safe.bind
  intro digest
  apply (updateAll_safe E digest inputs).bind
  intro _
  apply (finalizeHash_protocol E digest).safe.bind
  intro hashOutput
  exact (free_safe .poseidonHash digest).bind fun _ => safe_pure hashOutput

/-! ## Merkle trees -/

theorem merkleInit_safe (height : Int32) (processingStep : Int64) :
    Safe (InMemoryOptimizedMerkleTree.init E height processingStep) :=
  safe_returnResult E .inMemoryOptimizedMerkleTree _

theorem append_protocol (this input : Ref) :
    Protocol (fun _ => [(.inMemoryOptimizedMerkleTree, this), (.fieldElement, input)])
      (InMemoryOptimizedMerkleTree.append E this input) := by
  apply Protocol.guard
  apply Protocol.read
  intro leaf
  exact Protocol.ofSafe ((safe_modifying _ _ _).map isOk)

theorem finalizeTree_protocol (this : Ref) :
    Protocol (fun _ => [(.inMemoryOptimizedMerkleTree, this)])
      (InMemoryOptimizedMerkleTree.finalizeTree E this) :=
  query_protocol .inMemoryOptimizedMerkleTree this _ _ fun _ => safe_returnResult E _ _

theorem finalizeTreeInPlace_protocol (this : Ref) :
    Protocol (fun _ => [(.inMemoryOptimizedMerkleTree, this)])
      (InMemoryOptimizedMerkleTree.finalizeTreeInPlace E this) :=
  Protocol.checked (Protocol.modify.map isOk)

theorem root_protocol (this : Ref) :
    Protocol (fun _ => [(.inMemoryOptimizedMerkleTree, this)])
      (InMemoryOptimizedMerkleTree.root E this) :=
  query_protocol .inMemoryOptimizedMerkleTree this _ _ fun _ =>
    (safe_native _).bind fun root => safe_returnOption E .fieldElement root

theorem getMerklePath_protocol (this : Ref) (leafIndex : Int64) :
    Protocol (fun _ => [(.inMemoryOptimizedMerkleTree, this)])
      (InMemoryOptimizedMerkleTree.getMerklePath E this leafIndex) :=
  query_protocol .inMemoryOptimizedMerkleTree this _ _ fun _ =>
    (safe_native _).bind fun path => safe_returnOption E .merklePath path

theorem merkleReset_protocol (this : Ref) :
    Protocol (fun _ => [(.inMemoryOptimizedMerkleTree, this)])
      (InMemoryOptimizedMerkleTree.reset E this) :=
  Protocol.checked Protocol.modify

theorem verifyMethod_protocol (this leaf root : Ref)
    (check : V .gingerMHTPath → V .fieldElement → V .fieldElement → Call Bool) :
    Protocol (fun _ => [(.merklePath, this), (.fieldElement, leaf), (.fieldElement, root)])
      (MerklePath.verifyMethod E this leaf root check) := by
  apply Protocol.guard
  apply Protocol.read
  intro leaf
  apply Protocol.read
  intro root
  apply Protocol.look (looks_reading .merklePath this)
  intro path
  apply Protocol.ofSafe
  by_cases hvalid : E.isValidPath path = true
  · rw [if_pos hvalid]
    exact safe_returnBool _
  · rw [if_neg hvalid]
    exact safe_pure false

theorem apply_protocol (this leaf : Ref) :
    Protocol (fun _ => [(.merklePath, this), (.fieldElement, leaf)])
      (MerklePath.apply E this leaf) := by
  apply Protocol.checked
  apply Protocol.read
  intro path
  apply Protocol.read
  intro leaf
  exact Protocol.ofSafe ((safe_native _).bind fun root => safe_returnObject E .fieldElement root)

theorem pathQuery_protocol {α : Type} (this : Ref) (f : V .gingerMHTPath → Except Panic α) :
    Protocol (fun _ => [(.merklePath, this)]) (MerklePath.query this f) :=
  query_protocol .merklePath this _ _ fun _ => safe_native _

/-! ## Commitment trees -/

theorem looks_decoding {α : Type} (x : Decode α) :
    Looks (CommitmentTree.decoding x : JavaCall V (Option α)) := by
  rcases x with (e | _) | a
  · exact looks_native (.error e)
  · exact looks_pure none
  · exact looks_pure (some a)

/-- The guard is what stops an `add` on a tree that was freed: the decoding of
the arguments comes before the tree is touched, and may end the call. -/
theorem nativeAdd_protocol {Args Dec : Type} (decode : Args → Decode Dec)
    (add : Dec → Program (V .commitmentTree) Panic Bool) (this : Ref) (args : Args)
    (e : JavaException) :
    Protocol (fun _ => [(.commitmentTree, this)])
      (checkNotFreed .commitmentTree this e >>= fun _ =>
        CommitmentTree.nativeAdd decode add this args) := by
  apply Protocol.guard
  apply Protocol.look (looks_decoding _)
  intro decoded
  rcases decoded with _ | decoded
  · exact Protocol.ofSafe (safe_pure false)
  · exact Protocol.ofSafe (safe_modifying _ _ _)

theorem looks_readScId (scId : Option (List UInt8)) : Looks (CommitmentTree.readScId E scId) :=
  looks_native _

/-- Here there is no guard, and the null pointer is noticed by the native side,
unless an argument that is not a field element is noticed first. -/
theorem nativeAddCertLeaf_protocol (this : Ref) (scId leaf : Option (List UInt8)) :
    Protocol (fun _ => [(.commitmentTree, this)])
      (CommitmentTree.nativeAddCertLeaf E this scId leaf) := by
  apply Protocol.look (looks_receiver .commitmentTree this)
  intro _
  apply Protocol.look (looks_readScId E scId)
  intro scId
  apply Protocol.look (looks_readScId E leaf)
  intro leafFe
  exact Protocol.modify

theorem addCertLeaf_protocol (this : Ref) (scId leaf : Option (List UInt8)) :
    Protocol (fun _ => [(.commitmentTree, this)])
      (CommitmentTree.addCertLeaf E this scId leaf) :=
  Protocol.checked (nativeAddCertLeaf_protocol E this scId leaf)

theorem safe_returnLeaves (leaves : List (V .fieldElement)) :
    Safe (CommitmentTree.returnLeaves E leaves) :=
  (safe_newNullObject .fieldElement).bind fun _ =>
    Program.safe_mapM (fun leaf => safe_returnObject E .fieldElement leaf) leaves

theorem getCrtLeaves_protocol (this : Ref) (scId : Option (List UInt8)) :
    Protocol (fun _ => [(.commitmentTree, this)])
      (CommitmentTree.getCrtLeaves E this scId) := by
  apply Protocol.checked
  apply Protocol.look (looks_readScId E scId)
  intro scId
  apply Protocol.modify.andThen
  intro leaves
  rcases leaves with _ | leaves
  · exact safe_pure none
  · exact (safe_returnLeaves E leaves).map some

theorem queryTree_protocol (k : Kind)
    (get : V .fieldElement → Program (V .commitmentTree) Panic (Option (V k.nativeType)))
    (this : Ref) (scId : Option (List UInt8)) :
    Protocol (fun _ => [(.commitmentTree, this)])
      (CommitmentTree.queryTree E k get this scId) := by
  apply Protocol.checked
  apply Protocol.look (looks_readScId E scId)
  intro scId
  exact Protocol.modify.andThen fun found => safe_returnOption E k found

theorem getCommitment_protocol (this : Ref) :
    Protocol (fun _ => [(.commitmentTree, this)]) (CommitmentTree.getCommitment E this) :=
  Protocol.checked (Protocol.modify.andThen fun found => safe_returnOption E .fieldElement found)

theorem verifyScCommitment_protocol (scCommitment existenceProof commitment : Ref) :
    Protocol (fun _ => [(.fieldElement, scCommitment), (.scExistenceProof, existenceProof),
      (.fieldElement, commitment)])
      (CommitmentTree.verifyScCommitment E scCommitment existenceProof commitment) := by
  apply Protocol.read
  intro scCommitmentFe
  apply Protocol.read
  intro scCommitmentProof
  apply Protocol.read
  intro commitmentFe
  exact Protocol.ofSafe (safe_native _)

theorem verifyScAbsence_protocol (scId : Option (List UInt8)) (absenceProof commitment : Ref) :
    Protocol (fun _ => [(.scAbsenceProof, absenceProof), (.fieldElement, commitment)])
      (CommitmentTree.verifyScAbsence E scId absenceProof commitment) := by
  apply Protocol.look (looks_readScId E scId)
  intro scId
  apply Protocol.read
  intro scAbsenceProof
  apply Protocol.read
  intro commitmentFe
  exact Protocol.ofSafe (safe_native _)

/-! ## Certificates -/

theorem looks_readBtList (bt : Option (List (Option JavaBackwardTransfer))) :
    Looks (NaiveThresholdSigProof.readBtList bt : JavaCall V (List BackwardTransfer)) :=
  looks_native _

theorem getConstant_protocol (schnorrPublicKeys : List Ref) (threshold : Int64) :
    Protocol (fun _ => schnorrPublicKeys.map (Kind.schnorrPublicKey, ·) ++ [])
      (NaiveThresholdSigProof.getConstant E schnorrPublicKeys threshold) := by
  apply Protocol.readAll
  intro pks
  exact Protocol.ofSafe (safe_returnResult E .fieldElement _)

theorem createMsgToSign_protocol (args : NaiveThresholdSigProof.CertificateArgs) :
    Protocol (fun _ => [(.fieldElement, args.scId),
      (.fieldElement, args.endCumulativeScTxCommTreeRoot)])
      (NaiveThresholdSigProof.createMsgToSign E args) := by
  apply Protocol.look (looks_readBtList args.bt)
  intro btList
  apply Protocol.read
  intro scId
  apply Protocol.read
  intro root
  exact Protocol.ofSafe (safe_returnResult E .fieldElement _)

/-- The loop over signatures and keys needs the keys. A signature without a
native value is read as missing. -/
theorem readSigsAndPks_protocol {β : Type} {needs : World V → List (Kind × Ref)}
    {f : List (Option (V .schnorrSig) × V .g2) → JavaCall V β}
    (hf : ∀ read, Protocol needs (f read)) :
    ∀ objects : List (Ref × Ref),
      Protocol (fun w => objects.map (fun o => (Kind.schnorrPublicKey, o.2)) ++ needs w)
        (objects.mapM NaiveThresholdSigProof.readSigAndPk >>= f)
  | [] => hf []
  | o :: objects => by
      rw [List.mapM_cons]
      simp only [NaiveThresholdSigProof.readSigAndPk, bind_assoc, pure_bind]
      apply Protocol.look (looks_readingNullable .schnorrSignature o.1)
      intro signature
      apply Protocol.read
      intro publicKey
      exact readSigsAndPks_protocol (fun read => hf ((signature, publicKey) :: read)) objects

theorem createProof_protocol (args : NaiveThresholdSigProof.CertificateArgs)
    (schnorrSignatures schnorrPublicKeys : List Ref) (threshold : Int64)
    (provingKeyPath : Option JavaString) (checkProvingKey zk compressedPk compressProof : Bool) :
    Protocol (fun _ => schnorrPublicKeys.map (Kind.schnorrPublicKey, ·) ++
        [(.fieldElement, args.scId), (.fieldElement, args.endCumulativeScTxCommTreeRoot)])
      (NaiveThresholdSigProof.createProof E args schnorrSignatures schnorrPublicKeys threshold
        provingKeyPath checkProvingKey zk compressedPk compressProof) := by
  apply Protocol.look (looks_readBtList args.bt)
  intro btList
  by_cases hlength : schnorrSignatures.length ≠ schnorrPublicKeys.length
  · rw [if_pos hlength]
    exact Protocol.throw _
  · rw [if_neg hlength]
    have hpks : (schnorrSignatures.zip schnorrPublicKeys).map
        (fun o => (Kind.schnorrPublicKey, o.2)) =
          schnorrPublicKeys.map (Kind.schnorrPublicKey, ·) := by
      calc (schnorrSignatures.zip schnorrPublicKeys).map (fun o => (Kind.schnorrPublicKey, o.2))
          = ((schnorrSignatures.zip schnorrPublicKeys).map Prod.snd).map
              (Kind.schnorrPublicKey, ·) := by
            rw [List.map_map]
            rfl
        _ = schnorrPublicKeys.map (Kind.schnorrPublicKey, ·) := by
            rw [List.map_snd_zip (by omega)]
    rw [← hpks]
    apply readSigsAndPks_protocol
    intro read
    apply Protocol.read
    intro scId
    apply Protocol.read
    intro root
    apply Protocol.ofSafe
    apply (safe_native _).bind
    intro path
    apply safe_tick.bind
    intro random
    apply (safe_native _).bind
    intro result
    rcases result with e | result
    · exact safe_pure none
    · exact safe_pure (some result)

theorem verifyProof_protocol (args : NaiveThresholdSigProof.CertificateArgs) (constant : Ref)
    (quality : Int64) (proof : Option (List UInt8)) (checkProof : Bool)
    (verificationKeyPath : Option JavaString) (checkVerificationKey : Bool) :
    Protocol (fun _ => [(.fieldElement, args.scId),
      (.fieldElement, args.endCumulativeScTxCommTreeRoot), (.fieldElement, constant)])
      (NaiveThresholdSigProof.verifyProof E args constant quality proof checkProof
        verificationKeyPath checkVerificationKey) := by
  apply Protocol.look (looks_readBtList args.bt)
  intro btList
  apply Protocol.read
  intro scId
  apply Protocol.read
  intro root
  apply Protocol.read
  intro constant
  apply Protocol.ofSafe
  apply (safe_native _).bind
  intro proofBytes
  apply (safe_native _).bind
  intro vkPath
  exact safe_tick.bind fun random => safe_returnBool _

end ZendooSc.Handles
