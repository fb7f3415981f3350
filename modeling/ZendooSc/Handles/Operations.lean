/-
ZendooSc.Handles.Operations — the public Java operations on native objects.

Each definition is one public method of a Java class together with the native
function it calls. The native functions read the objects they need, in the
order of the source, and then compute. What they compute is a matter of the
values in the boxes, and so of ginger-lib, cctp-lib and the modules on
certificates: it is a parameter, `NativeLib`. An argument of a library function
named `random` stands for the random numbers it draws.

`Op` lists the operations, and `step` runs one. A `close` method that does
nothing but call the free method of its class is the same operation. `Op.needs`
lists the objects whose native value an operation uses.
-/
import ZendooSc.Handles.World
import ZendooSc.Api.CommitmentTree

namespace ZendooSc.Handles

open Lib

/-- The inputs of a certificate proof besides its keys and signatures. -/
structure CertificateInputs (F : Type) where
  scId : F
  epochNumber : UInt32
  endCumulativeScTxCommTreeRoot : F
  btrFee : UInt64
  ftMinAmount : UInt64
  btList : List BackwardTransfer

/-- The functions on values that the native functions call. Any of them may
panic. -/
structure NativeLib (V : NativeType → Type) where
  -- codecs, with the flags `checked` and `compressed`
  encodedLength : Kind → ℕ
  serialize : (t : NativeType) → V t → Option Bool → Except Panic (List UInt8)
  deserialize : (t : NativeType) → List UInt8 → Option Bool → Option Bool →
    Except Panic (Option (V t))
  -- field elements
  deserializeFieldElement : List UInt8 → Option (V .fieldElement)
  fieldElementFrom : UInt64 → V .fieldElement
  getRandomFieldElement : UInt64 → V .fieldElement
  fieldElementEq : V .fieldElement → V .fieldElement → Bool
  -- signatures
  schnorrGenerateKey : (random : ℕ) → Except Panic (V .g2 × V .scalar)
  schnorrGetPublicKey : V .scalar → Except Panic (V .g2)
  schnorrVerifyPublicKey : V .g2 → Except Panic Bool
  schnorrSign : (random : ℕ) → V .fieldElement → V .scalar → V .g2 → Call (V .schnorrSig)
  schnorrVerifySignature : V .fieldElement → V .g2 → V .schnorrSig → Call Bool
  isValidSignature : V .schnorrSig → Except Panic Bool
  -- verifiable random functions
  vrfGenerateKey : (random : ℕ) → Except Panic (V .g2 × V .scalar)
  vrfGetPublicKey : V .scalar → Except Panic (V .g2)
  vrfVerifyPublicKey : V .g2 → Except Panic Bool
  vrfProve : (random : ℕ) → V .fieldElement → V .scalar → V .g2 →
    Call (V .vrfProof × V .fieldElement)
  vrfProofToHash : V .fieldElement → V .g2 → V .vrfProof → Call (V .fieldElement)
  isValidVRFProof : V .vrfProof → Except Panic Bool
  -- hashing
  getPoseidonHashConstantLength : UInt64 → Option (List (V .fieldElement)) →
    Except Panic (V .fieldHash)
  getPoseidonHashVariableLength : Bool → Option (List (V .fieldElement)) →
    Except Panic (V .fieldHash)
  updatePoseidonHash : V .fieldElement → Program (V .fieldHash) Panic Unit
  finalizePoseidonHash : V .fieldHash → Call (V .fieldElement)
  resetPoseidonHash : Option (List (V .fieldElement)) → Program (V .fieldHash) Panic Unit
  -- Merkle trees
  newGingerMHT : UInt64 → UInt64 → Call (V .gingerMHT)
  appendLeafToGingerMHT : V .fieldElement → Program (V .gingerMHT) Panic (Except Error Unit)
  finalizeGingerMHT : V .gingerMHT → Call (V .gingerMHT)
  finalizeGingerMHTInPlace : Program (V .gingerMHT) Panic (Except Error Unit)
  getGingerMHTRoot : V .gingerMHT → Except Panic (Option (V .fieldElement))
  getGingerMHTPath : V .gingerMHT → UInt64 → Except Panic (Option (V .gingerMHTPath))
  resetGingerMHT : Program (V .gingerMHT) Panic Unit
  isValidPath : V .gingerMHTPath → Bool
  verifyGingerMerklePath : V .gingerMHTPath → UInt64 → V .fieldElement → V .fieldElement →
    Call Bool
  verifyGingerMerklePathWithoutLengthCheck : V .gingerMHTPath → V .fieldElement →
    V .fieldElement → Except Panic Bool
  getRootFromPath : V .gingerMHTPath → V .fieldElement → Except Panic (V .fieldElement)
  isPathLeftmost : V .gingerMHTPath → Except Panic Bool
  isPathRightmost : V .gingerMHTPath → Except Panic Bool
  areRightLeavesEmpty : V .gingerMHTPath → Except Panic Bool
  getLeafIndexFromPath : V .gingerMHTPath → Except Panic UInt64
  -- commitment trees
  createCommitmentTree : V .commitmentTree
  addScc : ScCr (V .fieldElement) → Program (V .commitmentTree) Panic Bool
  addFwt : Fwt (V .fieldElement) → Program (V .commitmentTree) Panic Bool
  addBwtr : Btr (V .fieldElement) → Program (V .commitmentTree) Panic Bool
  addCert : Cert (V .fieldElement) → Program (V .commitmentTree) Panic Bool
  addCertLeaf : V .fieldElement → V .fieldElement → Program (V .commitmentTree) Panic Bool
  addCsw : Csw (V .fieldElement) → Program (V .commitmentTree) Panic Bool
  getCertLeaves : V .fieldElement →
    Program (V .commitmentTree) Panic (Option (List (V .fieldElement)))
  getScc : V .fieldElement → Program (V .commitmentTree) Panic (Option (V .fieldElement))
  getFwtCommitment : V .fieldElement →
    Program (V .commitmentTree) Panic (Option (V .fieldElement))
  getBwtrCommitment : V .fieldElement →
    Program (V .commitmentTree) Panic (Option (V .fieldElement))
  getCertCommitment : V .fieldElement →
    Program (V .commitmentTree) Panic (Option (V .fieldElement))
  getCswCommitment : V .fieldElement →
    Program (V .commitmentTree) Panic (Option (V .fieldElement))
  getScCommitment : V .fieldElement →
    Program (V .commitmentTree) Panic (Option (V .fieldElement))
  getCommitment : Program (V .commitmentTree) Panic (Option (V .fieldElement))
  getScExistenceProof : V .fieldElement →
    Program (V .commitmentTree) Panic (Option (V .scExistenceProof))
  getScAbsenceProof : V .fieldElement →
    Program (V .commitmentTree) Panic (Option (V .scAbsenceProof))
  verifyScCommitment : V .fieldElement → V .scExistenceProof → V .fieldElement →
    Except Panic Bool
  verifyScAbsence : V .fieldElement → V .scAbsenceProof → V .fieldElement → Except Panic Bool
  -- certificates
  computePksThresholdHash : List (V .g2) → UInt64 → Call (V .fieldElement)
  computeMsgToSign : CertificateInputs (V .fieldElement) → Call (V .fieldElement)
  createNaiveThresholdSigProof : (random : ℕ) → List (V .g2) → List (Option (V .schnorrSig)) →
    CertificateInputs (V .fieldElement) → UInt64 → String → Bool → Bool → Bool → Bool →
    Call (List UInt8 × UInt64)
  verifyNaiveThresholdSigProof : (random : ℕ) → V .fieldElement →
    CertificateInputs (V .fieldElement) → UInt64 → List UInt8 → Bool → Bool → String → Bool →
    Bool → Call Bool

/-- The library and the allocator a run works with. -/
structure Env (V : NativeType → Type) extends NativeLib V where
  malloc : ℕ → ℕ

variable {V : NativeType → Type} (E : Env V)

/-! ## Returning objects -/

def returnObject (k : Kind) (obj : V k.nativeType) : JavaCall V Ref :=
  returnJobject E.malloc k obj

/-- `Ok(obj)` becomes an object and `Err(_)` becomes null. -/
def returnResult (k : Kind) (result : Call (V k.nativeType)) : JavaCall V Ref := do
  match ← native result with
  | .ok obj => returnObject E k obj
  | .error _ => pure none

/-- `Some(obj)` becomes an object and `None` null, or an empty `Optional`. -/
def returnOption (k : Kind) (obj : Option (V k.nativeType)) : JavaCall V Ref :=
  match obj with
  | some obj => returnObject E k obj
  | none => pure none

/-- An operation of Rust that returns a `Result<bool, _>`, to Java. -/
def returnBool (result : Call Bool) : JavaCall V Bool := do
  match ← native result with
  | .ok b => pure b
  | .error _ => pure false

/-- `Ok(_)` is true, `Err(_)` false. -/
def isOk (result : Except Error Unit) : Bool :=
  match result with
  | .ok () => true
  | .error _ => false

/-! ## Encodings -/

/-- A serialize method: a guard on the Java side, if it has one, and
`serialize_from_jobject`. -/
def serializeMethod (k : Kind) (wasFreed : Option JavaException) (this : Ref)
    (compressed : Option Bool) : JavaCall V (List UInt8) := do
  match wasFreed with
  | some e => checkNotFreed k this e
  | none => let _ ← receiver k this
  let obj ← reading k this
  native (E.serialize k.nativeType obj compressed)

/-- A deserialize method: a check of the length on the Java side, if it has one,
and `deserialize_to_jobject`. -/
def deserializeMethod (k : Kind) (incorrect : Option String) (bytes : Option (List UInt8))
    (checked compressed : Option Bool) : JavaCall V Ref := do
  match incorrect, bytes with
  | some _, none => throwJava .nullPointer
  | some what, some objBytes =>
      let expected := E.encodedLength k
      let found := objBytes.length
      if found ≠ expected then
        throwJava (.illegalArgument
          s!"Incorrect {what} length, {expected} expected, {found} found")
      else pure ()
  | none, _ => pure ()
  let objBytes ← native (convertByteArray bytes)
  let obj ← native (E.deserialize k.nativeType objBytes checked compressed)
  returnOption E k obj

/-- The serialize method of a class. Only keys and VRF proofs have a flag. -/
def serialize (k : Kind) (this : Ref) (compressed : Bool) : JavaCall V (List UInt8) :=
  match k with
  | .fieldElement =>
      serializeMethod E k (some (.illegalState "Field element was freed.")) this none
  | .schnorrPublicKey | .vrfPublicKey =>
      serializeMethod E k (some (.illegalState "Public key was freed.")) this (some compressed)
  | .schnorrSecretKey | .vrfSecretKey =>
      serializeMethod E k (some (.illegalState "Secret key was freed.")) this none
  | .schnorrSignature => serializeMethod E k none this none
  | .vrfProof =>
      serializeMethod E k (some (.illegalState "Proof was freed.")) this (some compressed)
  | .merklePath =>
      serializeMethod E k (some (.illegalState "Field element was freed.")) this none
  | .scExistenceProof =>
      serializeMethod E k (some (.illegalState "Existence proof was freed.")) this none
  | .scAbsenceProof =>
      serializeMethod E k (some (.illegalState "Absence proof was freed.")) this none
  -- these three have no serialize method
  | .poseidonHash | .inMemoryOptimizedMerkleTree | .commitmentTree => throwJava .nullPointer

/-- The deserialize method of a class. -/
def deserialize (k : Kind) (bytes : Option (List UInt8)) (check compressed : Bool) :
    JavaCall V Ref :=
  match k with
  | .fieldElement => deserializeMethod E k (some "field element") bytes none none
  | .schnorrPublicKey | .vrfPublicKey =>
      deserializeMethod E k (some "public key") bytes (some check) (some compressed)
  | .schnorrSecretKey | .vrfSecretKey => deserializeMethod E k (some "secret key") bytes none none
  | .schnorrSignature => deserializeMethod E k (some "signature") bytes (some check) none
  | .vrfProof => deserializeMethod E k (some "proof") bytes (some check) (some compressed)
  | .merklePath => deserializeMethod E k none bytes (some check) none
  | .scExistenceProof | .scAbsenceProof => deserializeMethod E k none bytes none none
  -- these three have no deserialize method
  | .poseidonHash | .inMemoryOptimizedMerkleTree | .commitmentTree => throwJava .nullPointer

/-- The free method of a class, which is also its `close`. The two secret and
the two public keys are freed as one Rust type each. -/
def free (k : Kind) (this : Ref) : JavaCall V Unit :=
  match k with
  | .fieldElement => freeObject .argument .fieldElement k this
  | .schnorrPublicKey => freeObject .field .g2 k this
  | .schnorrSecretKey => freeObject .field .scalar k this
  | .schnorrSignature => freeObject .argument .schnorrSig k this
  | .vrfPublicKey => freeObject .field .g2 k this
  | .vrfSecretKey => freeObject .field .scalar k this
  | .vrfProof => freeObject .argument .vrfProof k this
  | .poseidonHash => freeObject .field .fieldHash k this
  | .merklePath => freeObject .argument .gingerMHTPath k this
  | .inMemoryOptimizedMerkleTree => freeObject .argument .gingerMHT k this
  | .commitmentTree => freeObject .argument .commitmentTree k this
  | .scExistenceProof => freeObject .argument .scExistenceProof k this
  | .scAbsenceProof => freeObject .argument .scAbsenceProof k this

/-! ## Field elements -/

namespace FieldElement

def createFromLong (value : Int64) : JavaCall V Ref :=
  returnObject E .fieldElement (E.fieldElementFrom value.toUInt64)

def createRandom (seed : Int64) : JavaCall V Ref :=
  returnObject E .fieldElement (E.getRandomFieldElement seed.toUInt64)

def printFieldElementBytes (this : Ref) : JavaCall V Unit := do
  checkNotFreed .fieldElement this (.illegalState "Field element was freed.")
  let fe ← reading .fieldElement this
  let _ ← native (E.serialize .fieldElement fe none)

/-- `equals`: the same object is equal without a look at its box. -/
def equals (this o : Ref) : JavaCall V Bool := do
  let _ ← receiver .fieldElement this
  if o = this then pure true
  else if o = none then pure false
  else do
    let field1 ← reading .fieldElement this
    let field2 ← reading .fieldElement o
    pure (E.fieldElementEq field1 field2)

end FieldElement

/-! ## Schnorr signatures and VRF -/

namespace SchnorrPublicKey

def verifySignature (this signature message : Ref) : JavaCall V Bool := do
  checkNotFreed .schnorrPublicKey this (.illegalState "Public key was freed.")
  let publicKey ← reading .schnorrPublicKey this
  let message ← reading .fieldElement message
  let signature ← reading .schnorrSignature signature
  returnBool (E.schnorrVerifySignature message publicKey signature)

def verifyKey (this : Ref) : JavaCall V Bool := do
  checkNotFreed .schnorrPublicKey this (.illegalState "Public key was freed.")
  let pk ← reading .schnorrPublicKey this
  native (E.schnorrVerifyPublicKey pk)

end SchnorrPublicKey

namespace SchnorrSecretKey

def getPublicKey (this : Ref) : JavaCall V Ref := do
  checkNotFreed .schnorrSecretKey this (.illegalState "Secret key was freed.")
  let sk ← reading .schnorrSecretKey this
  let pk ← native (E.schnorrGetPublicKey sk)
  returnObject E .schnorrPublicKey pk

end SchnorrSecretKey

namespace SchnorrSignature

/-- The constructor without arguments: a missing signature. -/
def new : JavaCall V Ref := newNullObject .schnorrSignature

def isValidSignature (this : Ref) : JavaCall V Bool := do
  checkNotFreed .schnorrSignature this (.illegalArgument "Schnorr signature was freed.")
  let sig ← reading .schnorrSignature this
  native (E.isValidSignature sig)

end SchnorrSignature

namespace SchnorrKeyPair

/-- The constructor from a secret key. -/
def ofSecretKey (secretKey : Ref) : JavaCall V Ref := do
  let publicKey ← SchnorrSecretKey.getPublicKey E secretKey
  newPair .schnorrKeyPair secretKey publicKey

def generate : JavaCall V Ref := do
  let random ← tick
  let (pk, sk) ← native (E.schnorrGenerateKey random)
  let secretKey ← returnObject E .schnorrSecretKey sk
  let publicKey ← returnObject E .schnorrPublicKey pk
  newPair .schnorrKeyPair secretKey publicKey

def signMessage (this message : Ref) : JavaCall V Ref := do
  let (skObject, pkObject) ← pairFields .schnorrKeyPair this
  let secretKey ← reading .schnorrSecretKey skObject
  let publicKey ← reading .schnorrPublicKey pkObject
  let message ← reading .fieldElement message
  let random ← tick
  returnResult E .schnorrSignature (E.schnorrSign random message secretKey publicKey)

end SchnorrKeyPair

namespace VRFPublicKey

def verifyKey (this : Ref) : JavaCall V Bool := do
  checkNotFreed .vrfPublicKey this (.illegalState "Public key was freed.")
  let pk ← reading .vrfPublicKey this
  native (E.vrfVerifyPublicKey pk)

def proofToHash (this proof message : Ref) : JavaCall V Ref := do
  checkNotFreed .vrfPublicKey this (.illegalState "Public key was freed.")
  let publicKey ← reading .vrfPublicKey this
  let message ← reading .fieldElement message
  let proof ← reading .vrfProof proof
  returnResult E .fieldElement (E.vrfProofToHash message publicKey proof)

end VRFPublicKey

namespace VRFSecretKey

def getPublicKey (this : Ref) : JavaCall V Ref := do
  checkNotFreed .vrfSecretKey this (.illegalState "Secret key was freed.")
  let sk ← reading .vrfSecretKey this
  let pk ← native (E.vrfGetPublicKey sk)
  returnObject E .vrfPublicKey pk

end VRFSecretKey

namespace VRFProof

def isValidVRFProof (this : Ref) : JavaCall V Bool := do
  checkNotFreed .vrfProof this (.illegalArgument "VRF Proof was freed.")
  let proof ← reading .vrfProof this
  native (E.isValidVRFProof proof)

end VRFProof

namespace VRFKeyPair

/-- The constructor from a secret key. -/
def ofSecretKey (secretKey : Ref) : JavaCall V Ref := do
  let publicKey ← VRFSecretKey.getPublicKey E secretKey
  newPair .vrfKeyPair secretKey publicKey

def generate : JavaCall V Ref := do
  let random ← tick
  let (pk, sk) ← native (E.vrfGenerateKey random)
  let secretKey ← returnObject E .vrfSecretKey sk
  let publicKey ← returnObject E .vrfPublicKey pk
  newPair .vrfKeyPair secretKey publicKey

def prove (this message : Ref) : JavaCall V Ref := do
  let (skObject, pkObject) ← pairFields .vrfKeyPair this
  let secretKey ← reading .vrfSecretKey skObject
  let publicKey ← reading .vrfPublicKey pkObject
  let message ← reading .fieldElement message
  let random ← tick
  match ← native (E.vrfProve random message secretKey publicKey) with
  | .ok (proof, vrfOut) => do
      let proof ← returnObject E .vrfProof proof
      let vrfOut ← returnObject E .fieldElement vrfOut
      newPair .vrfProveResult proof vrfOut
  | .error _ => pure none

end VRFKeyPair

/-- `close` of a composite object: the key pairs close the public key first, the
result of a proof its first part. -/
def closePair (p : PairKind) (this : Ref) : JavaCall V Unit := do
  let (first, second) ← pairFields p this
  match p with
  | .schnorrKeyPair | .vrfKeyPair => do
      free p.second second
      free p.first first
  | .vrfProveResult => do
      free p.first first
      free p.second second

/-! ## Poseidon hash -/

namespace PoseidonHash

/-- The personalization, read element by element. -/
def readPersonalization (personalization : Option (List Ref)) :
    JavaCall V (Option (List (V .fieldElement))) := do
  let personalization ← native (expectRef personalization)
  let fields ← personalization.mapM (reading .fieldElement)
  pure (nonEmpty fields)

def getInstanceConstantLength (inputSize : Int32) (personalization : Option (List Ref)) :
    JavaCall V Ref := do
  let personalization ← readPersonalization personalization
  let h ← native (E.getPoseidonHashConstantLength inputSize.toInt64.toUInt64 personalization)
  returnObject E .poseidonHash h

def getInstanceVariableLength (modRate : Bool) (personalization : Option (List Ref)) :
    JavaCall V Ref := do
  let personalization ← readPersonalization personalization
  let h ← native (E.getPoseidonHashVariableLength modRate personalization)
  returnObject E .poseidonHash h

def update (this input : Ref) : JavaCall V Unit := do
  checkNotFreed .poseidonHash this (.illegalState "PoseidonHash instance was freed.")
  let _ ← reading .poseidonHash this
  let input ← reading .fieldElement input
  modifying .poseidonHash this (E.updatePoseidonHash input)

def finalizeHash (this : Ref) : JavaCall V Ref := do
  checkNotFreed .poseidonHash this (.illegalState "PoseidonHash instance was freed.")
  let digest ← reading .poseidonHash this
  returnResult E .fieldElement (E.finalizePoseidonHash digest)

/-- `reset`, without the value it returns. -/
def reset (this : Ref) (personalization : Option (List Ref)) : JavaCall V Unit := do
  checkNotFreed .poseidonHash this (.illegalState "PoseidonHash instance was freed.")
  let _ ← reading .poseidonHash this
  let personalization ← readPersonalization personalization
  modifying .poseidonHash this (E.resetPoseidonHash personalization)

/-- The loop of `computePoseidonHash`. -/
def updateAll (digest : Ref) : List Ref → JavaCall V Unit
  | [] => pure ()
  | fe :: inputs => do
      update E digest fe
      updateAll digest inputs

def computePoseidonHash (inputs : List Ref) : JavaCall V Ref := do
  let digest ← getInstanceConstantLength E (Int32.ofNat inputs.length) (some [])
  updateAll E digest inputs
  let hashOutput ← finalizeHash E digest
  free .poseidonHash digest
  pure hashOutput

end PoseidonHash

/-! ## Merkle trees -/

namespace InMemoryOptimizedMerkleTree

def wasFreed : JavaException := .illegalState "InMemoryOptimizedMerkleTree instance was freed."

def init (height : Int32) (processingStep : Int64) : JavaCall V Ref :=
  returnResult E .inMemoryOptimizedMerkleTree
    (E.newGingerMHT height.toInt64.toUInt64 processingStep.toUInt64)

def append (this input : Ref) : JavaCall V Bool := do
  checkNotFreed .inMemoryOptimizedMerkleTree this wasFreed
  let leaf ← reading .fieldElement input
  isOk <$> modifying .inMemoryOptimizedMerkleTree this (E.appendLeafToGingerMHT leaf)

def finalizeTree (this : Ref) : JavaCall V Ref := do
  checkNotFreed .inMemoryOptimizedMerkleTree this wasFreed
  let tree ← reading .inMemoryOptimizedMerkleTree this
  returnResult E .inMemoryOptimizedMerkleTree (E.finalizeGingerMHT tree)

def finalizeTreeInPlace (this : Ref) : JavaCall V Bool := do
  checkNotFreed .inMemoryOptimizedMerkleTree this wasFreed
  isOk <$> modifying .inMemoryOptimizedMerkleTree this E.finalizeGingerMHTInPlace

def root (this : Ref) : JavaCall V Ref := do
  checkNotFreed .inMemoryOptimizedMerkleTree this wasFreed
  let tree ← reading .inMemoryOptimizedMerkleTree this
  let root ← native (E.getGingerMHTRoot tree)
  returnOption E .fieldElement root

def getMerklePath (this : Ref) (leafIndex : Int64) : JavaCall V Ref := do
  checkNotFreed .inMemoryOptimizedMerkleTree this wasFreed
  let tree ← reading .inMemoryOptimizedMerkleTree this
  let path ← native (E.getGingerMHTPath tree leafIndex.toUInt64)
  returnOption E .merklePath path

def reset (this : Ref) : JavaCall V Unit := do
  checkNotFreed .inMemoryOptimizedMerkleTree this wasFreed
  modifying .inMemoryOptimizedMerkleTree this E.resetGingerMHT

end InMemoryOptimizedMerkleTree

namespace MerklePath

def wasFreed : JavaException := .illegalState "MerklePath instance was freed."

/-- The two `verify` methods read the leaf and the root before the path, and
answer false for a path that is not valid. -/
def verifyMethod (this leaf root : Ref)
    (check : V .gingerMHTPath → V .fieldElement → V .fieldElement → Call Bool) :
    JavaCall V Bool := do
  checkNotFreed .merklePath this wasFreed
  let leaf ← reading .fieldElement leaf
  let root ← reading .fieldElement root
  let path ← reading .merklePath this
  if E.isValidPath path then returnBool (check path leaf root) else pure false

def verify (this : Ref) (merkleTreeHeight : Int32) (leaf root : Ref) : JavaCall V Bool :=
  verifyMethod E this leaf root fun path =>
    E.verifyGingerMerklePath path merkleTreeHeight.toInt64.toUInt64

def verifyWithoutLengthCheck (this leaf root : Ref) : JavaCall V Bool :=
  verifyMethod E this leaf root fun path leaf root =>
    (E.verifyGingerMerklePathWithoutLengthCheck path leaf root).map .ok

def apply (this leaf : Ref) : JavaCall V Ref := do
  checkNotFreed .merklePath this wasFreed
  let path ← reading .merklePath this
  let leaf ← reading .fieldElement leaf
  let root ← native (E.getRootFromPath path leaf)
  returnObject E .fieldElement root

/-- A question about a path alone. -/
def query {α : Type} (this : Ref) (f : V .gingerMHTPath → Except Panic α) : JavaCall V α := do
  checkNotFreed .merklePath this wasFreed
  let path ← reading .merklePath this
  native (f path)

def isLeftmost (this : Ref) : JavaCall V Bool := query this E.isPathLeftmost

def isRightmost (this : Ref) : JavaCall V Bool := query this E.isPathRightmost

def areRightLeavesEmpty (this : Ref) : JavaCall V Bool := query this E.areRightLeavesEmpty

def leafIndex (this : Ref) : JavaCall V UInt64 := query this E.getLeafIndexFromPath

end MerklePath

/-! ## Commitment trees -/

namespace CommitmentTree

def wasFreed : JavaException := .illegalState "CommitmentTree instance was freed."

def init : JavaCall V Ref := returnObject E .commitmentTree E.createCommitmentTree

/-- The arguments of a native function on a tree. -/
def decoding {α : Type} (x : Decode α) : JavaCall V (Option α) :=
  match x with
  | .ok a => pure (some a)
  | .error .jniFalse => pure none
  | .error (.panic e) => native (.error e)

/-- `nativeAdd...`: decode the arguments, take the tree, add. -/
def nativeAdd {Args Dec : Type} (decode : Args → Decode Dec)
    (add : Dec → Program (V .commitmentTree) Panic Bool) (this : Ref) (args : Args) :
    JavaCall V Bool := do
  match ← decoding (decode args) with
  | none => pure false
  | some decoded => modifying .commitmentTree this (add decoded)

def addScCr (this : Ref) (args : ScCrArgs) : JavaCall V Bool := do
  checkNotFreed .commitmentTree this wasFreed
  nativeAdd (decodeScCr E.deserializeFieldElement) E.addScc this args

def addFwt (this : Ref) (args : FwtArgs) : JavaCall V Bool := do
  checkNotFreed .commitmentTree this wasFreed
  nativeAdd (decodeFwt E.deserializeFieldElement) E.addFwt this args

def addBtr (this : Ref) (args : BtrArgs) : JavaCall V Bool := do
  checkNotFreed .commitmentTree this wasFreed
  nativeAdd (decodeBtr E.deserializeFieldElement) E.addBwtr this args

def addCert (this : Ref) (args : CertArgs) : JavaCall V Bool := do
  checkNotFreed .commitmentTree this wasFreed
  nativeAdd (decodeCert E.deserializeFieldElement) E.addCert this args

def addCsw (this : Ref) (args : CswArgs) : JavaCall V Bool := do
  checkNotFreed .commitmentTree this wasFreed
  nativeAdd (decodeCsw E.deserializeFieldElement) E.addCsw this args

/-- A field element argument of a native function on a tree, with `expect`. -/
def readScId (scId : Option (List UInt8)) : JavaCall V (V .fieldElement) :=
  native <|
    match readFieldElement E.deserializeFieldElement (.panic .unwrapError) scId with
    | .ok fe => .ok fe
    | .error (.panic e) => .error e
    | .error .jniFalse => .error .unwrapError

/-- `nativeAddCertLeaf` is public, so it may be called on a tree that was freed. -/
def nativeAddCertLeaf (this : Ref) (scId leaf : Option (List UInt8)) : JavaCall V Bool := do
  let _ ← receiver .commitmentTree this
  let scId ← readScId E scId
  let leafFe ← readScId E leaf
  modifying .commitmentTree this (E.addCertLeaf scId leafFe)

def addCertLeaf (this : Ref) (scId leaf : Option (List UInt8)) : JavaCall V Bool := do
  checkNotFreed .commitmentTree this wasFreed
  nativeAddCertLeaf E this scId leaf

/-- The leaves, one object each. The array is filled with an object without a
box first. -/
def returnLeaves (leaves : List (V .fieldElement)) : JavaCall V (List Ref) := do
  let _ ← newNullObject .fieldElement
  leaves.mapM (returnObject E .fieldElement)

def getCrtLeaves (this : Ref) (scId : Option (List UInt8)) :
    JavaCall V (Option (List Ref)) := do
  checkNotFreed .commitmentTree this wasFreed
  let scId ← readScId E scId
  match ← modifying .commitmentTree this (E.getCertLeaves scId) with
  | some leaves => some <$> returnLeaves E leaves
  | none => pure none

/-- A query of the tree for one sidechain, which may give an object. -/
def queryTree (k : Kind)
    (get : V .fieldElement → Program (V .commitmentTree) Panic (Option (V k.nativeType)))
    (this : Ref) (scId : Option (List UInt8)) : JavaCall V Ref := do
  checkNotFreed .commitmentTree this wasFreed
  let scId ← readScId E scId
  let found ← modifying .commitmentTree this (get scId)
  returnOption E k found

def getScCrCommitment (this : Ref) (scId : Option (List UInt8)) : JavaCall V Ref :=
  queryTree E .fieldElement E.getScc this scId

def getFwtCommitment (this : Ref) (scId : Option (List UInt8)) : JavaCall V Ref :=
  queryTree E .fieldElement E.getFwtCommitment this scId

def getBtrCommitment (this : Ref) (scId : Option (List UInt8)) : JavaCall V Ref :=
  queryTree E .fieldElement E.getBwtrCommitment this scId

def getCertCommitment (this : Ref) (scId : Option (List UInt8)) : JavaCall V Ref :=
  queryTree E .fieldElement E.getCertCommitment this scId

def getCswCommitment (this : Ref) (scId : Option (List UInt8)) : JavaCall V Ref :=
  queryTree E .fieldElement E.getCswCommitment this scId

def getScCommitment (this : Ref) (scId : Option (List UInt8)) : JavaCall V Ref :=
  queryTree E .fieldElement E.getScCommitment this scId

def getScExistenceProof (this : Ref) (scId : Option (List UInt8)) : JavaCall V Ref :=
  queryTree E .scExistenceProof E.getScExistenceProof this scId

def getScAbsenceProof (this : Ref) (scId : Option (List UInt8)) : JavaCall V Ref :=
  queryTree E .scAbsenceProof E.getScAbsenceProof this scId

def getCommitment (this : Ref) : JavaCall V Ref := do
  checkNotFreed .commitmentTree this wasFreed
  let found ← modifying .commitmentTree this E.getCommitment
  returnOption E .fieldElement found

def verifyScCommitment (scCommitment existenceProof commitment : Ref) : JavaCall V Bool := do
  let scCommitmentFe ← reading .fieldElement scCommitment
  let scCommitmentProof ← reading .scExistenceProof existenceProof
  let commitmentFe ← reading .fieldElement commitment
  native (E.verifyScCommitment scCommitmentFe scCommitmentProof commitmentFe)

def verifyScAbsence (scId : Option (List UInt8)) (absenceProof commitment : Ref) :
    JavaCall V Bool := do
  let scId ← readScId E scId
  let scAbsenceProof ← reading .scAbsenceProof absenceProof
  let commitmentFe ← reading .fieldElement commitment
  native (E.verifyScAbsence scId scAbsenceProof commitmentFe)

end CommitmentTree

/-! ## Certificates -/

namespace NaiveThresholdSigProof

/-- The certificate data of the Java calls. -/
structure CertificateArgs where
  bt : Option (List (Option JavaBackwardTransfer))
  scId : Ref
  epochNumber : Int32
  endCumulativeScTxCommTreeRoot : Ref
  btrFee : Int64
  ftMinAmount : Int64

/-- The loop over `_bt_list`. -/
def readBtList (bt : Option (List (Option JavaBackwardTransfer))) :
    JavaCall V (List BackwardTransfer) :=
  native do
    let bt ← expectRef bt
    bt.mapM readBackwardTransfer

def certificateInputs (args : CertificateArgs) (btList : List BackwardTransfer)
    (scId root : V .fieldElement) : CertificateInputs (V .fieldElement) :=
  ⟨scId, args.epochNumber.toUInt32, root, args.btrFee.toUInt64, args.ftMinAmount.toUInt64,
    btList⟩

def getConstant (schnorrPublicKeys : List Ref) (threshold : Int64) : JavaCall V Ref := do
  let pks ← schnorrPublicKeys.mapM (reading .schnorrPublicKey)
  returnResult E .fieldElement (E.computePksThresholdHash pks threshold.toUInt64)

def createMsgToSign (args : CertificateArgs) : JavaCall V Ref := do
  let btList ← readBtList args.bt
  let scId ← reading .fieldElement args.scId
  let root ← reading .fieldElement args.endCumulativeScTxCommTreeRoot
  returnResult E .fieldElement (E.computeMsgToSign (certificateInputs args btList scId root))

/-- The `i`-th signature, which may be missing, and the `i`-th key. -/
def readSigAndPk (sig : Ref × Ref) : JavaCall V (Option (V .schnorrSig) × V .g2) := do
  let signature ← readingNullable .schnorrSignature sig.1
  let publicKey ← reading .schnorrPublicKey sig.2
  pure (signature, publicKey)

def createProof (args : CertificateArgs) (schnorrSignatures schnorrPublicKeys : List Ref)
    (threshold : Int64) (provingKeyPath : Option JavaString)
    (checkProvingKey zk compressedPk compressProof : Bool) :
    JavaCall V (Option (List UInt8 × UInt64)) := do
  let btList ← readBtList args.bt
  if schnorrSignatures.length ≠ schnorrPublicKeys.length then
    native (.error (.assertEq schnorrSignatures.length schnorrPublicKeys.length))
  else do
    let sigsAndPks ← (schnorrSignatures.zip schnorrPublicKeys).mapM readSigAndPk
    let scId ← reading .fieldElement args.scId
    let root ← reading .fieldElement args.endCumulativeScTxCommTreeRoot
    let path ← native (getString provingKeyPath)
    let random ← tick
    match ← native (E.createNaiveThresholdSigProof random (sigsAndPks.map Prod.snd)
      (sigsAndPks.map Prod.fst) (certificateInputs args btList scId root) threshold.toUInt64 path
      checkProvingKey zk compressedPk compressProof) with
    | .ok result => pure (some result)
    | .error _ => pure none

def verifyProof (args : CertificateArgs) (constant : Ref) (quality : Int64)
    (proof : Option (List UInt8)) (checkProof : Bool) (verificationKeyPath : Option JavaString)
    (checkVerificationKey : Bool) : JavaCall V Bool := do
  let btList ← readBtList args.bt
  let scId ← reading .fieldElement args.scId
  let root ← reading .fieldElement args.endCumulativeScTxCommTreeRoot
  let constant ← reading .fieldElement constant
  let proofBytes ← native (convertByteArray proof)
  let vkPath ← native (getString verificationKeyPath)
  let random ← tick
  returnBool (E.verifyNaiveThresholdSigProof random constant
    (certificateInputs args btList scId root) quality.toUInt64 proofBytes checkProof true vkPath
    checkVerificationKey true)

end NaiveThresholdSigProof

/-! ## Steps -/

/-- The public operations. -/
inductive Op where
  | serialize (k : Kind) (this : Ref) (compressed : Bool)
  | deserialize (k : Kind) (bytes : Option (List UInt8)) (check compressed : Bool)
  | free (k : Kind) (this : Ref)
  | newPair (p : PairKind) (first second : Ref)
  | pairParts (p : PairKind) (this : Ref)
  | closePair (p : PairKind) (this : Ref)
  | fieldElementFromLong (value : Int64)
  | fieldElementRandom (seed : Int64)
  | fieldElementPrint (this : Ref)
  | fieldElementEquals (this o : Ref)
  | schnorrVerifySignature (this signature message : Ref)
  | schnorrVerifyKey (this : Ref)
  | schnorrGetPublicKey (this : Ref)
  | schnorrNewSignature
  | schnorrIsValidSignature (this : Ref)
  | schnorrKeyPairOfSecretKey (secretKey : Ref)
  | schnorrGenerate
  | schnorrSignMessage (this message : Ref)
  | vrfVerifyKey (this : Ref)
  | vrfProofToHash (this proof message : Ref)
  | vrfGetPublicKey (this : Ref)
  | vrfIsValidProof (this : Ref)
  | vrfKeyPairOfSecretKey (secretKey : Ref)
  | vrfGenerate
  | vrfProve (this message : Ref)
  | poseidonConstantLength (inputSize : Int32) (personalization : Option (List Ref))
  | poseidonVariableLength (modRate : Bool) (personalization : Option (List Ref))
  | poseidonUpdate (this input : Ref)
  | poseidonFinalize (this : Ref)
  | poseidonReset (this : Ref) (personalization : Option (List Ref))
  | computePoseidonHash (inputs : List Ref)
  | merkleInit (height : Int32) (processingStep : Int64)
  | merkleAppend (this input : Ref)
  | merkleFinalize (this : Ref)
  | merkleFinalizeInPlace (this : Ref)
  | merkleRoot (this : Ref)
  | merkleGetPath (this : Ref) (leafIndex : Int64)
  | merkleReset (this : Ref)
  | pathVerify (this : Ref) (merkleTreeHeight : Int32) (leaf root : Ref)
  | pathVerifyWithoutLengthCheck (this leaf root : Ref)
  | pathApply (this leaf : Ref)
  | pathIsLeftmost (this : Ref)
  | pathIsRightmost (this : Ref)
  | pathAreRightLeavesEmpty (this : Ref)
  | pathLeafIndex (this : Ref)
  | treeInit
  | treeAddScCr (this : Ref) (args : ScCrArgs)
  | treeAddFwt (this : Ref) (args : FwtArgs)
  | treeAddBtr (this : Ref) (args : BtrArgs)
  | treeAddCert (this : Ref) (args : CertArgs)
  | treeAddCsw (this : Ref) (args : CswArgs)
  | treeNativeAddCertLeaf (this : Ref) (scId leaf : Option (List UInt8))
  | treeAddCertLeaf (this : Ref) (scId leaf : Option (List UInt8))
  | treeGetCrtLeaves (this : Ref) (scId : Option (List UInt8))
  | treeGetScCrCommitment (this : Ref) (scId : Option (List UInt8))
  | treeGetFwtCommitment (this : Ref) (scId : Option (List UInt8))
  | treeGetBtrCommitment (this : Ref) (scId : Option (List UInt8))
  | treeGetCertCommitment (this : Ref) (scId : Option (List UInt8))
  | treeGetCswCommitment (this : Ref) (scId : Option (List UInt8))
  | treeGetScCommitment (this : Ref) (scId : Option (List UInt8))
  | treeGetScExistenceProof (this : Ref) (scId : Option (List UInt8))
  | treeGetScAbsenceProof (this : Ref) (scId : Option (List UInt8))
  | treeGetCommitment (this : Ref)
  | treeVerifyScCommitment (scCommitment existenceProof commitment : Ref)
  | treeVerifyScAbsence (scId : Option (List UInt8)) (absenceProof commitment : Ref)
  | getConstant (schnorrPublicKeys : List Ref) (threshold : Int64)
  | createMsgToSign (args : NaiveThresholdSigProof.CertificateArgs)
  | createProof (args : NaiveThresholdSigProof.CertificateArgs)
      (schnorrSignatures schnorrPublicKeys : List Ref) (threshold : Int64)
      (provingKeyPath : Option JavaString) (checkProvingKey zk compressedPk compressProof : Bool)
  | verifyProof (args : NaiveThresholdSigProof.CertificateArgs) (constant : Ref)
      (quality : Int64) (proof : Option (List UInt8)) (checkProof : Bool)
      (verificationKeyPath : Option JavaString) (checkVerificationKey : Bool)

/-- The two parts of a composite object, if there is one. -/
def parts (w : World V) (p : PairKind) (this : Ref) : List (Kind × Ref) :=
  match this.bind fun i => (w.pairs p)[i]? with
  | some (first, second) => [(p.first, first), (p.second, second)]
  | none => []

/-- The objects whose native value an operation needs. A signature is not needed
by `createProof`, which takes a freed one as missing. -/
def Op.needs (w : World V) : Op → List (Kind × Ref)
  | .serialize k this _ => [(k, this)]
  | .deserialize .. | .free .. | .newPair .. | .pairParts .. | .closePair .. => []
  | .fieldElementFromLong _ | .fieldElementRandom _ => []
  | .fieldElementPrint this => [(.fieldElement, this)]
  | .fieldElementEquals this o =>
      if o = this ∨ o = none then [] else [(.fieldElement, this), (.fieldElement, o)]
  | .schnorrVerifySignature this signature message =>
      [(.schnorrPublicKey, this), (.fieldElement, message), (.schnorrSignature, signature)]
  | .schnorrVerifyKey this => [(.schnorrPublicKey, this)]
  | .schnorrGetPublicKey this | .schnorrKeyPairOfSecretKey this => [(.schnorrSecretKey, this)]
  | .schnorrNewSignature | .schnorrGenerate => []
  | .schnorrIsValidSignature this => [(.schnorrSignature, this)]
  | .schnorrSignMessage this message =>
      parts w .schnorrKeyPair this ++ [(.fieldElement, message)]
  | .vrfVerifyKey this => [(.vrfPublicKey, this)]
  | .vrfProofToHash this proof message =>
      [(.vrfPublicKey, this), (.fieldElement, message), (.vrfProof, proof)]
  | .vrfGetPublicKey this | .vrfKeyPairOfSecretKey this => [(.vrfSecretKey, this)]
  | .vrfIsValidProof this => [(.vrfProof, this)]
  | .vrfGenerate => []
  | .vrfProve this message => parts w .vrfKeyPair this ++ [(.fieldElement, message)]
  | .poseidonConstantLength _ personalization | .poseidonVariableLength _ personalization =>
      (personalization.getD []).map (Kind.fieldElement, ·)
  | .poseidonUpdate this input => [(.poseidonHash, this), (.fieldElement, input)]
  | .poseidonFinalize this => [(.poseidonHash, this)]
  | .poseidonReset this personalization =>
      (.poseidonHash, this) :: (personalization.getD []).map (Kind.fieldElement, ·)
  | .computePoseidonHash inputs => inputs.map (Kind.fieldElement, ·)
  | .merkleInit .. => []
  | .merkleAppend this input => [(.inMemoryOptimizedMerkleTree, this), (.fieldElement, input)]
  | .merkleFinalize this | .merkleFinalizeInPlace this | .merkleRoot this
  | .merkleGetPath this _ | .merkleReset this => [(.inMemoryOptimizedMerkleTree, this)]
  | .pathVerify this _ leaf root | .pathVerifyWithoutLengthCheck this leaf root =>
      [(.merklePath, this), (.fieldElement, leaf), (.fieldElement, root)]
  | .pathApply this leaf => [(.merklePath, this), (.fieldElement, leaf)]
  | .pathIsLeftmost this | .pathIsRightmost this | .pathAreRightLeavesEmpty this
  | .pathLeafIndex this => [(.merklePath, this)]
  | .treeInit => []
  | .treeAddScCr this _ | .treeAddFwt this _ | .treeAddBtr this _ | .treeAddCert this _
  | .treeAddCsw this _ | .treeNativeAddCertLeaf this _ _ | .treeAddCertLeaf this _ _
  | .treeGetCrtLeaves this _ | .treeGetScCrCommitment this _ | .treeGetFwtCommitment this _
  | .treeGetBtrCommitment this _ | .treeGetCertCommitment this _ | .treeGetCswCommitment this _
  | .treeGetScCommitment this _ | .treeGetScExistenceProof this _ | .treeGetScAbsenceProof this _
  | .treeGetCommitment this => [(.commitmentTree, this)]
  | .treeVerifyScCommitment scCommitment existenceProof commitment =>
      [(.fieldElement, scCommitment), (.scExistenceProof, existenceProof),
        (.fieldElement, commitment)]
  | .treeVerifyScAbsence _ absenceProof commitment =>
      [(.scAbsenceProof, absenceProof), (.fieldElement, commitment)]
  | .getConstant schnorrPublicKeys _ => schnorrPublicKeys.map (Kind.schnorrPublicKey, ·)
  | .createMsgToSign args =>
      [(.fieldElement, args.scId), (.fieldElement, args.endCumulativeScTxCommTreeRoot)]
  | .createProof args _ schnorrPublicKeys .. =>
      schnorrPublicKeys.map (Kind.schnorrPublicKey, ·)
        ++ [(.fieldElement, args.scId), (.fieldElement, args.endCumulativeScTxCommTreeRoot)]
  | .verifyProof args constant .. =>
      [(.fieldElement, args.scId), (.fieldElement, args.endCumulativeScTxCommTreeRoot),
        (.fieldElement, constant)]

/-- Run a call for its effect. -/
def discard {α : Type} (x : JavaCall V α) : JavaCall V Unit := (fun _ => ()) <$> x

/-- One operation. -/
def step : Op → JavaCall V Unit
  | .serialize k this compressed => discard (serialize E k this compressed)
  | .deserialize k bytes check compressed => discard (deserialize E k bytes check compressed)
  | .free k this => free k this
  | .newPair p first second => discard (ZendooSc.newPair p first second)
  | .pairParts p this => discard (pairFields p this)
  | .closePair p this => closePair p this
  | .fieldElementFromLong value => discard (FieldElement.createFromLong E value)
  | .fieldElementRandom seed => discard (FieldElement.createRandom E seed)
  | .fieldElementPrint this => FieldElement.printFieldElementBytes E this
  | .fieldElementEquals this o => discard (FieldElement.equals E this o)
  | .schnorrVerifySignature this signature message =>
      discard (SchnorrPublicKey.verifySignature E this signature message)
  | .schnorrVerifyKey this => discard (SchnorrPublicKey.verifyKey E this)
  | .schnorrGetPublicKey this => discard (SchnorrSecretKey.getPublicKey E this)
  | .schnorrNewSignature => discard SchnorrSignature.new
  | .schnorrIsValidSignature this => discard (SchnorrSignature.isValidSignature E this)
  | .schnorrKeyPairOfSecretKey secretKey => discard (SchnorrKeyPair.ofSecretKey E secretKey)
  | .schnorrGenerate => discard (SchnorrKeyPair.generate E)
  | .schnorrSignMessage this message => discard (SchnorrKeyPair.signMessage E this message)
  | .vrfVerifyKey this => discard (VRFPublicKey.verifyKey E this)
  | .vrfProofToHash this proof message => discard (VRFPublicKey.proofToHash E this proof message)
  | .vrfGetPublicKey this => discard (VRFSecretKey.getPublicKey E this)
  | .vrfIsValidProof this => discard (VRFProof.isValidVRFProof E this)
  | .vrfKeyPairOfSecretKey secretKey => discard (VRFKeyPair.ofSecretKey E secretKey)
  | .vrfGenerate => discard (VRFKeyPair.generate E)
  | .vrfProve this message => discard (VRFKeyPair.prove E this message)
  | .poseidonConstantLength inputSize personalization =>
      discard (PoseidonHash.getInstanceConstantLength E inputSize personalization)
  | .poseidonVariableLength modRate personalization =>
      discard (PoseidonHash.getInstanceVariableLength E modRate personalization)
  | .poseidonUpdate this input => PoseidonHash.update E this input
  | .poseidonFinalize this => discard (PoseidonHash.finalizeHash E this)
  | .poseidonReset this personalization => PoseidonHash.reset E this personalization
  | .computePoseidonHash inputs => discard (PoseidonHash.computePoseidonHash E inputs)
  | .merkleInit height processingStep =>
      discard (InMemoryOptimizedMerkleTree.init E height processingStep)
  | .merkleAppend this input => discard (InMemoryOptimizedMerkleTree.append E this input)
  | .merkleFinalize this => discard (InMemoryOptimizedMerkleTree.finalizeTree E this)
  | .merkleFinalizeInPlace this =>
      discard (InMemoryOptimizedMerkleTree.finalizeTreeInPlace E this)
  | .merkleRoot this => discard (InMemoryOptimizedMerkleTree.root E this)
  | .merkleGetPath this leafIndex =>
      discard (InMemoryOptimizedMerkleTree.getMerklePath E this leafIndex)
  | .merkleReset this => InMemoryOptimizedMerkleTree.reset E this
  | .pathVerify this merkleTreeHeight leaf root =>
      discard (MerklePath.verify E this merkleTreeHeight leaf root)
  | .pathVerifyWithoutLengthCheck this leaf root =>
      discard (MerklePath.verifyWithoutLengthCheck E this leaf root)
  | .pathApply this leaf => discard (MerklePath.apply E this leaf)
  | .pathIsLeftmost this => discard (MerklePath.isLeftmost E this)
  | .pathIsRightmost this => discard (MerklePath.isRightmost E this)
  | .pathAreRightLeavesEmpty this => discard (MerklePath.areRightLeavesEmpty E this)
  | .pathLeafIndex this => discard (MerklePath.leafIndex E this)
  | .treeInit => discard (CommitmentTree.init E)
  | .treeAddScCr this args => discard (CommitmentTree.addScCr E this args)
  | .treeAddFwt this args => discard (CommitmentTree.addFwt E this args)
  | .treeAddBtr this args => discard (CommitmentTree.addBtr E this args)
  | .treeAddCert this args => discard (CommitmentTree.addCert E this args)
  | .treeAddCsw this args => discard (CommitmentTree.addCsw E this args)
  | .treeNativeAddCertLeaf this scId leaf =>
      discard (CommitmentTree.nativeAddCertLeaf E this scId leaf)
  | .treeAddCertLeaf this scId leaf => discard (CommitmentTree.addCertLeaf E this scId leaf)
  | .treeGetCrtLeaves this scId => discard (CommitmentTree.getCrtLeaves E this scId)
  | .treeGetScCrCommitment this scId => discard (CommitmentTree.getScCrCommitment E this scId)
  | .treeGetFwtCommitment this scId => discard (CommitmentTree.getFwtCommitment E this scId)
  | .treeGetBtrCommitment this scId => discard (CommitmentTree.getBtrCommitment E this scId)
  | .treeGetCertCommitment this scId => discard (CommitmentTree.getCertCommitment E this scId)
  | .treeGetCswCommitment this scId => discard (CommitmentTree.getCswCommitment E this scId)
  | .treeGetScCommitment this scId => discard (CommitmentTree.getScCommitment E this scId)
  | .treeGetScExistenceProof this scId =>
      discard (CommitmentTree.getScExistenceProof E this scId)
  | .treeGetScAbsenceProof this scId => discard (CommitmentTree.getScAbsenceProof E this scId)
  | .treeGetCommitment this => discard (CommitmentTree.getCommitment E this)
  | .treeVerifyScCommitment scCommitment existenceProof commitment =>
      discard (CommitmentTree.verifyScCommitment E scCommitment existenceProof commitment)
  | .treeVerifyScAbsence scId absenceProof commitment =>
      discard (CommitmentTree.verifyScAbsence E scId absenceProof commitment)
  | .getConstant schnorrPublicKeys threshold =>
      discard (NaiveThresholdSigProof.getConstant E schnorrPublicKeys threshold)
  | .createMsgToSign args => discard (NaiveThresholdSigProof.createMsgToSign E args)
  | .createProof args sigs pks threshold path checkPk zk compressedPk compressProof =>
      discard (NaiveThresholdSigProof.createProof E args sigs pks threshold path checkPk zk
        compressedPk compressProof)
  | .verifyProof args constant quality proof checkProof path checkVk =>
      discard (NaiveThresholdSigProof.verifyProof E args constant quality proof checkProof path
        checkVk)

end ZendooSc.Handles
