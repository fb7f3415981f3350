/-
ZendooSc.Api.CctpCalls — the certificate functions of `cctp_calls.rs`.

Four functions belong together: `compute_pks_threshold_hash` gives the
constant a sidechain is created with, `compute_msg_to_sign` the message its
certifiers sign, `create_naive_threshold_sig_proof` proves a certificate and
`verify_naive_threshold_sig_proof` checks it.

What the functions use of ginger-lib and cctp-lib is not under this
repository, so it is a parameter: `CertLib` has the hash, the Schnorr check, the Merkle root of
the backward transfers, the byte accumulator and the public inputs of a
certificate; `ProverLib` and `VerifierLib` have the keys, the files and the
proof system. No law is assumed of them here. The theorems that need one name
it as a hypothesis.

Arithmetic on `u64` wraps in a release build and panics in a checked one; the
flag `checked` says which build runs.
-/
import ZendooSc.Circuit.Relation

namespace ZendooSc

open Lib

/-! ## Parameters -/

/-- What a certificate is made of, outside this repository. `Bt` is the type
of backward transfers. -/
structure CertLib (p : ℕ) (Bt : Type) where
  /-- The value of `FieldHash` over the elements given to it. -/
  hash : List (FieldElement p) → FieldElement p
  /-- `SchnorrSigScheme::verify` on a key, a message and a signature. -/
  verify : SchnorrPk (FieldElement p) → FieldElement p → SchnorrSig (FieldElement p) →
    Except Error Bool
  getBtMerkleRoot : Option (List Bt) → Except Error (FieldElement p)
  /-- `ByteAccumulator`: `init`, the updates in order, `get_field_elements`. -/
  byteAccumulator : List UInt64 → Except Error (List (FieldElement p))
  /-- `NULL_CONST.null_sig`. -/
  nullSig : SchnorrSig (FieldElement p)

/-- A key file after deserialization: its proving system comes with it. -/
inductive ZendooKey (K : Type) where
  | darlin
  | coboundaryMarlin (key : K)
  deriving DecidableEq

structure ProverLib (p : ℕ) (Pk Ck Proof : Type) where
  /-- `read_from_file` with the two flags `semantic_checks` and `compressed`. -/
  readProverKey : String → Bool → Bool → Except Error (ZendooKey Pk)
  getG1CommitterKey : Except Error (Option Ck)
  /-- `CoboundaryMarlin::prove`. -/
  prove : Pk → Ck → NaiveTresholdSignature (FieldElement p) → Bool → Except Error Proof
  serializeProof : Proof → Bool → Except Error (List UInt8)

/-- `CertificateProofUserInputs`. -/
structure CertificateProofUserInputs (p : ℕ) (Bt : Type) where
  constant : Option (FieldElement p)
  scId : FieldElement p
  epochNumber : UInt32
  quality : UInt64
  btList : Option (List Bt)
  customFields : Option (List (FieldElement p))
  endCumulativeScTxCommitmentTreeRoot : FieldElement p
  btrFee : UInt64
  ftMinAmount : UInt64

structure VerifierLib (p : ℕ) (Bt Vk Proof : Type) where
  /-- The file system, as far as this call reads it. -/
  files : String → Option (List UInt8)
  /-- The one-byte codec of `ProvingSystem`. -/
  tag : UInt8 → Option ProvingSystem
  deserializeVk : List UInt8 → Bool → Bool → Except Error Vk
  deserializeProof : List UInt8 → Bool → Bool → Except Error Proof
  /-- `verify_zendoo_proof`. -/
  verifyZendooProof : CertificateProofUserInputs p Bt → Proof → Vk → Except Error Bool

/-! ## Hashing -/

/-- `FieldHash` in constant length mode: the length it was made for and the
elements given to it so far. -/
structure FieldHash (F : Type) where
  size : ℕ
  inputs : List F

namespace FieldHash

variable {F : Type}

def initConstantLength (size : ℕ) : FieldHash F := ⟨size, []⟩

def update (h : FieldHash F) (x : F) : FieldHash F := { h with inputs := h.inputs ++ [x] }

/-- Finalizing checks that as many elements were given as announced. -/
def finalize (hash : List F → F) (h : FieldHash F) : Call F :=
  if h.inputs.length = h.size then pure (hash h.inputs) else fromResult (.error .hashInputLength)

end FieldHash

section Functions

variable {p : ℕ} {Bt Pk Ck Vk Proof : Type} (L : CertLib p Bt)

/-- `FieldElement::from` on a word. -/
def fieldOfNat (n : ℕ) : FieldElement p := (n : FieldElement p)

/-- Computes H(H(pks), threshold): used to generate the constant value needed
to be declared in MC during SC creation. -/
def computePksThresholdHash (pks : List (SchnorrPk (FieldElement p))) (threshold : UInt64) :
    Call (FieldElement p) := do
  let thresholdField := fieldOfNat threshold.toNat
  -- pks must always be all present
  let h := pks.foldl (fun h pk => h.update pk.x) (FieldHash.initConstantLength pks.length)
  let pksHash ← h.finalize L.hash
  ((FieldHash.initConstantLength 2).update pksHash |>.update thresholdField).finalize L.hash

/-- `None` for the empty list. -/
def btListOpt (btList : List Bt) : Option (List Bt) :=
  if btList.isEmpty then none else some btList

/-- The two fees as one field element. -/
def feesFieldElement (btrFee ftMinAmount : UInt64) : Call (FieldElement p) := do
  let fes ← fromResult (L.byteAccumulator [btrFee, ftMinAmount])
  assertEqual fes.length 1
  match fes with
  | fe :: _ => pure fe
  | [] => panicWith .indexOutOfBounds

/-- Compute and return (MR(bt_list), H(sc_id, epoch_number, bt_root,
end_cumulative_sc_tx_comm_tree_root, btr_fee, ft_min_amount)). -/
def computeMsgToSign (scId : FieldElement p) (epochNumber : UInt32)
    (endCumulativeScTxCommTreeRoot : FieldElement p) (btrFee ftMinAmount : UInt64)
    (btList : List Bt) : Call (FieldElement p × FieldElement p) := do
  let epochNumber := fieldOfNat epochNumber.toNat
  let mrBt ← fromResult (L.getBtMerkleRoot (btListOpt btList))
  let feesFieldElement ← feesFieldElement L btrFee ftMinAmount
  let msg ← ((FieldHash.initConstantLength 5).update scId |>.update epochNumber
    |>.update mrBt |>.update endCumulativeScTxCommTreeRoot
    |>.update feesFieldElement).finalize L.hash
  pure (mrBt, msg)

/-! ## Proving -/

/-- The arguments of `create_naive_threshold_sig_proof` that describe the
certificate. -/
structure Certificate (p : ℕ) (Bt : Type) where
  pks : List (SchnorrPk (FieldElement p))
  sigs : List (Option (SchnorrSig (FieldElement p)))
  scId : FieldElement p
  epochNumber : UInt32
  endCumulativeScTxCommTreeRoot : FieldElement p
  btrFee : UInt64
  ftMinAmount : UInt64
  btList : List Bt
  threshold : UInt64

/-- Iterate over sigs, check and count number of valid signatures, and replace
with the null signature the missing ones. -/
def checkSignatures (msg : FieldElement p) :
    List (SchnorrPk (FieldElement p) × Option (SchnorrSig (FieldElement p))) → UInt64 →
    Call (List (SchnorrSig (FieldElement p)) × UInt64)
  | [], validSignatures => pure ([], validSignatures)
  | (_, none) :: rest, validSignatures => do
      let (sigs, total) ← checkSignatures msg rest validSignatures
      pure (L.nullSig :: sigs, total)
  | (pk, some sig) :: rest, validSignatures => do
      let isVerified ← fromResult (L.verify pk msg sig)
      let validSignatures := if isVerified then validSignatures + 1 else validSignatures
      let (sigs, total) ← checkSignatures msg rest validSignatures
      pure (sig :: sigs, total)

/-- `a - b` on `u64`. -/
def subU64 (checked : Bool) (a b : UInt64) : Call UInt64 :=
  if checked && decide (a < b) then panicWith .subtractOverflow else pure (a - b)

/-- The part of `create_naive_threshold_sig_proof` before the key is read: the
circuit instance and the number of valid signatures. -/
def buildInstance (checked : Bool) (cert : Certificate p Bt) :
    Call (NaiveTresholdSignature (FieldElement p) × UInt64) := do
  -- get max pks
  let maxPks := UInt64.ofNat cert.pks.length
  assertEqual cert.sigs.length cert.pks.length
  -- compute msg to sign
  let (mrBt, msg) ← computeMsgToSign L cert.scId cert.epochNumber
    cert.endCumulativeScTxCommTreeRoot cert.btrFee cert.ftMinAmount cert.btList
  let (sigs, validSignatures) ← checkSignatures L msg (cert.pks.zip cert.sigs) 0
  -- compute b as v-t and convert it to field element
  let difference ← subU64 checked validSignatures cert.threshold
  let b := fieldOfNat difference.toNat
  let threshold := fieldOfNat cert.threshold.toNat
  match NaiveTresholdSignature.new cert.pks (sigs.map some) threshold b cert.scId
    (fieldOfNat cert.epochNumber.toNat) cert.endCumulativeScTxCommTreeRoot mrBt
    cert.ftMinAmount cert.btrFee maxPks with
  | .ok c => pure (c, validSignatures)
  | .error e => panicWith e

/-- The rest of it: read the key, call the prover on the instance, serialize. -/
def proveInstance (R : ProverLib p Pk Ck Proof) (provingKeyPath : String)
    (enforceMembership zk compressedPk compressProof : Bool)
    (c : NaiveTresholdSignature (FieldElement p)) : Call (List UInt8) := do
  let pk ← fromResult (R.readProverKey provingKeyPath enforceMembership compressedPk)
  let g1Ck ← fromResult R.getG1CommitterKey
  match pk with
  | .darlin => panicWith .unimplemented
  | .coboundaryMarlin pk =>
      match g1Ck with
      | none => panicWith .unwrapNone
      | some ck => do
          let proof ← fromResult (R.prove pk ck c zk)
          fromResult (R.serializeProof proof compressProof)

/-- `create_naive_threshold_sig_proof`. -/
def createNaiveThresholdSigProof (R : ProverLib p Pk Ck Proof) (checked : Bool)
    (cert : Certificate p Bt) (provingKeyPath : String)
    (enforceMembership zk compressedPk compressProof : Bool) : Call (List UInt8 × UInt64) := do
  let (c, validSignatures) ← buildInstance L checked cert
  let proof ← proveInstance R provingKeyPath enforceMembership zk compressedPk compressProof c
  pure (proof, validSignatures)

/-! ## Verifying -/

/-- The inputs the verifier rebuilds from the certificate data. -/
def verifierInputs (constant scId : FieldElement p) (epochNumber : UInt32)
    (endCumulativeScTxCommitmentTreeRoot : FieldElement p) (btrFee ftMinAmount : UInt64)
    (btList : List Bt) (validSigs : UInt64) : CertificateProofUserInputs p Bt where
  constant := some constant
  scId := scId
  epochNumber := epochNumber
  quality := validSigs
  btList := btListOpt btList
  customFields := none
  endCumulativeScTxCommitmentTreeRoot := endCumulativeScTxCommitmentTreeRoot
  btrFee := btrFee
  ftMinAmount := ftMinAmount

variable (V : VerifierLib p Bt Vk Proof)

/-- Reading a `ProvingSystem` looks at one byte. -/
def readTag : List UInt8 → Except Error ProvingSystem
  | [] => .error (.library "unexpected end of input")
  | byte :: _ =>
      match V.tag byte with
      | some ps => .ok ps
      | none => .error (.library "invalid proving system")

/-- `read_from_file`: a missing file is an error. -/
def readFromFile (path : String) : Except Error (List UInt8) :=
  match V.files path with
  | some bytes => .ok bytes
  | none => .error (.library "no such file")

/-- `read_from_file::<ProvingSystem>`. -/
def readProvingSystem (path : String) : Except Error ProvingSystem :=
  match readFromFile V path with
  | .ok bytes => readTag V bytes
  | .error e => .error e

/-- `&bytes[..1]`. -/
def firstByte : List UInt8 → Call (List UInt8)
  | [] => panicWith .indexOutOfBounds
  | byte :: _ => pure [byte]

/-- `verify_naive_threshold_sig_proof`. -/
def verifyNaiveThresholdSigProof (ins : CertificateProofUserInputs p Bt)
    (proof : List UInt8) (checkProof compressedProof : Bool) (vkPath : String)
    (checkVk compressedVk : Bool) : Call Bool := do
  -- check that the proving system type of the vk and proof are the same, before
  -- deserializing them all
  let vkPsType ← fromResult (readProvingSystem V vkPath)
  let front ← firstByte proof
  let proofPsType ← fromResult (readTag V front)
  if vkPsType ≠ proofPsType then
    fromResult (.error .provingSystemMismatch)
  else do
    let vkBytes ← fromResult (readFromFile V vkPath)
    let vk ← fromResult (V.deserializeVk vkBytes checkVk compressedVk)
    let proof ← fromResult (V.deserializeProof proof checkProof compressedProof)
    fromResult (V.verifyZendooProof ins proof vk)

end Functions

end ZendooSc
