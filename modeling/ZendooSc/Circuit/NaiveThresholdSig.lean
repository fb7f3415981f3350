/-
ZendooSc.Circuit.NaiveThresholdSig — the threshold signature circuit.

`NaiveTresholdSignature` is the circuit instance: the witness, every part of
it optional, and the number of keys it is built for. There are two ways to
make one. `new` takes a full witness, and cuts the bits of `b` to the width
the circuit packs. `getInstanceForSetup` takes only the number of keys and
leaves everything absent.

`generateConstraints` walks the circuit once. It follows the source in six
parts, one after the other and under the same namespaces:

  allocPks            the keys, and the commitment H(H(x_1..x_N), threshold)
  allocMessage        the certificate data, the packed fees, the message
  countSignatures     the signatures, their verdicts, the number of valid ones
  certDataHash        the hash of the certificate data and that number
  exposeInputs        the two public inputs
  checkThreshold      the bits of `b`, and valid_signatures - threshold = b

A closure of the source that does not look at the constraint system is a
`Source.given`, and it fails with `AssignmentMissing` on an absent witness.
The three assertions panic, so they stop both setup and proving.
-/
import ZendooSc.Calls
import ZendooSc.Lib.MachineInt
import ZendooSc.Circuit.Gadgets
import Mathlib.Data.Nat.Size

namespace ZendooSc

open Lib

/-! ## The instance -/

/-- The scalar field of the circuit, by its modulus. -/
abbrev FieldElement (p : ℕ) := ZMod p

/-- The modulus of the field of this repository's curve. -/
def tweedleModulus : ℕ :=
  28948022309329048855892746252171976963322203655955319056773317069363642105857

theorem two_pow_lt_tweedleModulus : 2 ^ 254 < tweedleModulus := by decide

/-- `FieldElement::size_in_bits`. -/
def sizeInBits (p : ℕ) : ℕ := Nat.size p

/-- `write_bits`: all bits of a field element, most significant first. -/
def writeBits {p : ℕ} (b : FieldElement p) : List Bool :=
  bitsBE (sizeInBits p) b.val

/-- The error a closure returns for an absent witness. -/
inductive SynthesisError where
  | assignmentMissing
  deriving DecidableEq, Repr

/-- The circuit instance. -/
structure NaiveTresholdSignature (F : Type) where
  pks : List (Option (SchnorrPk F))
  sigs : List (Option (SchnorrSig F))
  threshold : Option F
  b : List (Option Bool)
  scId : Option F
  epochNumber : Option F
  endCumulativeScTxCommTreeRoot : Option F
  mrBt : Option F
  ftMinAmount : Option UInt64
  btrFee : Option UInt64
  maxPks : UInt64

/-- `(max_pks.next_power_of_two() as u64).trailing_zeros()`. -/
def logMaxPks (maxPks : UInt64) : ℕ :=
  trailingZeros (nextPowerOfTwo maxPks)

namespace NaiveTresholdSignature

/-- The instance with a full witness. -/
def new {p : ℕ} (pks : List (SchnorrPk (FieldElement p)))
    (sigs : List (Option (SchnorrSig (FieldElement p))))
    (threshold b scId epochNumber endCumulativeScTxCommTreeRoot mrBt : FieldElement p)
    (ftMinAmount btrFee maxPks : UInt64) :
    Except Panic (NaiveTresholdSignature (FieldElement p)) :=
  let bBits := writeBits b
  if sizeInBits p < logMaxPks maxPks + 1 then
    .error .subtractOverflow
  else
    let toSkip := sizeInBits p - (logMaxPks maxPks + 1)
    .ok {
      pks := pks.map some
      sigs := sigs
      threshold := some threshold
      b := (bBits.drop toSkip).map some
      scId := some scId
      epochNumber := some epochNumber
      endCumulativeScTxCommTreeRoot := some endCumulativeScTxCommTreeRoot
      mrBt := some mrBt
      ftMinAmount := some ftMinAmount
      btrFee := some btrFee
      maxPks := maxPks }

end NaiveTresholdSignature

/-- The instance without a witness. -/
def getInstanceForSetup (F : Type) (maxPks : UInt64) : NaiveTresholdSignature F where
  pks := List.replicate maxPks.toNat none
  sigs := List.replicate maxPks.toNat none
  threshold := none
  b := List.replicate (logMaxPks maxPks + 1) none
  scId := none
  epochNumber := none
  endCumulativeScTxCommTreeRoot := none
  mrBt := none
  ftMinAmount := none
  btrFee := none
  maxPks := maxPks

/-! ## Gadget calls as requests -/

/-- What a synthesizer of this circuit can do. -/
abbrev CS (F α : Type) := Synth F (GadgetCall F) SynthesisError Panic α

section Requests

variable {F : Type}

/-- `v.ok_or(SynthesisError::AssignmentMissing)`. -/
def okOrMissing (v : Option (List F)) : Except SynthesisError (List F) :=
  match v with
  | some xs => .ok xs
  | none => .error .assignmentMissing

def frAlloc (ns : String) (v : Option F) : CS F Wire :=
  emit ns .frAlloc [] 1 (.given (okOrMissing (v.map fun a => [a])))

/-- `alloc_input` with a closure that reads back an earlier variable. -/
def frAllocInput (ns : String) (x : Wire) : CS F Wire :=
  emit ns .frAllocInput [] 1 (.readBack x)

/-- The two coordinates of a key. -/
def pkAllocWithoutCheck (ns : String) (pk : Option (SchnorrPk F)) : CS F (Wire × Wire) := do
  let x ← emit ns .pkAllocWithoutCheck [] 2
    (.given (okOrMissing (pk.map fun pk => [pk.x, pk.y])))
  pure (x, x + 1)

/-- The two elements of a signature. -/
def sigAlloc (ns : String) (sig : Option (SchnorrSig F)) : CS F (Wire × Wire) := do
  let e ← emit ns .sigAlloc [] 2 (.given (okOrMissing (sig.map fun sig => [sig.e, sig.s])))
  pure (e, e + 1)

def booleanAlloc [CommRing F] (ns : String) (b : Option Bool) : CS F Wire :=
  emit ns .booleanAlloc [] 1 (.given (okOrMissing (b.map fun b => [bitVal b])))

/-- The bits of a word, least significant first. -/
def uint64Bits [CommRing F] (n : UInt64) : List F :=
  (bitsLE 64 n.toNat).map bitVal

/-- `UInt64::alloc`; the result is what `to_bits_le` returns. -/
def uint64Alloc [CommRing F] (ns : String) (v : Option UInt64) : CS F (List Wire) := do
  let first ← emit ns .uint64Alloc [] 64 (.given (okOrMissing (v.map uint64Bits)))
  pure (List.range' first 64)

def enforceHashConstantLength (ns : String) (xs : List Wire) : CS F Wire :=
  emit ns .enforceHashConstantLength xs 1 .computed

def enforceSignatureVerdict (ns : String) (pk sig : Wire × Wire) (message : Wire) :
    CS F Wire :=
  emit ns .enforceSignatureVerdict [pk.1, pk.2, sig.1, sig.2, message] 1 .computed

def frZero (ns : String) : CS F Wire :=
  emit ns .frZero [] 1 .computed

def conditionallyAddConstant (ns : String) (a cond : Wire) (c : F) : CS F Wire :=
  emit ns (.conditionallyAddConstant c) [a, cond] 1 .computed

def fromBits (ns : String) (bits : List Wire) : CS F Wire :=
  emit ns .fromBits bits 1 .computed

def sub (ns : String) (a b : Wire) : CS F Wire :=
  emit ns .sub [a, b] 1 .computed

def enforceEqual (ns : String) (a b : Wire) : CS F Unit := do
  let _ ← emit ns .enforceEqual [a, b] 0 .computed
  pure ()

/-- `assert_eq!`. -/
def assertEq (left right : ℕ) : CS F Unit :=
  if left = right then pure () else abort (.assertEq left right)

end Requests

/-! ## The circuit -/

namespace NaiveTresholdSignature

variable {F : Type} [CommRing F]

/-- The wires of the key part. -/
structure PksWires where
  pks : List (Wire × Wire)
  threshold : Wire
  pksThresholdHash : Wire

/-- Allocate public keys as witnesses, and enforce pks_threshold_hash. -/
def allocPks (self : NaiveTresholdSignature F) : CS F PksWires := do
  -- no curve check here; only the x coordinates are hashed
  let pksG ← forEnum self.pks fun i pk => pkAllocWithoutCheck ("alloc_pk_" ++ toString i) pk
  let pksHashG ← enforceHashConstantLength "hash public keys" (pksG.map Prod.fst)
  let tG ← frAlloc "alloc threshold" self.threshold
  let pksThresholdHashG ← enforceHashConstantLength "H(H(pks), threshold)" [pksHashG, tG]
  pure ⟨pksG, tG, pksThresholdHashG⟩

/-- The wires of the certificate data. -/
structure MessageWires where
  scId : Wire
  epochNumber : Wire
  mrBt : Wire
  endCumulativeScTxCommTreeRoot : Wire
  fees : Wire
  message : Wire

/-- Reconstruct the message from the certificate data. -/
def allocMessage (self : NaiveTresholdSignature F) : CS F MessageWires := do
  let scIdG ← frAlloc "alloc sc id" self.scId
  let epochNumberG ← frAlloc "alloc epoch number" self.epochNumber
  let mrBtG ← frAlloc "alloc mr_bt" self.mrBt
  let rootG ← frAlloc "alloc end_cumulative_sc_tx_comm_tree_root"
    self.endCumulativeScTxCommTreeRoot
  let btrFeeG ← uint64Alloc "alloc btr_fee" self.btrFee
  let ftMinAmountG ← uint64Alloc "alloc ft_min_amount" self.ftMinAmount
  -- pack them into a single field element
  let feesG ← fromBits "pack(btr_fee, ft_min_amount)" (btrFeeG.reverse ++ ftMinAmountG.reverse)
  let messageG ← enforceHashConstantLength
    "H(sc_id, epoch_number, bt_root, end_cumulative_sc_tx_comm_tree_root, btr_fee, ft_min_amount)"
    [scIdG, epochNumberG, mrBtG, rootG, feesG]
  pure ⟨scIdG, epochNumberG, mrBtG, rootG, feesG, messageG⟩

/-- Allocate signatures, check their verdicts on the message, and count the
valid ones. -/
def countSignatures (self : NaiveTresholdSignature F) (pksG : List (Wire × Wire))
    (messageG : Wire) : CS F Wire := do
  let sigsG ← forEnum self.sigs fun i sig => sigAlloc ("alloc_sig_" ++ toString i) sig
  let verdicts ← forEnum (pksG.zip sigsG) fun i (pkG, sigG) =>
    enforceSignatureVerdict ("check_sig_verdict_" ++ toString i) pkG sigG messageG
  let zeroG ← frZero "alloc valid signatures count"
  foldEnum verdicts zeroG fun validSignatures i v =>
    conditionallyAddConstant ("add_verdict_" ++ toString i) validSignatures v 1

/-- Enforce cert_data_hash. -/
def certDataHash (m : MessageWires) (validSignatures : Wire) : CS F Wire := do
  let wcertSysdataHashG ← enforceHashConstantLength
    "H(sc_id, epoch_number, bt_root, valid_sigs, end_cumulative_sc_tx_comm_tree_root, btr_fee, ft_min_amount)"
    [m.scId, m.epochNumber, m.mrBt, validSignatures, m.endCumulativeScTxCommTreeRoot, m.fees]
  enforceHashConstantLength "H(proof_data (not present), cert_data_hash)" [wcertSysdataHashG]

/-- Check pks_threshold_hash (constant) and cert_data_hash against the public
inputs. -/
def exposeInputs (pksThresholdHashG certDataHashG : Wire) : CS F Unit := do
  let expectedPksThresholdHashG ← frAllocInput "alloc constant as input" pksThresholdHashG
  enforceEqual "pks_threshold_hash: expected == actual" pksThresholdHashG
    expectedPksThresholdHashG
  let expectedCertDataHashG ← frAllocInput "alloc input cert_data_hash_g" certDataHashG
  enforceEqual "cert_data_hash: expected == actual" certDataHashG expectedCertDataHashG

/-- Alloc the b's as witnesses, and enforce the threshold. -/
def checkThreshold (self : NaiveTresholdSignature F) (validSignatures tG : Wire) :
    CS F Unit := do
  let bsG ← forEnum self.b fun i b => booleanAlloc ("alloc b_" ++ toString i) b
  let bField ← fromBits "pack the b's into a field element" bsG
  let difference ← sub "valid_signatures - threshold" validSignatures tG
  enforceEqual "threshold check" difference bField

/-- `generate_constraints`. -/
def generateConstraints (self : NaiveTresholdSignature F) : CS F Unit := do
  assertEq self.maxPks.toNat self.pks.length
  assertEq self.maxPks.toNat self.sigs.length
  assertEq (logMaxPks self.maxPks + 1) self.b.length
  let keys ← self.allocPks
  let m ← self.allocMessage
  let validSignatures ← self.countSignatures keys.pks m.message
  let certDataHashG ← certDataHash m validSignatures
  exposeInputs keys.pksThresholdHash certDataHashG
  self.checkThreshold validSignatures keys.threshold

end NaiveTresholdSignature

end ZendooSc
