/-
ZendooSc.Api.CommitmentTree — adding data to a commitment tree.

Five native functions add to the tree: a sidechain creation, a forward
transfer, a backward transfer request, a certificate and a ceased sidechain
withdrawal. Each decodes its Java arguments, takes the tree and calls one
operation of cctp-lib on it. An argument that does not decode ends the call
before the tree is touched.

The arguments that stand for a value of fixed width are read in four ways:

  parse     `parse_jbyte_array_to_vec`, which checks the length, and then
            `FieldElement::deserialize`
  copy      `get_byte_array`, which copies byte by byte into a zeroed buffer
  element   `FieldElement::deserialize` on the bytes of an array element
  tryInto   `try_into` a buffer, which checks the length

The functions here are the decoders of the five, in the order of the source,
and `nativeAdd`, which is the rest of each.
-/
import ZendooSc.Jni
import ZendooSc.Lib.Decoding
import ZendooSc.Lib.Program

namespace ZendooSc

open Lib

/-- `FIELD_SIZE`. -/
abbrev fieldSize : ℕ := 32

/-- `MC_PK_SIZE`. -/
abbrev mcPkSize : ℕ := 20

/-- Why arguments were not decoded: a panic, or `return JNI_FALSE`. -/
inductive Refusal where
  | panic (e : Panic)
  | jniFalse
  deriving DecidableEq, Repr

abbrev Decode (α : Type) := Except Refusal α

/-- A JNI call with `expect`, in a decoder. -/
def orPanic {α : Type} (x : Except Panic α) : Decode α :=
  x.mapError .panic

/-! ## Byte arrays -/

def parseJbyteArrayToVec (javaByteArray : Option (List UInt8)) (length : ℕ) :
    Except Panic (List UInt8) := do
  let vec ← convertByteArray javaByteArray
  let found := vec.length
  if found ≠ length then
    .error (.other s!"Retrieved array size {found} expected to be {length}.")
  else
    .ok vec

/-- The loop of `get_byte_array`: `buffer[pos] = *e`, from position `pos` on. -/
def copyInto {n : ℕ} (buffer : FixedBytes n) (pos : ℕ) : List UInt8 → Except Panic (FixedBytes n)
  | [] => .ok buffer
  | e :: rest =>
      if pos < n then
        copyInto ⟨buffer.val.set pos e, by rw [List.length_set, buffer.property]⟩ (pos + 1) rest
      else
        .error .indexOutOfBounds

/-- `[0u8; n]`. -/
def zeroed (n : ℕ) : FixedBytes n := ⟨List.replicate n 0, List.length_replicate⟩

def getByteArray (javaByteArray : Option (List UInt8)) (n : ℕ) : Except Panic (FixedBytes n) := do
  let vec ← convertByteArray javaByteArray
  copyInto (zeroed n) 0 vec

/-- `None` for an empty list. -/
def nonEmpty {α : Type} (xs : List α) : Option (List α) :=
  if xs.isEmpty then none else some xs

/-! ## Arguments -/

/-- The Java object `CustomFieldElementsConfig`. -/
structure CustomFieldElementsConfig where
  nBits : Int8

/-- The Java object `CustomBitvectorElementsConfig`. -/
structure CustomBitvectorElementsConfig where
  bitVectorSizeBits : Int32
  maxCompressedByteSize : Int32

/-- The Java arguments of `nativeAddScCr`. -/
structure ScCrArgs where
  scId : Option (List UInt8)
  amount : Int64
  pubKey : Option (List UInt8)
  txHash : Option (List UInt8)
  outIdx : Int32
  withdrawalEpochLength : Int32
  mcBtrRequestDataLength : Int8
  customFieldElementsConfigs : Option (List (Option CustomFieldElementsConfig))
  customBitvectorElementsConfigs : Option (List (Option CustomBitvectorElementsConfig))
  btrFee : Int64
  ftMinAmount : Int64
  customCreationData : Option (List UInt8)
  constantNullable : Option (List UInt8)
  certVerificationKey : Option (List UInt8)
  cswVerificationKeyNullable : Option (List UInt8)

structure FwtArgs where
  scId : Option (List UInt8)
  amount : Int64
  pubKey : Option (List UInt8)
  mcReturnAddress : Option (List UInt8)
  txHash : Option (List UInt8)
  outIdx : Int32

structure BtrArgs where
  scId : Option (List UInt8)
  scFee : Int64
  mcDestinationAddress : Option (List UInt8)
  scRequestData : Option (List (Option (List UInt8)))
  txHash : Option (List UInt8)
  outIdx : Int32

structure CertArgs where
  scId : Option (List UInt8)
  epochNumber : Int32
  quality : Int64
  btList : Option (List (Option JavaBackwardTransfer))
  customFieldsNullable : Option (List (Option (List UInt8)))
  endCumulativeScTxCommitmentTreeRoot : Option (List UInt8)
  btrFee : Int64
  ftMinAmount : Int64

structure CswArgs where
  scId : Option (List UInt8)
  amount : Int64
  nullifier : Option (List UInt8)
  mcPkHash : Option (List UInt8)

structure BitVectorElementsConfig where
  bitVectorSizeBits : UInt32
  maxCompressedByteSize : UInt32

/-- The arguments of `CommitmentTree::add_scc`. -/
structure ScCr (F : Type) where
  scId : F
  amount : UInt64
  pubKey : FixedBytes fieldSize
  txHash : FixedBytes fieldSize
  outIdx : UInt32
  withdrawalEpochLength : UInt32
  mcBtrRequestDataLength : UInt8
  customFieldElementsConfigs : Option (List UInt8)
  customBitvectorElementsConfigs : Option (List BitVectorElementsConfig)
  btrFee : UInt64
  ftMinAmount : UInt64
  customCreationData : Option (List UInt8)
  constant : Option F
  certVerificationKey : List UInt8
  cswVerificationKey : Option (List UInt8)

/-- The arguments of `CommitmentTree::add_fwt`. -/
structure Fwt (F : Type) where
  scId : F
  amount : UInt64
  pubKey : FixedBytes fieldSize
  mcReturnAddress : FixedBytes mcPkSize
  txHash : FixedBytes fieldSize
  outIdx : UInt32

/-- The arguments of `CommitmentTree::add_bwtr`. -/
structure Btr (F : Type) where
  scId : F
  scFee : UInt64
  scRequestData : List F
  mcDestinationAddress : FixedBytes 20
  txHash : FixedBytes fieldSize
  outIdx : UInt32

/-- The arguments of `CommitmentTree::add_cert`. -/
structure Cert (F : Type) where
  scId : F
  epochNumber : UInt32
  quality : UInt64
  btList : Option (List BackwardTransfer)
  customFields : Option (List F)
  endCumulativeScTxCommitmentTreeRoot : F
  btrFee : UInt64
  ftMinAmount : UInt64

/-- The arguments of `CommitmentTree::add_csw`. -/
structure Csw (F : Type) where
  scId : F
  amount : UInt64
  nullifier : F
  mcPkHash : FixedBytes mcPkSize

/-! ## Decoding -/

section Decoding

variable {F : Type} (deserialize : List UInt8 → Option F)

/-- `FieldElement::deserialize`, with what is done on an error. -/
def deserializeOr (onError : Refusal) (bytes : List UInt8) : Decode F :=
  match deserialize bytes with
  | some fe => .ok fe
  | none => .error onError

/-- A field element whose length is checked first. -/
def readFieldElement (onError : Refusal) (javaByteArray : Option (List UInt8)) : Decode F := do
  let bytes ← orPanic (parseJbyteArrayToVec javaByteArray fieldSize)
  deserializeOr deserialize onError bytes

/-- One round of a loop over an array of field elements. -/
def readElement (o : Option (List UInt8)) : Decode F := do
  let data ← orPanic (convertByteArray o)
  deserializeOr deserialize (.panic .unwrapError) data

/-- One round of the loop over `_custom_field_elements_configs`. -/
def readFieldConfig (o : Option CustomFieldElementsConfig) : Decode UInt8 := do
  let config ← orPanic (expectRef o)
  pure config.nBits.toUInt8

/-- One round of the loop over `_custom_bitvector_elements_configs`. -/
def readBitvectorConfig (o : Option CustomBitvectorElementsConfig) :
    Decode BitVectorElementsConfig := do
  let config ← orPanic (expectRef o)
  pure ⟨config.bitVectorSizeBits.toUInt32, config.maxCompressedByteSize.toUInt32⟩

/-- A loop over an array, which must not be null. -/
def readArray {α β : Type} (read : α → Decode β) : Option (List α) → Decode (List β) :=
  decodeRequired (.panic .unwrapError) (List.mapM read)

/-- An argument for which null means absent. -/
def readNullable {α β : Type} (read : α → Decode β) : Option α → Decode (Option β) :=
  decodeOptional read

def decodeScCr (args : ScCrArgs) : Decode (ScCr F) := do
  let scId ← readFieldElement deserialize .jniFalse args.scId
  let pubKey ← orPanic (getByteArray args.pubKey fieldSize)
  let txHash ← orPanic (getByteArray args.txHash fieldSize)
  let fieldConfigs ← readArray readFieldConfig args.customFieldElementsConfigs
  let bitvectorConfigs ← readArray readBitvectorConfig args.customBitvectorElementsConfigs
  let customCreationData ← orPanic (convertByteArray args.customCreationData)
  let constant ← readNullable (fun bytes => readFieldElement deserialize .jniFalse (some bytes))
    args.constantNullable
  let certVerificationKey ← orPanic (convertByteArray args.certVerificationKey)
  pure {
    scId := scId
    amount := args.amount.toUInt64
    pubKey := pubKey
    txHash := txHash
    outIdx := args.outIdx.toUInt32
    withdrawalEpochLength := args.withdrawalEpochLength.toUInt32
    mcBtrRequestDataLength := args.mcBtrRequestDataLength.toUInt8
    customFieldElementsConfigs := nonEmpty fieldConfigs
    customBitvectorElementsConfigs := nonEmpty bitvectorConfigs
    btrFee := args.btrFee.toUInt64
    ftMinAmount := args.ftMinAmount.toUInt64
    customCreationData := nonEmpty customCreationData
    constant := constant
    certVerificationKey := certVerificationKey
    cswVerificationKey := args.cswVerificationKeyNullable }

def decodeFwt (args : FwtArgs) : Decode (Fwt F) := do
  let scId ← readFieldElement deserialize (.panic .unwrapError) args.scId
  let pubKey ← orPanic (getByteArray args.pubKey fieldSize)
  let mcReturnAddress ← orPanic (getByteArray args.mcReturnAddress mcPkSize)
  let txHash ← orPanic (getByteArray args.txHash fieldSize)
  pure {
    scId := scId
    amount := args.amount.toUInt64
    pubKey := pubKey
    mcReturnAddress := mcReturnAddress
    txHash := txHash
    outIdx := args.outIdx.toUInt32 }

def decodeBtr (args : BtrArgs) : Decode (Btr F) := do
  let scId ← readFieldElement deserialize (.panic .unwrapError) args.scId
  let mcDestinationAddress ← orPanic (getByteArray args.mcDestinationAddress 20)
  let scRequestData ← readArray (readElement deserialize) args.scRequestData
  let txHash ← orPanic (getByteArray args.txHash fieldSize)
  pure {
    scId := scId
    scFee := args.scFee.toUInt64
    scRequestData := scRequestData
    mcDestinationAddress := mcDestinationAddress
    txHash := txHash
    outIdx := args.outIdx.toUInt32 }

def decodeCert (args : CertArgs) : Decode (Cert F) := do
  let scId ← readFieldElement deserialize (.panic .unwrapError) args.scId
  let btList ← readArray (fun o => orPanic (readBackwardTransfer o)) args.btList
  let customFields ← readNullable (fun xs => xs.mapM (readElement deserialize))
    args.customFieldsNullable
  let endCumulativeScTxCommitmentTreeRoot ←
    readFieldElement deserialize (.panic .unwrapError) args.endCumulativeScTxCommitmentTreeRoot
  pure {
    scId := scId
    epochNumber := args.epochNumber.toUInt32
    quality := args.quality.toUInt64
    btList := nonEmpty btList
    customFields := customFields
    endCumulativeScTxCommitmentTreeRoot := endCumulativeScTxCommitmentTreeRoot
    btrFee := args.btrFee.toUInt64
    ftMinAmount := args.ftMinAmount.toUInt64 }

def decodeCsw (args : CswArgs) : Decode (Csw F) := do
  let scId ← readFieldElement deserialize (.panic .unwrapError) args.scId
  let nullifier ← readFieldElement deserialize (.panic .unwrapError) args.nullifier
  let mcPkHash ← orPanic (getByteArray args.mcPkHash mcPkSize)
  pure {
    scId := scId
    amount := args.amount.toUInt64
    nullifier := nullifier
    mcPkHash := mcPkHash }

/-! ## The native functions -/

/-- The part the five functions share: the arguments are decoded, the tree is
taken, and an operation of the tree is called. -/
def nativeAdd {Args Dec Tree : Type} (decode : Args → Decode Dec)
    (add : Dec → Program Tree Panic Bool) (args : Args) (tree : Handle Tree) :
    JavaResult Bool × Handle Tree :=
  match decode args with
  | .error (.panic e) => (ffiExport (.error e), tree)
  | .error .jniFalse => (.returned false, tree)
  | .ok decoded =>
      match tree with
      | .null => (ffiExport (.error .unwrapError), .null)
      | .freed => (ffiExport (.error .nullPointer), .freed)
      | .live t =>
          match (add decoded).exec t with
          | (result, t') => (ffiExport result, .live t')

variable {Tree : Type}

def nativeAddScCr (addScc : ScCr F → Program Tree Panic Bool) (args : ScCrArgs)
    (tree : Handle Tree) : JavaResult Bool × Handle Tree :=
  nativeAdd (decodeScCr deserialize) addScc args tree

def nativeAddFwt (addFwt : Fwt F → Program Tree Panic Bool) (args : FwtArgs)
    (tree : Handle Tree) : JavaResult Bool × Handle Tree :=
  nativeAdd (decodeFwt deserialize) addFwt args tree

def nativeAddBtr (addBwtr : Btr F → Program Tree Panic Bool) (args : BtrArgs)
    (tree : Handle Tree) : JavaResult Bool × Handle Tree :=
  nativeAdd (decodeBtr deserialize) addBwtr args tree

def nativeAddCert (addCert : Cert F → Program Tree Panic Bool) (args : CertArgs)
    (tree : Handle Tree) : JavaResult Bool × Handle Tree :=
  nativeAdd (decodeCert deserialize) addCert args tree

def nativeAddCsw (addCsw : Csw F → Program Tree Panic Bool) (args : CswArgs)
    (tree : Handle Tree) : JavaResult Bool × Handle Tree :=
  nativeAdd (decodeCsw deserialize) addCsw args tree

end Decoding

end ZendooSc
