/-
ZendooSc.Api.ProvingSystemTypes — where the leading tag of a proof or a key is read.

Every proof and every key file starts with one byte that names its proving
system. Four native functions read it: `verify_naive_threshold_sig_proof`
compares the tags of proof and key before it deserializes either, and three
queries report the tag of a proof, of a proving key and of a verification key
to Java. A query returns an integer, and `intToProvingSystemType` turns it
into the Java enum.

The property is `ClassifiesProofs`: a proof without a decodable tag is rejected
with `false`, a query reports the system its tag names and `UNDEFINED` if there
is none, and an accepted proof has the type of its key. The last part always
holds. The others hold exactly when both tags decode
(`classifiesProofs_iff`): the queries map a failed read to the integer 1,
which is `DARLIN`, both readers of the proof slice `[..1]` off it, which
panics on an empty one, and a path that `to_str` does not read is met with a
panic too.
-/
import ZendooSc.Jni
import ZendooSc.Api.CctpCalls

namespace ZendooSc

/-! ## The enum -/

inductive ProvingSystemType where
  | UNDEFINED
  | DARLIN
  | COBOUNDARY_MARLIN
  deriving DecidableEq, Repr

namespace ProvingSystemType

def ordinal : ProvingSystemType → ℕ
  | UNDEFINED => 0
  | DARLIN => 1
  | COBOUNDARY_MARLIN => 2

def intToProvingSystemType (val : Int32) : JavaResult ProvingSystemType :=
  if val = 0 then .returned UNDEFINED
  else if val = 1 then .returned DARLIN
  else if val = 2 then .returned COBOUNDARY_MARLIN
  else .thrown (.illegalArgument "Unknown ProvingSystemType corresponding to input")

end ProvingSystemType

/-- `get_proving_system_type`: the ordinal of the Java enum, back to Rust. -/
def getProvingSystemType (provingSystem : Option ProvingSystemType) :
    Except Panic ProvingSystem := do
  let provingSystem ← expectRef provingSystem
  match provingSystem.ordinal with
  | 0 => .ok .undefined
  | 1 => .ok .darlin
  | 2 => .ok .coboundaryMarlin
  | _ => .error (.other "internal error: entered unreachable code")

def getProvingSystemTypeAsJint : ProvingSystem → Int32
  | .undefined => 0
  | .darlin => 1
  | .coboundaryMarlin => 2

/-- The Java type of a proving system. -/
def ProvingSystem.javaType : ProvingSystem → ProvingSystemType
  | .undefined => .UNDEFINED
  | .darlin => .DARLIN
  | .coboundaryMarlin => .COBOUNDARY_MARLIN

/-- The two integer codings of the enum fit together. -/
theorem intToProvingSystemType_asJint (ps : ProvingSystem) :
    ProvingSystemType.intToProvingSystemType (getProvingSystemTypeAsJint ps)
      = .returned ps.javaType := by
  cases ps <;> rfl

/-! ## The native functions -/

/-- The arguments of `verifyProof` besides the proof and the key file. -/
structure VerifyArgs (p : ℕ) where
  btList : Option (List (Option JavaBackwardTransfer))
  scId : Handle (FieldElement p)
  epochNumber : Int32
  endCumulativeScTxCommTreeRoot : Handle (FieldElement p)
  btrFee : Int64
  ftMinAmount : Int64
  constant : Handle (FieldElement p)
  quality : Int64
  checkProof : Bool
  checkVerificationKey : Bool

section Functions

variable {p : ℕ} {Vk Proof : Type} (V : VerifierLib p BackwardTransfer Vk Proof)

/-- The first part of `nativeVerifyProof`: the certificate data. -/
def readVerifierInputs (args : VerifyArgs p) :
    Except Panic (CertificateProofUserInputs p BackwardTransfer) := do
  let btList ← expectRef args.btList
  let btList ← btList.mapM readBackwardTransfer
  let scId ← readHandle args.scId
  let endCumulativeScTxCommTreeRoot ← readHandle args.endCumulativeScTxCommTreeRoot
  let constant ← readHandle args.constant
  pure (verifierInputs constant scId args.epochNumber.toUInt32
    endCumulativeScTxCommTreeRoot args.btrFee.toUInt64 args.ftMinAmount.toUInt64 btList
    args.quality.toUInt64)

/-- `NaiveThresholdSigProof_nativeVerifyProof`. -/
def nativeVerifyProof (args : VerifyArgs p) (proof : Option (List UInt8))
    (compressedProof : Bool) (verificationKeyPath : Option JavaString) (compressedVk : Bool) :
    JavaResult Bool :=
  ffiExport do
    let ins ← readVerifierInputs args
    let proofBytes ← convertByteArray proof
    let vkPath ← getString verificationKeyPath
    match verifyNaiveThresholdSigProof V ins proofBytes args.checkProof compressedProof vkPath
      args.checkVerificationKey compressedVk with
    | .error e => .error e
    | .ok (.ok result) => .ok result
    | .ok (.error _) => .ok false

/-- `NaiveThresholdSigProof.verifyProof`. The shorter overload checks the proof
and not the key. -/
def verifyProof (args : VerifyArgs p) (proof : Option (List UInt8))
    (verificationKeyPath : Option JavaString) : JavaResult Bool :=
  nativeVerifyProof V args proof true verificationKeyPath true

/-- The integer a query returns for a tag it read, or failed to read. -/
def queryResult : Except Error ProvingSystem → Int32
  | .ok ps => getProvingSystemTypeAsJint ps
  | .error _ => 1

/-- The body the two key queries share. -/
def nativeGetKeyProvingSystemType (path : Option JavaString) : JavaResult Int32 :=
  ffiExport do
    let path ← getString path
    pure (queryResult (readProvingSystem V path))

def nativeGetProverKeyProvingSystemType (provingKeyPath : Option JavaString) : JavaResult Int32 :=
  nativeGetKeyProvingSystemType V provingKeyPath

def nativeGetVerifierKeyProvingSystemType (verifierKeyPath : Option JavaString) :
    JavaResult Int32 :=
  nativeGetKeyProvingSystemType V verifierKeyPath

def nativeGetProofProvingSystemType (proof : Option (List UInt8)) : JavaResult Int32 :=
  ffiExport do
    let proofBytes ← convertByteArray proof
    match firstByte proofBytes with
    | .error e => .error e
    | .ok (.error _) => .ok 1
    | .ok (.ok front) => .ok (queryResult (readTag V front))

def getProverKeyProvingSystemType (provingKeyPath : Option JavaString) :
    JavaResult ProvingSystemType :=
  (nativeGetProverKeyProvingSystemType V provingKeyPath).bind
    ProvingSystemType.intToProvingSystemType

def getVerifierKeyProvingSystemType (verifierKeyPath : Option JavaString) :
    JavaResult ProvingSystemType :=
  (nativeGetVerifierKeyProvingSystemType V verifierKeyPath).bind
    ProvingSystemType.intToProvingSystemType

def getProofProvingSystemType (proof : Option (List UInt8)) : JavaResult ProvingSystemType :=
  (nativeGetProofProvingSystemType V proof).bind ProvingSystemType.intToProvingSystemType

/-! ## What the tags say -/

/-- The proving system a byte string starts with. -/
def leadingTag (bytes : List UInt8) : Option ProvingSystem :=
  bytes.head?.bind V.tag

/-- The proving system a file starts with. -/
def fileTag (path : String) : Option ProvingSystem :=
  (V.files path).bind (leadingTag V)

/-- The proving system of the key at a path that Java gives. -/
def keyTag (path : JavaString) : Option ProvingSystem :=
  (toStr path).bind (fileTag V)

/-- The type to report for a tag: concrete only if the tag is. -/
def reportedType : Option ProvingSystem → ProvingSystemType
  | some ps => ps.javaType
  | none => .UNDEFINED

/-- Proofs are classified and rejected by their tag, and by the tag of the key. -/
structure ClassifiesProofs (args : VerifyArgs p) (proof : List UInt8) (vkPath : JavaString) :
    Prop where
  rejected : leadingTag V proof = none →
    verifyProof V args (some proof) (some vkPath) = .returned false
  proofType : getProofProvingSystemType V (some proof)
    = .returned (reportedType (leadingTag V proof))
  keyType : getVerifierKeyProvingSystemType V (some vkPath)
    = .returned (reportedType (keyTag V vkPath))
  agree : verifyProof V args (some proof) (some vkPath) = .returned true →
    getProofProvingSystemType V (some proof) = getVerifierKeyProvingSystemType V (some vkPath)

/-! ## The queries -/

variable {V}

theorem readTag_eq_ok {bytes : List UInt8} {ps : ProvingSystem} :
    readTag V bytes = .ok ps ↔ leadingTag V bytes = some ps := by
  unfold readTag leadingTag
  rcases bytes with _ | ⟨byte, rest⟩
  · simp
  · rcases h : V.tag byte with _ | ps' <;> simp [h]

theorem readProvingSystem_eq_ok {path : String} {ps : ProvingSystem} :
    readProvingSystem V path = .ok ps ↔ fileTag V path = some ps := by
  unfold readProvingSystem readFromFile fileTag
  rcases h : V.files path with _ | bytes
  · simp
  · simp [readTag_eq_ok]

/-- A failed read is reported as the integer 1. -/
theorem queryResult_of_ne_ok {r : Except Error ProvingSystem} (h : ∀ ps, r ≠ .ok ps) :
    queryResult r = 1 := by
  rcases r with e | ps
  · rfl
  · exact absurd rfl (h ps)

/-- The type a query makes of what it read. -/
def queriedType : Option ProvingSystem → ProvingSystemType
  | some ps => ps.javaType
  | none => .DARLIN

theorem intToProvingSystemType_queryResult {r : Except Error ProvingSystem}
    {tag : Option ProvingSystem} (h : ∀ ps, r = .ok ps ↔ tag = some ps) :
    ProvingSystemType.intToProvingSystemType (queryResult r) = .returned (queriedType tag) := by
  rcases tag with _ | ps
  · have hne : ∀ ps, r ≠ .ok ps := by
      intro ps hr
      cases (h ps).mp hr
    rw [queryResult_of_ne_ok hne]
    rfl
  · rw [(h ps).mpr rfl]
    exact intToProvingSystemType_asJint ps

/-- The key query, on a path that can be read and any file. -/
theorem getVerifierKeyProvingSystemType_eq {units : JavaString} {path : String}
    (hpath : toStr units = some path) :
    getVerifierKeyProvingSystemType V (some units) = .returned (queriedType (fileTag V path)) := by
  unfold getVerifierKeyProvingSystemType nativeGetVerifierKeyProvingSystemType
    nativeGetKeyProvingSystemType
  rw [getString_eq_ok.mpr ⟨units, rfl, hpath⟩]
  exact intToProvingSystemType_queryResult fun _ => readProvingSystem_eq_ok

/-- It throws on any other. -/
theorem getVerifierKeyProvingSystemType_unreadable {units : JavaString}
    (hpath : toStr units = none) :
    getVerifierKeyProvingSystemType V (some units) = .thrown (.runtime .unwrapError) := by
  unfold getVerifierKeyProvingSystemType nativeGetVerifierKeyProvingSystemType
    nativeGetKeyProvingSystemType
  rw [getString_unreadable hpath]
  rfl

/-- The two key queries are the same function of the file. -/
theorem getProverKeyProvingSystemType_eq (path : Option JavaString) :
    getProverKeyProvingSystemType V path = getVerifierKeyProvingSystemType V path := rfl

/-- The proof query, on a proof that is not empty. -/
theorem getProofProvingSystemType_cons (byte : UInt8) (rest : List UInt8) :
    getProofProvingSystemType V (some (byte :: rest))
      = .returned (queriedType (leadingTag V (byte :: rest))) := by
  have hread : ∀ ps, readTag V [byte] = .ok ps ↔ leadingTag V (byte :: rest) = some ps :=
    fun ps => readTag_eq_ok
  exact intToProvingSystemType_queryResult hread

/-! ## Verification -/

variable {args : VerifyArgs p}

/-- The verifier accepts only a proof and a key with the same tag. -/
theorem verify_true_tags {ins : CertificateProofUserInputs p BackwardTransfer}
    {proof : List UInt8} {cp zp cv zv : Bool} {vkPath : String}
    (h : verifyNaiveThresholdSigProof V ins proof cp zp vkPath cv zv = pure true) :
    ∃ ps, leadingTag V proof = some ps ∧ fileTag V vkPath = some ps := by
  unfold verifyNaiveThresholdSigProof at h
  obtain ⟨vkTag, hvk, h⟩ := bind_eq_pure h
  obtain ⟨front, hfront, h⟩ := bind_eq_pure h
  obtain ⟨proofTag, htag, h⟩ := bind_eq_pure h
  have hvk := readProvingSystem_eq_ok.mp (fromResult_eq_pure hvk)
  have htag := readTag_eq_ok.mp (fromResult_eq_pure htag)
  have hlead : leadingTag V proof = leadingTag V front := by
    rcases proof with _ | ⟨byte, rest⟩
    · cases hfront
    · cases hfront
      rfl
  by_cases hne : vkTag = proofTag
  · exact ⟨proofTag, by rw [hlead, htag], by rw [hvk, hne]⟩
  · rw [if_pos hne] at h
    cases fromResult_eq_pure h

/-- What Java sees of a verification whose arguments can be read. -/
theorem verifyProof_eq {ins : CertificateProofUserInputs p BackwardTransfer}
    (hins : readVerifierInputs args = .ok ins) (proof : List UInt8) {units : JavaString}
    {path : String} (hpath : toStr units = some path) :
    verifyProof V args (some proof) (some units) =
      match verifyNaiveThresholdSigProof V ins proof args.checkProof true path
        args.checkVerificationKey true with
      | .error e => ffiExport (.error e)
      | .ok (.ok result) => .returned result
      | .ok (.error _) => .returned false := by
  unfold verifyProof nativeVerifyProof
  rw [hins, getString_eq_ok.mpr ⟨units, rfl, hpath⟩]
  change ffiExport (match verifyNaiveThresholdSigProof V ins proof args.checkProof true path
    args.checkVerificationKey true with
    | .error e => .error e
    | .ok (.ok result) => .ok result
    | .ok (.error _) => .ok false) = _
  rcases verifyNaiveThresholdSigProof V ins proof args.checkProof true path
    args.checkVerificationKey true with e | e | result
  · rfl
  · rfl
  · rfl

/-- Nothing is verified unless the arguments can be read. -/
theorem verifyProof_reads {proof : List UInt8} {units : JavaString} {result : Bool}
    (h : verifyProof V args (some proof) (some units) = .returned result) :
    ∃ ins path, readVerifierInputs args = .ok ins ∧ toStr units = some path := by
  unfold verifyProof nativeVerifyProof at h
  rcases hins : readVerifierInputs args with e | ins
  · rw [hins] at h
    cases ffiExport_eq_returned.mp h
  · rcases hpath : toStr units with _ | path
    · rw [hins, getString_unreadable hpath] at h
      cases ffiExport_eq_returned.mp h
    · exact ⟨ins, path, rfl, rfl⟩

/-- If Java sees `true`, the tags of proof and key are the same. -/
theorem verifyProof_true {proof : List UInt8} {units : JavaString}
    (h : verifyProof V args (some proof) (some units) = .returned true) :
    ∃ ps, leadingTag V proof = some ps ∧ keyTag V units = some ps := by
  obtain ⟨ins, path, hins, hpath⟩ := verifyProof_reads h
  rw [verifyProof_eq hins proof hpath] at h
  rw [keyTag, hpath, Option.bind_some]
  rcases hv : verifyNaiveThresholdSigProof V ins proof args.checkProof true path
    args.checkVerificationKey true with e | e | result
  · rw [hv] at h
    cases ffiExport_eq_returned.mp h
  · rw [hv] at h
    cases h
  · rw [hv] at h
    cases h
    exact verify_true_tags hv

/-! ## Main result -/

theorem queriedType_eq_reportedType {tag : Option ProvingSystem} :
    queriedType tag = reportedType tag ↔ tag.isSome := by
  rcases tag with _ | ps
  · constructor
    · intro h
      cases h
    · intro h
      cases h
  · simp [queriedType, reportedType]

/-- The key query reports what the claimed type is exactly when there is a tag. -/
theorem getVerifierKeyProvingSystemType_eq_reported {units : JavaString} :
    getVerifierKeyProvingSystemType V (some units)
      = .returned (reportedType (keyTag V units)) ↔ (keyTag V units).isSome := by
  rcases hpath : toStr units with _ | path
  · rw [getVerifierKeyProvingSystemType_unreadable hpath, keyTag, hpath]
    constructor
    · intro h
      cases h
    · intro h
      cases h
  · rw [getVerifierKeyProvingSystemType_eq hpath, keyTag, hpath, Option.bind_some,
      JavaResult.returned.injEq, queriedType_eq_reportedType]

/-- Proofs are classified and rejected by their tag exactly when the tags of
proof and key both decode. -/
theorem classifiesProofs_iff (V : VerifierLib p BackwardTransfer Vk Proof) (args : VerifyArgs p)
    (proof : List UInt8) (vkPath : JavaString) :
    ClassifiesProofs V args proof vkPath ↔
      (leadingTag V proof).isSome ∧ (keyTag V vkPath).isSome := by
  constructor
  · intro h
    have hkey := getVerifierKeyProvingSystemType_eq_reported.mp h.keyType
    have hproof := h.proofType
    rcases proof with _ | ⟨byte, rest⟩
    · cases hproof
    · rw [getProofProvingSystemType_cons, JavaResult.returned.injEq,
        queriedType_eq_reportedType] at hproof
      exact ⟨hproof, hkey⟩
  · intro ⟨hproof, hkey⟩
    have hproofType : getProofProvingSystemType V (some proof)
        = .returned (reportedType (leadingTag V proof)) := by
      rcases proof with _ | ⟨byte, rest⟩
      · cases hproof
      · rw [getProofProvingSystemType_cons, queriedType_eq_reportedType.mpr hproof]
    have hkeyType := getVerifierKeyProvingSystemType_eq_reported.mpr hkey
    constructor
    case rejected =>
      intro hnone
      rw [hnone] at hproof
      cases hproof
    case proofType => exact hproofType
    case keyType => exact hkeyType
    case agree =>
      intro htrue
      obtain ⟨ps, hlead, hfile⟩ := verifyProof_true htrue
      rw [hproofType, hkeyType, hlead, hfile]

end Functions

/-! ## Two proofs -/

/-- A verifier of coboundary Marlin, with a key file for it. -/
def tagVerifier : VerifierLib 5 BackwardTransfer Unit Unit where
  files path := if path = "snark_vk" then some [2] else none
  tag byte :=
    if byte = 0 then some .undefined
    else if byte = 1 then some .darlin
    else if byte = 2 then some .coboundaryMarlin
    else none
  deserializeVk _ _ _ := .ok ()
  deserializeProof _ _ _ := .ok ()
  verifyZendooProof _ _ _ := .ok true

def someVerifyArgs : VerifyArgs 5 where
  btList := some []
  scId := .live 1
  epochNumber := 0
  endCumulativeScTxCommTreeRoot := .live 0
  btrFee := 0
  ftMinAmount := 0
  constant := .live 1
  quality := 1
  checkProof := true
  checkVerificationKey := false

/-- The empty proof throws, a proof with an unknown tag counts as `DARLIN`, as does
the key at a path where there is none, and a path with U+0000 throws. -/
theorem classifiesProofs_counterexample :
    (verifyProof tagVerifier someVerifyArgs (some []) (some (javaText "snark_vk"))
        = .thrown (.runtime .indexOutOfBounds)
      ∧ getProofProvingSystemType tagVerifier (some [255]) = .returned .DARLIN
      ∧ getVerifierKeyProvingSystemType tagVerifier (some (javaText "no_file"))
        = .returned .DARLIN
      ∧ getVerifierKeyProvingSystemType tagVerifier (some [0]) = .thrown (.runtime .unwrapError))
    ∧ ¬ ClassifiesProofs tagVerifier someVerifyArgs [] (javaText "snark_vk")
    ∧ ¬ ClassifiesProofs tagVerifier someVerifyArgs [255] (javaText "snark_vk") := by
  refine ⟨⟨rfl, rfl, rfl, rfl⟩, ?_, ?_⟩
  · intro h
    have hfalse := h.rejected rfl
    cases hfalse
  · intro h
    have hundefined := h.proofType
    cases hundefined

end ZendooSc
