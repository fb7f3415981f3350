/-
ZendooSc.Handles.CertificateRuns — a certificate over whole runs.

A program asks for the constant of its keys, later proves a certificate, and later
checks the proof. What it passes are objects, which it may have closed, and which
other operations may have been called on in between.

`certificate_verifies` says that with enough valid signatures `createProof` returns
a proof, and that `verifyProof` answers true for it unless the constant or one of
the two other elements was closed. The keys and signatures may be closed once the
proof is there. `verifyProof` always reads a compressed proof and a compressed key,
so that is how they have to be written.
-/
import ZendooSc.Api.Certification
import ZendooSc.Handles.SignatureRuns

namespace ZendooSc.Handles

open Lib

/-! ## Reading lists of objects -/

section Reading

variable {V : NativeType → Type} {w : World V}

theorem mapM_readSigAndPk_exec (hw : Owned w) {sigs keys : List Ref} {pks : List (V .g2)}
    (hkeys : valuesOf w .schnorrPublicKey keys = some pks)
    (hobjects : ∀ r ∈ sigs, (w.pointer .schnorrSignature r).isSome) :
    ((sigs.zip keys).mapM NaiveThresholdSigProof.readSigAndPk).exec w
      = (.ok ((sigs.map (valueOf w .schnorrSignature)).zip pks), w) := by
  induction sigs generalizing keys pks with
  | nil => rfl
  | cons sig sigs ih =>
      cases keys with
      | nil =>
          obtain rfl : [] = pks := Option.some.inj hkeys
          rfl
      | cons key keys =>
          simp only [valuesOf, List.mapM_cons, Option.bind_eq_bind, Option.bind_eq_some_iff]
            at hkeys
          obtain ⟨pk, hpk, pks', hpks, heq⟩ := hkeys
          obtain rfl : pk :: pks' = pks := Option.some.inj heq
          rw [List.forall_mem_cons] at hobjects
          have hfirst : (NaiveThresholdSigProof.readSigAndPk (sig, key)).exec w
              = (.ok (valueOf w .schnorrSignature sig, pk), w) := by
            unfold NaiveThresholdSigProof.readSigAndPk
            rw [Program.exec_bind_ok (readingNullable_exec hw hobjects.1),
              Program.exec_bind_ok (reading_exec hpk)]
            rfl
          rw [List.zip_cons_cons, List.mapM_cons, Program.exec_bind_ok hfirst,
            Program.exec_bind_ok (ih hpks hobjects.2)]
          rfl

/-- The values of a list that was read. -/
theorem mapM_reading_returned {β : Type} (hw : Owned w) {k : Kind} {rs : List Ref}
    {f : List (V k.nativeType) → JavaCall V β} {b : β} {w' : World V}
    (h : (rs.mapM (reading k) >>= f).exec w = (.ok b, w')) :
    ∃ vs, valuesOf w k rs = some vs ∧ (f vs).exec w = (.ok b, w') := by
  rcases hvs : valuesOf w k rs with _ | vs
  · obtain ⟨e, hthrow⟩ := mapM_reading_exec_none hw hvs
    rw [Program.exec_bind_error hthrow] at h
    cases h
  · rw [Program.exec_bind_ok (mapM_reading_exec hvs)] at h
    exact ⟨vs, rfl, h⟩

variable (E : Env V)

/-- Values found again are the same values. -/
theorem runFrom_values_eq (ops : List Op) (hw : Owned w) {k : Kind} (hk : mutableClass k = false)
    {rs : List Ref} {vs vs' : List (V k.nativeType)} (hvs : valuesOf w k rs = some vs)
    (hvs' : valuesOf (runFrom E w ops) k rs = some vs') : vs' = vs := by
  induction rs generalizing vs vs' with
  | nil =>
      obtain rfl : [] = vs := Option.some.inj hvs
      exact (Option.some.inj hvs').symm
  | cons r rs ih =>
      simp only [valuesOf, List.mapM_cons, Option.bind_eq_bind, Option.bind_eq_some_iff]
        at hvs hvs'
      obtain ⟨v, hv, rest, hrest, heq⟩ := hvs
      obtain ⟨v', hv', rest', hrest', heq'⟩ := hvs'
      obtain rfl : v :: rest = vs := Option.some.inj heq
      obtain rfl : v' :: rest' = vs' := Option.some.inj heq'
      rw [runFrom_value_eq E ops hw hk hv hv', ih hrest hrest']

end Reading

/-! ## The library behind the certificates -/

/-- Elements, keys and signatures are those of the circuit. -/
abbrev CertValue (p : ℕ) (rest : NativeType → Type) : NativeType → Type
  | .fieldElement => FieldElement p
  | .g2 => SchnorrPk (FieldElement p)
  | .schnorrSig => SchnorrSig (FieldElement p)
  | t => rest t

section Certificates

variable {p : ℕ} {rest : NativeType → Type} {Ck Index Pk Vk DarlinVk Proof DarlinProof : Type}

/-- The certificate a proof is asked for. -/
def certificateOf (pks : List (SchnorrPk (FieldElement p)))
    (sigs : List (Option (SchnorrSig (FieldElement p))))
    (inputs : CertificateInputs (FieldElement p)) (threshold : UInt64) :
    Certificate p BackwardTransfer where
  pks := pks
  sigs := sigs
  scId := inputs.scId
  epochNumber := inputs.epochNumber
  endCumulativeScTxCommTreeRoot := inputs.endCumulativeScTxCommTreeRoot
  btrFee := inputs.btrFee
  ftMinAmount := inputs.ftMinAmount
  btList := inputs.btList
  threshold := threshold

/-- The library works with these parameters, through the functions of
`cctp_calls.rs`, and with these files. -/
structure UsesCertificates (E : Env (CertValue p rest)) (L : CertLib p BackwardTransfer)
    (X : SnarkLib p BackwardTransfer Ck Index Pk Vk DarlinVk Proof DarlinProof) (fs : Fs)
    (checked : Bool) : Prop where
  constant : ∀ pks threshold,
    E.computePksThresholdHash pks threshold = computePksThresholdHash L pks threshold
  create : ∀ random pks sigs inputs threshold path check zk compressedPk compressProof,
    E.createNaiveThresholdSigProof random pks sigs inputs threshold path check zk compressedPk
        compressProof
      = createNaiveThresholdSigProof L (X.proverLib fs) checked
          (certificateOf pks sigs inputs threshold) path check zk compressedPk compressProof
  verify : ∀ random constant inputs quality proof checkProof compressedProof path checkVk
      compressedVk,
    E.verifyNaiveThresholdSigProof random constant inputs quality proof checkProof
        compressedProof path checkVk compressedVk
      = verifyNaiveThresholdSigProof (X.verifierLib fs) (verifierInputs constant inputs.scId
          inputs.epochNumber inputs.endCumulativeScTxCommTreeRoot inputs.btrFee
          inputs.ftMinAmount inputs.btList quality) proof checkProof compressedProof path
          checkVk compressedVk

variable {E : Env (CertValue p rest)} {L : CertLib p BackwardTransfer}
  {X : SnarkLib p BackwardTransfer Ck Index Pk Vk DarlinVk Proof DarlinProof} {fs : Fs}
  {checked : Bool} {w : World (CertValue p rest)}
  {args : NaiveThresholdSigProof.CertificateArgs} {sigs keys : List Ref} {threshold : Int64}
  {cert : Certificate p BackwardTransfer}

/-- The arguments of `createProof` stand for this certificate. A signature may be an
object without a value. -/
structure StandsFor (w : World (CertValue p rest)) (args : NaiveThresholdSigProof.CertificateArgs)
    (sigs keys : List Ref) (threshold : Int64) (cert : Certificate p BackwardTransfer) :
    Prop where
  keyValues : valuesOf w .schnorrPublicKey keys = some cert.pks
  sigValues : sigs.map (valueOf w .schnorrSignature) = cert.sigs
  sigObjects : ∀ r ∈ sigs, (w.pointer .schnorrSignature r).isSome
  lengths : sigs.length = keys.length
  scId : valueOf w .fieldElement args.scId = some cert.scId
  root : valueOf w .fieldElement args.endCumulativeScTxCommTreeRoot
    = some cert.endCumulativeScTxCommTreeRoot
  btList : (expectRef args.bt >>= fun bt => bt.mapM readBackwardTransfer) = .ok cert.btList
  epochNumber : args.epochNumber.toUInt32 = cert.epochNumber
  btrFee : args.btrFee.toUInt64 = cert.btrFee
  ftMinAmount : args.ftMinAmount.toUInt64 = cert.ftMinAmount
  thresholdWord : threshold.toUInt64 = cert.threshold

namespace StandsFor

variable (h : StandsFor w args sigs keys threshold cert)

include h

theorem length_keys : keys.length = cert.pks.length :=
  length_valuesOf h.keyValues

theorem length_sigs : cert.sigs.length = cert.pks.length := by
  rw [← h.sigValues, List.length_map, h.lengths, h.length_keys]

theorem readBtList_exec (w' : World (CertValue p rest)) :
    (NaiveThresholdSigProof.readBtList args.bt).exec w' = (.ok cert.btList, w') := by
  have hbt := h.btList
  unfold NaiveThresholdSigProof.readBtList
  show (native (expectRef args.bt >>= fun bt => bt.mapM readBackwardTransfer) :
    JavaCall (CertValue p rest) _).exec w' = _
  rw [hbt]
  rfl

theorem certificateInputs_eq :
    NaiveThresholdSigProof.certificateInputs (V := CertValue p rest) args cert.btList cert.scId
        cert.endCumulativeScTxCommTreeRoot
      = ⟨cert.scId, cert.epochNumber, cert.endCumulativeScTxCommTreeRoot, cert.btrFee,
          cert.ftMinAmount, cert.btList⟩ := by
  rw [NaiveThresholdSigProof.certificateInputs, h.epochNumber, h.btrFee, h.ftMinAmount]

/-- `createProof` is the call of the library for the certificate. -/
theorem createProof_exec (hlib : UsesCertificates E L X fs checked) (hw : Owned w)
    {javaPath : Option JavaString} {pkPath : String} (hpk : getString javaPath = .ok pkPath)
    {check zk compressedPk compressProof : Bool} {bytes : List UInt8} {quality : UInt64}
    (hcreate : createNaiveThresholdSigProof L (X.proverLib fs) checked cert pkPath check zk
      compressedPk compressProof = pure (bytes, quality)) :
    ((NaiveThresholdSigProof.createProof E args sigs keys threshold javaPath check zk
      compressedPk compressProof).exec w).1 = .ok (some (bytes, quality)) := by
  unfold NaiveThresholdSigProof.createProof
  rw [Program.exec_bind_ok (h.readBtList_exec w), if_neg (not_not.mpr h.lengths),
    Program.exec_bind_ok (mapM_readSigAndPk_exec hw h.keyValues h.sigObjects),
    Program.exec_bind_ok (reading_exec h.scId), Program.exec_bind_ok (reading_exec h.root)]
  have hsigs : ((sigs.map (valueOf w .schnorrSignature)).zip cert.pks).map Prod.fst
      = cert.sigs := by
    rw [h.sigValues, List.map_fst_zip (Nat.le_of_eq h.length_sigs)]
  have hpks : ((sigs.map (valueOf w .schnorrSignature)).zip cert.pks).map Prod.snd
      = cert.pks := by
    rw [h.sigValues, List.map_snd_zip (Nat.le_of_eq h.length_sigs.symm)]
  have hpath : (native (getString javaPath) : JavaCall (CertValue p rest) String).exec w
      = (.ok pkPath, w) := by
    rw [hpk]
    rfl
  rw [Program.exec_bind_ok hpath, tick_bind_exec, hlib.create, hsigs, hpks,
    h.certificateInputs_eq, h.thresholdWord]
  show (((native (createNaiveThresholdSigProof L (X.proverLib fs) checked cert pkPath check zk
    compressedPk compressProof) >>= _) : JavaCall (CertValue p rest) _).exec _).1 = _
  rw [hcreate]
  rfl

/-- `verifyProof` is the call of the library for the same data, wherever the three
elements have their values. -/
theorem verifyProof_exec (hlib : UsesCertificates E L X fs checked)
    {w' : World (CertValue p rest)} {constant : Ref} {c : FieldElement p}
    (hconstant : valueOf w' .fieldElement constant = some c)
    (hscId : valueOf w' .fieldElement args.scId = some cert.scId)
    (hroot : valueOf w' .fieldElement args.endCumulativeScTxCommTreeRoot
      = some cert.endCumulativeScTxCommTreeRoot)
    {javaPath : Option JavaString} {vkPath : String} (hvk : getString javaPath = .ok vkPath)
    {checkProof checkVk : Bool} {bytes : List UInt8} {quality : UInt64}
    (hverify : verifyNaiveThresholdSigProof (X.verifierLib fs) (cert.inputs c quality) bytes
      checkProof true vkPath checkVk true = pure true) :
    ((NaiveThresholdSigProof.verifyProof E args constant quality.toInt64 (some bytes) checkProof
      javaPath checkVk).exec w').1 = .ok true := by
  unfold NaiveThresholdSigProof.verifyProof
  have hproof : (native (convertByteArray (some bytes)) :
      JavaCall (CertValue p rest) (List UInt8)).exec w' = (.ok bytes, w') := rfl
  have hpath : (native (getString javaPath) : JavaCall (CertValue p rest) String).exec w'
      = (.ok vkPath, w') := by
    rw [hvk]
    rfl
  rw [Program.exec_bind_ok (h.readBtList_exec w'), Program.exec_bind_ok (reading_exec hscId),
    Program.exec_bind_ok (reading_exec hroot), Program.exec_bind_ok (reading_exec hconstant),
    Program.exec_bind_ok hproof, Program.exec_bind_ok hpath, tick_bind_exec, hlib.verify,
    h.certificateInputs_eq, UInt64.toUInt64_toInt64]
  show ((returnBool (verifyNaiveThresholdSigProof (X.verifierLib fs) (cert.inputs c quality) bytes
    checkProof true vkPath checkVk true)).exec _).1 = _
  rw [hverify]
  rfl

end StandsFor

/-- The constant of a list of keys, as an object. -/
theorem getConstant_returned (hlib : UsesCertificates E L X fs checked) (hw : Owned w)
    {w' : World (CertValue p rest)} {constant : Ref}
    (h : (NaiveThresholdSigProof.getConstant E keys threshold).exec w = (.ok constant, w'))
    (hconstant : constant ≠ none) :
    ∃ pks c, valuesOf w .schnorrPublicKey keys = some pks ∧
      computePksThresholdHash L pks threshold.toUInt64 = pure c ∧
      valueOf w' .fieldElement constant = some c ∧ KeepsValues w w' := by
  obtain ⟨pks, hpks, h⟩ := mapM_reading_returned hw h
  obtain ⟨c, hc, hvalue, hkeeps⟩ := returnResult_returned E h hconstant
  rw [hlib.constant] at hc
  exact ⟨pks, c, hpks, hc, hvalue, hkeeps⟩

/-! ## The whole run -/

variable {P : Primitives (FieldElement p)}
  {circuitInputs : CertificateProofUserInputs p BackwardTransfer →
    Except Error (List (FieldElement p))}
  {setupArgs : SetupArgs} {pkPath vkPath : String} {pk : Pk} {vk : Vk} {mrBt msg : FieldElement p}

/-- A certificate with enough valid signatures is proved, and its proof verifies at
any later time, unless one of the three elements that the check reads was closed. -/
theorem certificate_verifies (hp : 2 ^ 254 < p) (hagree : Agrees P L) (hfees : PacksFees L)
    (hinputs : HashesCertificate L circuitInputs) (hreads : X.ReadsBack)
    (hcomplete : X.Complete P circuitInputs)
    (hpk : getString setupArgs.provingKeyPath = .ok pkPath)
    (hvk : getString setupArgs.verificationKeyPath = .ok vkPath)
    (hkeys : SetUp X.setupLib setupArgs pkPath vkPath fs pk vk)
    (hcompress : setupArgs.compressVk = true) (hlib : UsesCertificates E L X fs checked)
    (before middle after : List Op) {constant : Ref}
    (hconstant : ((NaiveThresholdSigProof.getConstant E keys threshold).exec (run E before)).1
      = .ok constant) (hsome : constant ≠ none)
    (hcert : StandsFor (run E (before ++ .getConstant keys threshold :: middle)) args sigs keys
      threshold cert)
    (hmax : setupArgs.maxPks.toUInt64.toNat = keys.length)
    (hmsg : cert.msgToSign L = pure (mrBt, msg)) (hchecks : cert.Checks L msg)
    (hnull : ∀ x ∈ cert.positions, x.2 = none → L.verify x.1 msg L.nullSig ≠ .ok true)
    (hthr : cert.threshold.toNat ≤ cert.valid L msg) (check zk checkProof checkVk : Bool) :
    ∃ bytes quality,
      ((NaiveThresholdSigProof.createProof E args sigs keys threshold setupArgs.provingKeyPath
        check zk setupArgs.compressPk true).exec (run E (before ++ .getConstant keys threshold ::
          middle))).1 = .ok (some (bytes, quality)) ∧
      quality.toNat = cert.valid L msg ∧
      (((NaiveThresholdSigProof.verifyProof E args constant quality.toInt64 (some bytes)
          checkProof setupArgs.verificationKeyPath checkVk).exec (run E (before ++
            .getConstant keys threshold :: middle ++ .createProof args sigs keys threshold
              setupArgs.provingKeyPath check zk setupArgs.compressPk true :: after))).1
          = .ok true ∨
        ClosedDuring E (run E (before ++ [.getConstant keys threshold])) (middle ++
          .createProof args sigs keys threshold setupArgs.provingKeyPath check zk
            setupArgs.compressPk true :: after) (.fieldElement, constant) ∨
        ∃ r ∈ [args.scId, args.endCumulativeScTxCommTreeRoot],
          ClosedDuring E (run E (before ++ .getConstant keys threshold :: middle))
            (.createProof args sigs keys threshold setupArgs.provingKeyPath check zk
              setupArgs.compressPk true :: after) (.fieldElement, r)) := by
  generalize hcall : Op.createProof args sigs keys threshold setupArgs.provingKeyPath check zk
    setupArgs.compressPk true = create
  -- the constant is that of the keys of the certificate
  have hmade := exec_of_outcome E (.getConstant keys threshold) rfl hconstant
  obtain ⟨pks, c, hpks, hc, hvalue, hkeeps⟩ :=
    getConstant_returned hlib (run_owned E before) hmade hsome
  have hw₁ := run_owned E (before ++ [.getConstant keys threshold])
  have hw₂ := run_owned E (before ++ .getConstant keys threshold :: middle)
  have hmiddle : run E (before ++ .getConstant keys threshold :: middle) =
      runFrom E (run E (before ++ [.getConstant keys threshold])) middle := by
    rw [run_cons, run_concat]
  have hlater := hcert.keyValues
  rw [hmiddle] at hlater
  obtain rfl : cert.pks = pks :=
    runFrom_values_eq E middle hw₁ rfl (hkeeps.valuesOf hpks) hlater
  rw [hcert.thresholdWord, computePksThresholdHash_eq] at hc
  obtain rfl := pure_injective hc
  -- so prover and verifier agree
  obtain ⟨bytes, hcreate, hverify⟩ := hkeys.accepts hp hagree hfees hinputs hreads hcomplete
    rfl rfl (hmax.trans hcert.length_keys) hcert.length_sigs hmsg hchecks hnull hthr checked check
    zk true checkProof checkVk
  have hsize : cert.pks.length < 2 ^ 64 := by
    rw [← hcert.length_keys, ← hmax]
    exact setupArgs.maxPks.toUInt64.toNat_lt
  rw [hcompress] at hverify
  refine ⟨bytes, _, hcert.createProof_exec hlib hw₂ hpk hcreate, cert.toNat_valid L hsize msg, ?_⟩
  -- and the check finds the three elements, or one of them was closed
  have hlast : run E (before ++ .getConstant keys threshold :: middle ++ create :: after)
      = runFrom E (run E (before ++ .getConstant keys threshold :: middle)) (create :: after) :=
    run_append E _ _
  have hfirst : runFrom E (run E (before ++ [.getConstant keys threshold]))
      (middle ++ create :: after)
        = run E (before ++ .getConstant keys threshold :: middle ++ create :: after) := by
    rw [hlast, hmiddle]
    exact List.foldl_append
  rcases runFrom_value E (middle ++ create :: after) hw₁ rfl hvalue with
    hconstant' | ⟨hclosed, -⟩
  · rcases runFrom_value E (create :: after) hw₂ rfl hcert.scId with hscId | ⟨hclosed, -⟩
    · rcases runFrom_value E (create :: after) hw₂ rfl hcert.root with hroot | ⟨hclosed, -⟩
      · rw [hfirst] at hconstant'
        rw [← hlast] at hscId hroot
        exact .inl (hcert.verifyProof_exec hlib hconstant' hscId hroot hvk hverify)
      · exact .inr (.inr ⟨_, by simp, hclosed⟩)
    · exact .inr (.inr ⟨_, by simp, hclosed⟩)
  · exact .inr (.inl hclosed)

end Certificates

/-! ## A library to run against -/

/-- The key and the signature that are read from bytes are good ones. -/
instance (t : NativeType) : Inhabited (CertValue tweedleModulus (fun _ => Unit) t) :=
  match t with
  | .fieldElement => ⟨(0 : FieldElement tweedleModulus)⟩
  | .g2 => ⟨(⟨-1, (2 : ℕ)⟩ : SchnorrPk (FieldElement tweedleModulus))⟩
  | .schnorrSig => ⟨(⟨1, (2 : ℕ)⟩ : SchnorrSig (FieldElement tweedleModulus))⟩
  | .scalar | .vrfProof | .fieldHash | .gingerMHTPath | .gingerMHT | .commitmentTree
  | .scExistenceProof | .scAbsenceProof => ⟨()⟩

/-- The stand-in library for the transfers of the Java calls. -/
def transferLib : CertLib tweedleModulus BackwardTransfer where
  hash := (standInLib tweedleModulus).hash
  verify := (standInLib tweedleModulus).verify
  getBtMerkleRoot _ := (standInLib tweedleModulus).getBtMerkleRoot none
  byteAccumulator := (standInLib tweedleModulus).byteAccumulator
  nullSig := (standInLib tweedleModulus).nullSig

def transferInputs (ins : CertificateProofUserInputs tweedleModulus BackwardTransfer) :
    Except Error (List (FieldElement tweedleModulus)) :=
  standInInputs tweedleModulus
    { constant := ins.constant
      scId := ins.scId
      epochNumber := ins.epochNumber
      quality := ins.quality
      btList := none
      customFields := ins.customFields
      endCumulativeScTxCommitmentTreeRoot := ins.endCumulativeScTxCommitmentTreeRoot
      btrFee := ins.btrFee
      ftMinAmount := ins.ftMinAmount }

theorem transferLib_agrees : Agrees (standInPrimitives tweedleModulus) transferLib where
  hash := rfl
  verdict := (standIn_agrees tweedleModulus).verdict

theorem transferInputs_hashes : HashesCertificate transferLib transferInputs := by
  intro ins constant mrBt fees hconstant hcustom hmr hfees
  exact standInInputs_hashes tweedleModulus _ constant mrBt fees hconstant hcustom hmr hfees

/-- The proof system, and the files after a setup for two keys. -/
noncomputable abbrev transferSnark :
    SnarkLib tweedleModulus BackwardTransfer Unit UInt64 UInt64 UInt64 Empty
      (List (FieldElement tweedleModulus)) Empty :=
  idealSnark (standInPrimitives tweedleModulus) transferInputs

noncomputable def transferFiles : Fs :=
  (nativeSetup transferSnark.setupLib (setupFor 2 "snark_pk" "snark_vk") fun _ => none).2

noncomputable def transferEnv : Env (CertValue tweedleModulus fun _ => Unit) :=
  { defaultLib (CertValue tweedleModulus fun _ => Unit) with
    fieldElementFrom := fun value => fieldOfNat value.toNat
    computePksThresholdHash := computePksThresholdHash transferLib
    createNaiveThresholdSigProof := fun _ pks sigs inputs threshold =>
      createNaiveThresholdSigProof transferLib (transferSnark.proverLib transferFiles) true
        (certificateOf pks sigs inputs threshold)
    verifyNaiveThresholdSigProof := fun _ constant inputs quality =>
      verifyNaiveThresholdSigProof (transferSnark.verifierLib transferFiles)
        (verifierInputs constant inputs.scId inputs.epochNumber
          inputs.endCumulativeScTxCommTreeRoot inputs.btrFee inputs.ftMinAmount inputs.btList
          quality)
    malloc := fun n => n + 1 }

theorem transferEnv_uses :
    UsesCertificates transferEnv transferLib transferSnark transferFiles true where
  constant := fun _ _ => rfl
  create := fun _ _ _ _ _ _ _ _ _ _ => rfl
  verify := fun _ _ _ _ _ _ _ _ _ _ => rfl

def transferCertificate : Certificate tweedleModulus BackwardTransfer where
  pks := [⟨-1, (2 : ℕ)⟩, ⟨-1, (2 : ℕ)⟩]
  sigs := [some ⟨1, (2 : ℕ)⟩, none]
  scId := fieldOfNat 10
  epochNumber := 11
  endCumulativeScTxCommTreeRoot := fieldOfNat 13
  btrFee := 14
  ftMinAmount := 15
  btList := []
  threshold := 1

def transferArgs : NaiveThresholdSigProof.CertificateArgs :=
  ⟨some [], some 0, 11, some 1, 14, 15⟩

/-- Two elements, two keys, a signature and one without a value. -/
def transferObjects : List Op :=
  [.fieldElementFromLong 10, .fieldElementFromLong 13,
    .deserialize .schnorrPublicKey (some []) true true,
    .deserialize .schnorrPublicKey (some []) true true,
    .deserialize .schnorrSignature (some []) true true, .schnorrNewSignature]

theorem transfer_standsFor :
    StandsFor (run transferEnv (transferObjects ++ [.getConstant [some 0, some 1] 1]))
      transferArgs [some 0, some 1] [some 0, some 1] 1 transferCertificate where
  keyValues := rfl
  sigValues := rfl
  sigObjects := by decide
  lengths := rfl
  scId := rfl
  root := rfl
  btList := rfl
  epochNumber := rfl
  btrFee := rfl
  ftMinAmount := rfl
  thresholdWord := rfl

/-- The keys and the signature are freed once the proof is there. -/
theorem certificate_verifies_two :
    ∃ bytes quality,
      ((NaiveThresholdSigProof.createProof transferEnv transferArgs [some 0, some 1]
        [some 0, some 1] 1 (some (javaText "snark_pk")) false true true true).exec (run transferEnv
          (transferObjects ++ .getConstant [some 0, some 1] 1 :: []))).1
        = .ok (some (bytes, quality)) ∧
      quality.toNat = 1 ∧
      ((NaiveThresholdSigProof.verifyProof transferEnv transferArgs (some 2) quality.toInt64
        (some bytes) true (some (javaText "snark_vk")) false).exec (run transferEnv
          (transferObjects ++ .getConstant [some 0, some 1] 1 :: [] ++
            .createProof transferArgs [some 0, some 1] [some 0, some 1] 1
              (some (javaText "snark_pk")) false true true true ::
              [.free .schnorrPublicKey (some 0), .free .schnorrSignature (some 0)]))).1 =
        .ok true := by
  have : NeZero tweedleModulus := ⟨by decide⟩
  have hsetup : nativeSetup transferSnark.setupLib (setupFor 2 "snark_pk" "snark_vk")
      (fun _ => none) = (.returned true, transferFiles) := nativeSetup_ideal 2 rfl rfl _
  obtain ⟨pk, vk, hkeys⟩ := nativeSetup_setUp (idealSnark_writeLaws _ _) (snarkPk_readable 2)
    (snarkVk_readable 2) (by decide) hsetup
  have hconstant : ((NaiveThresholdSigProof.getConstant transferEnv [some 0, some 1] 1).exec
      (run transferEnv transferObjects)).1 = .ok (some 2) := rfl
  have hpacks : PacksFees transferLib := fun _ _ => rfl
  obtain ⟨bytes, quality, hcreate, hquality, hverified | hclosed | ⟨r, hr, hclosed⟩⟩ :=
    certificate_verifies two_pow_lt_tweedleModulus transferLib_agrees hpacks
      transferInputs_hashes (idealSnark_readsBack _ _) (idealSnark_complete _ _)
      (snarkPk_readable 2) (snarkVk_readable 2) hkeys rfl transferEnv_uses
      transferObjects []
      [.free .schnorrPublicKey (some 0), .free .schnorrSignature (some 0)] hconstant (by decide)
      transfer_standsFor rfl
      (computeMsgToSign_eq _ hpacks rfl) (fun x _ sig _ => ⟨_, rfl⟩) (by decide) (by decide)
      false true true false
  · exact ⟨bytes, quality, hcreate, hquality, hverified⟩
  · refine absurd hclosed (not_closedDuring transferEnv ?_)
    intro op hop w
    simp only [List.nil_append, List.mem_cons, List.not_mem_nil, or_false] at hop
    rcases hop with rfl | rfl | rfl
    all_goals simp [Op.closes]
  · refine absurd hclosed (not_closedDuring transferEnv ?_)
    intro op hop w
    simp only [List.mem_cons, List.not_mem_nil, or_false] at hop
    rcases hop with rfl | rfl | rfl
    all_goals simp [Op.closes]

end ZendooSc.Handles
