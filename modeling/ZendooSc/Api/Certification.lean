/-
ZendooSc.Api.Certification — a certificate from setup to verification.

A sidechain runs the setup for its number of keys, publishes the constant and the
verification key, and proves a certificate for each epoch. The mainchain checks
a certificate with the published key and the public data alone. Between these
three events there may be any setups for other files.

`certificate_accepted`: with enough valid signatures the prover returns a proof,
and the verifier accepts it. The prover's instance was made from the certificate
and the circuit of the setup from a number, so the proof rests on both having
the same steps, and on prover and verifier hashing the same data.

`accepted_certificate`: a proof that the verifier accepts carries as many valid
signatures as its quality says, no fewer than the threshold in the constant, for
keys with the committed x coordinates and on the message of the certifiers.
That holds unless one of the lists the extracted run hashes collides with one
the verifier hashes.

`check_agrees_with_setup`: the check of the sizes, which reads the verification
key from its file, accepts exactly the bounds with which the same setup would
not have failed.

`queried_types_agree`: the queries report the proving system that the setup was
called with, of both key files and of every proof made with them.
-/
import ZendooSc.Api.CommittedKeys
import ZendooSc.Api.ProverCall
import ZendooSc.Api.Snark

namespace ZendooSc

open Lib Layout

section Certification

variable {p : ℕ} {Bt Ck Index Pk Vk DarlinVk Proof DarlinProof : Type}
  {X : SnarkLib p Bt Ck Index Pk Vk DarlinVk Proof DarlinProof} {L : CertLib p Bt}
  {P : Primitives (FieldElement p)}
  {circuitInputs : CertificateProofUserInputs p Bt → Except Error (List (FieldElement p))}
  {args : SetupArgs} {pkPath vkPath : String} {pk : Pk} {vk : Vk}

/-! ## Reading the files of a setup -/

theorem proveInstance_eq {fs : Fs} {check zk compressedPk compressProof : Bool}
    {c : NaiveTresholdSignature (FieldElement p)} {ck : Ck} {proof : Proof} {bytes : List UInt8}
    (hread : (X.proverLib fs).readProverKey pkPath check compressedPk
      = .ok (.coboundaryMarlin pk))
    (hck : X.getG1CommitterKey = .ok (some ck)) (hproof : X.prove pk ck c zk = .ok proof)
    (hbytes : X.serializeProof proof compressProof = .ok bytes) :
    proveInstance (X.proverLib fs) pkPath check zk compressedPk compressProof c
      = pure bytes := by
  unfold proveInstance
  rw [hread, fromResult_ok, pure_bind]
  show (fromResult X.getG1CommitterKey >>= _) = _
  rw [hck, fromResult_ok, pure_bind]
  show (fromResult (X.prove pk ck c zk) >>= fun proof =>
    fromResult (X.serializeProof proof compressProof)) = _
  rw [hproof, fromResult_ok, pure_bind, hbytes, fromResult_ok]

variable {compress : Bool}

/-- The verifier finds the verification key of the setup. -/
theorem readFromFile_setUp {fs : Fs} (hvk : fs vkPath
    = some (X.encode (.verifier vk) (some compress))) :
    readFromFile (X.verifierLib fs) vkPath
      = .ok (X.encode (.verifier vk) (some compress)) := by
  have hfile : (X.verifierLib fs).files vkPath
      = some (X.encode (.verifier vk) (some compress)) := hvk
  rw [readFromFile, hfile]

theorem readTag_tagged {fs : Fs} {byte : UInt8} {rest : List UInt8}
    (htag : X.tag byte = some .coboundaryMarlin) :
    readTag (X.verifierLib fs) (byte :: rest) = .ok .coboundaryMarlin := by
  have hbyte : (X.verifierLib fs).tag byte = some .coboundaryMarlin := htag
  rw [readTag, hbyte]

theorem readProvingSystem_setUp (hreads : X.ReadsBack) {fs : Fs} (hvk : fs vkPath
    = some (X.encode (.verifier vk) (some compress))) :
    readProvingSystem (X.verifierLib fs) vkPath = .ok .coboundaryMarlin := by
  obtain ⟨byte, rest, hbytes, htag⟩ := hreads.vkTag vk compress
  unfold readProvingSystem
  rw [readFromFile_setUp hvk, hbytes]
  exact readTag_tagged htag

variable {ins : CertificateProofUserInputs p Bt}

/-- What the verifier does with the key of the setup and a proof of its system. -/
theorem verify_eq (hreads : X.ReadsBack) {ck : Ck} {index : Index}
    (hsetup : X.circuitSpecificSetup ck index = pure (pk, vk)) {fs : Fs}
    (hvk : fs vkPath = some (X.encode (.verifier vk) (some compress)))
    {byte : UInt8} {rest : List UInt8} (htag : X.tag byte = some .coboundaryMarlin)
    (checkProof compressedProof checkVk : Bool) :
    verifyNaiveThresholdSigProof (X.verifierLib fs) ins (byte :: rest) checkProof compressedProof
        vkPath checkVk compress
      = fromResult (X.deserializeProof (byte :: rest) checkProof compressedProof) >>= fun proof =>
          fromResult (X.verifyZendooProof ins proof (.coboundaryMarlin vk)) := by
  have hfront : readTag (X.verifierLib fs) [byte] = .ok .coboundaryMarlin := readTag_tagged htag
  have hkey : (X.verifierLib fs).deserializeVk (X.encode (.verifier vk) (some compress))
      checkVk compress = .ok (.coboundaryMarlin vk) :=
    hreads.verifier ck index pk vk hsetup checkVk compress
  unfold verifyNaiveThresholdSigProof
  rw [readProvingSystem_setUp hreads hvk]
  simp only [fromResult_ok, pure_bind, firstByte, hfront, ne_eq, not_true_eq_false, if_false,
    readFromFile_setUp hvk, hkey]
  rfl

/-- A proof that is accepted was read, and verified with the key of the setup. -/
theorem verify_true (hreads : X.ReadsBack) {ck : Ck} {index : Index}
    (hsetup : X.circuitSpecificSetup ck index = pure (pk, vk)) {fs : Fs}
    (hvk : fs vkPath = some (X.encode (.verifier vk) (some compress)))
    {bytes : List UInt8} {checkProof compressedProof checkVk : Bool}
    (h : verifyNaiveThresholdSigProof (X.verifierLib fs) ins bytes checkProof compressedProof
      vkPath checkVk compress = pure true) :
    ∃ proof, X.deserializeProof bytes checkProof compressedProof = .ok proof ∧
      X.verifyZendooProof ins proof (.coboundaryMarlin vk) = .ok true := by
  have hfile := readFromFile_setUp hvk
  have hkey := hreads.verifier ck index pk vk hsetup checkVk compress
  unfold verifyNaiveThresholdSigProof at h
  obtain ⟨vkPs, -, h⟩ := bind_eq_pure h
  obtain ⟨front, -, h⟩ := bind_eq_pure h
  obtain ⟨proofPs, -, h⟩ := bind_eq_pure h
  by_cases hne : vkPs ≠ proofPs
  · rw [if_pos hne] at h
    cases fromResult_eq_pure h
  · rw [if_neg hne] at h
    obtain ⟨vkBytes, hbytes, h⟩ := bind_eq_pure h
    obtain ⟨vk', hvk', h⟩ := bind_eq_pure h
    obtain ⟨proof, hproof, h⟩ := bind_eq_pure h
    have hsame := fromResult_eq_pure hbytes
    rw [hfile] at hsame
    cases hsame
    have hread : X.deserializeVk (X.encode (.verifier vk) (some compress)) checkVk
        compress = .ok vk' := fromResult_eq_pure hvk'
    rw [hkey] at hread
    cases hread
    exact ⟨proof, fromResult_eq_pure hproof, fromResult_eq_pure h⟩

/-! ## From a certificate to its acceptance -/

/-- The data that the verifier has of a certificate. -/
def Certificate.inputs (cert : Certificate p Bt) (constant : FieldElement p) (quality : UInt64) :
    CertificateProofUserInputs p Bt :=
  verifierInputs constant cert.scId cert.epochNumber cert.endCumulativeScTxCommTreeRoot
    cert.btrFee cert.ftMinAmount cert.btList quality

/-- The certificate data that is hashed for the second public input. -/
def sysdataOf (scId : FieldElement p) (epochNumber : UInt32) (mrBt : FieldElement p)
    (quality : UInt64) (root : FieldElement p) (btrFee ftMinAmount : UInt64) :
    List (FieldElement p) :=
  [scId, fieldOfNat epochNumber.toNat, mrBt, fieldOfNat quality.toNat, root,
    fieldOfNat (btrFee.toNat * 2 ^ 64 + ftMinAmount.toNat)]

variable {cert : Certificate p Bt} {mrBt msg : FieldElement p}

/-- The public inputs that prover and verifier compute, each for itself. -/
theorem circuitInputs_eq (hfees : PacksFees L) (hinputs : HashesCertificate L circuitInputs)
    {scId root : FieldElement p} {epochNumber : UInt32} {btrFee ftMinAmount : UInt64}
    {btList : List Bt}
    (hmsg : computeMsgToSign L scId epochNumber root btrFee ftMinAmount btList
      = pure (mrBt, msg)) (constant : FieldElement p) (quality : UInt64) :
    circuitInputs (verifierInputs constant scId epochNumber root btrFee ftMinAmount btList quality)
      = .ok [constant, L.hash [L.hash
          (sysdataOf scId epochNumber mrBt quality root btrFee ftMinAmount)]] :=
  hinputs _ _ mrBt _ rfl rfl (computeMsgToSign_root L hmsg) (hfees btrFee ftMinAmount)

/-- The instance of a certificate satisfies the circuit for its number of keys, with
the public inputs of the verifier. -/
theorem Certificate.proving_run (hp : 2 ^ 254 < p) (hagree : Agrees P L) (hfees : PacksFees L)
    (hinputs : HashesCertificate L circuitInputs) (checked : Bool)
    (hlen : cert.sigs.length = cert.pks.length) (hsize : cert.pks.length < 2 ^ 64)
    (hmsg : cert.msgToSign L = pure (mrBt, msg)) (hchecks : cert.Checks L msg)
    (hnull : ∀ x ∈ cert.positions, x.2 = none → L.verify x.1 msg L.nullSig ≠ .ok true)
    (hthr : cert.threshold.toNat ≤ cert.valid L msg) :
    ∃ c vals,
      buildInstance L checked cert = pure (c, UInt64.ofNat (cert.valid L msg)) ∧
      Lib.prove (gadgets P) .assignmentMissing c.generateConstraints
        = .ok (circuitSteps _ (UInt64.ofNat cert.pks.length).toNat
            (logMaxPks (UInt64.ofNat cert.pks.length) + 1), .ok vals) ∧
      ∀ w, Reads w vals →
        Sat (gadgets P) w (circuitSteps _ (UInt64.ofNat cert.pks.length).toNat
          (logMaxPks (UInt64.ofNat cert.pks.length) + 1)) ∧
        circuitInputs (cert.inputs
            (L.hash [L.hash (cert.pks.map SchnorrPk.x), fieldOfNat cert.threshold.toNat])
            (UInt64.ofNat (cert.valid L msg)))
          = .ok (publicInputs w (circuitSteps _ (UInt64.ofNat cert.pks.length).toNat
              (logMaxPks (UInt64.ofNat cert.pks.length) + 1))) := by
  have hbuild := buildInstance_eq L cert hp checked hlen hsize hmsg hchecks hthr
  have hmessage := cert.witness_message L hagree hfees hlen hsize hmsg
  have hvalid := cert.witness_valid L hagree hlen hsize hmessage hchecks hnull
  have hdiff : ((cert.witness L hlen hsize mrBt).validSignatures P : FieldElement p)
      - (cert.witness L hlen hsize mrBt).threshold
      = (natBE (bitsBE (logMaxPks (UInt64.ofNat cert.pks.length) + 1)
          (cert.valid L msg - cert.threshold.toNat)) : FieldElement p) := by
    rw [natBE_bitsBE_of_lt (cert.surplus_lt L hsize msg), hvalid, Nat.cast_sub hthr]
    rfl
  obtain ⟨vals, hprove, hvals⟩ := prover_sat P _ (length_bitsBE _ _) hdiff
  refine ⟨_, vals, hbuild, hprove, ?_⟩
  intro w hw
  obtain ⟨hsat, hpriv⟩ := hvals w hw
  obtain ⟨-, hpub, -⟩ := Sat.values P hsat hpriv
  refine ⟨hsat, ?_⟩
  rw [Certificate.inputs, circuitInputs_eq hfees hinputs hmsg, hpub, pksThresholdHash,
    Witness.certDataHash, Witness.sysdata, hvalid, hagree.hash, sysdataOf,
    cert.toNat_valid L hsize msg]
  rfl

theorem SetUp.committerKey {fs : Fs} (h : SetUp X.setupLib args pkPath vkPath fs pk vk) :
    ∃ ck index, X.getG1CommitterKey = .ok (some ck) ∧
      X.getIndexInfo (getInstanceForSetup (FieldElement p) args.maxPks.toUInt64) = pure index ∧
      X.circuitSpecificSetup ck index = pure (pk, vk) := by
  obtain ⟨ck, index, -, -, hck, hindex, -, -, -, hkeys⟩ := h.keys.setup
  exact ⟨ck, index, fromResult_eq_pure hck, hindex, hkeys⟩

/-- A setup within its bounds returns, and one that is not fails. -/
theorem setupKeys_iff {circ : NaiveTresholdSignature (FieldElement p)} {ck : Ck} {index : Index}
    (hck : X.getG1CommitterKey = .ok (some ck)) (hindex : X.getIndexInfo circ = pure index)
    (hkeys : X.circuitSpecificSetup ck index = pure (pk, vk)) {zk : Bool}
    {proofSize vkSize : UInt64}
    (hsize : X.computeProofVkSize (nextPowerOfTwo (X.commKeyLen ck)) index zk .coboundaryMarlin
      = pure (proofSize, vkSize)) (bounds : SizeBounds) :
    (∃ keys, setupKeys X.setupLib circ .coboundaryMarlin bounds zk = pure keys) ↔
      proofSize ≤ bounds.maxProofSize ∧ vkSize ≤ bounds.maxVkSize := by
  constructor
  · rintro ⟨keys, h⟩
    obtain ⟨ck', index', proofSize', vkSize', hck', hindex', hsize', hproof, hvk, -⟩ :=
      (setupKeys_eq_pure h).setup
    have hck'' : X.getG1CommitterKey = .ok (some ck') := fromResult_eq_pure hck'
    rw [hck] at hck''
    cases hck''
    have hindex'' : X.getIndexInfo circ = pure index' := hindex'
    rw [hindex] at hindex''
    cases pure_injective hindex''
    have hsize'' : X.computeProofVkSize (nextPowerOfTwo (X.commKeyLen ck)) index zk
      .coboundaryMarlin = pure (proofSize', vkSize') := hsize'
    rw [hsize] at hsize''
    cases pure_injective hsize''
    exact ⟨hproof, hvk⟩
  · rintro ⟨hproof, hvk⟩
    have hsmall : ¬ (proofSize > bounds.maxProofSize ∨ vkSize > bounds.maxVkSize) := by
      rw [not_or, UInt64.not_lt, UInt64.not_lt]
      exact ⟨hproof, hvk⟩
    refine ⟨(pk, vk), ?_⟩
    show (fromResult X.getG1CommitterKey >>= fun g1Ck => X.getIndexInfo circ >>= fun index =>
      unwrapCk g1Ck >>= fun ck =>
        X.computeProofVkSize (nextPowerOfTwo (X.commKeyLen ck)) index zk .coboundaryMarlin >>=
          fun sizes => if sizes.1 > bounds.maxProofSize ∨ sizes.2 > bounds.maxVkSize then
              fromResult (.error (.setupFailed (tooComplex bounds.maxProofSize sizes.1
                bounds.maxVkSize sizes.2)))
            else X.circuitSpecificSetup ck index) = _
    rw [hck, fromResult_ok, pure_bind, hindex, pure_bind, unwrapCk, pure_bind, hsize, pure_bind,
      if_neg hsmall, hkeys]

/-- With the keys of one setup in the two files, the prover returns a proof and the
verifier accepts it. -/
theorem SetUp.accepts (hp : 2 ^ 254 < p) (hagree : Agrees P L) (hfees : PacksFees L)
    (hinputs : HashesCertificate L circuitInputs) (hreads : X.ReadsBack)
    (hcomplete : X.Complete P circuitInputs) {fs₁ fs fs' : Fs}
    (hkeys : SetUp X.setupLib args pkPath vkPath fs₁ pk vk) (hpkFile : fs pkPath = fs₁ pkPath)
    (hvkFile : fs' vkPath = fs₁ vkPath) (hmax : args.maxPks.toUInt64.toNat = cert.pks.length)
    (hlen : cert.sigs.length = cert.pks.length)
    (hmsg : cert.msgToSign L = pure (mrBt, msg)) (hchecks : cert.Checks L msg)
    (hnull : ∀ x ∈ cert.positions, x.2 = none → L.verify x.1 msg L.nullSig ≠ .ok true)
    (hthr : cert.threshold.toNat ≤ cert.valid L msg)
    (checked enforceMembership zk compressProof checkProof checkVk : Bool) :
    ∃ bytes, createNaiveThresholdSigProof L (X.proverLib fs) checked cert pkPath enforceMembership
        zk args.compressPk compressProof = pure (bytes, UInt64.ofNat (cert.valid L msg)) ∧
      verifyNaiveThresholdSigProof (X.verifierLib fs') (cert.inputs
          (L.hash [L.hash (cert.pks.map SchnorrPk.x), fieldOfNat cert.threshold.toNat])
          (UInt64.ofNat (cert.valid L msg))) bytes checkProof compressProof vkPath checkVk
        args.compressVk = pure true := by
  obtain ⟨ck, index, hck, hindex, hcircuit⟩ := hkeys.committerKey
  have hsize : cert.pks.length < 2 ^ 64 := hmax ▸ args.maxPks.toUInt64.toNat_lt
  have hN : args.maxPks.toUInt64 = UInt64.ofNat cert.pks.length := by
    rw [← hmax, UInt64.ofNat_toNat]
  -- the circuit of the setup and the one of the instance have the same steps
  have hshape : (getInstanceForSetup (FieldElement p) args.maxPks.toUInt64).WellShaped :=
    getInstanceForSetup_wellShaped args.maxPks.toUInt64
  have hsteps := setup_generateConstraints hshape
  obtain ⟨c, vals, hbuild, hprove, hvals⟩ :=
    cert.proving_run hp hagree hfees hinputs checked hlen hsize hmsg hchecks hnull hthr
  rw [← hN] at hprove hvals
  obtain ⟨hsat, hpublic⟩ := hvals (assignmentOf vals) (reads_getD vals 0)
  obtain ⟨proof, hproof, hverifies⟩ := hcomplete _ c _ ck index pk vk vals zk hsteps hindex hcircuit
    hprove hsat
  obtain ⟨byte, rest, hbytes, htag, hback⟩ := hreads.proof pk ck c zk proof hproof compressProof
  have hread : (X.proverLib fs).readProverKey pkPath enforceMembership args.compressPk
      = .ok (.coboundaryMarlin pk) := by
    rw [X.readProverKey_eq (hpkFile.trans hkeys.prover)]
    exact hreads.prover ck index pk vk hcircuit enforceMembership args.compressPk
  refine ⟨byte :: rest, ?_, ?_⟩
  · rw [createNaiveThresholdSigProof, hbuild, pure_bind]
    show (proveInstance _ _ _ _ _ _ c >>= fun proof => pure (proof, _)) = _
    rw [proveInstance_eq hread hck hproof hbytes, pure_bind]
  · rw [verify_eq hreads hcircuit (hvkFile.trans hkeys.verifier) htag, hback checkProof,
      fromResult_ok, pure_bind, hverifies _ hpublic, fromResult_ok]

/-- With enough valid signatures the prover returns a proof, at any time after the
setup, and the verifier accepts it, at any time after that. -/
theorem certificate_accepted (hp : 2 ^ 254 < p) (hagree : Agrees P L) (hfees : PacksFees L)
    (hinputs : HashesCertificate L circuitInputs) (hwrites : WriteLaws X.setupLib)
    (hreads : X.ReadsBack) (hcomplete : X.Complete P circuitInputs)
    (hpk : getString args.provingKeyPath = .ok pkPath)
    (hvk : getString args.verificationKeyPath = .ok vkPath) (hpaths : pkPath ≠ vkPath)
    {fs fs₁ : Fs}
    (hsetup : nativeSetup X.setupLib args fs = (.returned true, fs₁)) (cert : Certificate p Bt)
    (hmax : args.maxPks.toUInt64.toNat = cert.pks.length)
    (hlen : cert.sigs.length = cert.pks.length)
    (hmsg : cert.msgToSign L = pure (mrBt, msg)) (hchecks : cert.Checks L msg)
    (hnull : ∀ x ∈ cert.positions, x.2 = none → L.verify x.1 msg L.nullSig ≠ .ok true)
    (hthr : cert.threshold.toNat ≤ cert.valid L msg) {before after : List SetupArgs}
    (hbefore : ∀ a ∈ before, a.Spares pkPath ∧ a.Spares vkPath)
    (hafter : ∀ a ∈ after, a.Spares vkPath)
    (checked enforceMembership zk compressProof checkProof checkVk : Bool) :
    ∃ constant bytes quality,
      computePksThresholdHash L cert.pks cert.threshold = pure constant ∧
      createNaiveThresholdSigProof L (X.proverLib (setupRun X.setupLib fs₁ before)) checked cert
        pkPath enforceMembership zk args.compressPk compressProof = pure (bytes, quality) ∧
      quality.toNat = cert.valid L msg ∧
      verifyNaiveThresholdSigProof (X.verifierLib (setupRun X.setupLib fs₁ (before ++ after)))
        (cert.inputs constant quality) bytes checkProof compressProof vkPath checkVk
        args.compressVk = pure true := by
  obtain ⟨pk, vk, hkeys⟩ := nativeSetup_setUp hwrites hpk hvk hpaths hsetup
  have hsize : cert.pks.length < 2 ^ 64 := hmax ▸ args.maxPks.toUInt64.toNat_lt
  -- the two files are as the setup left them
  have hpkFile := setupRun_spares hwrites (fun a ha => (hbefore a ha).1) fs₁
  have hall : ∀ a ∈ before ++ after, a.Spares vkPath := by
    intro a ha
    rcases List.mem_append.mp ha with hmem | hmem
    · exact (hbefore a hmem).2
    · exact hafter a hmem
  have hvkFile := setupRun_spares hwrites hall fs₁
  obtain ⟨bytes, hcreate, hverify⟩ := hkeys.accepts hp hagree hfees hinputs hreads hcomplete
    hpkFile hvkFile hmax hlen hmsg hchecks hnull hthr checked enforceMembership zk compressProof
    checkProof checkVk
  exact ⟨_, bytes, _, computePksThresholdHash_eq L cert.pks cert.threshold, hcreate,
    cert.toNat_valid L hsize msg, hverify⟩

/-- The setup for `maxPks` keys, as it is called below. -/
def setupFor (maxPks : Int64) (pkPath vkPath : String) : SetupArgs where
  psType := some .COBOUNDARY_MARLIN
  maxPks := maxPks
  provingKeyPath := some (javaText pkPath)
  verificationKeyPath := some (javaText vkPath)
  zk := true
  maxProofSize := 4000
  maxVkSize := 4000
  compressPk := true
  compressVk := true

/-- The setup returns with the ideal proof system. -/
theorem nativeSetup_ideal (maxPks : Int64) {pkPath vkPath : String}
    (hpk : toStr (javaText pkPath) = some pkPath) (hvk : toStr (javaText vkPath) = some vkPath)
    (fs : Fs) :
    nativeSetup (idealSnark P circuitInputs).setupLib (setupFor maxPks pkPath vkPath) fs
      = (.returned true, (nativeSetup (idealSnark P circuitInputs).setupLib
          (setupFor maxPks pkPath vkPath) fs).2) := by
  have hread : readSetupArgs (setupFor maxPks pkPath vkPath)
      = .ok (.coboundaryMarlin, ⟨pkPath, vkPath, some true, some true⟩) := by
    simp only [readSetupArgs, setupFor, getString_eq_ok.mpr ⟨_, rfl, hpk⟩,
      getString_eq_ok.mpr ⟨_, rfl, hvk⟩]
    rfl
  obtain ⟨keys, hkeys⟩ : ∃ keys, setupKeys (idealSnark P circuitInputs).setupLib
      (getInstanceForSetup (FieldElement p) maxPks.toUInt64) .coboundaryMarlin
      ⟨jintAsUsize 4000, jintAsUsize 4000⟩ true = pure keys :=
    (setupKeys_iff rfl rfl rfl rfl _).mpr ⟨by decide, by decide⟩
  unfold nativeSetup
  rw [hread]
  simp only [setupFor, generateCircuitKeypair, fromCall]
  rw [Program.exec_lift_bind, hkeys]
  rfl

theorem setupFor_spares {maxPks : Int64} {pkPath vkPath path : String}
    (hpk : toStr (javaText pkPath) = some pkPath) (hvk : toStr (javaText vkPath) = some vkPath)
    (hpath : pkPath ≠ path ∧ vkPath ≠ path) : (setupFor maxPks pkPath vkPath).Spares path := by
  unfold SetupArgs.Spares setupFor
  rw [getString_eq_ok.mpr ⟨_, rfl, hpk⟩, getString_eq_ok.mpr ⟨_, rfl, hvk⟩]
  exact ⟨fun h => hpath.1 (Except.ok.inj h), fun h => hpath.2 (Except.ok.inj h)⟩

theorem snarkPk_readable (maxPks : Int64) :
    getString (setupFor maxPks "snark_pk" "snark_vk").provingKeyPath = .ok "snark_pk" := rfl

theorem snarkVk_readable (maxPks : Int64) :
    getString (setupFor maxPks "snark_pk" "snark_vk").verificationKeyPath = .ok "snark_vk" := rfl

/-- Two keys, one good signature and threshold 1. There is another setup between
setup and proof, and one between proof and verification. -/
theorem certificate_accepted_two :
    ∃ (fs₁ : Fs) (constant : FieldElement tweedleModulus) (bytes : List UInt8) (quality : UInt64),
      quality.toNat = 1 ∧
      verifyNaiveThresholdSigProof
        ((idealSnark (standInPrimitives tweedleModulus)
          (standInInputs tweedleModulus)).verifierLib
          (setupRun (idealSnark (standInPrimitives tweedleModulus)
            (standInInputs tweedleModulus)).setupLib fs₁
            ([setupFor 3 "other_pk" "other_vk"] ++ [setupFor 4 "snark_pk" "other_vk"])))
        ((standInCertificate tweedleModulus).inputs constant quality) bytes true true "snark_vk"
        false true = pure true := by
  have : NeZero tweedleModulus := ⟨by decide⟩
  have hbefore : ∀ a ∈ [setupFor 3 "other_pk" "other_vk"],
      a.Spares "snark_pk" ∧ a.Spares "snark_vk" := by
    intro a ha
    rw [List.mem_singleton.mp ha]
    exact ⟨setupFor_spares rfl rfl (by decide), setupFor_spares rfl rfl (by decide)⟩
  have hafter : ∀ a ∈ [setupFor 4 "snark_pk" "other_vk"], a.Spares "snark_vk" := by
    intro a ha
    rw [List.mem_singleton.mp ha]
    exact setupFor_spares rfl rfl (by decide)
  obtain ⟨constant, bytes, quality, -, -, hquality, hverified⟩ :=
    certificate_accepted two_pow_lt_tweedleModulus (standIn_agrees tweedleModulus)
      (standInLib_packsFees tweedleModulus) (standInInputs_hashes tweedleModulus)
      (idealSnark_writeLaws _ _) (idealSnark_readsBack _ _) (idealSnark_complete _ _)
      (snarkPk_readable 2) (snarkVk_readable 2) (by decide)
      (nativeSetup_ideal 2 rfl rfl fun _ => none)
      (standInCertificate tweedleModulus) rfl rfl
      (computeMsgToSign_eq _ (standInLib_packsFees tweedleModulus) rfl)
      (fun x _ sig _ => ⟨_, rfl⟩) (by decide) (by decide) hbefore hafter true false true true
      true false
  exact ⟨_, constant, bytes, quality, hquality, hverified⟩

/-! ## From an accepted certificate to its signatures -/

/-- The number of signatures that verify under the keys of the same position. -/
def certified (L : CertLib p Bt) (keys : List (SchnorrPk (FieldElement p))) (msg : FieldElement p)
    (sigs : List (SchnorrSig (FieldElement p))) : ℕ :=
  (keys.zip sigs).countP fun x => presentAndValid L msg (x.1, some x.2)

/-- The gadgets count the same signatures. -/
theorem validUnder_eq_certified (hagree : Agrees P L) (keys : List (SchnorrPk (FieldElement p)))
    (msg : FieldElement p) (sigs : List (SchnorrSig (FieldElement p))) :
    validUnder P keys msg sigs = certified L keys msg sigs := by
  unfold validUnder certified
  refine List.countP_congr ?_
  rintro ⟨pk, sig⟩ -
  rw [hagree.verdict]
  rcases hverify : L.verify pk msg sig with e | b
  · simp [presentAndValid, hverify]
  · simp [presentAndValid, hverify]

/-- The lists that are hashed outside the circuit for the two public inputs. -/
def outsideLists (L : CertLib p Bt) (pks : List (SchnorrPk (FieldElement p))) (threshold : UInt64)
    (sysdata : List (FieldElement p)) : List (List (FieldElement p)) :=
  [pks.map SchnorrPk.x, [L.hash (pks.map SchnorrPk.x), fieldOfNat threshold.toNat], sysdata,
    [L.hash sysdata]]

section Opening

variable {maxPks : UInt64} {w : Wire → FieldElement p}
  {wit : Witness (FieldElement p) maxPks.toNat} {bits : List Bool}
  {pks : List (SchnorrPk (FieldElement p))} {threshold quality : UInt64}
  {scId root : FieldElement p} {epochNumber : UInt32} {btrFee ftMinAmount : UInt64}

/-- The first public input opens to the committed keys and threshold. -/
theorem opens_constant (hagree : Agrees P L) (hN : maxPks.toNat = pks.length)
    (hcoll : NoCollision L.hash [L.hash (wit.keys.map SchnorrPk.x), wit.threshold]
      [L.hash (pks.map SchnorrPk.x), fieldOfNat threshold.toNat])
    (hkeys : NoCollision L.hash (wit.keys.map SchnorrPk.x) (pks.map SchnorrPk.x))
    (h : pksThresholdHash P wit.keys wit.threshold
      = L.hash [L.hash (pks.map SchnorrPk.x), fieldOfNat threshold.toNat]) :
    wit.keys.map SchnorrPk.x = pks.map SchnorrPk.x ∧
      wit.threshold = fieldOfNat threshold.toNat := by
  rw [pksThresholdHash, hagree.hash] at h
  have hpair := hcoll rfl h
  simp only [List.cons.injEq, and_true] at hpair
  have hlen : (wit.keys.map SchnorrPk.x).length = (pks.map SchnorrPk.x).length := by
    rw [List.length_map, List.length_map, wit.length_keys, hN]
  exact ⟨hkeys hlen hpair.1, hpair.2⟩

/-- The second public input opens to the certificate data: the message is the
signed one, and the count is the quality. -/
theorem opens_certData (hp : 2 ^ 254 < p) (hagree : Agrees P L)
    (hcoll : NoCollision L.hash [L.hash (wit.sysdata P)]
      [L.hash (sysdataOf scId epochNumber mrBt quality root btrFee ftMinAmount)])
    (hdata : NoCollision L.hash (wit.sysdata P)
      (sysdataOf scId epochNumber mrBt quality root btrFee ftMinAmount))
    (h : wit.certDataHash P
      = L.hash [L.hash (sysdataOf scId epochNumber mrBt quality root btrFee ftMinAmount)]) :
    wit.message P = L.hash [scId, fieldOfNat epochNumber.toNat, mrBt, root,
        fieldOfNat (btrFee.toNat * 2 ^ 64 + ftMinAmount.toNat)] ∧
      wit.validSignatures P = quality.toNat := by
  rw [Witness.certDataHash, hagree.hash] at h
  have hlen : (wit.sysdata P).length
      = (sysdataOf scId epochNumber mrBt quality root btrFee ftMinAmount).length := by
    simp only [Witness.sysdata, sysdataOf, List.length_cons, List.length_nil]
  have hsame := hdata hlen (hcoll.singleton h)
  simp only [Witness.sysdata, sysdataOf, List.cons.injEq, and_true] at hsame
  obtain ⟨hsc, hep, hmr, hcount, hroot, hfees⟩ := hsame
  have hle := wit.validSignatures_le P
  have hN := maxPks.toNat_lt
  have hquality := quality.toNat_lt
  refine ⟨?_, natCast_injOn hp (by omega) (by omega) hcount⟩
  rw [Witness.message, hagree.hash, hsc, hep, hmr, hroot, hfees]

end Opening

/-- A certificate that is accepted is backed by signatures: the run extracted from
its proof has keys with the committed x coordinates, and as many signatures that
verify under them as the quality says, which is at least the threshold. -/
theorem accepted_certificate (hp : 2 ^ 254 < p) (hagree : Agrees P L) (hfees : PacksFees L)
    (hinputs : HashesCertificate L circuitInputs) (hwrites : WriteLaws X.setupLib)
    (hreads : X.ReadsBack) {extract : CertificateProofUserInputs p Bt →
      ZendooProof Proof DarlinProof → Vk → Wire → FieldElement p}
    (hpk : getString args.provingKeyPath = .ok pkPath)
    (hvk : getString args.verificationKeyPath = .ok vkPath) (hpaths : pkPath ≠ vkPath)
    {fs fs₁ : Fs}
    (hsetup : nativeSetup X.setupLib args fs = (.returned true, fs₁))
    {pks : List (SchnorrPk (FieldElement p))} (hmax : args.maxPks.toUInt64.toNat = pks.length)
    {threshold : UInt64} {constant : FieldElement p}
    (hconstant : computePksThresholdHash L pks threshold = pure constant)
    {scId root : FieldElement p} {epochNumber : UInt32} {btrFee ftMinAmount : UInt64}
    {btList : List Bt}
    (hmsg : computeMsgToSign L scId epochNumber root btrFee ftMinAmount btList = pure (mrBt, msg))
    {calls : List SetupArgs} (hcalls : ∀ a ∈ calls, a.Spares vkPath) {quality : UInt64}
    {bytes : List UInt8} {checkProof compressedProof checkVk : Bool}
    (hextracts : ∀ proof, X.deserializeProof bytes checkProof compressedProof = .ok proof →
      X.Extracts P circuitInputs extract (verifierInputs constant scId epochNumber root btrFee
        ftMinAmount btList quality) proof)
    (haccepted : verifyNaiveThresholdSigProof (X.verifierLib (setupRun X.setupLib fs₁ calls))
      (verifierInputs constant scId epochNumber root btrFee ftMinAmount btList quality) bytes
      checkProof compressedProof vkPath checkVk args.compressVk = pure true)
    (hcoll : ∀ proof vk, X.deserializeProof bytes checkProof compressedProof = .ok proof →
      fs₁ vkPath = some (X.encode (.verifier vk) (some args.compressVk)) →
      NoCollisionBetween L.hash
        (hashedLists (extract (verifierInputs constant scId epochNumber root btrFee ftMinAmount
            btList quality) proof vk)
          (circuitSteps (FieldElement p) args.maxPks.toUInt64.toNat
            (logMaxPks args.maxPks.toUInt64 + 1)))
        (outsideLists L pks threshold
          (sysdataOf scId epochNumber mrBt quality root btrFee ftMinAmount))) :
    ∃ proof vk, X.deserializeProof bytes checkProof compressedProof = .ok proof ∧
      fs₁ vkPath = some (X.encode (.verifier vk) (some args.compressVk)) ∧
      ∃ (wit : Witness (FieldElement p) args.maxPks.toUInt64.toNat) (bits : List Bool),
        privateInputs (extract (verifierInputs constant scId epochNumber root btrFee ftMinAmount
            btList quality) proof vk)
          (circuitSteps (FieldElement p) args.maxPks.toUInt64.toNat
            (logMaxPks args.maxPks.toUInt64 + 1)) = wit.encode bits ∧
        wit.keys.map SchnorrPk.x = pks.map SchnorrPk.x ∧
        certified L wit.keys msg wit.sigs = quality.toNat ∧
        threshold.toNat ≤ quality.toNat := by
  obtain ⟨pk, vk, hkeys⟩ := nativeSetup_setUp hwrites hpk hvk hpaths hsetup
  obtain ⟨ck, index, -, hindex, hcircuit⟩ := hkeys.committerKey
  have hvkFile := (setupRun_spares hwrites hcalls fs₁).trans hkeys.verifier
  obtain ⟨proof, hproof, hverified⟩ := verify_true hreads hcircuit hvkFile haccepted
  refine ⟨proof, vk, hproof, hkeys.verifier, ?_⟩
  have hfree := hcoll proof vk hproof hkeys.verifier
  have hshape : (getInstanceForSetup (FieldElement p) args.maxPks.toUInt64).WellShaped :=
    getInstanceForSetup_wellShaped args.maxPks.toUInt64
  have hS : setup (getInstanceForSetup (FieldElement p) args.maxPks.toUInt64).generateConstraints
      = .ok (circuitSteps (FieldElement p) args.maxPks.toUInt64.toNat
          (logMaxPks args.maxPks.toUInt64 + 1)) := setup_generateConstraints hshape
  obtain ⟨hsat, hpublic⟩ := hextracts proof hproof _ _ ck index pk vk hS hindex hcircuit hverified
  generalize extract _ proof vk = w at hsat hpublic hfree ⊢
  -- the extracted run carries a witness, whose hashes are the public inputs
  obtain ⟨wit, bits, hpriv⟩ : ∃ (wit : Witness (FieldElement p) args.maxPks.toUInt64.toNat)
      (bits : List Bool), privateInputs w (circuitSteps (FieldElement p)
        args.maxPks.toUInt64.toNat (logMaxPks args.maxPks.toUInt64 + 1)) = wit.encode bits :=
    Sat.exists_witness hS hsat
  obtain ⟨-, hpub, -⟩ := Sat.values P hsat hpriv
  rw [circuitInputs_eq hfees hinputs hmsg, hpub] at hpublic
  simp only [Except.ok.injEq, List.cons.injEq, and_true] at hpublic
  obtain ⟨hfirst, hsecond⟩ := hpublic
  -- and opening the two hashes leads to the public data
  have hlists := hashedLists_eq hsat hpriv
  rw [Witness.hashed, hagree.hash] at hlists
  rw [hlists] at hfree
  rw [computePksThresholdHash_eq] at hconstant
  obtain ⟨hx, hthreshold⟩ := opens_constant hagree hmax
    (hfree _ (by simp) _ (by simp [outsideLists]))
    (hfree _ (by simp) _ (by simp [outsideLists]))
    (hfirst.symm.trans (pure_injective hconstant).symm)
  obtain ⟨hmessage, hcount⟩ := opens_certData hp hagree
    (hfree _ (by simp) _ (by simp [outsideLists]))
    (hfree _ (by simp) _ (by simp [outsideLists])) hsecond.symm
  have hsigned : wit.message P = msg := by
    rw [computeMsgToSign_eq L hfees (computeMsgToSign_root L hmsg)] at hmsg
    exact hmessage.trans (congrArg Prod.snd (pure_injective hmsg))
  refine ⟨wit, bits, hpriv, hx, ?_, ?_⟩
  · rw [← validUnder_eq_certified hagree, ← hsigned, ← hcount]
    rfl
  · rw [← hcount]
    exact Sat.threshold_le hp threshold.toNat_lt hthreshold hsat hpriv

/-! ## The sizes -/

/-- The check of the sizes accepts exactly the bounds with which the setup of the
same circuit returns. -/
theorem check_agrees_with_setup (hwrites : WriteLaws X.setupLib) (hreads : X.ReadsBack)
    (hsizes : X.ChecksSizes) (hpk : getString args.provingKeyPath = .ok pkPath)
    (hvk : getString args.verificationKeyPath = .ok vkPath) (hpaths : pkPath ≠ vkPath)
    (hcompress : args.compressVk = true) {fs fs₁ : Fs}
    (hsetup : nativeSetup X.setupLib args fs = (.returned true, fs₁)) {calls : List SetupArgs}
    (hcalls : ∀ a ∈ calls, a.Spares vkPath) {ck : Ck}
    (hck : X.getG1CommitterKey = .ok (some ck)) {supportedSegmentSize : Int32}
    (hsegment : jintAsUsize supportedSegmentSize = nextPowerOfTwo (X.commKeyLen ck)) (zk : Bool)
    (maxProofSize maxVkSize : Int32) :
    ∃ answer, nativeCheckProofVkSize X zk supportedSegmentSize maxProofSize maxVkSize
        args.verificationKeyPath (setupRun X.setupLib fs₁ calls) = .returned answer ∧
      (answer = true ↔ ∃ keys, setupKeys X.setupLib
        (getInstanceForSetup (FieldElement p) args.maxPks.toUInt64) .coboundaryMarlin
        ⟨jintAsUsize maxProofSize, jintAsUsize maxVkSize⟩ zk = pure keys) := by
  obtain ⟨pk, vk, hkeys⟩ := nativeSetup_setUp hwrites hpk hvk hpaths hsetup
  obtain ⟨ck', index, hck', hindex, hcircuit⟩ := hkeys.committerKey
  rw [hck] at hck'
  cases hck'
  have hvkFile := (setupRun_spares hwrites hcalls fs₁).trans hkeys.verifier
  have hread : X.deserializeVk (X.encode (.verifier vk) (some args.compressVk)) false true
      = .ok (.coboundaryMarlin vk) := by
    have h := hreads.verifier ck index pk vk hcircuit false args.compressVk
    rwa [hcompress] at h ⊢
  obtain ⟨proofSize, vkSize, hcompute, hcheck⟩ := hsizes.check
    (nextPowerOfTwo (X.commKeyLen ck)) (X.indexInfo (.coboundaryMarlin vk)) zk .coboundaryMarlin
  rw [hsizes.index ck index pk vk hcircuit] at hcompute
  refine ⟨decide (proofSize ≤ jintAsUsize maxProofSize ∧ vkSize ≤ jintAsUsize maxVkSize), ?_, ?_⟩
  · unfold nativeCheckProofVkSize
    rw [ffiExport_eq_returned]
    simp only [hvk, bind, Except.bind, readFromFile_setUp hvkFile, hread, hsegment]
    exact hcheck _ _
  · rw [decide_eq_true_iff]
    exact (setupKeys_iff hck hindex hcircuit hcompute
      ⟨jintAsUsize maxProofSize, jintAsUsize maxVkSize⟩).symm

/-! ## The types of keys and proofs -/

section Queries

variable {X : SnarkLib p BackwardTransfer Ck Index Pk Vk DarlinVk Proof DarlinProof}

/-- A proof that the prover returned was made with the key it read. -/
theorem proveInstance_eq_pure {fs : Fs} {check zk compressedPk compressProof : Bool}
    {c : NaiveTresholdSignature (FieldElement p)} {bytes : List UInt8}
    (hread : (X.proverLib fs).readProverKey pkPath check compressedPk
      = .ok (.coboundaryMarlin pk))
    (h : proveInstance (X.proverLib fs) pkPath check zk compressedPk compressProof c
      = pure bytes) :
    ∃ ck proof, X.prove pk ck c zk = .ok proof ∧
      X.serializeProof proof compressProof = .ok bytes := by
  unfold proveInstance at h
  obtain ⟨key, hkey, h⟩ := bind_eq_pure h
  obtain ⟨g1Ck, -, h⟩ := bind_eq_pure h
  rw [hread] at hkey
  cases fromResult_eq_pure hkey
  rcases g1Ck with _ | ck
  · exact absurd h ((panicWith_ne _).2 _)
  · obtain ⟨proof, hproof, h⟩ := bind_eq_pure h
    exact ⟨ck, proof, fromResult_eq_pure hproof, fromResult_eq_pure h⟩

/-- A file that starts with the tag of the system is reported as such. -/
theorem getVerifierKeyProvingSystemType_tagged {fs : Fs} {javaPath : Option JavaString}
    {path : String} (hpath : getString javaPath = .ok path) {byte : UInt8} {rest : List UInt8}
    (hfile : fs path = some (byte :: rest)) (htag : X.tag byte = some .coboundaryMarlin) :
    getVerifierKeyProvingSystemType (X.verifierLib fs) javaPath
      = .returned .COBOUNDARY_MARLIN := by
  obtain ⟨units, rfl, hunits⟩ := getString_eq_ok.mp hpath
  have hread : fileTag (X.verifierLib fs) path = some .coboundaryMarlin := by
    have hfile' : (X.verifierLib fs).files path = some (byte :: rest) := hfile
    rw [fileTag, hfile']
    exact htag
  rw [getVerifierKeyProvingSystemType_eq hunits, hread]
  rfl

/-- After a setup the three queries report the proving system that the setup was
called with: of the two keys in their files, and of every proof made with them. -/
theorem queried_types_agree (hwrites : WriteLaws X.setupLib) (hreads : X.ReadsBack)
    (htags : X.TagsProverKeys) (hpk : getString args.provingKeyPath = .ok pkPath)
    (hvk : getString args.verificationKeyPath = .ok vkPath) (hpaths : pkPath ≠ vkPath)
    {fs fs₁ : Fs}
    (hsetup : nativeSetup X.setupLib args fs = (.returned true, fs₁)) {calls : List SetupArgs}
    (hcalls : ∀ a ∈ calls, a.Spares pkPath ∧ a.Spares vkPath) :
    ∃ t, args.psType = some t ∧
      getProverKeyProvingSystemType (X.verifierLib (setupRun X.setupLib fs₁ calls))
        args.provingKeyPath = .returned t ∧
      getVerifierKeyProvingSystemType (X.verifierLib (setupRun X.setupLib fs₁ calls))
        args.verificationKeyPath = .returned t ∧
      ∀ (L : CertLib p BackwardTransfer) (cert : Certificate p BackwardTransfer)
        (checked enforceMembership zk compressProof : Bool) bytes quality,
        createNaiveThresholdSigProof L (X.proverLib (setupRun X.setupLib fs₁ calls)) checked cert
          pkPath enforceMembership zk args.compressPk compressProof = pure (bytes, quality) →
        ∀ fs', getProofProvingSystemType (X.verifierLib fs') (some bytes) = .returned t := by
  obtain ⟨pk, vk, hkeys⟩ := nativeSetup_setUp hwrites hpk hvk hpaths hsetup
  obtain ⟨ck, index, -, -, hcircuit⟩ := hkeys.committerKey
  have hpkFile := (setupRun_spares hwrites (fun a ha => (hcalls a ha).1) fs₁).trans hkeys.prover
  have hvkFile := (setupRun_spares hwrites (fun a ha => (hcalls a ha).2) fs₁).trans hkeys.verifier
  refine ⟨.COBOUNDARY_MARLIN, nativeSetup_psType hsetup, ?_, ?_, ?_⟩
  · obtain ⟨byte, rest, hbytes, htag⟩ := htags pk args.compressPk
    rw [getProverKeyProvingSystemType_eq]
    exact getVerifierKeyProvingSystemType_tagged hpk (hpkFile.trans (congrArg some hbytes)) htag
  · obtain ⟨byte, rest, hbytes, htag⟩ := hreads.vkTag vk args.compressVk
    exact getVerifierKeyProvingSystemType_tagged hvk (hvkFile.trans (congrArg some hbytes)) htag
  · intro L cert checked enforceMembership zk compressProof bytes quality hcreate fs'
    have hread : (X.proverLib (setupRun X.setupLib fs₁ calls)).readProverKey pkPath
        enforceMembership args.compressPk = .ok (.coboundaryMarlin pk) := by
      rw [X.readProverKey_eq hpkFile]
      exact hreads.prover ck index pk vk hcircuit enforceMembership args.compressPk
    unfold createNaiveThresholdSigProof at hcreate
    obtain ⟨⟨c, valid⟩, -, hcreate⟩ := bind_eq_pure hcreate
    obtain ⟨proofBytes, hprove, hcreate⟩ := bind_eq_pure hcreate
    cases pure_injective hcreate
    obtain ⟨ck', proof, hproof, hserialized⟩ := proveInstance_eq_pure hread hprove
    obtain ⟨byte, rest, hbytes, htag, -⟩ := hreads.proof pk ck' c zk proof hproof compressProof
    rw [hbytes] at hserialized
    cases hserialized
    have hlead : leadingTag (X.verifierLib fs') (byte :: rest) = some .coboundaryMarlin := htag
    rw [getProofProvingSystemType_cons, hlead]
    rfl

/-- An ideal proof system in which nothing is public. -/
noncomputable abbrev closedSnark :
    SnarkLib tweedleModulus BackwardTransfer Unit UInt64 UInt64 UInt64 Empty
      (List (FieldElement tweedleModulus)) Empty :=
  idealSnark (standInPrimitives tweedleModulus) fun _ => .ok []

/-- The files after two setups, the second of which is for other paths. -/
noncomputable def twoSetups : Fs :=
  setupRun closedSnark.setupLib
    (nativeSetup closedSnark.setupLib (setupFor 3 "snark_pk" "snark_vk") fun _ => none).2
    [setupFor 4 "other_pk" "other_vk"]

theorem queried_types_agree_three :
    getProverKeyProvingSystemType (closedSnark.verifierLib twoSetups)
        (some (javaText "snark_pk")) = .returned .COBOUNDARY_MARLIN ∧
      getVerifierKeyProvingSystemType (closedSnark.verifierLib twoSetups)
        (some (javaText "snark_vk")) = .returned .COBOUNDARY_MARLIN := by
  have : NeZero tweedleModulus := ⟨by decide⟩
  have hcalls : ∀ a ∈ [setupFor 4 "other_pk" "other_vk"],
      a.Spares "snark_pk" ∧ a.Spares "snark_vk" := by
    intro a ha
    rw [List.mem_singleton.mp ha]
    exact ⟨setupFor_spares rfl rfl (by decide), setupFor_spares rfl rfl (by decide)⟩
  obtain ⟨t, ht, hprover, hverifier, -⟩ := queried_types_agree (X := closedSnark)
    (idealSnark_writeLaws _ _) (idealSnark_readsBack _ _) (idealSnark_tagsProverKeys _ _)
    (snarkPk_readable 3) (snarkVk_readable 3) (by decide)
    (nativeSetup_ideal 3 rfl rfl fun _ => none) hcalls
  obtain rfl : .COBOUNDARY_MARLIN = t := Option.some.inj ht
  exact ⟨hprover, hverifier⟩

end Queries

/-! A run of three keys. Lists of different purpose have different lengths in it, so
there is nothing to collide. -/

def threeArgs : SetupArgs := setupFor 3 "snark_pk" "snark_vk"

/-- The steps of the circuit for three keys. -/
def threeSteps : List (Step (GadgetCall (FieldElement tweedleModulus))) :=
  circuitSteps _ threeArgs.maxPks.toUInt64.toNat (logMaxPks threeArgs.maxPks.toUInt64 + 1)

/-- One good signature, and threshold 1. -/
def threeKeys : Witness (FieldElement tweedleModulus) threeArgs.maxPks.toUInt64.toNat :=
  ⟨[⟨-1, (2 : ℕ)⟩, ⟨-1, (2 : ℕ)⟩, ⟨-1, -(2 : ℕ)⟩], [⟨1, (2 : ℕ)⟩, ⟨1, 0⟩, ⟨1, 0⟩], fieldOfNat 1,
    (10 : ℕ), fieldOfNat 11, (12 : ℕ), (13 : ℕ), 14, 15, rfl, rfl⟩

def threeConstant : FieldElement tweedleModulus :=
  (standInLib tweedleModulus).hash [(standInLib tweedleModulus).hash
    (threeKeys.keys.map SchnorrPk.x), fieldOfNat (1 : UInt64).toNat]

/-- What the verifier is given. -/
def threeInputs : CertificateProofUserInputs tweedleModulus Unit :=
  verifierInputs threeConstant (10 : ℕ) 11 (13 : ℕ) 14 15 [] 1

theorem threeKeys_valid :
    threeKeys.validSignatures (standInPrimitives tweedleModulus) = 1 := by decide

theorem threeKeys_sysdata :
    threeKeys.sysdata (standInPrimitives tweedleModulus)
      = sysdataOf (10 : ℕ) 11 (12 : ℕ) 1 (13 : ℕ) 14 15 := by
  rw [Witness.sysdata, threeKeys_valid]
  rfl

theorem threeKeys_run :
    ∃ vals bits, Sat (gadgets (standInPrimitives tweedleModulus)) (assignmentOf vals) threeSteps ∧
      privateInputs (assignmentOf vals) threeSteps = threeKeys.encode bits := by
  have hdiff : (threeKeys.validSignatures (standInPrimitives tweedleModulus) :
      FieldElement tweedleModulus) - threeKeys.threshold
      = (natBE (bitsBE (logMaxPks threeArgs.maxPks.toUInt64 + 1) 0) :
        FieldElement tweedleModulus) := by
    rw [threeKeys_valid, natBE_bitsBE, Nat.zero_mod, Nat.cast_zero]
    exact sub_self _
  obtain ⟨vals, -, hvals⟩ := prover_sat (standInPrimitives tweedleModulus) threeKeys
    (length_bitsBE _ _) hdiff
  exact ⟨vals, _, hvals (assignmentOf vals) (reads_getD vals 0)⟩

def threeMessage : FieldElement tweedleModulus :=
  (standInLib tweedleModulus).hash [(10 : ℕ), fieldOfNat (11 : UInt32).toNat, (12 : ℕ), (13 : ℕ),
    ((14 : UInt64).toNat * 2 ^ 64 + (15 : UInt64).toNat : ℕ)]

theorem three_message :
    computeMsgToSign (standInLib tweedleModulus) (10 : ℕ) 11 (13 : ℕ) 14 15 []
      = pure (((12 : ℕ) : FieldElement tweedleModulus), threeMessage) :=
  computeMsgToSign_eq _ (standInLib_packsFees _) rfl

variable {vals : List (FieldElement tweedleModulus)} {bits : List Bool}

theorem three_public
    (hsat : Sat (gadgets (standInPrimitives tweedleModulus)) (assignmentOf vals) threeSteps)
    (hpriv : privateInputs (assignmentOf vals) threeSteps = threeKeys.encode bits) :
    standInInputs tweedleModulus threeInputs
      = .ok (publicInputs (assignmentOf vals) threeSteps) := by
  obtain ⟨-, hpub, -⟩ := Sat.values _ hsat hpriv
  rw [threeInputs, circuitInputs_eq (standInLib_packsFees _) (standInInputs_hashes _)
    three_message, threeSteps, hpub, Witness.certDataHash, threeKeys_sysdata]
  rfl

theorem three_noCollision
    (hsat : Sat (gadgets (standInPrimitives tweedleModulus)) (assignmentOf vals) threeSteps)
    (hpriv : privateInputs (assignmentOf vals) threeSteps = threeKeys.encode bits) :
    NoCollisionBetween (standInLib tweedleModulus).hash (hashedLists (assignmentOf vals) threeSteps)
      (outsideLists (standInLib tweedleModulus) threeKeys.keys 1
        (sysdataOf (10 : ℕ) 11 (12 : ℕ) 1 (13 : ℕ) 14 15)) := by
  rw [threeSteps, hashedLists_eq hsat hpriv, Witness.hashed, threeKeys_sysdata]
  have hhash : (standInPrimitives tweedleModulus).hash = (standInLib tweedleModulus).hash := rfl
  have hthreshold : threeKeys.threshold = fieldOfNat (1 : UInt64).toNat := rfl
  have hlength : threeKeys.keys.length = 3 := rfl
  rw [hhash, hthreshold]
  simp [NoCollisionBetween, NoCollision, outsideLists, sysdataOf, hlength]

/-- The proof of that run is accepted after another setup, and the extracted run has
the committed keys. -/
theorem accepted_certificate_three :
    ∃ (vals : List (FieldElement tweedleModulus))
      (wit : Witness (FieldElement tweedleModulus) threeArgs.maxPks.toUInt64.toNat)
      (bits : List Bool), privateInputs (assignmentOf vals) threeSteps = wit.encode bits ∧
      wit.keys.map SchnorrPk.x = threeKeys.keys.map SchnorrPk.x ∧
      certified (standInLib tweedleModulus) wit.keys threeMessage wit.sigs = 1 := by
  have : NeZero tweedleModulus := ⟨by decide⟩
  obtain ⟨vals, bits, hsat, hpriv⟩ := threeKeys_run
  have hwrites := idealSnark_writeLaws (standInPrimitives tweedleModulus)
    (standInInputs tweedleModulus)
  have hreads := idealSnark_readsBack (standInPrimitives tweedleModulus)
    (standInInputs tweedleModulus)
  obtain ⟨fs₁, hsetup⟩ : ∃ fs₁, nativeSetup (idealSnark (standInPrimitives tweedleModulus)
      (standInInputs tweedleModulus)).setupLib threeArgs (fun _ => none)
        = (.returned true, fs₁) := ⟨_, nativeSetup_ideal 3 rfl rfl _⟩
  have hcalls : ∀ a ∈ [setupFor 4 "snark_pk" "other_vk"], a.Spares "snark_vk" := by
    intro a ha
    rw [List.mem_singleton.mp ha]
    exact setupFor_spares rfl rfl (by decide)
  have hread : (idealSnark (standInPrimitives tweedleModulus)
      (standInInputs tweedleModulus)).deserializeProof (2 :: encodeValues vals) true true
        = .ok (.coboundaryMarlin vals) := by
    show Except.ok (ZendooProof.coboundaryMarlin (decodeValues (encodeValues vals) 0)) = _
    rw [decodeValues_encodeValues]
  have haccepted : verifyNaiveThresholdSigProof ((idealSnark (standInPrimitives tweedleModulus)
      (standInInputs tweedleModulus)).verifierLib (setupRun (idealSnark
        (standInPrimitives tweedleModulus) (standInInputs tweedleModulus)).setupLib fs₁
        [setupFor 4 "snark_pk" "other_vk"])) threeInputs (2 :: encodeValues vals) true true
      "snark_vk" false true = pure true := by
    obtain ⟨pk, vk, hkeys⟩ := nativeSetup_setUp hwrites (snarkPk_readable 3) (snarkVk_readable 3)
      (by decide) hsetup
    obtain ⟨ck, index, -, hindex, hcircuit⟩ := hkeys.committerKey
    cases pure_injective hindex
    cases pure_injective hcircuit
    have hvkFile := (setupRun_spares hwrites hcalls fs₁).trans hkeys.verifier
    have htag : (idealSnark (standInPrimitives tweedleModulus)
        (standInInputs tweedleModulus)).tag 2 = some .coboundaryMarlin := rfl
    refine (verify_eq hreads hcircuit hvkFile htag true true false).trans ?_
    rw [hread, fromResult_ok, pure_bind]
    exact congrArg fromResult
      ((idealSnark_verify _ _).mpr ⟨hsat, three_public hsat hpriv⟩)
  obtain ⟨proof, vk, hproof, -, wit, wbits, hwit, hx, hcount, -⟩ :=
    accepted_certificate two_pow_lt_tweedleModulus (standIn_agrees tweedleModulus)
      (standInLib_packsFees tweedleModulus) (standInInputs_hashes tweedleModulus) hwrites hreads
      (snarkPk_readable 3) (snarkVk_readable 3) (by decide) hsetup rfl
      (computePksThresholdHash_eq _ threeKeys.keys 1) three_message hcalls
      (fun proof _ => idealSnark_extracts _ _ _ proof) haccepted (by
        intro proof vk hproof _
        rw [hread] at hproof
        cases hproof
        exact three_noCollision hsat hpriv)
  rw [hread] at hproof
  cases hproof
  exact ⟨vals, wit, wbits, hwit, hx, hcount⟩

/-- Bounds of 4000 bytes are enough with zero knowledge, as the setup has found. -/
theorem check_agrees_with_setup_three :
    nativeCheckProofVkSize (idealSnark (standInPrimitives tweedleModulus)
      (standInInputs tweedleModulus)) true 1024 4000 4000 threeArgs.verificationKeyPath
      (setupRun (idealSnark (standInPrimitives tweedleModulus)
        (standInInputs tweedleModulus)).setupLib (nativeSetup (idealSnark
          (standInPrimitives tweedleModulus) (standInInputs tweedleModulus)).setupLib
          threeArgs fun _ => none).2 [setupFor 4 "snark_pk" "other_vk"]) = .returned true := by
  have : NeZero tweedleModulus := ⟨by decide⟩
  have hcalls : ∀ a ∈ [setupFor 4 "snark_pk" "other_vk"], a.Spares "snark_vk" := by
    intro a ha
    rw [List.mem_singleton.mp ha]
    exact setupFor_spares rfl rfl (by decide)
  have hck : (idealSnark (standInPrimitives tweedleModulus)
      (standInInputs tweedleModulus)).getG1CommitterKey = .ok (some ()) := rfl
  have hsegment : jintAsUsize 1024 = nextPowerOfTwo ((idealSnark
      (standInPrimitives tweedleModulus) (standInInputs tweedleModulus)).commKeyLen ()) := by
    show jintAsUsize 1024 = nextPowerOfTwo 1024
    decide
  obtain ⟨answer, hanswer, hiff⟩ := check_agrees_with_setup
    (idealSnark_writeLaws (standInPrimitives tweedleModulus) (standInInputs tweedleModulus))
    (idealSnark_readsBack _ _) (idealSnark_checksSizes _ _) (snarkPk_readable 3)
    (snarkVk_readable 3) (by decide) rfl
    (nativeSetup_ideal 3 rfl rfl fun _ => none) hcalls hck hsegment true 4000 4000
  have htrue : answer = true :=
    hiff.mpr ((setupKeys_iff hck rfl rfl rfl _).mpr ⟨by decide, by decide⟩)
  rw [htrue] at hanswer
  exact hanswer

end Certification

end ZendooSc
