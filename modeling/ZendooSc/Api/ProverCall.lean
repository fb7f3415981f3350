/-
ZendooSc.Api.ProverCall — what the prover is called with.

`proverCall` is `create_naive_threshold_sig_proof` up to the call of the prover:
an error it returns is returned without a call, a panic is one, and a value is
what `CoboundaryMarlin::prove` is called with (`createNaiveThresholdSigProof_eq`).

The subtraction `valid_signatures - threshold` is not guarded. With fewer valid
signatures than the threshold a checked build panics there, and a release build
wraps and calls the prover on an instance that no assignment satisfies.
`prover_call_sound_iff` is the exact condition under which neither happens.
-/
import ZendooSc.Api.CctpCallsTheorems
import ZendooSc.Circuit.ThresholdSlack

namespace ZendooSc

open Lib

section ProverCall

variable {p : ℕ} {Bt Pk Ck Proof : Type} (L : CertLib p Bt) (R : ProverLib p Pk Ck Proof)

/-- The two keys the prover is called with. -/
def readKeys (provingKeyPath : String) (enforceMembership compressedPk : Bool) :
    Call (Pk × Ck) := do
  let pk ← fromResult (R.readProverKey provingKeyPath enforceMembership compressedPk)
  let g1Ck ← fromResult R.getG1CommitterKey
  match pk, g1Ck with
  | .darlin, _ => panicWith .unimplemented
  | .coboundaryMarlin _, none => panicWith .unwrapNone
  | .coboundaryMarlin pk, some ck => pure (pk, ck)

/-- `create_naive_threshold_sig_proof` up to the call of the prover. -/
def proverCall (checked : Bool) (cert : Certificate p Bt) (provingKeyPath : String)
    (enforceMembership compressedPk : Bool) :
    Call (Pk × Ck × NaiveTresholdSignature (FieldElement p) × UInt64) := do
  let (c, validSignatures) ← buildInstance L checked cert
  let (pk, ck) ← readKeys R provingKeyPath enforceMembership compressedPk
  pure (pk, ck, c, validSignatures)

/-- The function is that part, the call, and the serialization of the proof. -/
theorem createNaiveThresholdSigProof_eq (checked : Bool) (cert : Certificate p Bt)
    (provingKeyPath : String) (enforceMembership zk compressedPk compressProof : Bool) :
    createNaiveThresholdSigProof L R checked cert provingKeyPath enforceMembership zk compressedPk
        compressProof
      = proverCall L R checked cert provingKeyPath enforceMembership compressedPk >>=
          (fun (pk, ck, c, validSignatures) => do
            let proof ← fromResult (R.prove pk ck c zk)
            let bytes ← fromResult (R.serializeProof proof compressProof)
            pure (bytes, validSignatures)) := by
  simp only [createNaiveThresholdSigProof, proveInstance, proverCall, readKeys, bind_assoc]
  congr 1
  funext built
  rcases built with ⟨c, validSignatures⟩
  congr 1
  funext pk
  congr 1
  funext g1Ck
  rcases pk with _ | pk
  · rfl
  · rcases g1Ck with _ | ck
    · rfl
    · simp

/-! ## What the call has to be -/

variable (P : Primitives (FieldElement p)) (checked : Bool) (cert : Certificate p Bt)

/-- `compute_msg_to_sign` on the data of a certificate. -/
def Certificate.msgToSign : Call (FieldElement p × FieldElement p) :=
  computeMsgToSign L cert.scId cert.epochNumber cert.endCumulativeScTxCommTreeRoot cert.btrFee
    cert.ftMinAmount cert.btList

/-- No signature check returns an error. -/
def Certificate.Checks (msg : FieldElement p) : Prop :=
  ∀ x ∈ cert.positions, ∀ sig, x.2 = some sig → ∃ b, L.verify x.1 msg sig = .ok b

/-- If it is reached, `valid_signatures - threshold` returns that integer. -/
def SubtractionExact : Prop :=
  ∀ mrBt msg sigs validSignatures, cert.msgToSign L = pure (mrBt, msg) →
    checkSignatures L msg (cert.pks.zip cert.sigs) 0 = pure (sigs, validSignatures) →
    ∃ difference, subU64 checked validSignatures cert.threshold = pure difference ∧
      (difference.toNat : ℤ) = (validSignatures.toNat : ℤ) - (cert.threshold.toNat : ℤ)

/-- An error without a call and without a panic, or a call with the bits of the
integer `valid_signatures - threshold` whose assignment meets the threshold
constraint. -/
def CallSound (provingKeyPath : String) (enforceMembership compressedPk : Bool) : Prop :=
  (∃ e, proverCall L R checked cert provingKeyPath enforceMembership compressedPk
      = fromResult (.error e)) ∨
  ∃ pk ck c validSignatures,
    proverCall L R checked cert provingKeyPath enforceMembership compressedPk
      = pure (pk, ck, c, validSignatures) ∧
    (∃ bits : List Bool, c.b = bits.map some ∧
      (natBE bits : ℤ) = (validSignatures.toNat : ℤ) - (cert.threshold.toNat : ℤ)) ∧
    MeetsThreshold P c

/-! ## Walking up to the call -/

/-- The message is computed, or an error is returned. -/
theorem Certificate.msgToSign_cases (hfees : PacksFees L) :
    (∃ mrBt msg, cert.msgToSign L = pure (mrBt, msg)) ∨
      ∃ e, cert.msgToSign L = fromResult (.error e) := by
  rcases hmr : L.getBtMerkleRoot (btListOpt cert.btList) with e | mrBt
  · refine Or.inr ⟨e, ?_⟩
    simp [msgToSign, computeMsgToSign, hmr]
  · exact Or.inl ⟨mrBt, _, computeMsgToSign_eq L hfees hmr⟩

/-- All signatures are checked, or the first error is returned. -/
theorem checkSignatures_cases (msg : FieldElement p)
    (l : List (SchnorrPk (FieldElement p) × Option (SchnorrSig (FieldElement p)))) :
    (∀ x ∈ l, ∀ sig, x.2 = some sig → ∃ b, L.verify x.1 msg sig = .ok b) ∨
      ∃ e, ∀ start, checkSignatures L msg l start = fromResult (.error e) := by
  induction l with
  | nil => exact Or.inl (by simp)
  | cons x l ih =>
    obtain ⟨pk, o⟩ := x
    cases o with
    | none =>
      rcases ih with hall | ⟨e, herr⟩
      · exact Or.inl (by simpa using hall)
      · exact Or.inr ⟨e, fun start => by simp [checkSignatures, herr]⟩
    | some sig =>
      rcases hverify : L.verify pk msg sig with e | b
      · exact Or.inr ⟨e, fun start => by simp [checkSignatures, hverify]⟩
      · rcases ih with hall | ⟨e, herr⟩
        · refine Or.inl ?_
          intro y hy sig' hsig'
          rcases List.mem_cons.mp hy with rfl | hmem
          · cases hsig'
            exact ⟨b, hverify⟩
          · exact hall y hmem sig' hsig'
        · exact Or.inr ⟨e, fun start => by simp [checkSignatures, hverify, herr]⟩

variable {P checked cert} {mrBt msg : FieldElement p}

theorem proverCall_of_msg_error (hlen : cert.sigs.length = cert.pks.length) {e : Error}
    (h : cert.msgToSign L = fromResult (.error e)) (path : String) (em cpk : Bool) :
    proverCall L R checked cert path em cpk = fromResult (.error e) := by
  rw [Certificate.msgToSign] at h
  simp [proverCall, buildInstance, hlen, h]

theorem proverCall_of_check_error (hlen : cert.sigs.length = cert.pks.length)
    (hmsg : cert.msgToSign L = pure (mrBt, msg)) {e : Error}
    (h : checkSignatures L msg (cert.pks.zip cert.sigs) 0 = fromResult (.error e))
    (path : String) (em cpk : Bool) :
    proverCall L R checked cert path em cpk = fromResult (.error e) := by
  rw [Certificate.msgToSign] at hmsg
  simp [proverCall, buildInstance, hlen, hmsg, h]

/-- Both keys are read and fit, or there is an error or a panic. -/
theorem readKeys_cases (path : String) (em cpk : Bool) :
    (∃ e, readKeys R path em cpk = fromResult (.error e) ∧
        ∀ key g1Ck, R.readProverKey path em cpk = .ok key → R.getG1CommitterKey ≠ .ok g1Ck) ∨
      ∃ key g1Ck, R.readProverKey path em cpk = .ok key ∧ R.getG1CommitterKey = .ok g1Ck ∧
        ((∃ e, readKeys R path em cpk = panicWith e ∧
            ∀ pk ck, key = .coboundaryMarlin pk → g1Ck ≠ some ck) ∨
          ∃ pk ck, readKeys R path em cpk = pure (pk, ck) ∧
            key = .coboundaryMarlin pk ∧ g1Ck = some ck) := by
  rcases hkey : R.readProverKey path em cpk with e | key
  · exact Or.inl ⟨e, by simp [readKeys, hkey], by simp⟩
  · rcases hck : R.getG1CommitterKey with e | g1Ck
    · exact Or.inl ⟨e, by simp [readKeys, hkey, hck], by simp⟩
    · refine Or.inr ⟨key, g1Ck, rfl, rfl, ?_⟩
      rcases key with _ | pk
      · exact Or.inl ⟨.unimplemented, by simp [readKeys, hkey, hck], by simp⟩
      · rcases g1Ck with _ | ck
        · exact Or.inl ⟨.unwrapNone, by simp [readKeys, hkey, hck], by simp⟩
        · exact Or.inr ⟨pk, ck, by simp [readKeys, hkey, hck], rfl, rfl⟩

/-- With an instance built, the call is sound if the keys cannot be read, or if
they can and the instance is the one to prove. -/
theorem callSound_of_build {c : NaiveTresholdSignature (FieldElement p)} {v : UInt64}
    (h : buildInstance L checked cert = pure (c, v)) (path : String) (em cpk : Bool) :
    CallSound L R P checked cert path em cpk ↔
      ∀ key g1Ck, R.readProverKey path em cpk = .ok key → R.getG1CommitterKey = .ok g1Ck →
        (∃ pk ck, key = .coboundaryMarlin pk ∧ g1Ck = some ck) ∧
        (∃ bits : List Bool, c.b = bits.map some ∧
          (natBE bits : ℤ) = (v.toNat : ℤ) - (cert.threshold.toNat : ℤ)) ∧
        MeetsThreshold P c := by
  have hcall : proverCall L R checked cert path em cpk
      = readKeys R path em cpk >>= fun k => pure (k.1, k.2, c, v) := by
    rw [proverCall, h, pure_bind]
  unfold CallSound
  rw [hcall]
  rcases readKeys_cases R path em cpk with ⟨e, hread, hnone⟩ | ⟨key, g1Ck, hkey, hck, hrest⟩
  · constructor
    · intro _ key g1Ck hkey hck
      exact absurd hck (hnone key g1Ck hkey)
    · intro _
      exact Or.inl ⟨e, by rw [hread, fromResult_error_bind]⟩
  · rcases hrest with ⟨e, hread, hno⟩ | ⟨pk, ck, hread, rfl, rfl⟩
    · rw [hread, panicWith_bind]
      constructor
      · rintro (⟨e', he⟩ | ⟨pk, ck, c', v', hcall', _⟩)
        · exact absurd he ((panicWith_ne e).1 e')
        · exact absurd hcall' ((panicWith_ne e).2 _)
      · intro hall
        obtain ⟨⟨pk, ck, hpk, hck'⟩, _⟩ := hall key g1Ck hkey hck
        exact absurd hck' (hno pk ck hpk)
    · rw [hread, pure_bind]
      constructor
      · rintro (⟨e, he⟩ | ⟨pk', ck', c', v', hcall', hbits, hmeets⟩)
        · exact absurd he.symm (fromResult_error_ne_pure e _)
        · cases pure_injective hcall'
          intro key' g1Ck' hkey' hck'
          rw [hkey] at hkey'
          rw [hck] at hck'
          cases hkey'
          cases hck'
          exact ⟨⟨pk, ck, rfl, rfl⟩, hbits, hmeets⟩
      · intro hall
        obtain ⟨_, hbits, hmeets⟩ := hall _ _ hkey hck
        exact Or.inr ⟨pk, ck, c, v, rfl, hbits, hmeets⟩

/-! ## The count and the constraint -/

/-- The circuit counts the valid signatures, and the constraint of their surplus
holds, exactly when no missing signature is replaced by a valid one. -/
theorem meetsThreshold_surplus_iff (hp : 2 ^ 254 < p) (hagree : Agrees P L) (hfees : PacksFees L)
    (hlen : cert.sigs.length = cert.pks.length) (hsize : cert.pks.length < 2 ^ 64)
    (hmsg : cert.msgToSign L = pure (mrBt, msg))
    (hchecks : cert.Checks L msg) (hthr : cert.threshold.toNat ≤ cert.valid L msg) :
    MeetsThreshold P ((cert.witness L hlen hsize mrBt).toInstance
        (bitsBE (logMaxPks (UInt64.ofNat cert.pks.length) + 1)
          (cert.valid L msg - cert.threshold.toNat)) (UInt64.ofNat cert.pks.length)) ↔
      ∀ x ∈ cert.positions, x.2 = none → L.verify x.1 msg L.nullSig ≠ .ok true := by
  have hmessage := cert.witness_message L hagree hfees hlen hsize hmsg
  have hcount := cert.witness_valid_add L hagree hlen hsize hmessage hchecks
  have hfit := cert.surplus_lt L hsize msg
  rw [threshold_check_iff P _ (length_bitsBE _ _), natBE_bitsBE_of_lt hfit, hcount]
  have hnulls : cert.positions.countP (nullAccepted L msg) = 0 ↔
      ∀ x ∈ cert.positions, x.2 = none → L.verify x.1 msg L.nullSig ≠ .ok true := by
    simp only [List.countP_eq_zero, nullAccepted_iff, not_and, ne_eq]
  rw [← hnulls]
  show ((cert.valid L msg + cert.positions.countP (nullAccepted L msg) : ℕ) : FieldElement p)
      - ((cert.threshold.toNat : ℕ) : FieldElement p) = _ ↔ _
  constructor
  · intro hdiff
    have hle := (cert.witness L hlen hsize mrBt).validSignatures_le P
    rw [hcount, UInt64.toNat_ofNat_of_lt' hsize] at hle
    rw [← Nat.cast_sub (by omega)] at hdiff
    have hnat := natCast_injOn hp (by omega) (by omega) hdiff
    omega
  · intro hzero
    rw [hzero, Nat.add_zero, Nat.cast_sub hthr]

/-! ## The exact condition -/

theorem sound_of_msg_error (hlen : cert.sigs.length = cert.pks.length) {e : Error}
    (hmsg : cert.msgToSign L = fromResult (.error e)) (path : String) (em cpk : Bool) :
    SubtractionExact L checked cert ∧ CallSound L R P checked cert path em cpk := by
  refine ⟨?_, Or.inl ⟨e, proverCall_of_msg_error L R hlen hmsg _ _ _⟩⟩
  intro mrBt msg sigs v hpure _
  rw [hmsg] at hpure
  exact absurd hpure (fromResult_error_ne_pure e _)

theorem sound_of_check_error (hlen : cert.sigs.length = cert.pks.length)
    (hmsg : cert.msgToSign L = pure (mrBt, msg)) {e : Error}
    (hcheck : checkSignatures L msg (cert.pks.zip cert.sigs) 0 = fromResult (.error e))
    (path : String) (em cpk : Bool) :
    SubtractionExact L checked cert ∧ CallSound L R P checked cert path em cpk := by
  refine ⟨?_, Or.inl ⟨e, proverCall_of_check_error L R hlen hmsg hcheck _ _ _⟩⟩
  intro mrBt' msg' sigs v hmsg' hpure
  rw [hmsg] at hmsg'
  cases pure_injective hmsg'
  rw [hcheck] at hpure
  exact absurd hpure (fromResult_error_ne_pure e _)

/-- Without an error in a check, the subtraction is exact if and only if there are
enough valid signatures. -/
theorem subtractionExact_iff (hsize : cert.pks.length < 2 ^ 64)
    (hmsg : cert.msgToSign L = pure (mrBt, msg)) (hchecks : cert.Checks L msg) :
    SubtractionExact L checked cert ↔ cert.threshold.toNat ≤ cert.valid L msg := by
  have htoNat := cert.toNat_valid L hsize msg
  constructor
  · intro hexact
    obtain ⟨difference, _, hdiff⟩ := hexact mrBt msg _ _ hmsg (cert.checkSignatures_eq L hchecks)
    rw [htoNat] at hdiff
    omega
  · intro hthr mrBt' msg' sigs v hmsg' hpure
    rw [hmsg] at hmsg'
    cases pure_injective hmsg'
    rw [(cert.checkSignatures_eq L hchecks)] at hpure
    cases pure_injective hpure
    obtain ⟨difference, hsub, hdiff⟩ := subU64_valid L cert checked hsize hthr
    refine ⟨difference, hsub, ?_⟩
    rw [hdiff, htoNat, Nat.cast_sub hthr]

/-- With enough valid signatures, the call is sound if and only if the keys fit
and no null signature is valid, once the keys are read. -/
theorem callSound_iff (hp : 2 ^ 254 < p) (hagree : Agrees P L) (hfees : PacksFees L)
    (hlen : cert.sigs.length = cert.pks.length) (hsize : cert.pks.length < 2 ^ 64)
    (hmsg : cert.msgToSign L = pure (mrBt, msg)) (hchecks : cert.Checks L msg)
    (hthr : cert.threshold.toNat ≤ cert.valid L msg) (path : String) (em cpk : Bool) :
    CallSound L R P checked cert path em cpk ↔
      ∀ key g1Ck, R.readProverKey path em cpk = .ok key → R.getG1CommitterKey = .ok g1Ck →
        (∃ pk ck, key = .coboundaryMarlin pk ∧ g1Ck = some ck) ∧
        ∀ x ∈ cert.positions, x.2 = none → L.verify x.1 msg L.nullSig ≠ .ok true := by
  have hbuild := buildInstance_eq L cert hp checked hlen hsize hmsg hchecks hthr
  have hmeets := meetsThreshold_surplus_iff L hp hagree hfees hlen hsize hmsg hchecks hthr
  have hsurplus : (natBE (bitsBE (logMaxPks (UInt64.ofNat cert.pks.length) + 1)
        (cert.valid L msg - cert.threshold.toNat)) : ℤ)
      = ((UInt64.ofNat (cert.valid L msg)).toNat : ℤ) - (cert.threshold.toNat : ℤ) := by
    rw [natBE_bitsBE_of_lt (cert.surplus_lt L hsize msg), cert.toNat_valid L hsize msg,
      Nat.cast_sub hthr]
  rw [callSound_of_build L R hbuild]
  constructor
  · intro hsound key g1Ck hkey hck
    obtain ⟨hkeys, _, hsat⟩ := hsound key g1Ck hkey hck
    exact ⟨hkeys, hmeets.mp hsat⟩
  · intro hcond key g1Ck hkey hck
    obtain ⟨hkeys, hnull⟩ := hcond key g1Ck hkey hck
    exact ⟨hkeys, ⟨_, rfl, hsurplus⟩, hmeets.mpr hnull⟩

/-- For every build: the call is sound and the subtraction exact if and only if,
once the message and all signature checks succeed, the threshold is not above
the number of valid signatures, and, once both keys are read, the key is of
Coboundary Marlin, the committer key is loaded, and no missing signature's null
replacement verifies. -/
theorem prover_call_sound_iff (hp : 2 ^ 254 < p) (hagree : Agrees P L) (hfees : PacksFees L)
    (checked : Bool) (cert : Certificate p Bt) (hlen : cert.sigs.length = cert.pks.length)
    (hsize : cert.pks.length < 2 ^ 64) (provingKeyPath : String)
    (enforceMembership compressedPk : Bool) :
    (SubtractionExact L checked cert ∧
        CallSound L R P checked cert provingKeyPath enforceMembership compressedPk) ↔
      ∀ mrBt msg, cert.msgToSign L = pure (mrBt, msg) → cert.Checks L msg →
        cert.threshold.toNat ≤ cert.valid L msg ∧
        ∀ key g1Ck, R.readProverKey provingKeyPath enforceMembership compressedPk = .ok key →
          R.getG1CommitterKey = .ok g1Ck →
          (∃ pk ck, key = .coboundaryMarlin pk ∧ g1Ck = some ck) ∧
          ∀ x ∈ cert.positions, x.2 = none → L.verify x.1 msg L.nullSig ≠ .ok true := by
  rcases cert.msgToSign_cases L hfees with ⟨mrBt, msg, hmsg⟩ | ⟨e, hmsg⟩
  case inr =>
    refine ⟨fun _ mrBt msg hpure => ?_, fun _ => sound_of_msg_error L R hlen hmsg _ _ _⟩
    rw [hmsg] at hpure
    exact absurd hpure (fromResult_error_ne_pure e _)
  constructor
  · intro hsound mrBt' msg' hmsg' hchecks
    have hthr := (subtractionExact_iff L hsize hmsg' hchecks).mp hsound.1
    exact ⟨hthr,
      (callSound_iff L R hp hagree hfees hlen hsize hmsg' hchecks hthr _ _ _).mp hsound.2⟩
  · intro hcond
    rcases checkSignatures_cases L msg cert.positions with hchecks | ⟨e, hcheck⟩
    · obtain ⟨hthr, hkeys⟩ := hcond mrBt msg hmsg hchecks
      exact ⟨(subtractionExact_iff L hsize hmsg hchecks).mpr hthr,
        (callSound_iff L R hp hagree hfees hlen hsize hmsg hchecks hthr _ _ _).mpr hkeys⟩
    · exact sound_of_check_error L R hlen hmsg (hcheck 0) _ _ _

/-! ## Too few valid signatures -/

/-- A checked build panics. -/
theorem buildInstance_checked (hlen : cert.sigs.length = cert.pks.length)
    (hsize : cert.pks.length < 2 ^ 64) (hmsg : cert.msgToSign L = pure (mrBt, msg))
    (hchecks : cert.Checks L msg) (hthr : cert.valid L msg < cert.threshold.toNat) :
    buildInstance L true cert = panicWith .subtractOverflow := by
  have hlt : UInt64.ofNat (cert.valid L msg) < cert.threshold := by
    rw [UInt64.lt_iff_toNat_lt, cert.toNat_valid L hsize msg]
    exact hthr
  rw [Certificate.msgToSign] at hmsg
  simp [buildInstance, hlen, hmsg, (cert.checkSignatures_eq L hchecks), subU64, hlt]

/-- A release build wraps, and no assignment meets the threshold constraint of
the instance it makes. -/
theorem buildInstance_release (hp : 2 ^ 254 < p) (hagree : Agrees P L) (hfees : PacksFees L)
    (hlen : cert.sigs.length = cert.pks.length) (hsize : cert.pks.length < 2 ^ 64)
    (hmsg : cert.msgToSign L = pure (mrBt, msg)) (hchecks : cert.Checks L msg)
    (hnull : ∀ x ∈ cert.positions, x.2 = none → L.verify x.1 msg L.nullSig ≠ .ok true)
    (hthr : cert.valid L msg < cert.threshold.toNat) :
    ∃ c, buildInstance L false cert = pure (c, UInt64.ofNat (cert.valid L msg)) ∧
      ¬ MeetsThreshold P c := by
  have hsub : subU64 false (UInt64.ofNat (cert.valid L msg)) cert.threshold
      = pure (UInt64.ofNat (cert.valid L msg) - cert.threshold) := by
    simp [subU64]
  refine ⟨_, buildInstance_of_sub L cert hp hlen hsize hmsg hchecks hsub, ?_⟩
  intro hmeets
  have hmessage := cert.witness_message L hagree hfees hlen hsize hmsg
  have hvalid := cert.witness_valid L hagree hlen hsize hmessage hchecks hnull
  have hle := le_of_threshold_check P hp (length_bitsBE _ _) cert.threshold.toNat_lt rfl hmeets
  omega

/-- Keys that are always there. -/
def standInProver (p : ℕ) : ProverLib p Unit Unit Unit where
  readProverKey _ _ _ := .ok (.coboundaryMarlin ())
  getG1CommitterKey := .ok (some ())
  prove _ _ _ _ := .ok ()
  serializeProof _ _ := .ok []

/-- Two keys, one good signature and one missing. -/
def standInWithThreshold (p : ℕ) (threshold : UInt64) : Certificate p Unit :=
  { standInCertificate p with threshold := threshold }

def standInMessage (p : ℕ) : FieldElement p :=
  (standInLib p).hash [(10 : ℕ), fieldOfNat 11, (12 : ℕ), (13 : ℕ), (14 * 2 ^ 64 + 15 : ℕ)]

theorem standIn_msgToSign (p : ℕ) (threshold : UInt64) :
    (standInWithThreshold p threshold).msgToSign (standInLib p)
      = pure (((12 : ℕ) : FieldElement p), standInMessage p) :=
  computeMsgToSign_eq _ (standInLib_packsFees p) rfl

theorem standIn_checks (p : ℕ) (threshold : UInt64) (msg : FieldElement p) :
    (standInWithThreshold p threshold).Checks (standInLib p) msg :=
  fun _ _ _ _ => ⟨_, rfl⟩

theorem standIn_valid (threshold : UInt64) :
    (standInWithThreshold tweedleModulus threshold).valid (standInLib tweedleModulus)
      (standInMessage tweedleModulus) = 1 := by
  show (standInCertificate tweedleModulus).valid (standInLib tweedleModulus)
    (standInMessage tweedleModulus) = 1
  decide

theorem standIn_null (threshold : UInt64) :
    ∀ x ∈ (standInWithThreshold tweedleModulus threshold).positions, x.2 = none →
      (standInLib tweedleModulus).verify x.1 (standInMessage tweedleModulus)
        (standInLib tweedleModulus).nullSig ≠ .ok true := by
  show ∀ x ∈ (standInCertificate tweedleModulus).positions, x.2 = none →
    (standInLib tweedleModulus).verify x.1 (standInMessage tweedleModulus)
      (standInLib tweedleModulus).nullSig ≠ .ok true
  decide

/-- One valid signature out of two and threshold 1. -/
theorem prover_call_sound_one :
    SubtractionExact (standInLib tweedleModulus) true (standInWithThreshold tweedleModulus 1) ∧
      CallSound (standInLib tweedleModulus) (standInProver tweedleModulus)
        (standInPrimitives tweedleModulus) true (standInWithThreshold tweedleModulus 1) "pk" true
        true := by
  refine (prover_call_sound_iff _ _ two_pow_lt_tweedleModulus (standIn_agrees tweedleModulus)
    (standInLib_packsFees tweedleModulus) true _ rfl (by decide) "pk" true true).mpr ?_
  intro mrBt msg hmsg _
  rw [standIn_msgToSign] at hmsg
  cases pure_injective hmsg
  refine ⟨by rw [standIn_valid]; decide, fun key g1Ck hkey hck => ?_⟩
  cases hkey
  cases hck
  exact ⟨⟨(), (), rfl, rfl⟩, standIn_null 1⟩

/-- The same certificate with threshold 2. A checked build panics; a release
build calls the prover on an instance whose assignment breaks the threshold
constraint. -/
theorem prover_call_unsound_two :
    proverCall (standInLib tweedleModulus) (standInProver tweedleModulus) true
        (standInWithThreshold tweedleModulus 2) "pk" true true = panicWith .subtractOverflow ∧
      (∃ c, proverCall (standInLib tweedleModulus) (standInProver tweedleModulus) false
          (standInWithThreshold tweedleModulus 2) "pk" true true = pure ((), (), c, 1) ∧
        ¬ MeetsThreshold (standInPrimitives tweedleModulus) c) ∧
      ∀ checked, ¬ CallSound (standInLib tweedleModulus) (standInProver tweedleModulus)
        (standInPrimitives tweedleModulus) checked (standInWithThreshold tweedleModulus 2) "pk"
        true true := by
  have hmsg := standIn_msgToSign tweedleModulus 2
  have hchecks := standIn_checks tweedleModulus 2 (standInMessage tweedleModulus)
  have hvalid := standIn_valid 2
  have hthr : (standInWithThreshold tweedleModulus 2).valid (standInLib tweedleModulus)
      (standInMessage tweedleModulus)
        < (standInWithThreshold tweedleModulus 2).threshold.toNat := by
    rw [hvalid]
    decide
  have hpanic := buildInstance_checked (standInLib tweedleModulus) rfl (by decide) hmsg hchecks hthr
  obtain ⟨c, hbuild, hbroken⟩ := buildInstance_release (P := standInPrimitives tweedleModulus)
    (standInLib tweedleModulus) two_pow_lt_tweedleModulus (standIn_agrees tweedleModulus)
    (standInLib_packsFees tweedleModulus) rfl (by decide) hmsg hchecks (standIn_null 2) hthr
  rw [hvalid] at hbuild
  have hchecked : proverCall (standInLib tweedleModulus) (standInProver tweedleModulus) true
      (standInWithThreshold tweedleModulus 2) "pk" true true = panicWith .subtractOverflow := by
    rw [proverCall, hpanic, panicWith_bind]
  have hrelease : proverCall (standInLib tweedleModulus) (standInProver tweedleModulus) false
      (standInWithThreshold tweedleModulus 2) "pk" true true = pure ((), (), c, 1) := by
    rw [proverCall, hbuild]
    rfl
  refine ⟨hchecked, ⟨c, hrelease, hbroken⟩, fun checked hsound => ?_⟩
  cases checked
  · rw [callSound_of_build _ _ hbuild] at hsound
    exact hbroken (hsound _ _ rfl rfl).2.2
  · rcases hsound with ⟨e, he⟩ | ⟨pk, ck, c', v, hcall, _⟩
    · exact (panicWith_ne _).1 e (hchecked.symm.trans he)
    · exact (panicWith_ne _).2 _ (hchecked.symm.trans hcall)

end ProverCall

end ZendooSc
