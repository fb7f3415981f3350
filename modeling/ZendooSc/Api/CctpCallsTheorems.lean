/-
ZendooSc.Api.CctpCallsTheorems — the certificate functions and the circuit
compute the same things.

The first part gives each function its value: the constant, the message, the
checked and completed signatures, the instance. Under the hypotheses that
name what cctp-lib does (`PacksFees`, `HashesCertificate`) and that the
gadgets compute its primitives (`Agrees`), three results follow.

`create_proof_agrees`: the instance handed to the prover satisfies every
constraint, and its message, its count and its two public inputs are the ones
computed outside the circuit, by prover and verifier alike.

`cert_data_hash_fixes_certificate`: two satisfying assignments with the same
second public input are about the same certificate and the same message.

`committed_keys_iff`: the constant fixes the x coordinates of the keys and
nothing more. An assignment whose witness keys have the committed x
coordinates proves something about the committed keys exactly when the y
coordinates agree as well, or the threshold is 0 or out of reach.
-/
import ZendooSc.Api.CctpCalls
import ZendooSc.Circuit.Transcript

namespace ZendooSc

open Lib

/-! ## Hypotheses -/

section Hypotheses

variable {p : ℕ} {Bt : Type} (L : CertLib p Bt)

/-- `ByteAccumulator` packs two words big-endian into one element. -/
def PacksFees : Prop :=
  ∀ a b : UInt64,
    L.byteAccumulator [a, b] = .ok [((a.toNat * 2 ^ 64 + b.toNat : ℕ) : FieldElement p)]

/-- The public inputs `CertificateProofUserInputs` stands for, without custom
fields: the constant, and the hash of the hash of the certificate data. -/
def HashesCertificate
    (circuitInputs : CertificateProofUserInputs p Bt → Except Error (List (FieldElement p))) :
    Prop :=
  ∀ (ins : CertificateProofUserInputs p Bt) (constant mrBt fees : FieldElement p),
    ins.constant = some constant → ins.customFields = none →
    L.getBtMerkleRoot ins.btList = .ok mrBt →
    L.byteAccumulator [ins.btrFee, ins.ftMinAmount] = .ok [fees] →
    circuitInputs ins = .ok [constant, L.hash [L.hash
      [ins.scId, fieldOfNat ins.epochNumber.toNat, mrBt, fieldOfNat ins.quality.toNat,
       ins.endCumulativeScTxCommitmentTreeRoot, fees]]]

/-- The gadgets compute the library's primitives. -/
structure Agrees (P : Primitives (FieldElement p)) (L : CertLib p Bt) : Prop where
  hash : P.hash = L.hash
  verdict : ∀ pk msg sig, P.verdict pk msg sig = true ↔ L.verify pk msg sig = .ok true

end Hypotheses

/-! ## The value of each function -/

section Values

variable {p : ℕ} {Bt : Type} (L : CertLib p Bt)

theorem foldl_update (pks : List (SchnorrPk (FieldElement p))) :
    ∀ h : FieldHash (FieldElement p), pks.foldl (fun h pk => h.update pk.x) h
      = ⟨h.size, h.inputs ++ pks.map SchnorrPk.x⟩ := by
  induction pks with
  | nil => intro h; simp
  | cons pk pks ih =>
      intro h
      rw [List.foldl_cons, ih, FieldHash.update]
      simp

theorem computePksThresholdHash_eq (pks : List (SchnorrPk (FieldElement p)))
    (threshold : UInt64) :
    computePksThresholdHash L pks threshold
      = pure (L.hash [L.hash (pks.map SchnorrPk.x), fieldOfNat threshold.toNat]) := by
  unfold computePksThresholdHash
  simp only [foldl_update]
  simp [FieldHash.finalize, FieldHash.initConstantLength, FieldHash.update]

theorem feesFieldElement_eq (hfees : PacksFees L) (btrFee ftMinAmount : UInt64) :
    feesFieldElement L btrFee ftMinAmount
      = pure ((btrFee.toNat * 2 ^ 64 + ftMinAmount.toNat : ℕ) : FieldElement p) := by
  simp [feesFieldElement, hfees btrFee ftMinAmount]

/-- The message is the hash of the certificate data. -/
theorem computeMsgToSign_eq (hfees : PacksFees L) {scId root mrBt : FieldElement p}
    {epochNumber : UInt32} {btrFee ftMinAmount : UInt64} {btList : List Bt}
    (hmr : L.getBtMerkleRoot (btListOpt btList) = .ok mrBt) :
    computeMsgToSign L scId epochNumber root btrFee ftMinAmount btList
      = pure (mrBt, L.hash [scId, fieldOfNat epochNumber.toNat, mrBt, root,
          ((btrFee.toNat * 2 ^ 64 + ftMinAmount.toNat : ℕ) : FieldElement p)]) := by
  simp [computeMsgToSign, hmr, feesFieldElement_eq L hfees, FieldHash.finalize,
    FieldHash.initConstantLength, FieldHash.update]

/-- A message was computed from a Merkle root. -/
theorem computeMsgToSign_root {scId root mrBt msg : FieldElement p}
    {epochNumber : UInt32} {btrFee ftMinAmount : UInt64} {btList : List Bt}
    (h : computeMsgToSign L scId epochNumber root btrFee ftMinAmount btList = pure (mrBt, msg)) :
    L.getBtMerkleRoot (btListOpt btList) = .ok mrBt := by
  obtain ⟨mr, hmr, h⟩ := bind_eq_pure h
  obtain ⟨fe, _, h⟩ := bind_eq_pure h
  obtain ⟨m, _, h⟩ := bind_eq_pure h
  cases pure_injective h
  exact fromResult_eq_pure hmr

/-- A present signature that verifies. -/
def presentAndValid (msg : FieldElement p)
    (x : SchnorrPk (FieldElement p) × Option (SchnorrSig (FieldElement p))) : Bool :=
  match x.2 with
  | some sig => match L.verify x.1 msg sig with
    | .ok b => b
    | .error _ => false
  | none => false

/-- Without an error, checking fills in the null signatures and counts the
present ones that verify. -/
theorem checkSignatures_eq {msg : FieldElement p} :
    ∀ (l : List (SchnorrPk (FieldElement p) × Option (SchnorrSig (FieldElement p))))
      (start : UInt64),
      (∀ x ∈ l, ∀ sig, x.2 = some sig → ∃ b, L.verify x.1 msg sig = .ok b) →
      checkSignatures L msg l start
        = pure (l.map (fun x => x.2.getD L.nullSig),
            start + UInt64.ofNat (l.countP (presentAndValid L msg)))
  | [], start, _ => by simp [checkSignatures]
  | (pk, none) :: l, start, h => by
      have ih := checkSignatures_eq l start (fun x hx => h x (List.mem_cons_of_mem _ hx))
      have hno : presentAndValid L msg (pk, none) = false := rfl
      simp [checkSignatures, ih, hno]
  | (pk, some sig) :: l, start, h => by
      obtain ⟨b, hb⟩ := h (pk, some sig) List.mem_cons_self sig rfl
      have ih := fun start' => checkSignatures_eq l start'
        (fun x hx => h x (List.mem_cons_of_mem _ hx))
      have hval : presentAndValid L msg (pk, some sig) = b := by
        simp only [presentAndValid]
        rw [show L.verify pk msg sig = .ok b from hb]
      have hb' : L.verify pk msg sig = .ok b := hb
      cases b with
      | false => simp [checkSignatures, hb', ih, hval]
      | true =>
          simp only [checkSignatures, hb', fromResult_ok, pure_bind, if_true, ih, List.map_cons,
            Option.getD_some, List.countP_cons, hval, UInt64.ofNat_add]
          rw [UInt64.add_assoc, UInt64.add_comm 1]
          rfl

/-! ## The instance handed to the prover -/

section Instance

variable (cert : Certificate p Bt)

/-- The positions of a certificate. -/
def Certificate.positions :
    List (SchnorrPk (FieldElement p) × Option (SchnorrSig (FieldElement p))) :=
  cert.pks.zip cert.sigs

/-- The number of present signatures that verify. -/
def Certificate.valid (msg : FieldElement p) : ℕ :=
  cert.positions.countP (presentAndValid L msg)

/-- The witness of a certificate, with null signatures for the missing ones. -/
def Certificate.witness (hlen : cert.sigs.length = cert.pks.length)
    (hsize : cert.pks.length < 2 ^ 64) (mrBt : FieldElement p) :
    Witness (FieldElement p) (UInt64.ofNat cert.pks.length).toNat where
  keys := cert.pks
  sigs := cert.positions.map fun x => x.2.getD L.nullSig
  threshold := fieldOfNat cert.threshold.toNat
  scId := cert.scId
  epochNumber := fieldOfNat cert.epochNumber.toNat
  mrBt := mrBt
  root := cert.endCumulativeScTxCommTreeRoot
  btrFee := cert.btrFee
  ftMinAmount := cert.ftMinAmount
  length_keys := (UInt64.toNat_ofNat_of_lt' hsize).symm
  length_sigs := by
    rw [UInt64.toNat_ofNat_of_lt' hsize]
    simp [Certificate.positions, hlen]

theorem Certificate.valid_le (msg : FieldElement p) : cert.valid L msg ≤ cert.pks.length := by
  have h : cert.valid L msg ≤ cert.positions.length := List.countP_le_length
  exact Nat.le_trans h (by simp [Certificate.positions])

/-- The checks of a certificate and their count, when none returns an error. -/
theorem Certificate.checkSignatures_eq {msg : FieldElement p}
    (herr : ∀ x ∈ cert.positions, ∀ sig, x.2 = some sig → ∃ b, L.verify x.1 msg sig = .ok b) :
    checkSignatures L msg (cert.pks.zip cert.sigs) 0
      = pure (cert.positions.map fun x => x.2.getD L.nullSig,
          UInt64.ofNat (cert.valid L msg)) := by
  have h := ZendooSc.checkSignatures_eq L cert.positions 0 herr
  rwa [UInt64.zero_add] at h

/-- Once the subtraction returns, there is an instance, made of the witness of
the certificate and the low bits of the difference. -/
theorem buildInstance_of_sub (hp : 2 ^ 254 < p) {checked : Bool}
    (hlen : cert.sigs.length = cert.pks.length) (hsize : cert.pks.length < 2 ^ 64)
    {mrBt msg : FieldElement p}
    (hmsg : computeMsgToSign L cert.scId cert.epochNumber cert.endCumulativeScTxCommTreeRoot
      cert.btrFee cert.ftMinAmount cert.btList = pure (mrBt, msg))
    (herr : ∀ x ∈ cert.positions, ∀ sig, x.2 = some sig → ∃ b, L.verify x.1 msg sig = .ok b)
    {difference : UInt64}
    (hsub : subU64 checked (UInt64.ofNat (cert.valid L msg)) cert.threshold = pure difference) :
    buildInstance L checked cert
      = pure ((cert.witness L hlen hsize mrBt).toInstance
          (bitsBE (logMaxPks (UInt64.ofNat cert.pks.length) + 1) difference.toNat)
          (UInt64.ofNat cert.pks.length), UInt64.ofNat (cert.valid L msg)) := by
  have hval : (fieldOfNat difference.toNat : FieldElement p).val = difference.toNat := by
    have hlt := difference.toNat_lt
    rw [fieldOfNat, ZMod.val_natCast, Nat.mod_eq_of_lt (by omega)]
  have hnew : NaiveTresholdSignature.new cert.pks
      ((cert.positions.map fun x => x.2.getD L.nullSig).map some)
      (fieldOfNat cert.threshold.toNat) (fieldOfNat difference.toNat) cert.scId
      (fieldOfNat cert.epochNumber.toNat) cert.endCumulativeScTxCommTreeRoot mrBt
      cert.ftMinAmount cert.btrFee (UInt64.ofNat cert.pks.length)
      = .ok ((cert.witness L hlen hsize mrBt).toInstance
          (bitsBE (logMaxPks (UInt64.ofNat cert.pks.length) + 1) difference.toNat)
          (UInt64.ofNat cert.pks.length)) := by
    have h := new_eq hp (cert.witness L hlen hsize mrBt) (fieldOfNat difference.toNat)
      (UInt64.ofNat cert.pks.length)
    rwa [hval] at h
  have hcheck := cert.checkSignatures_eq L herr
  unfold buildInstance
  rw [hlen, assertEqual_self]
  simp only [pure_bind, hmsg, hcheck, hsub, hnew]

/-- The number of valid signatures fits a word. -/
theorem Certificate.toNat_valid (hsize : cert.pks.length < 2 ^ 64) (msg : FieldElement p) :
    (UInt64.ofNat (cert.valid L msg)).toNat = cert.valid L msg :=
  UInt64.toNat_ofNat_of_lt' (Nat.lt_of_le_of_lt (cert.valid_le L msg) hsize)

/-- The surplus fits the bits the circuit has for it. -/
theorem Certificate.surplus_lt (hsize : cert.pks.length < 2 ^ 64) (msg : FieldElement p) :
    cert.valid L msg - cert.threshold.toNat
      < 2 ^ (logMaxPks (UInt64.ofNat cert.pks.length) + 1) := by
  rw [logMaxPks_eq, UInt64.toNat_ofNat_of_lt' hsize]
  exact sub_lt_two_pow (cert.valid_le L msg) _

/-- With enough valid signatures the subtraction is exact. -/
theorem subU64_valid (checked : Bool) (hsize : cert.pks.length < 2 ^ 64) {msg : FieldElement p}
    (hthr : cert.threshold.toNat ≤ cert.valid L msg) :
    ∃ difference : UInt64,
      subU64 checked (UInt64.ofNat (cert.valid L msg)) cert.threshold = pure difference ∧
      difference.toNat = cert.valid L msg - cert.threshold.toNat := by
  have htoNat := cert.toNat_valid L hsize msg
  have hge : cert.threshold ≤ UInt64.ofNat (cert.valid L msg) := by
    rw [UInt64.le_iff_toNat_le, htoNat]
    exact hthr
  have hnot : ¬ UInt64.ofNat (cert.valid L msg) < cert.threshold := UInt64.not_lt.mpr hge
  refine ⟨UInt64.ofNat (cert.valid L msg) - cert.threshold, by simp [subU64, hnot], ?_⟩
  rw [UInt64.toNat_sub_of_le _ _ hge, htoNat]

/-- With enough valid signatures there is an instance, made of the witness of
the certificate and the bits of the surplus. -/
theorem buildInstance_eq (hp : 2 ^ 254 < p) (checked : Bool)
    (hlen : cert.sigs.length = cert.pks.length) (hsize : cert.pks.length < 2 ^ 64)
    {mrBt msg : FieldElement p}
    (hmsg : computeMsgToSign L cert.scId cert.epochNumber cert.endCumulativeScTxCommTreeRoot
      cert.btrFee cert.ftMinAmount cert.btList = pure (mrBt, msg))
    (herr : ∀ x ∈ cert.positions, ∀ sig, x.2 = some sig → ∃ b, L.verify x.1 msg sig = .ok b)
    (hthr : cert.threshold.toNat ≤ cert.valid L msg) :
    buildInstance L checked cert
      = pure ((cert.witness L hlen hsize mrBt).toInstance
          (bitsBE (logMaxPks (UInt64.ofNat cert.pks.length) + 1)
            (cert.valid L msg - cert.threshold.toNat))
          (UInt64.ofNat cert.pks.length), UInt64.ofNat (cert.valid L msg)) := by
  obtain ⟨difference, hsub, hdiff⟩ := subU64_valid L cert checked hsize hthr
  rw [buildInstance_of_sub L cert hp hlen hsize hmsg herr hsub, hdiff]

theorem zip_map_zip {α β γ : Type} (f : α × β → γ) : ∀ (as : List α) (bs : List β),
    as.zip ((as.zip bs).map f) = (as.zip bs).map fun x => (x.1, f x)
  | [], _ => rfl
  | _ :: _, [] => rfl
  | a :: as, b :: bs => by
      rw [List.zip_cons_cons, List.map_cons, List.zip_cons_cons, zip_map_zip f as bs,
        List.map_cons]

variable {P : Primitives (FieldElement p)} {mrBt msg : FieldElement p}

/-- The circuit's message for a certificate is the one its certifiers signed. -/
theorem Certificate.witness_message (hagree : Agrees P L) (hfees : PacksFees L)
    (hlen : cert.sigs.length = cert.pks.length) (hsize : cert.pks.length < 2 ^ 64)
    (hmsg : computeMsgToSign L cert.scId cert.epochNumber cert.endCumulativeScTxCommTreeRoot
      cert.btrFee cert.ftMinAmount cert.btList = pure (mrBt, msg)) :
    (cert.witness L hlen hsize mrBt).message P = msg := by
  have hmr := computeMsgToSign_root L hmsg
  rw [computeMsgToSign_eq L hfees hmr] at hmsg
  cases pure_injective hmsg
  rw [Witness.message, hagree.hash]
  rfl

/-- A missing signature whose null replacement verifies. -/
def nullAccepted (msg : FieldElement p)
    (x : SchnorrPk (FieldElement p) × Option (SchnorrSig (FieldElement p))) : Bool :=
  match x.2 with
  | some _ => false
  | none => match L.verify x.1 msg L.nullSig with
    | .ok b => b
    | .error _ => false

/-- Elements of two disjoint kinds are counted kind by kind. -/
theorem countP_eq_add {α : Type} {f g h : α → Bool} : ∀ l : List α,
    (∀ x ∈ l, f x = (g x || h x) ∧ (g x && h x) = false) →
    l.countP f = l.countP g + l.countP h
  | [], _ => rfl
  | x :: l, hl => by
      have ih := countP_eq_add l fun y hy => hl y (List.mem_cons_of_mem x hy)
      obtain ⟨hf, hgh⟩ := hl x List.mem_cons_self
      rw [List.countP_cons, List.countP_cons, List.countP_cons, ih, hf]
      cases hg : g x
      · simp [Nat.add_assoc]
      · have hh : h x = false := by simpa [hg] using hgh
        simp [hh, Nat.add_right_comm]

/-- The gadgets count the signatures the loop outside counts, and the null
signatures that verify. -/
theorem Certificate.witness_valid_add (hagree : Agrees P L)
    (hlen : cert.sigs.length = cert.pks.length) (hsize : cert.pks.length < 2 ^ 64)
    (hmsg : (cert.witness L hlen hsize mrBt).message P = msg)
    (herr : ∀ x ∈ cert.positions, ∀ sig, x.2 = some sig → ∃ b, L.verify x.1 msg sig = .ok b) :
    (cert.witness L hlen hsize mrBt).validSignatures P
      = cert.valid L msg + cert.positions.countP (nullAccepted L msg) := by
  have hzip : (cert.witness L hlen hsize mrBt).keys.zip (cert.witness L hlen hsize mrBt).sigs
      = cert.positions.map fun x => (x.1, x.2.getD L.nullSig) :=
    zip_map_zip (fun x : _ × Option (SchnorrSig (FieldElement p)) => x.2.getD L.nullSig)
      cert.pks cert.sigs
  rw [Witness.validSignatures, hmsg, hzip, List.countP_map, Certificate.valid]
  refine countP_eq_add _ fun x hx => ?_
  obtain ⟨pk, o⟩ := x
  cases o with
  | none =>
      refine ⟨?_, by simp [presentAndValid]⟩
      rw [Bool.eq_iff_iff]
      show P.verdict pk msg L.nullSig = true ↔ _
      rw [hagree.verdict]
      simp only [presentAndValid, nullAccepted, Bool.false_or]
      rcases L.verify pk msg L.nullSig with e | b
      · simp
      · simp
  | some sig =>
      obtain ⟨b, hb⟩ := herr _ hx sig rfl
      have hb' : L.verify pk msg sig = .ok b := hb
      refine ⟨?_, by simp [nullAccepted]⟩
      rw [Bool.eq_iff_iff]
      show P.verdict pk msg sig = true ↔ _
      rw [hagree.verdict]
      simp [presentAndValid, nullAccepted, hb']

theorem nullAccepted_iff {msg : FieldElement p}
    {x : SchnorrPk (FieldElement p) × Option (SchnorrSig (FieldElement p))} :
    nullAccepted L msg x = true ↔ x.2 = none ∧ L.verify x.1 msg L.nullSig = .ok true := by
  obtain ⟨pk, o⟩ := x
  cases o with
  | none =>
      simp only [nullAccepted, true_and]
      rcases L.verify pk msg L.nullSig with e | b
      · simp
      · simp
  | some sig => simp [nullAccepted]

/-- The gadgets count the same signatures as the loop outside: a null
signature counts on neither side. -/
theorem Certificate.witness_valid (hagree : Agrees P L)
    (hlen : cert.sigs.length = cert.pks.length) (hsize : cert.pks.length < 2 ^ 64)
    (hmsg : (cert.witness L hlen hsize mrBt).message P = msg)
    (herr : ∀ x ∈ cert.positions, ∀ sig, x.2 = some sig → ∃ b, L.verify x.1 msg sig = .ok b)
    (hnull : ∀ x ∈ cert.positions, x.2 = none → L.verify x.1 msg L.nullSig ≠ .ok true) :
    (cert.witness L hlen hsize mrBt).validSignatures P = cert.valid L msg := by
  have hzero : cert.positions.countP (nullAccepted L msg) = 0 := by
    rw [List.countP_eq_zero]
    intro x hx haccepted
    obtain ⟨hnone, hverify⟩ := (nullAccepted_iff L).mp haccepted
    exact hnull x hx hnone hverify
  rw [cert.witness_valid_add L hagree hlen hsize hmsg herr, hzero, Nat.add_zero]

end Instance

end Values

/-! ## Prover and verifier agree -/

section Results

variable {p : ℕ} {Bt : Type} {L : CertLib p Bt} {P : Primitives (FieldElement p)}

/-- Off-circuit and in-circuit computations agree end to end. With no error in
a signature check and at least `threshold` valid signatures, the prover is
called on an instance whose proving run satisfies every step; its message is
the signed one, its count the returned quality, and its public inputs are the
sidechain's constant and the hash the verifier rebuilds. -/
theorem create_proof_agrees (hp : 2 ^ 254 < p) (hagree : Agrees P L) (hfees : PacksFees L)
    {circuitInputs : CertificateProofUserInputs p Bt → Except Error (List (FieldElement p))}
    (hinputs : HashesCertificate L circuitInputs) (checked : Bool) (cert : Certificate p Bt)
    (hlen : cert.sigs.length = cert.pks.length) (hsize : cert.pks.length < 2 ^ 64)
    {mrBt msg : FieldElement p}
    (hmsg : computeMsgToSign L cert.scId cert.epochNumber cert.endCumulativeScTxCommTreeRoot
      cert.btrFee cert.ftMinAmount cert.btList = pure (mrBt, msg))
    (herr : ∀ x ∈ cert.positions, ∀ sig, x.2 = some sig → ∃ b, L.verify x.1 msg sig = .ok b)
    (hnull : ∀ x ∈ cert.positions, x.2 = none → L.verify x.1 msg L.nullSig ≠ .ok true)
    (hthr : cert.threshold.toNat ≤ cert.valid L msg) :
    ∃ (c : NaiveTresholdSignature (FieldElement p)) (quality : UInt64) (constant : FieldElement p)
      (S : List (Step (GadgetCall (FieldElement p)))) (vals : List (FieldElement p)),
      (∀ {Pk Ck Proof : Type} (R : ProverLib p Pk Ck Proof) (path : String)
        (enforceMembership zk compressedPk compressProof : Bool),
        createNaiveThresholdSigProof L R checked cert path enforceMembership zk compressedPk
            compressProof
          = proveInstance R path enforceMembership zk compressedPk compressProof c >>= fun proof =>
              pure (proof, quality)) ∧
      prove (gadgets P) .assignmentMissing c.generateConstraints = .ok (S, .ok vals) ∧
      computePksThresholdHash L cert.pks cert.threshold = pure constant ∧
      quality.toNat = cert.valid L msg ∧
      ∀ w, Reads w vals →
        Sat (gadgets P) w S ∧
        outputsAt w S messageNs = some [msg] ∧
        inputsAt w S sysdataNs = some [cert.scId, fieldOfNat cert.epochNumber.toNat, mrBt,
          fieldOfNat quality.toNat, cert.endCumulativeScTxCommTreeRoot,
          fieldOfNat (cert.btrFee.toNat * 2 ^ 64 + cert.ftMinAmount.toNat)] ∧
        publicInputs w S = [constant, L.hash [L.hash [cert.scId,
          fieldOfNat cert.epochNumber.toNat, mrBt, fieldOfNat quality.toNat,
          cert.endCumulativeScTxCommTreeRoot,
          fieldOfNat (cert.btrFee.toNat * 2 ^ 64 + cert.ftMinAmount.toNat)]]] ∧
        circuitInputs (verifierInputs constant cert.scId cert.epochNumber
          cert.endCumulativeScTxCommTreeRoot cert.btrFee cert.ftMinAmount cert.btList quality)
          = .ok (publicInputs w S) := by
  have hmr := computeMsgToSign_root L hmsg
  have hbuild := buildInstance_eq L cert hp checked hlen hsize hmsg herr hthr
  have hmessage := cert.witness_message L hagree hfees hlen hsize hmsg
  have hvalid := cert.witness_valid L hagree hlen hsize hmessage herr hnull
  have hquality := cert.toNat_valid L hsize msg
  have hN : (UInt64.ofNat cert.pks.length).toNat = cert.pks.length :=
    UInt64.toNat_ofNat_of_lt' hsize
  have hfit := cert.surplus_lt L hsize msg
  have hdiff : ((cert.witness L hlen hsize mrBt).validSignatures P : FieldElement p)
      - (cert.witness L hlen hsize mrBt).threshold
      = (natBE (bitsBE (logMaxPks (UInt64.ofNat cert.pks.length) + 1)
          (cert.valid L msg - cert.threshold.toNat)) : FieldElement p) := by
    rw [natBE_bitsBE_of_lt hfit, hvalid, Nat.cast_sub hthr]
    rfl
  obtain ⟨vals, hprove, hvals⟩ := prover_sat P _ (length_bitsBE _ _) hdiff
  refine ⟨_, UInt64.ofNat (cert.valid L msg), _, _, vals, ?_, hprove,
    computePksThresholdHash_eq L cert.pks cert.threshold, hquality, fun w hw => ?_⟩
  · intro Pk Ck Proof R path enforceMembership zk compressedPk compressProof
    rw [createNaiveThresholdSigProof, hbuild, pure_bind]
  · obtain ⟨hsat, hpriv⟩ := hvals w hw
    obtain ⟨hval, hpub, _⟩ := Sat.values P hsat hpriv
    have hsysdata : (cert.witness L hlen hsize mrBt).sysdata P
        = [cert.scId, fieldOfNat cert.epochNumber.toNat, mrBt,
            fieldOfNat (UInt64.ofNat (cert.valid L msg)).toNat,
            cert.endCumulativeScTxCommTreeRoot,
            fieldOfNat (cert.btrFee.toNat * 2 ^ 64 + cert.ftMinAmount.toNat)] := by
      rw [Witness.sysdata, hvalid, hquality]
      rfl
    have hpub' : publicInputs w (circuitSteps (FieldElement p)
        (UInt64.ofNat cert.pks.length).toNat (logMaxPks (UInt64.ofNat cert.pks.length) + 1))
        = [L.hash [L.hash (cert.pks.map SchnorrPk.x), fieldOfNat cert.threshold.toNat],
            L.hash [L.hash [cert.scId, fieldOfNat cert.epochNumber.toNat, mrBt,
              fieldOfNat (UInt64.ofNat (cert.valid L msg)).toNat,
              cert.endCumulativeScTxCommTreeRoot,
              fieldOfNat (cert.btrFee.toNat * 2 ^ 64 + cert.ftMinAmount.toNat)]]] := by
      rw [hpub, pksThresholdHash, Witness.certDataHash, hsysdata, hagree.hash]
      rfl
    refine ⟨hsat, ?_, ?_, hpub', ?_⟩
    · rw [outputsAt_message, hval.message, hmessage]
    · rw [inputsAt_sysdata, hval.sysdata, hsysdata]
    · rw [hpub']
      exact hinputs _ _ mrBt _ rfl rfl hmr (hfees cert.btrFee cert.ftMinAmount)

/-- A library to evaluate with: the stand-in hash and verdict, a constant
Merkle root, and the packing of two words. -/
def standInLib (p : ℕ) : CertLib p Unit where
  hash := (standInPrimitives p).hash
  verify pk msg sig := .ok ((standInPrimitives p).verdict pk msg sig)
  getBtMerkleRoot _ := .ok (12 : ℕ)
  byteAccumulator
    | [a, b] => .ok [((a.toNat * 2 ^ 64 + b.toNat : ℕ) : FieldElement p)]
    | _ => .error (.library "one element")
  nullSig := ⟨0, 0⟩

theorem standIn_agrees (p : ℕ) : Agrees (standInPrimitives p) (standInLib p) where
  hash := rfl
  verdict pk msg sig := by simp [standInLib]

theorem standInLib_packsFees (p : ℕ) : PacksFees (standInLib p) := fun _ _ => rfl

/-- Two keys, one good signature and one missing, threshold 1. -/
def standInCertificate (p : ℕ) : Certificate p Unit where
  pks := [⟨-1, (2 : ℕ)⟩, ⟨-1, -(2 : ℕ)⟩]
  sigs := [some ⟨1, (2 : ℕ)⟩, none]
  scId := (10 : ℕ)
  epochNumber := 11
  endCumulativeScTxCommTreeRoot := (13 : ℕ)
  btrFee := 14
  ftMinAmount := 15
  btList := []
  threshold := 1

/-- The public inputs of a certificate, evaluated with the stand-in library. -/
def standInInputs (p : ℕ) (ins : CertificateProofUserInputs p Unit) :
    Except Error (List (FieldElement p)) :=
  match ins.constant, (standInLib p).getBtMerkleRoot ins.btList,
      (standInLib p).byteAccumulator [ins.btrFee, ins.ftMinAmount] with
  | some constant, .ok mrBt, .ok [fees] =>
      .ok [constant, (standInLib p).hash [(standInLib p).hash
        [ins.scId, fieldOfNat ins.epochNumber.toNat, mrBt, fieldOfNat ins.quality.toNat,
         ins.endCumulativeScTxCommitmentTreeRoot, fees]]]
  | _, _, _ => .error (.library "inputs")

theorem standInInputs_hashes (p : ℕ) : HashesCertificate (standInLib p) (standInInputs p) := by
  intro ins constant mrBt fees hconst _ hmr hfees
  simp only [standInInputs, hconst, hmr, hfees]

/-- What is signed in it, and its public inputs. -/
theorem create_proof_agrees_two :
    ∃ (c : NaiveTresholdSignature (FieldElement tweedleModulus)) (quality : UInt64)
      (S : List (Step (GadgetCall (FieldElement tweedleModulus))))
      (vals : List (FieldElement tweedleModulus)) (w : Wire → FieldElement tweedleModulus),
      quality.toNat = 1 ∧
      prove (gadgets (standInPrimitives tweedleModulus)) .assignmentMissing
        c.generateConstraints = .ok (S, .ok vals) ∧
      Reads w vals ∧ Sat (gadgets (standInPrimitives tweedleModulus)) w S ∧
      outputsAt w S messageNs = some [(standInLib tweedleModulus).hash
        [(10 : ℕ), fieldOfNat 11, (12 : ℕ), (13 : ℕ), ((14 * 2 ^ 64 + 15 : ℕ) : _)]] ∧
      publicInputs w S =
        [(standInLib tweedleModulus).hash
            [(standInLib tweedleModulus).hash [-1, -1], fieldOfNat 1],
          (standInLib tweedleModulus).hash [(standInLib tweedleModulus).hash
            [(10 : ℕ), fieldOfNat 11, (12 : ℕ), fieldOfNat 1, (13 : ℕ),
              fieldOfNat (14 * 2 ^ 64 + 15)]]] := by
  obtain ⟨c, quality, constant, S, vals, -, hprove, hconstant, hquality, hvals⟩ :=
    create_proof_agrees two_pow_lt_tweedleModulus (standIn_agrees tweedleModulus)
      (standInLib_packsFees tweedleModulus) (standInInputs_hashes tweedleModulus) true
      (standInCertificate tweedleModulus) rfl (by decide)
      (computeMsgToSign_eq _ (standInLib_packsFees tweedleModulus) rfl)
      (fun x _ sig _ => ⟨_, rfl⟩) (by decide) (by decide)
  have hone : quality.toNat = 1 := hquality
  rw [computePksThresholdHash_eq] at hconstant
  cases pure_injective hconstant
  obtain ⟨hsat, hmessage, -, hpublic, -⟩ := hvals _ (reads_getD vals 0)
  rw [hone] at hpublic
  exact ⟨c, quality, S, vals, _, hone, hprove, reads_getD vals 0, hsat, hmessage, hpublic⟩

/-- Every satisfying assignment of a synthesized circuit carries a witness. -/
theorem Sat.exists_witness {inst : NaiveTresholdSignature (FieldElement p)}
    {S : List (Step (GadgetCall (FieldElement p)))}
    (hS : setup inst.generateConstraints = .ok S) {w : Wire → FieldElement p}
    (hsat : Sat (gadgets P) w S) :
    ∃ (wit : Witness (FieldElement p) inst.maxPks.toNat) (bits : List Bool),
      privateInputs w S = wit.encode bits := by
  obtain ⟨_, rfl⟩ := setup_generateConstraints_ok hS
  obtain ⟨heqs, _⟩ := (sat_circuitSteps P w _ _).mp hsat
  obtain ⟨wit, bits, _, hpriv⟩ := heqs.exists_witness
  exact ⟨wit, bits, hpriv⟩

/-- A certificate's public input fixes what was signed. Two satisfying
assignments, for any numbers of keys, with the same cert_data_hash and without
a collision between the lists they hash, are about the same data and the same
number of valid signatures; all their signatures were checked against one
message, the one `compute_msg_to_sign` gives for those data. -/
theorem cert_data_hash_fixes_certificate (hp : 2 ^ 254 < p) (hagree : Agrees P L)
    (hfees : PacksFees L) {inst1 inst2 : NaiveTresholdSignature (FieldElement p)}
    {S1 S2 : List (Step (GadgetCall (FieldElement p)))}
    (hS1 : setup inst1.generateConstraints = .ok S1)
    (hS2 : setup inst2.generateConstraints = .ok S2) {w1 w2 : Wire → FieldElement p}
    (hsat1 : Sat (gadgets P) w1 S1) (hsat2 : Sat (gadgets P) w2 S2)
    (hcoll : NoCollisionBetween P.hash (hashedLists w1 S1) (hashedLists w2 S2))
    (heq : (publicInputs w1 S1)[1]? = (publicInputs w2 S2)[1]?) :
    ∃ (wit1 : Witness (FieldElement p) inst1.maxPks.toNat) (bits1 : List Bool)
      (wit2 : Witness (FieldElement p) inst2.maxPks.toNat) (bits2 : List Bool)
      (msg : FieldElement p),
      privateInputs w1 S1 = wit1.encode bits1 ∧ privateInputs w2 S2 = wit2.encode bits2 ∧
      wit1.scId = wit2.scId ∧ wit1.epochNumber = wit2.epochNumber ∧ wit1.mrBt = wit2.mrBt ∧
      wit1.root = wit2.root ∧ wit1.btrFee = wit2.btrFee ∧
      wit1.ftMinAmount = wit2.ftMinAmount ∧
      wit1.validSignatures P = wit2.validSignatures P ∧
      outputsAt w1 S1 messageNs = some [msg] ∧ outputsAt w2 S2 messageNs = some [msg] ∧
      (∀ m ∈ checkedMessages w1 S1, m = msg) ∧ (∀ m ∈ checkedMessages w2 S2, m = msg) ∧
      ∀ (epochNumber : UInt32) (btList : List Bt),
        wit1.epochNumber = fieldOfNat epochNumber.toNat →
        L.getBtMerkleRoot (btListOpt btList) = .ok wit1.mrBt →
        computeMsgToSign L wit1.scId epochNumber wit1.root wit1.btrFee wit1.ftMinAmount btList
          = pure (wit1.mrBt, msg) := by
  obtain ⟨wit1, bits1, hpriv1⟩ := Sat.exists_witness hS1 hsat1
  obtain ⟨wit2, bits2, hpriv2⟩ := Sat.exists_witness hS2 hsat2
  obtain ⟨_, rfl⟩ := setup_generateConstraints_ok hS1
  obtain ⟨_, rfl⟩ := setup_generateConstraints_ok hS2
  obtain ⟨hval1, hpub1, _⟩ := Sat.values P hsat1 hpriv1
  obtain ⟨hval2, hpub2, _⟩ := Sat.values P hsat2 hpriv2
  -- the two lists under the certificate hash were hashed in both runs
  rw [hashedLists_circuitSteps, hashedLists_circuitSteps, hval1.sysdata, hval2.sysdata,
    hval1.sysdataHash, hval2.sysdataHash] at hcoll
  have hsys := hcoll (wit1.sysdata P) (by simp) (wit2.sysdata P) (by simp)
  have hcert := hcoll [P.hash (wit1.sysdata P)] (by simp) [P.hash (wit2.sysdata P)] (by simp)
  have hhash : wit1.certDataHash P = wit2.certDataHash P := by
    rw [hpub1, hpub2] at heq
    simpa using heq
  obtain ⟨hsc, hep, hmr, hroot, hbtr, hft, hvalid, hmsg⟩ := same_of_sysdata hp
    inst1.maxPks.toNat_lt inst2.maxPks.toNat_lt (sysdata_of_certDataHash hcert hsys hhash)
  refine ⟨wit1, bits1, wit2, bits2, wit1.message P, hpriv1, hpriv2, hsc, hep, hmr, hroot, hbtr,
    hft, hvalid, ?_, ?_, ?_, ?_, ?_⟩
  · rw [outputsAt_message, hval1.message]
  · rw [outputsAt_message, hval2.message, hmsg]
  · intro m hm
    rw [checkedMessages_circuitSteps] at hm
    rw [List.eq_of_mem_replicate hm, hval1.message]
  · intro m hm
    rw [checkedMessages_circuitSteps] at hm
    rw [List.eq_of_mem_replicate hm, hval2.message, hmsg]
  · intro epochNumber btList hepoch hroot
    rw [computeMsgToSign_eq L hfees hroot, Witness.message, hagree.hash, hepoch]
    rfl

/-- Two keys, the first with a good signature, and threshold 1. -/
def twoKeysRun : Witness (FieldElement tweedleModulus) (2 : UInt64).toNat :=
  ⟨[⟨(1 : ℕ), (2 : ℕ)⟩, ⟨(3 : ℕ), (4 : ℕ)⟩], [⟨(5 : ℕ), (2 : ℕ)⟩, ⟨(5 : ℕ), (0 : ℕ)⟩], (1 : ℕ),
    (10 : ℕ), (11 : ℕ), (12 : ℕ), (13 : ℕ), 14, 15, rfl, rfl⟩

/-- Three other keys, the last with a good signature, and threshold 0, for the same
certificate. -/
def threeKeysRun : Witness (FieldElement tweedleModulus) (3 : UInt64).toNat :=
  ⟨[⟨(6 : ℕ), (7 : ℕ)⟩, ⟨(8 : ℕ), (9 : ℕ)⟩, ⟨(16 : ℕ), (17 : ℕ)⟩],
    [⟨(5 : ℕ), (0 : ℕ)⟩, ⟨(5 : ℕ), (0 : ℕ)⟩, ⟨(18 : ℕ), (17 : ℕ)⟩], (0 : ℕ), (10 : ℕ), (11 : ℕ),
    (12 : ℕ), (13 : ℕ), 14, 15, rfl, rfl⟩

theorem twoKeysRun_noCollision :
    NoCollisionBetween (standInPrimitives tweedleModulus).hash
      (twoKeysRun.hashed (standInPrimitives tweedleModulus))
      (threeKeysRun.hashed (standInPrimitives tweedleModulus)) := by
  unfold NoCollisionBetween NoCollision
  decide

/-- Two runs of different keys, signatures, thresholds and bits, for one certificate:
they have different constants and the same certificate hash. -/
theorem cert_data_hash_fixes_certificate_two_three :
    ∃ (w1 w2 : Wire → FieldElement tweedleModulus)
      (wit1 : Witness (FieldElement tweedleModulus) (2 : UInt64).toNat) (bits1 : List Bool)
      (wit2 : Witness (FieldElement tweedleModulus) (3 : UInt64).toNat) (bits2 : List Bool)
      (msg : FieldElement tweedleModulus),
      (publicInputs w1 (circuitSteps _ 2 2))[0]? ≠ (publicInputs w2 (circuitSteps _ 3 3))[0]? ∧
      privateInputs w1 (circuitSteps _ 2 2) = wit1.encode bits1 ∧
      privateInputs w2 (circuitSteps _ 3 3) = wit2.encode bits2 ∧
      wit1.scId = wit2.scId ∧ wit1.epochNumber = wit2.epochNumber ∧ wit1.mrBt = wit2.mrBt ∧
      wit1.root = wit2.root ∧ wit1.btrFee = wit2.btrFee ∧
      wit1.ftMinAmount = wit2.ftMinAmount ∧
      wit1.validSignatures (standInPrimitives tweedleModulus)
        = wit2.validSignatures (standInPrimitives tweedleModulus) ∧
      outputsAt w1 (circuitSteps (FieldElement tweedleModulus) 2 2) messageNs = some [msg] ∧
      outputsAt w2 (circuitSteps (FieldElement tweedleModulus) 3 3) messageNs = some [msg] ∧
      (∀ m ∈ checkedMessages w1 (circuitSteps (FieldElement tweedleModulus) 2 2), m = msg) ∧
      (∀ m ∈ checkedMessages w2 (circuitSteps (FieldElement tweedleModulus) 3 3), m = msg) := by
  obtain ⟨w1, hsat1, hpriv1⟩ := exists_sat (standInPrimitives tweedleModulus) twoKeysRun
    (length_bitsBE (logMaxPks 2 + 1) 0) (by decide)
  obtain ⟨w2, hsat2, hpriv2⟩ := exists_sat (standInPrimitives tweedleModulus) threeKeysRun
    (length_bitsBE (logMaxPks 3 + 1) 1) (by decide)
  have hblank2 : (getInstanceForSetup (FieldElement tweedleModulus) 2).WellShaped :=
    getInstanceForSetup_wellShaped 2
  have hblank3 : (getInstanceForSetup (FieldElement tweedleModulus) 3).WellShaped :=
    getInstanceForSetup_wellShaped 3
  obtain ⟨-, hpub1, -⟩ := Sat.values _ hsat1 hpriv1
  obtain ⟨-, hpub2, -⟩ := Sat.values _ hsat2 hpriv2
  have hcoll : NoCollisionBetween (standInPrimitives tweedleModulus).hash
      (hashedLists w1 (circuitSteps _ (2 : UInt64).toNat (logMaxPks 2 + 1)))
      (hashedLists w2 (circuitSteps _ (3 : UInt64).toNat (logMaxPks 3 + 1))) := by
    rw [hashedLists_eq hsat1 hpriv1, hashedLists_eq hsat2 hpriv2]
    exact twoKeysRun_noCollision
  have hconstants : pksThresholdHash (standInPrimitives tweedleModulus) twoKeysRun.keys
      twoKeysRun.threshold ≠ pksThresholdHash (standInPrimitives tweedleModulus)
        threeKeysRun.keys threeKeysRun.threshold := by decide
  have hcert : twoKeysRun.certDataHash (standInPrimitives tweedleModulus)
      = threeKeysRun.certDataHash (standInPrimitives tweedleModulus) := by decide
  have heq : (publicInputs w1 (circuitSteps _ (2 : UInt64).toNat (logMaxPks 2 + 1)))[1]?
      = (publicInputs w2 (circuitSteps _ (3 : UInt64).toNat (logMaxPks 3 + 1)))[1]? := by
    rw [hpub1, hpub2, hcert]
    rfl
  obtain ⟨wit1, bits1, wit2, bits2, msg, hwit1, hwit2, hsc, hep, hmr, hroot, hbtr, hft, hvalid,
    hmsg1, hmsg2, hchecked1, hchecked2, -⟩ :=
    cert_data_hash_fixes_certificate two_pow_lt_tweedleModulus (standIn_agrees tweedleModulus)
      (standInLib_packsFees tweedleModulus) (setup_generateConstraints hblank2)
      (setup_generateConstraints hblank3) hsat1 hsat2 hcoll heq
  refine ⟨w1, w2, wit1, bits1, wit2, bits2, msg, ?_, hwit1, hwit2, hsc, hep, hmr, hroot, hbtr,
    hft, hvalid, hmsg1, hmsg2, hchecked1, hchecked2⟩
  intro hsame
  have hfirst : (publicInputs w1 (circuitSteps _ (2 : UInt64).toNat (logMaxPks 2 + 1)))[0]?
      = (publicInputs w2 (circuitSteps _ (3 : UInt64).toNat (logMaxPks 3 + 1)))[0]? := hsame
  rw [hpub1, hpub2] at hfirst
  exact hconstants (Option.some.inj hfirst)

end Results

end ZendooSc
