/-
ZendooSc.Api.Snark — one proof system and one file system behind setup, prover
and verifier.

`generate_circuit_keypair` writes two key files, `create_naive_threshold_sig_proof`
reads the first and `verify_naive_threshold_sig_proof` the second. `SnarkLib` is
what the three use of ginger-lib and cctp-lib, and its projections are the three
parameters of the functions, over the files of one moment.

Keys stay where they are as long as no later setup is given one of their paths
(`setupRun_spares`).

What is documented of the proof system is in four structures. `ReadsBack`: what
is written is read back with the same flags. `Complete`: a proving run that
satisfies every step of the circuit of a setup makes a proof that verifies.
`Extracts`: from a proof that verifies, the extractor gets an assignment with
these public inputs. The extractor is a named function: that some assignment
exists says little of a hash to a finite field. `ChecksSizes`: the check of the
two sizes compares what the setup compares.
-/
import ZendooSc.Api.CctpCallsTheorems
import ZendooSc.Api.KeyGeneration

namespace ZendooSc

open Lib

/-! ## Setups over time -/

section Setups

variable {F Ck Index Pk Vk : Type} {S : SetupLib (NaiveTresholdSignature F) Ck Index Pk Vk}

theorem readSetupArgs_eq {args : SetupArgs} {ps : ProvingSystem} {paths : KeyPaths}
    (h : readSetupArgs args = .ok (ps, paths)) :
    ∃ pkPath vkPath, getString args.provingKeyPath = .ok pkPath ∧
      getString args.verificationKeyPath = .ok vkPath ∧
      paths = ⟨pkPath, vkPath, some args.compressPk, some args.compressVk⟩ := by
  obtain ⟨hpk, hvk⟩ := readSetupArgs_paths h
  refine ⟨_, _, hpk, hvk, ?_⟩
  unfold readSetupArgs at h
  rw [hpk, hvk] at h
  rcases hps : getProvingSystemType args.psType with e | ps'
  · rw [hps] at h
    cases h
  · rw [hps] at h
    have hpaths : (⟨paths.pkPath, paths.vkPath, some args.compressPk, some args.compressVk⟩ :
        KeyPaths) = paths := congrArg Prod.snd (Except.ok.inj h)
    exact hpaths.symm

/-- Each proving system has one Java value. -/
theorem javaType_of_system {t : Option ProvingSystemType} {ps : ProvingSystem}
    (h : getProvingSystemType t = .ok ps) : t = some ps.javaType := by
  rcases t with _ | t
  · cases h
  · cases t with
    | UNDEFINED | DARLIN | COBOUNDARY_MARLIN =>
        cases h
        rfl

theorem readSetupArgs_system {args : SetupArgs} {ps : ProvingSystem} {paths : KeyPaths}
    (h : readSetupArgs args = .ok (ps, paths)) : args.psType = some ps.javaType := by
  obtain ⟨pkPath, vkPath, hpk, hvk, rfl⟩ := readSetupArgs_eq h
  unfold readSetupArgs at h
  rcases hps : getProvingSystemType args.psType with e | ps'
  · rw [hps] at h
    cases h
  · rw [hps, hpk, hvk] at h
    cases h
    exact javaType_of_system hps

/-- The two keys a setup that answered `true` has left in its files. -/
structure SetUp (S : SetupLib (NaiveTresholdSignature F) Ck Index Pk Vk) (args : SetupArgs)
    (pkPath vkPath : String) (fs : Fs) (pk : Pk) (vk : Vk) : Prop where
  keys : SetupWithin S (getInstanceForSetup F args.maxPks.toUInt64) .coboundaryMarlin
    ⟨jintAsUsize args.maxProofSize, jintAsUsize args.maxVkSize⟩ args.zk pk vk
  prover : fs pkPath = some (S.encode (.prover pk) (some args.compressPk))
  verifier : fs vkPath = some (S.encode (.verifier vk) (some args.compressVk))

/-- A setup that answered `true` has read its arguments and generated the keys. -/
theorem nativeSetup_ran {args : SetupArgs} {fs fs' : Fs}
    (h : nativeSetup S args fs = (.returned true, fs')) :
    ∃ ps paths, readSetupArgs args = .ok (ps, paths) ∧
      (generateCircuitKeypair S (getInstanceForSetup F args.maxPks.toUInt64) ps paths
        ⟨jintAsUsize args.maxProofSize, jintAsUsize args.maxVkSize⟩ args.zk).exec fs
          = (.ok (), fs') := by
  unfold nativeSetup at h
  rcases hread : readSetupArgs args with e | ⟨ps, paths⟩
  · rw [hread] at h
    cases ffiExport_eq_returned.mp (congrArg Prod.fst h)
  · rw [hread] at h
    refine ⟨ps, paths, rfl, ?_⟩
    simp only [] at h
    split at h
    case h_1 hrun =>
      cases h
      exact hrun
    case h_2 => cases h
    case h_3 => cases ffiExport_eq_returned.mp (congrArg Prod.fst h)

/-- The keys are in the two files, if these are different. -/
theorem nativeSetup_setUp (hlaws : WriteLaws S) {args : SetupArgs} {pkPath vkPath : String}
    (hpk : getString args.provingKeyPath = .ok pkPath)
    (hvk : getString args.verificationKeyPath = .ok vkPath) (hpaths : pkPath ≠ vkPath)
    {fs fs' : Fs} (h : nativeSetup S args fs = (.returned true, fs')) :
    ∃ pk vk, SetUp S args pkPath vkPath fs' pk vk := by
  obtain ⟨ps, paths, hread, hrun⟩ := nativeSetup_ran h
  obtain ⟨pkPath', vkPath', hpk', hvk', rfl⟩ := readSetupArgs_eq hread
  rw [hpk] at hpk'
  cases hpk'
  rw [hvk] at hvk'
  cases hvk'
  obtain ⟨pk, vk, hwithin, hholds⟩ := generateCircuitKeypair_ok hlaws hpaths hrun
  cases hwithin.supported
  exact ⟨pk, vk, hwithin, hholds.prover, hholds.verifier⟩

/-- There are keys of one proving system only. -/
theorem nativeSetup_psType {args : SetupArgs} {fs fs' : Fs}
    (h : nativeSetup S args fs = (.returned true, fs')) :
    args.psType = some .COBOUNDARY_MARLIN := by
  obtain ⟨ps, paths, hread, hrun⟩ := nativeSetup_ran h
  rcases generateCircuitKeypair_cases hrun with ⟨e, he, -⟩ | ⟨pk, vk, fs₁, hkeys, -⟩
  · cases he
  · cases (setupKeys_eq_pure hkeys).supported
    exact readSetupArgs_system hread

/-- A key generation changes its two paths only. -/
theorem generateCircuitKeypair_frame {Circ : Type} {S : SetupLib Circ Ck Index Pk Vk}
    (hlaws : WriteLaws S) {circ : Circ} {ps : ProvingSystem} {paths : KeyPaths}
    {bounds : SizeBounds} {zk : Bool} {fs : Fs} {path : String} (hpk : path ≠ paths.pkPath)
    (hvk : path ≠ paths.vkPath) :
    ((generateCircuitKeypair S circ ps paths bounds zk).exec fs).2 path = fs path := by
  rcases hrun : (generateCircuitKeypair S circ ps paths bounds zk).exec fs with ⟨out, fs'⟩
  show fs' path = fs path
  rcases generateCircuitKeypair_cases hrun with ⟨_, -, rfl⟩ | ⟨pk, vk, fs₁, -, hwrites⟩
  · rfl
  · have hfirst := hlaws.frame (.prover pk) paths.pkPath paths.compressPk fs path hpk
    rcases hwrites with ⟨_, -, hwrite⟩ | ⟨hwrite, hsecond⟩
    · rw [hwrite] at hfirst
      exact hfirst
    · have hlast := hlaws.frame (.verifier vk) paths.vkPath paths.compressVk fs₁ path hvk
      rw [hwrite] at hfirst
      rw [hsecond] at hlast
      exact hlast.trans hfirst

/-- The setup is not given this path. -/
def SetupArgs.Spares (args : SetupArgs) (path : String) : Prop :=
  getString args.provingKeyPath ≠ .ok path ∧ getString args.verificationKeyPath ≠ .ok path

theorem nativeSetup_spares (hlaws : WriteLaws S) {args : SetupArgs} {path : String}
    (hspares : args.Spares path) (fs : Fs) : (nativeSetup S args fs).2 path = fs path := by
  unfold nativeSetup
  rcases hread : readSetupArgs args with e | ⟨ps, paths⟩
  · rfl
  · obtain ⟨hpk, hvk⟩ := readSetupArgs_paths hread
    have hpk' : path ≠ paths.pkPath := by
      rintro rfl
      exact hspares.1 hpk
    have hvk' : path ≠ paths.vkPath := by
      rintro rfl
      exact hspares.2 hvk
    have hframe : ∀ circ bounds, ((generateCircuitKeypair S circ ps paths bounds
        args.zk).exec fs).2 path = fs path :=
      fun _ _ => generateCircuitKeypair_frame hlaws hpk' hvk'
    simp only []
    split
    all_goals
      rename_i hrun
      rw [← hframe, hrun]

/-- The files after some calls of `setup`. -/
def setupRun (S : SetupLib (NaiveTresholdSignature F) Ck Index Pk Vk) (fs : Fs)
    (calls : List SetupArgs) : Fs :=
  calls.foldl (fun fs args => (nativeSetup S args fs).2) fs

theorem setupRun_spares (hlaws : WriteLaws S) {calls : List SetupArgs} {path : String}
    (hspares : ∀ args ∈ calls, args.Spares path) (fs : Fs) :
    setupRun S fs calls path = fs path := by
  unfold setupRun
  induction calls generalizing fs with
  | nil => rfl
  | cons args calls ih =>
      rw [List.forall_mem_cons] at hspares
      rw [List.foldl_cons, ih hspares.2, nativeSetup_spares hlaws hspares.1]

end Setups

/-! ## The proof system -/

/-- `ZendooVerifierKey`. -/
inductive ZendooVerifierKey (Vk DarlinVk : Type) where
  | darlin (key : DarlinVk)
  | coboundaryMarlin (key : Vk)

/-- `ZendooProof`. -/
inductive ZendooProof (Proof DarlinProof : Type) where
  | darlin (proof : DarlinProof)
  | coboundaryMarlin (proof : Proof)

/-- `get_proving_system_type`. -/
def ZendooVerifierKey.getProvingSystemType {Vk DarlinVk : Type} :
    ZendooVerifierKey Vk DarlinVk → ProvingSystem
  | .darlin _ => .darlin
  | .coboundaryMarlin _ => .coboundaryMarlin

structure SnarkLib (p : ℕ) (Bt Ck Index Pk Vk DarlinVk Proof DarlinProof : Type) where
  /-- The key that `generateDLogKeys` has loaded. -/
  getG1CommitterKey : Except Error (Option Ck)
  commKeyLen : Ck → UInt64
  getIndexInfo : NaiveTresholdSignature (FieldElement p) → Call Index
  computeProofVkSize : UInt64 → Index → Bool → ProvingSystem → Call (UInt64 × UInt64)
  checkProofVkSize : UInt64 → Index → Bool → ProvingSystem → UInt64 → UInt64 →
    Except Panic Bool
  circuitSpecificSetup : Ck → Index → Call (Pk × Vk)
  /-- `index_info` of a verification key. -/
  indexInfo : ZendooVerifierKey Vk DarlinVk → Index
  writeToFile : KeyFile Pk Vk → String → Option Bool → FileCall Unit
  encode : KeyFile Pk Vk → Option Bool → List UInt8
  tag : UInt8 → Option ProvingSystem
  deserializePk : List UInt8 → Bool → Bool → Except Error (ZendooKey Pk)
  deserializeVk : List UInt8 → Bool → Bool → Except Error (ZendooVerifierKey Vk DarlinVk)
  prove : Pk → Ck → NaiveTresholdSignature (FieldElement p) → Bool → Except Error Proof
  serializeProof : Proof → Bool → Except Error (List UInt8)
  deserializeProof : List UInt8 → Bool → Bool → Except Error (ZendooProof Proof DarlinProof)
  verifyZendooProof : CertificateProofUserInputs p Bt → ZendooProof Proof DarlinProof →
    ZendooVerifierKey Vk DarlinVk → Except Error Bool

/-- The values of a proving run, on the wires they were made for. -/
def assignmentOf {F : Type} [Zero F] (vals : List F) : Wire → F := fun x => vals.getD x 0

section Library

variable {p : ℕ} {Bt Ck Index Pk Vk DarlinVk Proof DarlinProof : Type}
variable (X : SnarkLib p Bt Ck Index Pk Vk DarlinVk Proof DarlinProof)

namespace SnarkLib

def setupLib : SetupLib (NaiveTresholdSignature (FieldElement p)) Ck Index Pk Vk where
  getG1CommitterKey := fromResult X.getG1CommitterKey
  commKeyLen := X.commKeyLen
  getIndexInfo := X.getIndexInfo
  computeProofVkSize := X.computeProofVkSize
  circuitSpecificSetup := X.circuitSpecificSetup
  writeToFile := X.writeToFile
  encode := X.encode

/-- The prover, over the files of one moment. -/
def proverLib (fs : Fs) : ProverLib p Pk Ck Proof where
  readProverKey path semanticChecks compressed :=
    match fs path with
    | some bytes => X.deserializePk bytes semanticChecks compressed
    | none => .error (.library "no such file")
  getG1CommitterKey := X.getG1CommitterKey
  prove := X.prove
  serializeProof := X.serializeProof

theorem readProverKey_eq {fs : Fs} {path : String} {bytes : List UInt8}
    (hfile : fs path = some bytes) (check compressed : Bool) :
    (X.proverLib fs).readProverKey path check compressed
      = X.deserializePk bytes check compressed := by
  unfold proverLib
  simp only [hfile]

/-- The verifier, over the files of one moment. -/
def verifierLib (fs : Fs) :
    VerifierLib p Bt (ZendooVerifierKey Vk DarlinVk) (ZendooProof Proof DarlinProof) where
  files := fs
  tag := X.tag
  deserializeVk := X.deserializeVk
  deserializeProof := X.deserializeProof
  verifyZendooProof := X.verifyZendooProof

/-! ## What is documented of it -/

/-- What the library writes, it reads back with the same flag, whether it checks
it or not. -/
structure ReadsBack : Prop where
  prover : ∀ ck index pk vk, X.circuitSpecificSetup ck index = pure (pk, vk) →
    ∀ check compress, X.deserializePk (X.encode (.prover pk) (some compress)) check compress
      = .ok (.coboundaryMarlin pk)
  verifier : ∀ ck index pk vk, X.circuitSpecificSetup ck index = pure (pk, vk) →
    ∀ check compress, X.deserializeVk (X.encode (.verifier vk) (some compress)) check compress
      = .ok (.coboundaryMarlin vk)
  vkTag : ∀ vk compress, ∃ byte rest, X.encode (.verifier vk) (some compress) = byte :: rest ∧
    X.tag byte = some .coboundaryMarlin
  proof : ∀ pk ck c zk proof, X.prove pk ck c zk = .ok proof →
    ∀ compress, ∃ byte rest, X.serializeProof proof compress = .ok (byte :: rest) ∧
      X.tag byte = some .coboundaryMarlin ∧
      ∀ check, X.deserializeProof (byte :: rest) check compress = .ok (.coboundaryMarlin proof)

/-- A proving key starts with the tag of its system, as a verification key does. -/
def TagsProverKeys : Prop :=
  ∀ pk compress, ∃ byte rest, X.encode (.prover pk) (some compress) = byte :: rest ∧
    X.tag byte = some .coboundaryMarlin

variable (P : Primitives (FieldElement p))
  (circuitInputs : CertificateProofUserInputs p Bt → Except Error (List (FieldElement p)))

/-- A proving run that satisfies every step of the circuit of the setup makes a
proof, and the proof verifies for the public inputs of the run. -/
def Complete : Prop :=
  ∀ (circ c : NaiveTresholdSignature (FieldElement p)) S ck index pk vk vals zk,
    setup circ.generateConstraints = .ok S → X.getIndexInfo circ = pure index →
    X.circuitSpecificSetup ck index = pure (pk, vk) →
    Lib.prove (gadgets P) .assignmentMissing c.generateConstraints = .ok (S, .ok vals) →
    Sat (gadgets P) (assignmentOf vals) S →
      ∃ proof, X.prove pk ck c zk = .ok proof ∧
        ∀ ins, circuitInputs ins = .ok (publicInputs (assignmentOf vals) S) →
          X.verifyZendooProof ins (.coboundaryMarlin proof) (.coboundaryMarlin vk) = .ok true

/-- From this proof, if it verifies for these inputs, the extractor gets an
assignment that satisfies the circuit of the setup and has these public inputs. -/
def Extracts (extract : CertificateProofUserInputs p Bt → ZendooProof Proof DarlinProof → Vk →
    Wire → FieldElement p) (ins : CertificateProofUserInputs p Bt)
    (proof : ZendooProof Proof DarlinProof) : Prop :=
  ∀ (circ : NaiveTresholdSignature (FieldElement p)) S ck index pk vk,
    setup circ.generateConstraints = .ok S → X.getIndexInfo circ = pure index →
    X.circuitSpecificSetup ck index = pure (pk, vk) →
    X.verifyZendooProof ins proof (.coboundaryMarlin vk) = .ok true →
      Sat (gadgets P) (extract ins proof vk) S ∧
        circuitInputs ins = .ok (publicInputs (extract ins proof vk) S)

/-- The check of the sizes compares those the library computes, and a
verification key knows enough of its index to compute them. -/
structure ChecksSizes : Prop where
  index : ∀ ck index pk vk, X.circuitSpecificSetup ck index = pure (pk, vk) → ∀ size zk ps,
    X.computeProofVkSize size (X.indexInfo (.coboundaryMarlin vk)) zk ps
      = X.computeProofVkSize size index zk ps
  check : ∀ size index zk ps, ∃ proofSize vkSize,
    X.computeProofVkSize size index zk ps = pure (proofSize, vkSize) ∧
    ∀ maxProofSize maxVkSize, X.checkProofVkSize size index zk ps maxProofSize maxVkSize
      = .ok (decide (proofSize ≤ maxProofSize ∧ vkSize ≤ maxVkSize))

end SnarkLib

/-! ## The check of the sizes -/

/-- `ProvingSystem_nativeCheckProofVkSize`. -/
def nativeCheckProofVkSize (zk : Bool) (supportedSegmentSize maxProofSize maxVkSize : Int32)
    (verificationKeyPath : Option JavaString) (fs : Fs) : JavaResult Bool :=
  ffiExport do
    let vkPath ← getString verificationKeyPath
    match readFromFile (X.verifierLib fs) vkPath with
    | .error _ => .ok false
    | .ok bytes =>
        match X.deserializeVk bytes false true with
        | .error _ => .ok false
        | .ok vk =>
            X.checkProofVkSize (jintAsUsize supportedSegmentSize) (X.indexInfo vk) zk
              vk.getProvingSystemType (jintAsUsize maxProofSize) (jintAsUsize maxVkSize)

end Library

/-! ## An ideal proof system -/

section Ideal

variable {p : ℕ} {Bt : Type} (P : Primitives (FieldElement p))
  (circuitInputs : CertificateProofUserInputs p Bt → Except Error (List (FieldElement p)))

/-- A value is a row of ones and a zero. -/
def encodeValues (vals : List (FieldElement p)) : List UInt8 :=
  vals.flatMap fun a => List.replicate a.val 1 ++ [0]

/-- The rows, after `n` ones of the first. -/
def decodeValues : List UInt8 → ℕ → List (FieldElement p)
  | [], _ => []
  | byte :: rest, n =>
      if byte = 0 then (n : FieldElement p) :: decodeValues rest 0 else decodeValues rest (n + 1)

theorem decodeValues_row (n m : ℕ) (rest : List UInt8) :
    decodeValues (List.replicate n 1 ++ 0 :: rest) m
      = ((m + n : ℕ) : FieldElement p) :: decodeValues rest 0 := by
  induction n generalizing m with
  | zero => simp [decodeValues]
  | succ n ih =>
      have hone : (1 : UInt8) ≠ 0 := by decide
      rw [List.replicate_succ, List.cons_append, decodeValues, if_neg hone, ih, Nat.add_assoc,
        Nat.add_comm 1]

theorem decodeValues_encodeValues [NeZero p] (vals : List (FieldElement p)) :
    decodeValues (encodeValues vals) 0 = vals := by
  induction vals with
  | nil => rfl
  | cons a vals ih =>
      unfold encodeValues at ih ⊢
      rw [List.flatMap_cons, List.append_assoc, List.singleton_append, decodeValues_row, ih,
        Nat.zero_add, ZMod.natCast_zmod_val]

open Classical in
/-- A proof is an assignment, and verifies if it satisfies the circuit with the
public inputs. A key is the number of keys of its circuit. -/
noncomputable def idealSnark :
    SnarkLib p Bt Unit UInt64 UInt64 UInt64 Empty (List (FieldElement p)) Empty where
  getG1CommitterKey := .ok (some ())
  commKeyLen _ := 1024
  getIndexInfo circ := pure circ.maxPks
  computeProofVkSize _ _ zk _ := pure (if zk then 3000 else 2000, 1000)
  checkProofVkSize _ _ zk _ maxProofSize maxVkSize :=
    .ok (decide ((if zk then 3000 else 2000) ≤ maxProofSize ∧ 1000 ≤ maxVkSize))
  circuitSpecificSetup _ index := pure (index, index)
  indexInfo
    | .darlin e => e.elim
    | .coboundaryMarlin maxPks => maxPks
  writeToFile key path _ :=
    Program.update fun fs other => if other = path then some (encode key) else fs other
  encode key _ := encode key
  tag byte := if byte = 2 then some .coboundaryMarlin else none
  deserializePk bytes _ _ := .ok (.coboundaryMarlin (UInt64.ofNat (bytes.length - 1)))
  deserializeVk bytes _ _ := .ok (.coboundaryMarlin (UInt64.ofNat (bytes.length - 1)))
  prove _ _ c _ :=
    match Lib.prove (gadgets P) .assignmentMissing c.generateConstraints with
    | .ok (_, .ok vals) => .ok vals
    | _ => .error (.library "unassigned variables")
  serializeProof vals _ := .ok (2 :: encodeValues vals)
  deserializeProof bytes _ _ := .ok (.coboundaryMarlin (decodeValues (bytes.drop 1) 0))
  verifyZendooProof ins proof vk :=
    match proof, vk with
    | .coboundaryMarlin vals, .coboundaryMarlin maxPks =>
        .ok (decide (Sat (gadgets P) (assignmentOf vals)
            (circuitSteps (FieldElement p) maxPks.toNat (logMaxPks maxPks + 1)) ∧
          circuitInputs ins = .ok (publicInputs (assignmentOf vals)
            (circuitSteps (FieldElement p) maxPks.toNat (logMaxPks maxPks + 1)))))
    | .darlin e, _ => e.elim
    | _, .darlin e => e.elim
where
  /-- A key as its tag and as many zeros. -/
  encode : KeyFile UInt64 UInt64 → List UInt8
    | .prover maxPks => 2 :: List.replicate maxPks.toNat 0
    | .verifier maxPks => 2 :: List.replicate maxPks.toNat 0

/-- The assignment of a proof is the proof. -/
def idealExtract (_ : CertificateProofUserInputs p Bt)
    (proof : ZendooProof (List (FieldElement p)) Empty) (_ : UInt64) : Wire → FieldElement p :=
  match proof with
  | .coboundaryMarlin vals => assignmentOf vals
  | .darlin e => e.elim

theorem idealSnark_writeLaws : WriteLaws (idealSnark P circuitInputs).setupLib where
  written key path compress fs fs' h := by
    cases h
    exact if_pos rfl
  unchanged key path compress fs fs' e h := by cases h
  frame key path compress fs other hother := if_neg hother

theorem idealSnark_readsBack [NeZero p] : (idealSnark P circuitInputs).ReadsBack where
  prover ck index pk vk hkeys check compress := by
    show Except.ok (ZendooKey.coboundaryMarlin (UInt64.ofNat
      ((2 :: List.replicate pk.toNat (0 : UInt8)).length - 1))) = _
    rw [List.length_cons, List.length_replicate, Nat.add_sub_cancel, UInt64.ofNat_toNat]
  verifier ck index pk vk hkeys check compress := by
    show Except.ok (ZendooVerifierKey.coboundaryMarlin (UInt64.ofNat
      ((2 :: List.replicate vk.toNat (0 : UInt8)).length - 1))) = _
    rw [List.length_cons, List.length_replicate, Nat.add_sub_cancel, UInt64.ofNat_toNat]
  vkTag vk compress := ⟨2, List.replicate vk.toNat 0, rfl, rfl⟩
  proof pk ck c zk proof hproof compress := by
    refine ⟨2, encodeValues proof, rfl, rfl, ?_⟩
    intro check
    show Except.ok (ZendooProof.coboundaryMarlin (decodeValues (encodeValues proof) 0)) = _
    rw [decodeValues_encodeValues]

theorem idealSnark_tagsProverKeys : (idealSnark P circuitInputs).TagsProverKeys :=
  fun pk _ => ⟨2, List.replicate pk.toNat 0, rfl, rfl⟩

theorem idealSnark_verify {ins : CertificateProofUserInputs p Bt} {vals : List (FieldElement p)}
    {maxPks : UInt64} :
    (idealSnark P circuitInputs).verifyZendooProof ins (.coboundaryMarlin vals)
        (.coboundaryMarlin maxPks) = .ok true ↔
      Sat (gadgets P) (assignmentOf vals)
          (circuitSteps (FieldElement p) maxPks.toNat (logMaxPks maxPks + 1)) ∧
        circuitInputs ins = .ok (publicInputs (assignmentOf vals)
          (circuitSteps (FieldElement p) maxPks.toNat (logMaxPks maxPks + 1))) := by
  unfold idealSnark
  simp only [Except.ok.injEq, decide_eq_true_eq]

theorem idealSnark_complete : (idealSnark P circuitInputs).Complete P circuitInputs := by
  intro circ c S ck index pk vk vals zk hS hindex hkeys hprove hsat
  obtain ⟨-, rfl⟩ := setup_generateConstraints_ok hS
  cases pure_injective hindex
  cases pure_injective hkeys
  refine ⟨vals, ?_, ?_⟩
  · show (match Lib.prove (gadgets P) .assignmentMissing c.generateConstraints with
      | .ok (_, .ok vals) => Except.ok vals
      | _ => .error (Error.library "unassigned variables")) = _
    rw [hprove]
  · intro ins hins
    exact (idealSnark_verify P circuitInputs).mpr ⟨hsat, hins⟩

theorem idealSnark_extracts (ins : CertificateProofUserInputs p Bt)
    (proof : ZendooProof (List (FieldElement p)) Empty) :
    (idealSnark P circuitInputs).Extracts P circuitInputs idealExtract ins proof := by
  intro circ S ck index pk vk hS hindex hkeys hverified
  obtain ⟨-, rfl⟩ := setup_generateConstraints_ok hS
  cases pure_injective hindex
  cases pure_injective hkeys
  cases proof with
  | darlin e => exact e.elim
  | coboundaryMarlin vals => exact (idealSnark_verify P circuitInputs).mp hverified

theorem idealSnark_checksSizes : (idealSnark P circuitInputs).ChecksSizes where
  index := fun _ _ _ _ _ _ _ _ => rfl
  check := fun _ _ _ _ => ⟨_, _, rfl, fun _ _ => rfl⟩

end Ideal

end ZendooSc
