/-
ZendooSc.Api.KeyGeneration — generating and saving the two keys of a circuit.

`generate_circuit_keypair` sets a circuit up and writes the proving key and
then the verification key, each to its own file. It can fail at eight places:
the committer key is not loaded, the proving system is undefined or not
implemented, the circuit does not index, its proofs or its key would be too
large, the setup fails, or one of the two writes does.

The file system is a state here, so that what a failed call leaves behind can
be said. Everything up to the first write leaves it alone. Nothing undoes the
first write when the second fails, and then the proving key is from the new
setup and the verification key is whatever the second path held before
(`generateCircuitKeypair_cases`). That is the only way for the two paths to
hold keys of different setups: a pair of keys from one setup stays such a pair
over any sequence of calls whose second write does not fail
(`setupAll_keysMatch`).
-/
import ZendooSc.Api.ProvingSystemTypes
import ZendooSc.Circuit.NaiveThresholdSig
import ZendooSc.Lib.Program

namespace ZendooSc

open Lib

/-! ## Parameters -/

/-- A file system, as far as the keys are concerned: what each path holds. -/
abbrev Fs := String → Option (List UInt8)

/-- Why a call did not return. -/
inductive Stop where
  | error (e : Error)
  | panic (e : Panic)
  deriving DecidableEq, Repr

/-- A call that may write files. -/
abbrev FileCall (α : Type) := Program Fs Stop α

/-- A call that writes nothing, among those that may. -/
def fromCall {α : Type} (c : Call α) : FileCall α :=
  Program.lift <|
    match c with
    | .error e => .error (.panic e)
    | .ok (.error e) => .error (.error e)
    | .ok (.ok a) => .ok a

/-- `ZendooProverKey` and `ZendooVerifierKey`, as `write_to_file` takes them. -/
inductive KeyFile (Pk Vk : Type) where
  | prover (key : Pk)
  | verifier (key : Vk)

/-- What key generation uses of ginger-lib and cctp-lib. -/
structure SetupLib (Circ Ck Index Pk Vk : Type) where
  getG1CommitterKey : Call (Option Ck)
  /-- `comm_key.len()`. -/
  commKeyLen : Ck → UInt64
  getIndexInfo : Circ → Call Index
  /-- The sizes of a proof and of the verification key. -/
  computeProofVkSize : UInt64 → Index → Bool → ProvingSystem → Call (UInt64 × UInt64)
  circuitSpecificSetup : Ck → Index → Call (Pk × Vk)
  writeToFile : KeyFile Pk Vk → String → Option Bool → FileCall Unit
  /-- The bytes `write_to_file` writes. -/
  encode : KeyFile Pk Vk → Option Bool → List UInt8

/-- What is documented of `write_to_file`. -/
structure WriteLaws {Circ Ck Index Pk Vk : Type} (S : SetupLib Circ Ck Index Pk Vk) : Prop where
  /-- A write that returns has written the encoding. -/
  written : ∀ key path compress fs fs',
    (S.writeToFile key path compress).exec fs = (.ok (), fs') →
      fs' path = some (S.encode key compress)
  /-- A write that does not leaves its path alone. -/
  unchanged : ∀ key path compress fs fs' e,
    (S.writeToFile key path compress).exec fs = (.error e, fs') → fs' path = fs path
  /-- No write touches another path. -/
  frame : ∀ key path compress fs other, other ≠ path →
    ((S.writeToFile key path compress).exec fs).2 other = fs other

/-! ## The model -/

section Model

variable {Circ Ck Index Pk Vk : Type} (S : SetupLib Circ Ck Index Pk Vk)

/-- The text of `SetupFailed`. -/
def tooComplex (maxProofSize proofSize maxVkSize vkSize : UInt64) : String :=
  s!"Circuit is too complex: Max supported proof size: {maxProofSize}, " ++
  s!"Actual proof size: {proofSize} Max supported vk size: {maxVkSize}, " ++
  s!"Actual vk size: {vkSize}"

/-- `g1_ck.as_ref().unwrap()`. -/
def unwrapCk (g1Ck : Option Ck) : Call Ck :=
  match g1Ck with
  | some ck => pure ck
  | none => panicWith .unwrapNone

/-- The two bounds a key generation is given. -/
structure SizeBounds where
  maxProofSize : UInt64
  maxVkSize : UInt64

/-- The part of `generate_circuit_keypair` before the files are written: index
the circuit, check the sizes, run the setup. -/
def setupKeys (circ : Circ) (provingSystem : ProvingSystem) (bounds : SizeBounds) (zk : Bool) :
    Call (Pk × Vk) := do
  let g1Ck ← S.getG1CommitterKey
  match provingSystem with
  | .undefined => fromResult (.error .undefinedProvingSystem)
  | .coboundaryMarlin => do
      let index ← S.getIndexInfo circ
      let ck ← unwrapCk g1Ck
      let (proofSize, vkSize) ←
        S.computeProofVkSize (nextPowerOfTwo (S.commKeyLen ck)) index zk provingSystem
      if proofSize > bounds.maxProofSize ∨ vkSize > bounds.maxVkSize then
        fromResult (.error (.setupFailed
          (tooComplex bounds.maxProofSize proofSize bounds.maxVkSize vkSize)))
      else
        S.circuitSpecificSetup ck index
  | .darlin => panicWith .unimplemented

/-- Where the two keys go, and in which form. -/
structure KeyPaths where
  pkPath : String
  vkPath : String
  compressPk : Option Bool
  compressVk : Option Bool

/-- `generate_circuit_keypair`. -/
def generateCircuitKeypair (circ : Circ) (provingSystem : ProvingSystem) (paths : KeyPaths)
    (bounds : SizeBounds) (zk : Bool) : FileCall Unit := do
  let (pk, vk) ← fromCall (setupKeys S circ provingSystem bounds zk)
  S.writeToFile (.prover pk) paths.pkPath paths.compressPk
  S.writeToFile (.verifier vk) paths.vkPath paths.compressVk

end Model

/-- The arguments of `NaiveThresholdSigProof.setup`. -/
structure SetupArgs where
  psType : Option ProvingSystemType
  maxPks : Int64
  provingKeyPath : Option JavaString
  verificationKeyPath : Option JavaString
  zk : Bool
  maxProofSize : Int32
  maxVkSize : Int32
  compressPk : Bool
  compressVk : Bool

/-- A `jint` as `usize`: sign extended. -/
def jintAsUsize (n : Int32) : UInt64 := n.toInt64.toUInt64

/-- The first part of `nativeSetup`: the proving system and the two paths. -/
def readSetupArgs (args : SetupArgs) : Except Panic (ProvingSystem × KeyPaths) := do
  let provingSystem ← getProvingSystemType args.psType
  let provingKeyPath ← getString args.provingKeyPath
  let verificationKeyPath ← getString args.verificationKeyPath
  pure (provingSystem,
    { pkPath := provingKeyPath
      vkPath := verificationKeyPath
      compressPk := some args.compressPk
      compressVk := some args.compressVk })

/-- `NaiveThresholdSigProof_nativeSetup`, with the file system it leaves. -/
def nativeSetup {F Ck Index Pk Vk : Type} (S : SetupLib (NaiveTresholdSignature F) Ck Index Pk Vk)
    (args : SetupArgs) (fs : Fs) : JavaResult Bool × Fs :=
  match readSetupArgs args with
  | .error e => (ffiExport (.error e), fs)
  | .ok (provingSystem, paths) =>
      let circ := getInstanceForSetup F args.maxPks.toUInt64
      let bounds := ⟨jintAsUsize args.maxProofSize, jintAsUsize args.maxVkSize⟩
      match (generateCircuitKeypair S circ provingSystem paths bounds args.zk).exec fs with
      | (.ok (), fs') => (.returned true, fs')
      | (.error (.error _), fs') => (.returned false, fs')
      | (.error (.panic e), fs') => (ffiExport (.error e), fs')

/-! ## Setup -/

section Theorems

variable {Circ Ck Index Pk Vk : Type} {S : SetupLib Circ Ck Index Pk Vk}
variable {circ : Circ} {ps : ProvingSystem} {paths : KeyPaths} {bounds : SizeBounds} {zk : Bool}
variable {fs fs' : Fs}

/-- The keys are the two halves of one setup, of a circuit within the bounds. -/
structure SetupWithin (S : SetupLib Circ Ck Index Pk Vk) (circ : Circ) (ps : ProvingSystem)
    (bounds : SizeBounds) (zk : Bool) (pk : Pk) (vk : Vk) : Prop where
  setup : ∃ ck index proofSize vkSize,
    S.getG1CommitterKey = pure (some ck)
    ∧ S.getIndexInfo circ = pure index
    ∧ S.computeProofVkSize (nextPowerOfTwo (S.commKeyLen ck)) index zk ps
      = pure (proofSize, vkSize)
    ∧ proofSize ≤ bounds.maxProofSize
    ∧ vkSize ≤ bounds.maxVkSize
    ∧ S.circuitSpecificSetup ck index = pure (pk, vk)
  supported : ps = .coboundaryMarlin

theorem setupKeys_eq_pure {pk : Pk} {vk : Vk}
    (h : setupKeys S circ ps bounds zk = pure (pk, vk)) :
    SetupWithin S circ ps bounds zk pk vk := by
  unfold setupKeys at h
  obtain ⟨g1Ck, hck, hmatch⟩ := bind_eq_pure h
  cases ps with
  | undefined => cases fromResult_eq_pure hmatch
  | darlin => cases hmatch
  | coboundaryMarlin =>
      obtain ⟨index, hindex, hrest⟩ := bind_eq_pure hmatch
      rcases g1Ck with _ | ck
      · cases hrest
      · simp only [unwrapCk, pure_bind] at hrest
        obtain ⟨⟨proofSize, vkSize⟩, hsize, hcheck⟩ := bind_eq_pure hrest
        by_cases hbig : proofSize > bounds.maxProofSize ∨ vkSize > bounds.maxVkSize
        · simp only [if_pos hbig] at hcheck
          cases fromResult_eq_pure hcheck
        · simp only [if_neg hbig] at hcheck
          rw [not_or, UInt64.not_lt, UInt64.not_lt] at hbig
          obtain ⟨hproof, hvk⟩ := hbig
          exact ⟨⟨ck, index, proofSize, vkSize, hck, hindex, hsize, hproof, hvk, hcheck⟩, rfl⟩

/-! ## What a call does to the files -/

/-- The first file is written and the second is not. -/
def VkWriteFails (S : SetupLib Circ Ck Index Pk Vk) (circ : Circ) (ps : ProvingSystem)
    (paths : KeyPaths) (bounds : SizeBounds) (zk : Bool) (fs : Fs) : Prop :=
  ∃ pk vk e fs₁ fs₂, setupKeys S circ ps bounds zk = pure (pk, vk)
    ∧ (S.writeToFile (.prover pk) paths.pkPath paths.compressPk).exec fs = (.ok (), fs₁)
    ∧ (S.writeToFile (.verifier vk) paths.vkPath paths.compressVk).exec fs₁ = (.error e, fs₂)

/-- The two paths hold these two keys. -/
structure HoldsKeys (S : SetupLib Circ Ck Index Pk Vk) (paths : KeyPaths) (fs : Fs) (pk : Pk)
    (vk : Vk) : Prop where
  prover : fs paths.pkPath = some (S.encode (.prover pk) paths.compressPk)
  verifier : fs paths.vkPath = some (S.encode (.verifier vk) paths.compressVk)

/-- Everything a call can do: stop before the first write, or at it, or at the
second, or return. -/
theorem generateCircuitKeypair_cases {out : Except Stop Unit}
    (h : (generateCircuitKeypair S circ ps paths bounds zk).exec fs = (out, fs')) :
    (∃ e, out = .error e ∧ fs' = fs)
    ∨ ∃ pk vk fs₁, setupKeys S circ ps bounds zk = pure (pk, vk)
      ∧ ((∃ e, out = .error e
          ∧ (S.writeToFile (.prover pk) paths.pkPath paths.compressPk).exec fs = (.error e, fs'))
        ∨ ((S.writeToFile (.prover pk) paths.pkPath paths.compressPk).exec fs = (.ok (), fs₁)
          ∧ (S.writeToFile (.verifier vk) paths.vkPath paths.compressVk).exec fs₁
            = (out, fs'))) := by
  unfold generateCircuitKeypair fromCall at h
  rw [Program.exec_lift_bind] at h
  rcases hs : setupKeys S circ ps bounds zk with e | e | ⟨pk, vk⟩
  · rw [hs] at h
    cases h
    exact .inl ⟨_, rfl, rfl⟩
  · rw [hs] at h
    cases h
    exact .inl ⟨_, rfl, rfl⟩
  · rw [hs] at h
    simp only [] at h
    refine .inr ⟨pk, vk, ?_⟩
    rcases hw : (S.writeToFile (.prover pk) paths.pkPath paths.compressPk).exec fs with
      ⟨e | u, fs₁⟩
    · rw [Program.exec_bind_error hw] at h
      cases h
      exact ⟨fs, rfl, .inl ⟨e, rfl, rfl⟩⟩
    · rw [Program.exec_bind_ok hw] at h
      exact ⟨fs₁, rfl, .inr ⟨rfl, h⟩⟩

variable (hlaws : WriteLaws S) (hpaths : paths.pkPath ≠ paths.vkPath)

include hlaws hpaths

/-- A call that returns leaves a pair of keys of one setup. -/
theorem generateCircuitKeypair_ok
    (h : (generateCircuitKeypair S circ ps paths bounds zk).exec fs = (.ok (), fs')) :
    ∃ pk vk, SetupWithin S circ ps bounds zk pk vk ∧ HoldsKeys S paths fs' pk vk := by
  rcases generateCircuitKeypair_cases h with ⟨e, he, -⟩ | ⟨pk, vk, fs₁, hs, hw⟩
  · cases he
  · rcases hw with ⟨e, he, -⟩ | ⟨hpk, hvk⟩
    · cases he
    · have hframe := hlaws.frame (.verifier vk) paths.vkPath paths.compressVk fs₁ _ hpaths
      rw [hvk] at hframe
      exact ⟨pk, vk, setupKeys_eq_pure hs,
        ⟨hframe.trans (hlaws.written _ _ _ _ _ hpk), hlaws.written _ _ _ _ _ hvk⟩⟩

/-- A call that does not return leaves both paths alone, unless the second
write is what failed. -/
theorem generateCircuitKeypair_error {e : Stop}
    (h : (generateCircuitKeypair S circ ps paths bounds zk).exec fs = (.error e, fs'))
    (hfirst : ¬ VkWriteFails S circ ps paths bounds zk fs) :
    fs' paths.pkPath = fs paths.pkPath ∧ fs' paths.vkPath = fs paths.vkPath := by
  rcases generateCircuitKeypair_cases h with ⟨_, -, rfl⟩ | ⟨pk, vk, fs₁, hs, hw⟩
  · exact ⟨rfl, rfl⟩
  · rcases hw with ⟨e', -, hpk⟩ | ⟨hpk, hvk⟩
    · have hframe := hlaws.frame (.prover pk) paths.pkPath paths.compressPk fs _ hpaths.symm
      rw [hpk] at hframe
      exact ⟨hlaws.unchanged _ _ _ _ _ _ hpk, hframe⟩
    · exact absurd ⟨pk, vk, e, fs₁, fs', hs, hpk, hvk⟩ hfirst

/-- If the second write fails, the first one stands. -/
theorem generateCircuitKeypair_vkWriteFails (hfails : VkWriteFails S circ ps paths bounds zk fs) :
    ∃ e fs' pk vk, (generateCircuitKeypair S circ ps paths bounds zk).exec fs = (.error e, fs')
      ∧ SetupWithin S circ ps bounds zk pk vk
      ∧ fs' paths.pkPath = some (S.encode (.prover pk) paths.compressPk)
      ∧ fs' paths.vkPath = fs paths.vkPath := by
  obtain ⟨pk, vk, e, fs₁, fs₂, hs, hpk, hvk⟩ := hfails
  have hrun : (generateCircuitKeypair S circ ps paths bounds zk).exec fs = (.error e, fs₂) := by
    unfold generateCircuitKeypair fromCall
    rw [Program.exec_lift_bind, hs]
    exact (Program.exec_bind_ok hpk).trans hvk
  have hpkFrame := hlaws.frame (.verifier vk) paths.vkPath paths.compressVk fs₁ _ hpaths
  have hvkFrame := hlaws.frame (.prover pk) paths.pkPath paths.compressPk fs _ hpaths.symm
  rw [hvk] at hpkFrame
  rw [hpk] at hvkFrame
  refine ⟨e, fs₂, pk, vk, hrun, setupKeys_eq_pure hs, ?_, ?_⟩
  · exact hpkFrame.trans (hlaws.written _ _ _ _ _ hpk)
  · exact (hlaws.unchanged _ _ _ _ _ _ hvk).trans hvkFrame

/-- Key generation on disk: a pair of keys of one setup, or no change, or a
proving key without its verification key. -/
theorem keypair_files (fs : Fs) :
    (∀ fs', (generateCircuitKeypair S circ ps paths bounds zk).exec fs = (.ok (), fs') →
      ∃ pk vk, SetupWithin S circ ps bounds zk pk vk ∧ HoldsKeys S paths fs' pk vk)
    ∧ (∀ e fs', (generateCircuitKeypair S circ ps paths bounds zk).exec fs = (.error e, fs') →
      ¬ VkWriteFails S circ ps paths bounds zk fs →
      fs' paths.pkPath = fs paths.pkPath ∧ fs' paths.vkPath = fs paths.vkPath)
    ∧ (VkWriteFails S circ ps paths bounds zk fs →
      ∃ e fs' pk vk, (generateCircuitKeypair S circ ps paths bounds zk).exec fs = (.error e, fs')
        ∧ SetupWithin S circ ps bounds zk pk vk
        ∧ fs' paths.pkPath = some (S.encode (.prover pk) paths.compressPk)
        ∧ fs' paths.vkPath = fs paths.vkPath) := by
  refine ⟨?_, ?_, ?_⟩
  · intro fs' h
    exact generateCircuitKeypair_ok hlaws hpaths h
  · intro e fs' h hfirst
    exact generateCircuitKeypair_error hlaws hpaths h hfirst
  · intro hfails
    exact generateCircuitKeypair_vkWriteFails hlaws hpaths hfails

end Theorems

/-! ## Every run of calls -/

section Runs

variable {Circ Ck Index Pk Vk : Type} {S : SetupLib Circ Ck Index Pk Vk}
variable {pkPath vkPath : String} {fs : Fs}

/-- The two files hold the two halves of one setup. -/
def KeysMatch (S : SetupLib Circ Ck Index Pk Vk) (pkPath vkPath : String) (fs : Fs) : Prop :=
  ∃ ck index pk vk compressPk compressVk,
    S.circuitSpecificSetup ck index = pure (pk, vk)
    ∧ fs pkPath = some (S.encode (.prover pk) compressPk)
    ∧ fs vkPath = some (S.encode (.verifier vk) compressVk)

/-- A call of `generate_circuit_keypair`, apart from the paths. -/
structure SetupCall (Circ : Type) where
  circ : Circ
  provingSystem : ProvingSystem
  bounds : SizeBounds
  zk : Bool
  compressPk : Option Bool
  compressVk : Option Bool

def SetupCall.paths (c : SetupCall Circ) (pkPath vkPath : String) : KeyPaths :=
  ⟨pkPath, vkPath, c.compressPk, c.compressVk⟩

/-- The files after one call, whatever came of it. -/
def setupStep (S : SetupLib Circ Ck Index Pk Vk) (pkPath vkPath : String) (fs : Fs)
    (c : SetupCall Circ) : Fs :=
  ((generateCircuitKeypair S c.circ c.provingSystem (c.paths pkPath vkPath) c.bounds
    c.zk).exec fs).2

/-- The files after a sequence of calls. -/
def setupAll (S : SetupLib Circ Ck Index Pk Vk) (pkPath vkPath : String) (fs : Fs)
    (calls : List (SetupCall Circ)) : Fs :=
  calls.foldl (setupStep S pkPath vkPath) fs

/-- No call of the sequence fails at its second write. -/
def VkWritesSucceed (S : SetupLib Circ Ck Index Pk Vk) (pkPath vkPath : String) (fs : Fs) :
    List (SetupCall Circ) → Prop
  | [] => True
  | c :: calls =>
      ¬ VkWriteFails S c.circ c.provingSystem (c.paths pkPath vkPath) c.bounds c.zk fs
        ∧ VkWritesSucceed S pkPath vkPath (setupStep S pkPath vkPath fs c) calls

/-- The two files are what they were. -/
def FilesKept (pkPath vkPath : String) (fs fs' : Fs) : Prop :=
  fs' pkPath = fs pkPath ∧ fs' vkPath = fs vkPath

theorem KeysMatch.of_kept {fs' : Fs} (hmatch : KeysMatch S pkPath vkPath fs)
    (hkept : FilesKept pkPath vkPath fs fs') : KeysMatch S pkPath vkPath fs' := by
  obtain ⟨ck, index, pk, vk, compressPk, compressVk, hsetup, hpk, hvk⟩ := hmatch
  exact ⟨ck, index, pk, vk, compressPk, compressVk, hsetup, hkept.1.trans hpk,
    hkept.2.trans hvk⟩

theorem setupStep_keysMatch (hlaws : WriteLaws S) (hpaths : pkPath ≠ vkPath)
    (c : SetupCall Circ)
    (hsucceeds : ¬ VkWriteFails S c.circ c.provingSystem (c.paths pkPath vkPath) c.bounds c.zk
      fs) :
    KeysMatch S pkPath vkPath (setupStep S pkPath vkPath fs c) ∨
      FilesKept pkPath vkPath fs (setupStep S pkPath vkPath fs c) := by
  unfold setupStep
  rcases hrun : (generateCircuitKeypair S c.circ c.provingSystem (c.paths pkPath vkPath)
    c.bounds c.zk).exec fs with ⟨e | u, fs'⟩
  · have hpaths' : (c.paths pkPath vkPath).pkPath ≠ (c.paths pkPath vkPath).vkPath := hpaths
    exact .inr (generateCircuitKeypair_error hlaws hpaths' hrun hsucceeds)
  · obtain ⟨pk, vk, hwithin, hholds⟩ := generateCircuitKeypair_ok hlaws hpaths hrun
    obtain ⟨ck, index, -, -, -, -, -, -, -, hsetup⟩ := hwithin.setup
    exact .inl ⟨ck, index, pk, vk, c.compressPk, c.compressVk, hsetup, hholds.prover,
      hholds.verifier⟩

/-- After every sequence of calls none of which fails at its second write the two
files hold the two keys of one setup, or what they held before. -/
theorem setupAll_keysMatch (hlaws : WriteLaws S) (hpaths : pkPath ≠ vkPath)
    (calls : List (SetupCall Circ)) (hsucceed : VkWritesSucceed S pkPath vkPath fs calls) :
    KeysMatch S pkPath vkPath (setupAll S pkPath vkPath fs calls) ∨
      FilesKept pkPath vkPath fs (setupAll S pkPath vkPath fs calls) := by
  unfold setupAll
  induction calls generalizing fs with
  | nil => exact .inr ⟨rfl, rfl⟩
  | cons c calls ih =>
      obtain ⟨hc, hrest⟩ := hsucceed
      rcases ih hrest with hmatch | hkept
      · exact .inl hmatch
      · rcases setupStep_keysMatch hlaws hpaths c hc with hmatch | hkept'
        · exact .inl (hmatch.of_kept hkept)
        · exact .inr ⟨hkept.1.trans hkept'.1, hkept.2.trans hkept'.2⟩

end Runs

theorem readSetupArgs_paths {args : SetupArgs} {ps : ProvingSystem} {paths : KeyPaths}
    (h : readSetupArgs args = .ok (ps, paths)) :
    getString args.provingKeyPath = .ok paths.pkPath ∧
      getString args.verificationKeyPath = .ok paths.vkPath := by
  unfold readSetupArgs at h
  rcases hps : getProvingSystemType args.psType with e | ps'
  · rw [hps] at h
    cases h
  · rw [hps] at h
    rcases hpk : getString args.provingKeyPath with e | pkPath
    · rw [hpk] at h
      cases h
    · rcases hvk : getString args.verificationKeyPath with e | vkPath
      · rw [hpk, hvk] at h
        cases h
      · rw [hpk, hvk] at h
        cases h
        exact ⟨rfl, rfl⟩

/-! ## A full disk -/

/-- A file system on which everything works, except writes to a path in
`full`. The two keys of a setup are the number of the setup. -/
def diskLib (full : String → Bool) : SetupLib Unit UInt8 Unit UInt8 UInt8 where
  getG1CommitterKey := pure (some 7)
  commKeyLen _ := 1024
  getIndexInfo _ := pure ()
  computeProofVkSize _ _ _ _ := pure (3000, 2000)
  circuitSpecificSetup ck _ := pure (ck, ck)
  writeToFile key path _ :=
    if full path then
      Program.stop (.error (.library "no space left on device"))
    else
      Program.update fun fs other =>
        if other = path then
          some (match key with
            | .prover n => [2, 0, n]
            | .verifier n => [2, 1, n])
        else fs other
  encode key _ :=
    match key with
    | .prover n => [2, 0, n]
    | .verifier n => [2, 1, n]

theorem diskLib_writeLaws (full : String → Bool) : WriteLaws (diskLib full) where
  written key path compress fs fs' h := by
    by_cases hfull : full path = true
    · simp only [diskLib, if_pos hfull, Program.exec_stop] at h
      cases h
    · simp only [diskLib, if_neg hfull, Program.exec_update] at h
      cases h
      simp [diskLib]
  unchanged key path compress fs fs' e h := by
    by_cases hfull : full path = true
    · simp only [diskLib, if_pos hfull, Program.exec_stop] at h
      cases h
      rfl
    · simp only [diskLib, if_neg hfull, Program.exec_update] at h
      cases h
  frame key path compress fs other hother := by
    by_cases hfull : full path = true
    · simp only [diskLib, if_pos hfull, Program.exec_stop]
    · simp only [diskLib, if_neg hfull, Program.exec_update, if_neg hother]

def keyPaths : KeyPaths := ⟨"snark_pk", "snark_vk", some true, some true⟩

/-- The keys of an earlier setup. -/
def earlierKeys : Fs := fun path =>
  if path = "snark_pk" then some [2, 0, 1]
  else if path = "snark_vk" then some [2, 1, 1]
  else none

/-- The disk fills up between the two writes: the new proving key has replaced
the earlier one, whose verification key is still there. -/
theorem keypair_files_counterexample :
    WriteLaws (diskLib (· == "snark_vk"))
    ∧ keyPaths.pkPath ≠ keyPaths.vkPath
    ∧ ((generateCircuitKeypair (diskLib (· == "snark_vk")) () .coboundaryMarlin keyPaths
        ⟨4000, 4000⟩ true).exec earlierKeys).1
      = .error (.error (.library "no space left on device"))
    ∧ ((generateCircuitKeypair (diskLib (· == "snark_vk")) () .coboundaryMarlin keyPaths
        ⟨4000, 4000⟩ true).exec earlierKeys).2 "snark_pk" = some [2, 0, 7]
    ∧ earlierKeys "snark_pk" = some [2, 0, 1] :=
  ⟨diskLib_writeLaws _, by decide, rfl, rfl, rfl⟩

/-- The three cases are met: a setup that succeeds, one whose bound on the
proof is too small, and one whose second write fails. -/
theorem keypair_files_disk :
    (∃ pk vk, SetupWithin (diskLib fun _ => false) () .coboundaryMarlin ⟨4000, 4000⟩ true pk vk
      ∧ HoldsKeys (diskLib fun _ => false) keyPaths
        ((generateCircuitKeypair (diskLib fun _ => false) () .coboundaryMarlin keyPaths
          ⟨4000, 4000⟩ true).exec earlierKeys).2 pk vk)
    ∧ ((generateCircuitKeypair (diskLib fun _ => false) () .coboundaryMarlin keyPaths
        ⟨1, 4000⟩ true).exec earlierKeys).2 "snark_pk" = some [2, 0, 1]
    ∧ ∃ e fs' pk vk, (generateCircuitKeypair (diskLib (· == "snark_vk")) () .coboundaryMarlin
          keyPaths ⟨4000, 4000⟩ true).exec earlierKeys = (.error e, fs')
        ∧ SetupWithin (diskLib (· == "snark_vk")) () .coboundaryMarlin ⟨4000, 4000⟩ true pk vk
        ∧ fs' "snark_pk" = some ((diskLib (· == "snark_vk")).encode (.prover pk) (some true))
        ∧ fs' "snark_vk" = earlierKeys "snark_vk" := by
  have hne : keyPaths.pkPath ≠ keyPaths.vkPath := by decide
  refine ⟨?_, ?_, ?_⟩
  · exact (keypair_files (diskLib_writeLaws fun _ => false) hne earlierKeys).1 _ rfl
  · have hfirst : ¬ VkWriteFails (diskLib fun _ => false) () .coboundaryMarlin keyPaths
        ⟨1, 4000⟩ true earlierKeys := by
      rintro ⟨pk, vk, e, fs₁, fs₂, hs, -, -⟩
      cases hs
    exact ((keypair_files (diskLib_writeLaws fun _ => false) hne earlierKeys).2.1 _ _ rfl
      hfirst).1
  · have hfails : VkWriteFails (diskLib (· == "snark_vk")) () .coboundaryMarlin keyPaths
        ⟨4000, 4000⟩ true earlierKeys :=
      ⟨7, 7, _, _, _, rfl, rfl, rfl⟩
    exact (keypair_files (diskLib_writeLaws _) hne earlierKeys).2.2 hfails

/-- A call with these bounds on the two sizes. -/
def boundedCall (maxProofSize maxVkSize : UInt64) : SetupCall Unit :=
  ⟨(), .coboundaryMarlin, ⟨maxProofSize, maxVkSize⟩, true, some true, some true⟩

/-- A setup between two that fail, from a disk without files. -/
theorem setupAll_keysMatch_disk :
    KeysMatch (diskLib fun _ => false) "snark_pk" "snark_vk"
      (setupAll (diskLib fun _ => false) "snark_pk" "snark_vk" (fun _ => none)
        [boundedCall 1 4000, boundedCall 4000 4000, boundedCall 4000 1]) := by
  have hsucceed : VkWritesSucceed (diskLib fun _ => false) "snark_pk" "snark_vk" (fun _ => none)
      [boundedCall 1 4000, boundedCall 4000 4000, boundedCall 4000 1] := by
    refine ⟨?_, ?_, ?_, trivial⟩
    all_goals
      rintro ⟨pk, vk, e, fs₁, fs₂, -, -, hsecond⟩
      cases hsecond
  rcases setupAll_keysMatch (diskLib_writeLaws fun _ => false) (by decide) _ hsucceed with
    hmatch | hkept
  · exact hmatch
  · have hwritten : setupAll (diskLib fun _ => false) "snark_pk" "snark_vk" (fun _ => none)
        [boundedCall 1 4000, boundedCall 4000 4000, boundedCall 4000 1] "snark_pk"
          = some [2, 0, 7] := rfl
    cases hwritten.symm.trans hkept.1

end ZendooSc
