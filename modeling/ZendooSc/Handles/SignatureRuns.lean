/-
ZendooSc.Handles.SignatureRuns — signatures and VRF proofs over whole runs.

A key pair is made, at some later point a message is signed with it, and at some
point after that the signature is verified. In between there may be any
operations on any objects. `signature_verifies` says that the verification
answers true unless one of the three objects it reads was closed after the
signature was made. What was closed before that does not matter, and neither
does the secret key: had one of the objects been closed before, there would be
no signature.

`vrf_output_agrees` is the same for a VRF proof. The output that came with the
proof and the one the public key gives for it are equal.

The two classes of key pairs differ only in the natives they call. `KeyClass`
stands for either, and what is proved of the keys alone is proved once:
`generated_key_valid` says that the key of a generated pair passes the check of
keys at any later time, and that the secret key gives it again.
-/
import ZendooSc.Api.Signatures
import ZendooSc.Handles.PoseidonRefinement
import ZendooSc.Handles.Returns

namespace ZendooSc.Handles

open Lib

variable {V : NativeType → Type} (E : Env V)

/-- The ways to make a key pair whose keys belong together. -/
inductive KeyPairFactory where
  | generate
  | ofSecretKey (secretKey : Ref)

/-- The two classes of key pairs. -/
inductive KeyClass where
  | schnorr
  | vrf

namespace KeyClass

def pair : KeyClass → PairKind
  | schnorr => .schnorrKeyPair
  | vrf => .vrfKeyPair

def secretKey (c : KeyClass) : Kind := c.pair.first

def publicKey (c : KeyClass) : Kind := c.pair.second

/-- The value of a secret key. -/
def secretOf (w : World V) : KeyClass → Ref → Option (V .scalar)
  | schnorr => valueOf w .schnorrSecretKey
  | vrf => valueOf w .vrfSecretKey

/-- The value of a public key. -/
def publicOf (w : World V) : KeyClass → Ref → Option (V .g2)
  | schnorr => valueOf w .schnorrPublicKey
  | vrf => valueOf w .vrfPublicKey

/-- `generate` and the constructor from a secret key. -/
def make : KeyClass → KeyPairFactory → JavaCall V Ref
  | schnorr, .generate => SchnorrKeyPair.generate E
  | schnorr, .ofSecretKey secretKey => SchnorrKeyPair.ofSecretKey E secretKey
  | vrf, .generate => VRFKeyPair.generate E
  | vrf, .ofSecretKey secretKey => VRFKeyPair.ofSecretKey E secretKey

def makeOp : KeyClass → KeyPairFactory → Op
  | schnorr, .generate => .schnorrGenerate
  | schnorr, .ofSecretKey secretKey => .schnorrKeyPairOfSecretKey secretKey
  | vrf, .generate => .vrfGenerate
  | vrf, .ofSecretKey secretKey => .vrfKeyPairOfSecretKey secretKey

/-- `getPublicKey` of the secret key. -/
def getPublicKey : KeyClass → Ref → JavaCall V Ref
  | schnorr => SchnorrSecretKey.getPublicKey E
  | vrf => VRFSecretKey.getPublicKey E

/-- `verifyKey` of the public key. -/
def verifyKey : KeyClass → Ref → JavaCall V Bool
  | schnorr => SchnorrPublicKey.verifyKey E
  | vrf => VRFPublicKey.verifyKey E

/-! The functions of the library behind them. -/

def generateKey : KeyClass → ℕ → Except Panic (V .g2 × V .scalar)
  | schnorr => E.schnorrGenerateKey
  | vrf => E.vrfGenerateKey

def derivePublicKey : KeyClass → V .scalar → Except Panic (V .g2)
  | schnorr => E.schnorrGetPublicKey
  | vrf => E.vrfGetPublicKey

def verifyPublicKey : KeyClass → V .g2 → Except Panic Bool
  | schnorr => E.schnorrVerifyPublicKey
  | vrf => E.vrfVerifyPublicKey

end KeyClass

/-- `SchnorrKeyPair.generate` and the constructor from a secret key. -/
def SchnorrKeyPair.make : KeyPairFactory → JavaCall V Ref := KeyClass.schnorr.make E

def SchnorrKeyPair.makeOp : KeyPairFactory → Op := KeyClass.schnorr.makeOp

/-- `VRFKeyPair.generate` and the constructor from a secret key. -/
def VRFKeyPair.make : KeyPairFactory → JavaCall V Ref := KeyClass.vrf.make E

def VRFKeyPair.makeOp : KeyPairFactory → Op := KeyClass.vrf.makeOp

/-! ## The schemes behind the library -/

/-- The library works with a Schnorr scheme, through the functions of
`cctp_calls.rs`. -/
structure UsesSchnorr {Projective : Type}
    (S : SchnorrScheme (V .fieldElement) (V .scalar) (V .g2) Projective (V .schnorrSig)) :
    Prop where
  generateKey : ∀ random, E.schnorrGenerateKey random = schnorrGenerateKey S random
  getPublicKey : ∀ sk, E.schnorrGetPublicKey sk = schnorrGetPublicKey S sk
  sign : ∀ random msg sk pk, E.schnorrSign random msg sk pk = schnorrSign S random msg sk pk
  verify : ∀ msg pk sig, E.schnorrVerifySignature msg pk sig = schnorrVerifySignature S msg pk sig

/-- The same for a VRF, with the parameters of its group hash. -/
structure UsesVrf {Projective : Type}
    (S : VrfScheme (V .fieldElement) (V .scalar) (V .g2) Projective (V .vrfProof))
    (params : VRFParams Projective) : Prop where
  generateKey : ∀ random, E.vrfGenerateKey random = vrfGenerateKey S random
  getPublicKey : ∀ sk, E.vrfGetPublicKey sk = vrfGetPublicKey S sk
  prove : ∀ random msg sk pk, E.vrfProve random msg sk pk = vrfProve S params random msg sk pk
  proofToHash : ∀ msg pk proof,
    E.vrfProofToHash msg pk proof = vrfProofToHash S params msg pk proof

/-- The key pairs of a class are those of a scheme. -/
structure UsesKeys (c : KeyClass) {Projective : Type}
    (K : KeyScheme (V .scalar) (V .g2) Projective) : Prop where
  generateKey : ∀ random, c.generateKey E random = K.generateKey random
  getPublicKey : ∀ sk, c.derivePublicKey E sk = K.affinePublicKey sk

variable {E}

theorem UsesSchnorr.usesKeys {Projective : Type}
    {S : SchnorrScheme (V .fieldElement) (V .scalar) (V .g2) Projective (V .schnorrSig)}
    (hS : UsesSchnorr E S) : UsesKeys E .schnorr S.toKeyScheme :=
  ⟨hS.generateKey, hS.getPublicKey⟩

theorem UsesVrf.usesKeys {Projective : Type}
    {S : VrfScheme (V .fieldElement) (V .scalar) (V .g2) Projective (V .vrfProof)}
    {params : VRFParams Projective} (hS : UsesVrf E S params) :
    UsesKeys E .vrf S.toKeyScheme :=
  ⟨hS.generateKey, hS.getPublicKey⟩

/-! ## A library to run against -/

/-- Keys, elements, signatures and proofs are numbers. -/
abbrev KeyValue : NativeType → Type
  | .fieldElement | .g2 | .scalar | .schnorrSig | .vrfProof => ℕ
  | _ => Unit

instance (t : NativeType) : Inhabited (KeyValue t) :=
  match t with
  | .fieldElement | .g2 | .scalar | .schnorrSig | .vrfProof => ⟨0⟩
  | .fieldHash | .gingerMHTPath | .gingerMHT | .commitmentTree | .scExistenceProof
  | .scAbsenceProof => ⟨()⟩

/-- The public key is the secret key. -/
def sumKeys : KeyScheme ℕ ℕ ℕ where
  intoAffine := id
  intoProjective := id
  keygen := fun random => .ok (random, random)
  getPublicKey := .ok
  keyverify := fun _ => .ok true

/-- A signature is the sum of key and message. -/
def sumSchnorr : SchnorrScheme ℕ ℕ ℕ ℕ ℕ :=
  { sumKeys with
    sign := fun _ _ sk msg => pure (sk + msg)
    verify := fun pk msg sig => pure (sig == pk + msg) }

/-- So is a proof, and it is its own `gamma`. -/
def sumVrf : VrfScheme ℕ ℕ ℕ ℕ ℕ :=
  { sumKeys with
    prove := fun _ _ _ sk msg => pure (sk + msg)
    proofToHash := fun _ pk msg proof =>
      if proof = pk + msg then pure ([msg, proof, proof].foldl Nat.add 0)
      else fromResult (.error (.library "FailedVerification"))
    gamma := id
    toFieldElements := fun g => some [g, g]
    hash := fun inputs => inputs.foldl Nat.add 0 }

theorem sumSchnorr_laws : SchnorrLaws sumSchnorr where
  affine := fun _ => rfl
  keygen := by
    intro random pk sk hgen
    cases hgen
    rfl
  complete := by
    intro random pk sk msg sig hmatches hsign
    cases hmatches
    cases pure_injective hsign
    show (pure (pk + msg == pk + msg) : Call Bool) = pure true
    rw [beq_self_eq_true]

theorem sumKeys_valid : GeneratesValid sumKeys where
  keyverify := fun _ _ _ _ => rfl

theorem sumVrf_laws (params : VRFParams ℕ) : VrfLaws sumVrf params where
  affine := fun _ => rfl
  keygen := by
    intro random pk sk hgen
    cases hgen
    rfl
  coordinates := fun g => ⟨g, g, rfl⟩
  complete := by
    intro random pk sk msg proof x y hmatches hproof hcoords
    cases hmatches
    cases pure_injective hproof
    cases hcoords
    exact if_pos rfl

/-- The library over these schemes. -/
def keyEnv : Env KeyValue :=
  { defaultLib KeyValue with
    fieldElementFrom := fun value => value.toNat
    schnorrGenerateKey := schnorrGenerateKey sumSchnorr
    schnorrGetPublicKey := schnorrGetPublicKey sumSchnorr
    schnorrVerifyPublicKey := schnorrVerifyPublicKey sumSchnorr
    schnorrSign := schnorrSign sumSchnorr
    schnorrVerifySignature := schnorrVerifySignature sumSchnorr
    vrfGenerateKey := vrfGenerateKey sumVrf
    vrfGetPublicKey := vrfGetPublicKey sumVrf
    vrfVerifyPublicKey := vrfVerifyPublicKey sumVrf
    vrfProve := vrfProve sumVrf ⟨[]⟩
    vrfProofToHash := vrfProofToHash sumVrf ⟨[]⟩
    malloc := fun n => n + 1 }

theorem keyEnv_schnorr : UsesSchnorr keyEnv sumSchnorr where
  generateKey := fun _ => rfl
  getPublicKey := fun _ => rfl
  sign := fun _ _ _ _ => rfl
  verify := fun _ _ _ => rfl

theorem keyEnv_vrf : UsesVrf keyEnv sumVrf ⟨[]⟩ where
  generateKey := fun _ => rfl
  getPublicKey := fun _ => rfl
  prove := fun _ _ _ _ => rfl
  proofToHash := fun _ _ _ => rfl

theorem keyEnv_keys (c : KeyClass) : UsesKeys keyEnv c sumKeys := by
  cases c with
  | _ => exact ⟨fun _ => rfl, fun _ => rfl⟩

/-- Freeing a secret key closes nothing else. -/
theorem not_closedDuring_free {w : World V} {k k' : Kind} {r r' : Ref} (hk : k ≠ k') :
    ¬ ClosedDuring E w [.free k r] (k', r') := by
  refine not_closedDuring E ?_
  intro op hop w hn
  rw [List.mem_singleton.mp hop] at hn
  exact hk (congrArg Prod.fst (List.mem_singleton.mp hn)).symm

/-! ## Key pairs -/

section Keys

variable {w w' : World V} {p : PairKind}
  {generateKey : ℕ → Except Panic (V p.second.nativeType × V p.first.nativeType)}
  {derive : V p.first.nativeType → Except Panic (V p.second.nativeType)}

/-- `getPublicKey`, over the function that computes the key. -/
def getPublicKeyBy (E : Env V) (p : PairKind)
    (derive : V p.first.nativeType → Except Panic (V p.second.nativeType)) (this : Ref) :
    JavaCall V Ref := do
  checkNotFreed p.first this (.illegalState "Secret key was freed.")
  let sk ← reading p.first this
  let pk ← native (derive sk)
  returnObject E p.second pk

/-- `generate` and the constructor, over the functions of the library. -/
def makeBy (E : Env V) (p : PairKind)
    (generateKey : ℕ → Except Panic (V p.second.nativeType × V p.first.nativeType))
    (derive : V p.first.nativeType → Except Panic (V p.second.nativeType)) :
    KeyPairFactory → JavaCall V Ref
  | .generate => do
      let random ← tick
      let (pk, sk) ← native (generateKey random)
      let secretKey ← returnObject E p.first sk
      let publicKey ← returnObject E p.second pk
      newPair p secretKey publicKey
  | .ofSecretKey secretKey => do
      let publicKey ← getPublicKeyBy E p derive secretKey
      newPair p secretKey publicKey

theorem getPublicKeyBy_returned (hw : Owned w) {this r : Ref}
    (h : (getPublicKeyBy E p derive this).exec w = (.ok r, w')) :
    ∃ sk pk, valueOf w p.first this = some sk ∧ derive sk = .ok pk ∧
      valueOf w' p.second r = some pk ∧ KeepsValues w w' := by
  obtain ⟨_, h⟩ := (looks_checkNotFreed _ _ _).returned hw h
  obtain ⟨sk, hsk, h⟩ := reading_returned hw h
  obtain ⟨pk, hkey, h⟩ := native_returned h
  obtain ⟨hpk, hkeeps⟩ := returnObject_returned E h
  exact ⟨sk, pk, hsk, hkey, hpk, hkeeps⟩

theorem getPublicKeyBy_exec {this : Ref} {sk : V p.first.nativeType}
    {pk : V p.second.nativeType} (hsk : valueOf w p.first this = some sk)
    (hkey : derive sk = .ok pk) :
    (getPublicKeyBy E p derive this).exec w = (returnObject E p.second pk).exec w := by
  unfold getPublicKeyBy
  rw [Program.exec_bind_ok (checkNotFreed_exec _ hsk), Program.exec_bind_ok (reading_exec hsk),
    hkey, Program.exec_bind_ok (native_exec pk w)]

/-- The two keys of a new pair belong together. -/
theorem makeBy_returned
    (hderives : ∀ random pk sk, generateKey random = .ok (pk, sk) → derive sk = .ok pk)
    (hw : Owned w) {factory : KeyPairFactory} {r : Ref}
    (h : (makeBy E p generateKey derive factory).exec w = (.ok r, w')) :
    ∃ first second sk pk, partsOf w' p r = some (first, second) ∧
      valueOf w' p.first first = some sk ∧ valueOf w' p.second second = some pk ∧
      derive sk = .ok pk ∧
      (factory = .generate → generateKey w.ticks = .ok (pk, sk)) := by
  cases factory with
  | generate =>
      rw [makeBy, tick_bind_exec] at h
      obtain ⟨⟨pk, sk⟩, hkeys, h⟩ := native_returned h
      obtain ⟨first, second, hparts, hsk, hpk, -⟩ := keyPair_returned E h
      exact ⟨first, second, sk, pk, hparts, hsk, hpk, hderives _ _ _ hkeys, fun _ => hkeys⟩
  | ofSecretKey secretKey =>
      obtain ⟨second, w₁, hpublic, hpair⟩ := Program.exec_bind_returned h
      obtain ⟨sk, pk, hsk, hkey, hpk, hkeeps⟩ := getPublicKeyBy_returned hw hpublic
      cases hpair
      exact ⟨secretKey, second, sk, pk, by simp [partsOf], hkeeps _ _ _ hsk, hpk, hkey, nofun⟩

end Keys

section Generated

variable {Projective : Type} {K : KeyScheme (V .scalar) (V .g2) Projective}

namespace KeyClass

variable {w w' : World V} (c : KeyClass)

theorem make_eq (factory : KeyPairFactory) :
    schnorr.make E factory =
        makeBy E .schnorrKeyPair E.schnorrGenerateKey E.schnorrGetPublicKey factory ∧
      vrf.make E factory = makeBy E .vrfKeyPair E.vrfGenerateKey E.vrfGetPublicKey factory := by
  cases factory with
  | _ => exact ⟨rfl, rfl⟩

theorem step_makeOp (factory : KeyPairFactory) :
    step E (c.makeOp factory) = discard (c.make E factory) := by
  cases c with
  | _ =>
    cases factory with
    | _ => rfl

/-- A generated public key is that of its secret key. -/
theorem derives (hK : UsesKeys E c K) (hlaws : KeyLaws K) (random : ℕ) (pk : V .g2)
    (sk : V .scalar) (h : c.generateKey E random = .ok (pk, sk)) :
    c.derivePublicKey E sk = .ok pk := by
  rw [hK.generateKey] at h
  rw [hK.getPublicKey]
  exact hlaws.generateKey h

theorem make_returned (hK : UsesKeys E c K) (hlaws : KeyLaws K) (hw : Owned w)
    {factory : KeyPairFactory} {pair : Ref} (h : (c.make E factory).exec w = (.ok pair, w')) :
    ∃ first second sk pk, partsOf w' c.pair pair = some (first, second) ∧
      c.secretOf w' first = some sk ∧ c.publicOf w' second = some pk ∧
      c.derivePublicKey E sk = .ok pk ∧
      (factory = .generate → c.generateKey E w.ticks = .ok (pk, sk)) := by
  cases c with
  | schnorr =>
      rw [(make_eq factory).1] at h
      exact makeBy_returned (schnorr.derives hK hlaws) hw h
  | vrf =>
      rw [(make_eq factory).2] at h
      exact makeBy_returned (vrf.derives hK hlaws) hw h

theorem getPublicKey_exec {this : Ref} {sk : V .scalar} {pk : V .g2}
    (hsk : c.secretOf w this = some sk) (hkey : c.derivePublicKey E sk = .ok pk) :
    OutOfMemory E.malloc w ∧ ((c.getPublicKey E this).exec w).1 = .error .abort ∨
      ∃ r w', (c.getPublicKey E this).exec w = (.ok r, w') ∧ c.publicOf w' r = some pk := by
  cases c with
  | schnorr =>
      have hrun : (schnorr.getPublicKey E this).exec w = _ :=
        getPublicKeyBy_exec (p := .schnorrKeyPair) hsk hkey
      rw [hrun]
      exact returnObject_exec E .schnorrPublicKey pk w
  | vrf =>
      have hrun : (vrf.getPublicKey E this).exec w = _ :=
        getPublicKeyBy_exec (p := .vrfKeyPair) hsk hkey
      rw [hrun]
      exact returnObject_exec E .vrfPublicKey pk w

theorem verifyKey_exec {this : Ref} {pk : V .g2} (hpk : c.publicOf w this = some pk) :
    (c.verifyKey E this).exec w = (native (c.verifyPublicKey E pk)).exec w := by
  cases c with
  | _ =>
    show Program.exec (checkNotFreed _ _ _ >>= fun _ => reading _ _ >>= fun _ => _) w = _
    rw [Program.exec_bind_ok (checkNotFreed_exec _ hpk), Program.exec_bind_ok (reading_exec hpk)]
    rfl

theorem secretOf_later (ops : List Op) (hw : Owned w) {r : Ref} {sk : V .scalar}
    (hsk : c.secretOf w r = some sk) :
    c.secretOf (runFrom E w ops) r = some sk ∨
      ClosedDuring E w ops (c.secretKey, r) ∧ c.secretOf (runFrom E w ops) r = none := by
  cases c with
  | _ => exact runFrom_value E ops hw rfl hsk

theorem publicOf_later (ops : List Op) (hw : Owned w) {r : Ref} {pk : V .g2}
    (hpk : c.publicOf w r = some pk) :
    c.publicOf (runFrom E w ops) r = some pk ∨
      ClosedDuring E w ops (c.publicKey, r) ∧ c.publicOf (runFrom E w ops) r = none := by
  cases c with
  | _ => exact runFrom_value E ops hw rfl hpk

/-- The keys of a pair belong together in every later state they are found in. -/
theorem pair_matches (hK : UsesKeys E c K) (hlaws : KeyLaws K)
    (before middle : List Op) {factory : KeyPairFactory} {pair first second : Ref} {sk : V .scalar}
    {pk : V .g2} (hmake : ((c.make E factory).exec (run E before)).1 = .ok pair)
    (hparts : partsOf (run E (before ++ c.makeOp factory :: middle)) c.pair pair =
      some (first, second))
    (hsk : c.secretOf (run E (before ++ c.makeOp factory :: middle)) first = some sk)
    (hpk : c.publicOf (run E (before ++ c.makeOp factory :: middle)) second = some pk) :
    K.Matches sk pk := by
  have hmade := exec_of_outcome E _ (c.step_makeOp factory) hmake
  obtain ⟨first₀, second₀, sk₀, pk₀, hparts₀, hsk₀, hpk₀, hkeys, -⟩ :=
    c.make_returned hK hlaws (run_owned E before) hmade
  have hw := run_owned E (before ++ [c.makeOp factory])
  rw [run_cons, ← run_concat] at hparts hsk hpk
  rw [runFrom_partsOf E middle hw hparts₀] at hparts
  cases hparts
  have hsame : sk₀ = sk := by
    rcases c.secretOf_later middle hw hsk₀ with hlater | ⟨-, hnone⟩
    · exact Option.some.inj (hlater.symm.trans hsk)
    · cases hnone.symm.trans hsk
  have hsame' : pk₀ = pk := by
    rcases c.publicOf_later middle hw hpk₀ with hlater | ⟨-, hnone⟩
    · exact Option.some.inj (hlater.symm.trans hpk)
    · cases hnone.symm.trans hpk
  rw [hK.getPublicKey] at hkeys
  rw [← hsame, ← hsame']
  exact hkeys

end KeyClass

/-- The public key of a generated pair passes the check of keys at any later time,
and so does the key that the secret key gives then, which is the same. -/
theorem generated_key_valid (c : KeyClass) (hK : UsesKeys E c K)
    (hverify : ∀ pk, c.verifyPublicKey E pk = K.verifyPublicKey pk) (hlaws : KeyLaws K)
    (hvalid : GeneratesValid K) (before after : List Op) {pair : Ref}
    (hmake : ((c.make E .generate).exec (run E before)).1 = .ok pair) :
    ∃ first second pk,
      partsOf (run E (before ++ [c.makeOp .generate])) c.pair pair = some (first, second) ∧
      c.publicOf (run E (before ++ [c.makeOp .generate])) second = some pk ∧
      (((c.verifyKey E second).exec (run E (before ++ c.makeOp .generate :: after))).1 =
          .ok true ∨
        ClosedDuring E (run E (before ++ [c.makeOp .generate])) after (c.publicKey, second)) ∧
      (ClosedDuring E (run E (before ++ [c.makeOp .generate])) after (c.secretKey, first) ∨
        OutOfMemory E.malloc (run E (before ++ c.makeOp .generate :: after)) ∧
          ((c.getPublicKey E first).exec
            (run E (before ++ c.makeOp .generate :: after))).1 = .error .abort ∨
        ∃ r w', (c.getPublicKey E first).exec (run E (before ++ c.makeOp .generate :: after)) =
            (.ok r, w') ∧
          c.publicOf w' r = some pk ∧ ((c.verifyKey E r).exec w').1 = .ok true) := by
  have hmade := exec_of_outcome E _ (c.step_makeOp .generate) hmake
  obtain ⟨first, second, sk, pk, hparts, hsk, hpk, hkeys, hgenerated⟩ :=
    c.make_returned hK hlaws (run_owned E before) hmade
  have hpasses : c.verifyPublicKey E pk = .ok true := by
    have hgen := hgenerated rfl
    rw [hK.generateKey] at hgen
    rw [hverify]
    exact hvalid.generateKey hgen
  have hw := run_owned E (before ++ [c.makeOp .generate])
  have hlast : run E (before ++ c.makeOp .generate :: after) =
      runFrom E (run E (before ++ [c.makeOp .generate])) after := by
    rw [run_cons, run_concat]
  rw [hlast]
  refine ⟨first, second, pk, hparts, hpk, ?_, ?_⟩
  · rcases c.publicOf_later after hw hpk with hlater | ⟨hclosed, -⟩
    · refine .inl ?_
      rw [c.verifyKey_exec hlater, hpasses]
      rfl
    · exact .inr hclosed
  · rcases c.secretOf_later after hw hsk with hlater | ⟨hclosed, -⟩
    · refine .inr ?_
      rcases c.getPublicKey_exec hlater hkeys with hfull | ⟨r, w', hrun, hsame⟩
      · exact .inl hfull
      · refine .inr ⟨r, w', hrun, hsame, ?_⟩
        rw [c.verifyKey_exec hsame, hpasses]
        rfl
    · exact .inl hclosed

/-- The secret key of one pair is freed, the public key of another. -/
theorem generated_key_valid_freed :
    ((SchnorrPublicKey.verifyKey keyEnv (some 0)).exec
        (run keyEnv [.schnorrGenerate, .free .schnorrSecretKey (some 0)])).1 = .ok true ∧
      ∃ r w', (VRFSecretKey.getPublicKey keyEnv (some 0)).exec
          (run keyEnv [.vrfGenerate, .free .vrfPublicKey (some 0)]) = (.ok r, w') ∧
        ((VRFPublicKey.verifyKey keyEnv r).exec w').1 = .ok true := by
  have hschnorr : ((KeyClass.schnorr.make keyEnv .generate).exec (run keyEnv [])).1 =
      .ok (some 0) := rfl
  have hvrf : ((KeyClass.vrf.make keyEnv .generate).exec (run keyEnv [])).1 =
      .ok (some 0) := rfl
  obtain ⟨first, second, pk, hparts, -, hverifies, -⟩ :=
    generated_key_valid .schnorr (keyEnv_keys _) (fun _ => rfl) sumSchnorr_laws.toKeyLaws
      sumKeys_valid [] [.free .schnorrSecretKey (some 0)] hschnorr
  obtain ⟨first', second', pk', hparts', -, -, hgives⟩ :=
    generated_key_valid .vrf (keyEnv_keys _) (fun _ => rfl) sumSchnorr_laws.toKeyLaws
      sumKeys_valid [] [.free .vrfPublicKey (some 0)] hvrf
  have hkeys : (first, second) = (some 0, some 0) := (Option.some.inj hparts).symm
  have hkeys' : (first', second') = (some 0, some 0) := (Option.some.inj hparts').symm
  cases hkeys
  cases hkeys'
  constructor
  · rcases hverifies with hverifies | hclosed
    · exact hverifies
    · exact absurd hclosed (not_closedDuring_free (by decide))
  · rcases hgives with hclosed | ⟨-, habort⟩ | ⟨r, w', hrun, -, hverifies⟩
    · exact absurd hclosed (not_closedDuring_free (by decide))
    · cases habort
    · exact ⟨r, w', hrun, hverifies⟩

end Generated

/-! ## Schnorr signatures -/

section Schnorr

variable {Projective : Type}
  {S : SchnorrScheme (V .fieldElement) (V .scalar) (V .g2) Projective (V .schnorrSig)}

/-- A signature that came back was made with the values of the three objects. -/
theorem signMessage_returned {w w' : World V} (hw : Owned w) {pair message sig : Ref}
    (h : (SchnorrKeyPair.signMessage E pair message).exec w = (.ok sig, w'))
    (hsig : sig ≠ none) :
    ∃ first second sk pk msg signature random,
      partsOf w .schnorrKeyPair pair = some (first, second) ∧
      valueOf w .schnorrSecretKey first = some sk ∧
      valueOf w .schnorrPublicKey second = some pk ∧
      valueOf w .fieldElement message = some msg ∧
      E.schnorrSign random msg sk pk = pure signature ∧
      valueOf w' .schnorrSignature sig = some signature ∧ KeepsValues w w' := by
  obtain ⟨⟨first, second⟩, hparts, h⟩ := pairFields_returned h
  obtain ⟨sk, hsk, h⟩ := reading_returned hw h
  obtain ⟨pk, hpk, h⟩ := reading_returned hw h
  obtain ⟨msg, hmsg, h⟩ := reading_returned hw h
  rw [tick_bind_exec] at h
  obtain ⟨signature, hsign, hvalue, hkeeps⟩ := returnResult_returned E h hsig
  exact ⟨first, second, sk, pk, msg, signature, w.ticks, hparts, hsk, hpk, hmsg, hsign, hvalue,
    hkeeps⟩

theorem verifySignature_exec {w : World V} {this signature message : Ref} {pk : V .g2}
    {msg : V .fieldElement} {sig : V .schnorrSig} (hpk : valueOf w .schnorrPublicKey this = some pk)
    (hmsg : valueOf w .fieldElement message = some msg)
    (hsig : valueOf w .schnorrSignature signature = some sig) :
    (SchnorrPublicKey.verifySignature E this signature message).exec w =
      (returnBool (E.schnorrVerifySignature msg pk sig)).exec w := by
  unfold SchnorrPublicKey.verifySignature
  rw [Program.exec_bind_ok (checkNotFreed_exec _ hpk), Program.exec_bind_ok (reading_exec hpk),
    Program.exec_bind_ok (reading_exec hmsg), Program.exec_bind_ok (reading_exec hsig)]

/-- A signature by a key pair verifies under its public key at any later time,
unless the key, the message or the signature was closed in the meantime. -/
theorem signature_verifies (hS : UsesSchnorr E S) (hlaws : SchnorrLaws S)
    (before middle after : List Op) {factory : KeyPairFactory} {pair message sig : Ref}
    (hmake : ((SchnorrKeyPair.make E factory).exec (run E before)).1 = .ok pair)
    (hsign : ((SchnorrKeyPair.signMessage E pair message).exec
      (run E (before ++ SchnorrKeyPair.makeOp factory :: middle))).1 = .ok sig)
    (hsig : sig ≠ none) :
    ∃ first second,
      partsOf (run E (before ++ SchnorrKeyPair.makeOp factory :: middle)) .schnorrKeyPair pair =
        some (first, second) ∧
      (((SchnorrPublicKey.verifySignature E second sig message).exec
          (run E (before ++ SchnorrKeyPair.makeOp factory :: middle ++
            .schnorrSignMessage pair message :: after))).1 = .ok true ∨
        ∃ n ∈ [(Kind.schnorrPublicKey, second), (.schnorrSignature, sig),
            (.fieldElement, message)],
          ClosedDuring E (run E (before ++ SchnorrKeyPair.makeOp factory :: middle ++
            [.schnorrSignMessage pair message])) after n) := by
  -- up to the signature
  have hw := run_owned E (before ++ SchnorrKeyPair.makeOp factory :: middle)
  have hsigned := exec_of_outcome E (.schnorrSignMessage pair message) rfl hsign
  obtain ⟨first, second, sk, pk, msg, signature, random, hparts, hsk, hpk, hmsg, hvalid, hvalue,
    hkeeps⟩ := signMessage_returned hw hsigned hsig
  have hkeys : S.Matches sk pk :=
    KeyClass.schnorr.pair_matches hS.usesKeys hlaws.toKeyLaws before middle hmake hparts hsk hpk
  have hverdict : E.schnorrVerifySignature msg pk signature = pure true := by
    rw [hS.sign] at hvalid
    rw [hS.verify]
    exact schnorrVerifySignature_sign hlaws hkeys hvalid
  -- from there to the verification
  refine ⟨first, second, hparts, ?_⟩
  have hw₃ := run_owned E (before ++ SchnorrKeyPair.makeOp factory :: middle ++
    [.schnorrSignMessage pair message])
  rw [run_cons, ← run_concat]
  rcases runFrom_value E after hw₃ rfl (hkeeps _ _ _ hpk) with hpk₄ | ⟨hclosed, -⟩
  · rcases runFrom_value E after hw₃ rfl hvalue with hsig₄ | ⟨hclosed, -⟩
    · rcases runFrom_value E after hw₃ rfl (hkeeps _ _ _ hmsg) with hmsg₄ | ⟨hclosed, -⟩
      · refine .inl ?_
        rw [verifySignature_exec hpk₄ hmsg₄ hsig₄, hverdict]
        rfl
      · exact .inr ⟨_, by simp, hclosed⟩
    · exact .inr ⟨_, by simp, hclosed⟩
  · exact .inr ⟨_, by simp, hclosed⟩

/-- A message is signed, the secret key freed and the signature verified. -/
theorem signature_verifies_freed :
    ((SchnorrPublicKey.verifySignature keyEnv (some 0) (some 0) (some 0)).exec
      (run keyEnv [.fieldElementFromLong 5, .schnorrGenerate,
        .schnorrSignMessage (some 0) (some 0), .free .schnorrSecretKey (some 0)])).1 =
      .ok true := by
  have hmake : ((SchnorrKeyPair.make keyEnv .generate).exec
      (run keyEnv [.fieldElementFromLong 5])).1 = .ok (some 0) := rfl
  have hsign : ((SchnorrKeyPair.signMessage keyEnv (some 0) (some 0)).exec (run keyEnv
      ([.fieldElementFromLong 5] ++ SchnorrKeyPair.makeOp .generate :: []))).1 =
        .ok (some 0) := rfl
  obtain ⟨first, second, hparts, hverifies | ⟨n, hn, hclosed⟩⟩ :=
    signature_verifies keyEnv_schnorr sumSchnorr_laws [.fieldElementFromLong 5] []
      [.free .schnorrSecretKey (some 0)] hmake hsign (by decide)
  · have hkeys : (first, second) = (some 0, some 0) := (Option.some.inj hparts).symm
    cases hkeys
    exact hverifies
  · simp only [List.mem_cons, List.not_mem_nil, or_false] at hn
    rcases hn with rfl | rfl | rfl
    all_goals exact absurd hclosed (not_closedDuring_free (by decide))

end Schnorr

/-! ## VRF proofs -/

section Vrf

variable {Projective : Type}
  {S : VrfScheme (V .fieldElement) (V .scalar) (V .g2) Projective (V .vrfProof)}
  {params : VRFParams Projective}

/-- A proof that came back was made with the values of the three objects, and its
output came with it. -/
theorem prove_returned {w w' : World V} (hw : Owned w) {pair message result : Ref}
    (h : (VRFKeyPair.prove E pair message).exec w = (.ok result, w')) (hresult : result ≠ none) :
    ∃ first second sk pk msg random proof output proofObject outputObject,
      partsOf w .vrfKeyPair pair = some (first, second) ∧
      valueOf w .vrfSecretKey first = some sk ∧
      valueOf w .vrfPublicKey second = some pk ∧
      valueOf w .fieldElement message = some msg ∧
      E.vrfProve random msg sk pk = pure (proof, output) ∧
      partsOf w' .vrfProveResult result = some (proofObject, outputObject) ∧
      valueOf w' .vrfProof proofObject = some proof ∧
      valueOf w' .fieldElement outputObject = some output ∧ KeepsValues w w' := by
  obtain ⟨⟨first, second⟩, hparts, h⟩ := pairFields_returned h
  obtain ⟨sk, hsk, h⟩ := reading_returned hw h
  obtain ⟨pk, hpk, h⟩ := reading_returned hw h
  obtain ⟨msg, hmsg, h⟩ := reading_returned hw h
  rw [tick_bind_exec] at h
  obtain ⟨outcome, hprove, h⟩ := native_returned h
  rcases outcome with e | ⟨proof, output⟩
  · cases h
    exact absurd rfl hresult
  · obtain ⟨proofObject, outputObject, hnew, hproof, houtput, hkeeps⟩ :=
      keyPair_returned E (p := .vrfProveResult) h
    exact ⟨first, second, sk, pk, msg, w.ticks, proof, output, proofObject, outputObject, hparts,
      hsk, hpk, hmsg, hprove, hnew, hproof, houtput, hkeeps⟩

theorem proofToHash_exec {w : World V} {this proof message : Ref} {pk : V .g2}
    {msg : V .fieldElement} {p : V .vrfProof} (hpk : valueOf w .vrfPublicKey this = some pk)
    (hmsg : valueOf w .fieldElement message = some msg)
    (hproof : valueOf w .vrfProof proof = some p) :
    (VRFPublicKey.proofToHash E this proof message).exec w =
      (returnResult E .fieldElement (E.vrfProofToHash msg pk p)).exec w := by
  unfold VRFPublicKey.proofToHash
  rw [Program.exec_bind_ok (checkNotFreed_exec _ hpk), Program.exec_bind_ok (reading_exec hpk),
    Program.exec_bind_ok (reading_exec hmsg), Program.exec_bind_ok (reading_exec hproof)]

/-- The public key gives for a proof, at any later time, the output that came with
it, unless the key, the message or the proof was closed in the meantime. -/
theorem vrf_output_agrees (hS : UsesVrf E S params) (hlaws : VrfLaws S params)
    (before middle after : List Op) {factory : KeyPairFactory} {pair message result : Ref}
    (hmake : ((VRFKeyPair.make E factory).exec (run E before)).1 = .ok pair)
    (hprove : ((VRFKeyPair.prove E pair message).exec
      (run E (before ++ VRFKeyPair.makeOp factory :: middle))).1 = .ok result)
    (hresult : result ≠ none) :
    ∃ first second proof output value,
      partsOf (run E (before ++ VRFKeyPair.makeOp factory :: middle)) .vrfKeyPair pair =
        some (first, second) ∧
      partsOf (run E (before ++ VRFKeyPair.makeOp factory :: middle ++ [.vrfProve pair message]))
        .vrfProveResult result = some (proof, output) ∧
      valueOf (run E (before ++ VRFKeyPair.makeOp factory :: middle ++ [.vrfProve pair message]))
        .fieldElement output = some value ∧
      ((∃ n ∈ [(Kind.vrfPublicKey, second), (.vrfProof, proof), (.fieldElement, message)],
          ClosedDuring E (run E (before ++ VRFKeyPair.makeOp factory :: middle ++
            [.vrfProve pair message])) after n) ∨
        OutOfMemory E.malloc (run E (before ++ VRFKeyPair.makeOp factory :: middle ++
            .vrfProve pair message :: after)) ∧
          ((VRFPublicKey.proofToHash E second proof message).exec
            (run E (before ++ VRFKeyPair.makeOp factory :: middle ++
              .vrfProve pair message :: after))).1 = .error .abort ∨
        ∃ r w', (VRFPublicKey.proofToHash E second proof message).exec
            (run E (before ++ VRFKeyPair.makeOp factory :: middle ++
              .vrfProve pair message :: after)) = (.ok r, w') ∧
          valueOf w' .fieldElement r = some value) := by
  -- up to the proof
  have hw := run_owned E (before ++ VRFKeyPair.makeOp factory :: middle)
  have hproved := exec_of_outcome E (.vrfProve pair message) rfl hprove
  obtain ⟨first, second, sk, pk, msg, random, p, value, proof, output, hparts, hsk, hpk, hmsg,
    hvalid, hnew, hproof, houtput, hkeeps⟩ := prove_returned hw hproved hresult
  have hkeys : S.Matches sk pk :=
    KeyClass.vrf.pair_matches hS.usesKeys hlaws.toKeyLaws before middle hmake hparts hsk hpk
  have hhash : E.vrfProofToHash msg pk p = pure value := by
    rw [hS.prove] at hvalid
    rw [hS.proofToHash]
    exact vrfProofToHash_prove hlaws hkeys hvalid
  -- from there to the hash
  refine ⟨first, second, proof, output, value, hparts, hnew, houtput, ?_⟩
  have hw₃ := run_owned E (before ++ VRFKeyPair.makeOp factory :: middle ++
    [.vrfProve pair message])
  have hlast : run E (before ++ VRFKeyPair.makeOp factory :: middle ++
      .vrfProve pair message :: after) = runFrom E (run E (before ++
        VRFKeyPair.makeOp factory :: middle ++ [.vrfProve pair message])) after := by
    rw [run_cons, run_concat]
  rw [hlast]
  rcases runFrom_value E after hw₃ rfl (hkeeps _ _ _ hpk) with hpk₄ | ⟨hclosed, -⟩
  · rcases runFrom_value E after hw₃ rfl hproof with hproof₄ | ⟨hclosed, -⟩
    · rcases runFrom_value E after hw₃ rfl (hkeeps _ _ _ hmsg) with hmsg₄ | ⟨hclosed, -⟩
      · refine .inr ?_
        rw [proofToHash_exec hpk₄ hmsg₄ hproof₄, hhash]
        exact returnObject_exec E .fieldElement value _
      · exact .inl ⟨_, by simp, hclosed⟩
    · exact .inl ⟨_, by simp, hclosed⟩
  · exact .inl ⟨_, by simp, hclosed⟩

/-- A proof is made, the secret key freed and the output compared. -/
theorem vrf_output_agrees_freed :
    ∃ r w', (VRFPublicKey.proofToHash keyEnv (some 0) (some 0) (some 0)).exec
        (run keyEnv [.fieldElementFromLong 5, .vrfGenerate,
          .vrfProve (some 0) (some 0), .free .vrfSecretKey (some 0)]) = (.ok r, w') ∧
      valueOf w' .fieldElement r =
        valueOf (run keyEnv [.fieldElementFromLong 5, .vrfGenerate,
          .vrfProve (some 0) (some 0)]) .fieldElement (some 1) := by
  have hmake : ((VRFKeyPair.make keyEnv .generate).exec
      (run keyEnv [.fieldElementFromLong 5])).1 = .ok (some 0) := rfl
  have hprove : ((VRFKeyPair.prove keyEnv (some 0) (some 0)).exec (run keyEnv
      ([.fieldElementFromLong 5] ++ VRFKeyPair.makeOp .generate :: []))).1 =
        .ok (some 0) := rfl
  obtain ⟨first, second, proof, output, value, hparts, hnew, hvalue, hclosed | hfull | hagrees⟩ :=
    vrf_output_agrees keyEnv_vrf (sumVrf_laws ⟨[]⟩) [.fieldElementFromLong 5] []
      [.free .vrfSecretKey (some 0)] hmake hprove (by decide)
  · obtain ⟨n, hn, hclosed⟩ := hclosed
    simp only [List.mem_cons, List.not_mem_nil, or_false] at hn
    rcases hn with rfl | rfl | rfl
    all_goals exact absurd hclosed (not_closedDuring_free (by decide))
  · obtain ⟨-, habort⟩ := hfull
    have hkeys : (first, second) = (some 0, some 0) := (Option.some.inj hparts).symm
    have hresult : (proof, output) = (some 0, some 1) := (Option.some.inj hnew).symm
    cases hkeys
    cases hresult
    cases habort
  · have hkeys : (first, second) = (some 0, some 0) := (Option.some.inj hparts).symm
    have hresult : (proof, output) = (some 0, some 1) := (Option.some.inj hnew).symm
    cases hkeys
    cases hresult
    obtain ⟨r, w', hrun, hout⟩ := hagrees
    exact ⟨r, w', hrun, hout.trans hvalue.symm⟩

end Vrf

end ZendooSc.Handles
