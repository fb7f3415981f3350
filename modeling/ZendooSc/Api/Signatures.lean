/-
ZendooSc.Api.Signatures — the Schnorr and VRF functions of `cctp_calls.rs`.

The schemes of ginger-lib work with projective points, the functions here with
affine ones: a key that is generated is made affine, and a key that is used is
made projective. `vrf_prove` also computes the output of its proof, from the
message and the coordinates of `gamma`, and does not ask the scheme for it.

What the schemes do is a parameter, with their laws beside it: a key pair that
was generated matches, a signature by a matching pair verifies, and the hash of a
proof by a matching pair is the hash of the message and `gamma`. The two
theorems say that this survives the detour through affine points and the second
computation of the output.
-/
import ZendooSc.Api.CctpCalls
import ZendooSc.Circuit.GroupHashTable

namespace ZendooSc

/-! ## Parameters -/

/-- What the two schemes have in common. -/
structure KeyScheme (Sk Point Projective : Type) where
  intoAffine : Projective → Point
  intoProjective : Point → Projective
  keygen : (random : ℕ) → Except Panic (Projective × Sk)
  getPublicKey : Sk → Except Panic Projective
  keyverify : Projective → Except Panic Bool

/-- `FieldBasedSchnorrSignatureScheme`. -/
structure SchnorrScheme (F Sk Point Projective Sig : Type) extends
    KeyScheme Sk Point Projective where
  sign : (random : ℕ) → Projective → Sk → F → Call Sig
  verify : Projective → F → Sig → Call Bool

/-- `FieldBasedEcVrf`, with what is read of a proof. `hash` is the value of
`FieldHash` over the elements given to it. -/
structure VrfScheme (F Sk Point Projective Proof : Type) extends
    KeyScheme Sk Point Projective where
  prove : (random : ℕ) → VRFParams Projective → Projective → Sk → F → Call Proof
  proofToHash : VRFParams Projective → Projective → F → Proof → Call F
  gamma : Proof → Projective
  toFieldElements : Projective → Option (List F)
  hash : List F → F

namespace KeyScheme

variable {Sk Point Projective : Type} (K : KeyScheme Sk Point Projective)

/-- `keygen` with an affine key. -/
def generateKey (random : ℕ) : Except Panic (Point × Sk) := do
  let (pk, sk) ← K.keygen random
  pure (K.intoAffine pk, sk)

def affinePublicKey (sk : Sk) : Except Panic Point := do
  let pk ← K.getPublicKey sk
  pure (K.intoAffine pk)

/-- `keyverify` of an affine key. -/
def verifyPublicKey (pk : Point) : Except Panic Bool := K.keyverify (K.intoProjective pk)

/-- The affine point is the public key of the secret key. -/
def Matches (sk : Sk) (pk : Point) : Prop := K.affinePublicKey sk = .ok pk

end KeyScheme

/-! ## Schnorr -/

section Schnorr

variable {F Sk Point Projective Sig : Type} (S : SchnorrScheme F Sk Point Projective Sig)

def schnorrGenerateKey (random : ℕ) : Except Panic (Point × Sk) := S.generateKey random

def schnorrGetPublicKey (sk : Sk) : Except Panic Point := S.affinePublicKey sk

def schnorrVerifyPublicKey (pk : Point) : Except Panic Bool := S.verifyPublicKey pk

def schnorrSign (random : ℕ) (msg : F) (sk : Sk) (pk : Point) : Call Sig :=
  S.sign random (S.intoProjective pk) sk msg

def schnorrVerifySignature (msg : F) (pk : Point) (signature : Sig) : Call Bool :=
  S.verify (S.intoProjective pk) msg signature

end Schnorr

/-! ## VRF -/

section Vrf

variable {F Sk Point Projective Proof : Type} (S : VrfScheme F Sk Point Projective Proof)
variable (params : VRFParams Projective)

def vrfGenerateKey (random : ℕ) : Except Panic (Point × Sk) := S.generateKey random

def vrfGetPublicKey (sk : Sk) : Except Panic Point := S.affinePublicKey sk

def vrfVerifyPublicKey (pk : Point) : Except Panic Bool := S.verifyPublicKey pk

/-- `to_field_elements().unwrap()`. -/
def unwrapFieldElements (fields : Option (List F)) : Call (List F) :=
  match fields with
  | some fields => pure fields
  | none => panicWith .unwrapError

/-- `vrf_prove`, with `VRF_GH_PARAMS`. -/
def vrfProve (random : ℕ) (msg : F) (sk : Sk) (pk : Point) : Call (Proof × F) := do
  -- compute proof
  let proof ← S.prove random params (S.intoProjective pk) sk msg
  -- convert gamma from proof to field elements
  let gammaCoords ← unwrapFieldElements (S.toFieldElements (S.gamma proof))
  -- compute VRF output
  let h := (FieldHash.initConstantLength 3).update msg
  let output ← (gammaCoords.foldl FieldHash.update h).finalize S.hash
  pure (proof, output)

def vrfProofToHash (msg : F) (pk : Point) (proof : Proof) : Call F :=
  S.proofToHash params (S.intoProjective pk) msg proof

end Vrf

/-! ## The schemes are correct -/

/-- What is documented of the keys of a scheme. Points may have more than one
projective form. -/
structure KeyLaws {Sk Point Projective : Type} (K : KeyScheme Sk Point Projective) : Prop where
  affine : ∀ pk, K.intoAffine (K.intoProjective pk) = pk
  keygen : ∀ random pk sk, K.keygen random = .ok (pk, sk) → K.Matches sk (K.intoAffine pk)

/-- A public key that was generated passes the check of keys. -/
structure GeneratesValid {Sk Point Projective : Type} (K : KeyScheme Sk Point Projective) :
    Prop where
  keyverify : ∀ random pk sk, K.keygen random = .ok (pk, sk) →
    K.verifyPublicKey (K.intoAffine pk) = .ok true

structure SchnorrLaws {F Sk Point Projective Sig : Type}
    (S : SchnorrScheme F Sk Point Projective Sig) : Prop extends KeyLaws S.toKeyScheme where
  complete : ∀ random pk sk msg sig, S.Matches sk (S.intoAffine pk) →
    S.sign random pk sk msg = pure sig → S.verify pk msg sig = pure true

structure VrfLaws {F Sk Point Projective Proof : Type}
    (S : VrfScheme F Sk Point Projective Proof) (params : VRFParams Projective) : Prop extends
    KeyLaws S.toKeyScheme where
  /-- A point has two coordinates. -/
  coordinates : ∀ g, ∃ x y, S.toFieldElements g = some [x, y]
  complete : ∀ random pk sk msg proof x y, S.Matches sk (S.intoAffine pk) →
    S.prove random params pk sk msg = pure proof →
    S.toFieldElements (S.gamma proof) = some [x, y] →
    S.proofToHash params pk msg proof = pure (S.hash [msg, x, y])

section Theorems

variable {F Sk Point Projective : Type}

/-- An affine key that was generated comes from the scheme. -/
theorem KeyScheme.generateKey_eq_ok {K : KeyScheme Sk Point Projective} {random : ℕ}
    {pk : Point} {sk : Sk} (h : K.generateKey random = .ok (pk, sk)) :
    ∃ point, K.keygen random = .ok (point, sk) ∧ K.intoAffine point = pk := by
  unfold KeyScheme.generateKey at h
  rcases hgen : K.keygen random with e | ⟨point, sk'⟩
  · rw [hgen] at h
    cases h
  · rw [hgen] at h
    cases h
    exact ⟨point, rfl, rfl⟩

theorem KeyLaws.generateKey {K : KeyScheme Sk Point Projective} (hlaws : KeyLaws K) {random : ℕ}
    {pk : Point} {sk : Sk} (h : K.generateKey random = .ok (pk, sk)) : K.Matches sk pk := by
  obtain ⟨point, hgen, rfl⟩ := KeyScheme.generateKey_eq_ok h
  exact hlaws.keygen random point sk hgen

theorem GeneratesValid.generateKey {K : KeyScheme Sk Point Projective} (hvalid : GeneratesValid K)
    {random : ℕ} {pk : Point} {sk : Sk} (h : K.generateKey random = .ok (pk, sk)) :
    K.verifyPublicKey pk = .ok true := by
  obtain ⟨point, hgen, rfl⟩ := KeyScheme.generateKey_eq_ok h
  exact hvalid.keyverify random point sk hgen

/-- A signature by a matching pair verifies. -/
theorem schnorrVerifySignature_sign {Sig : Type} {S : SchnorrScheme F Sk Point Projective Sig}
    (hlaws : SchnorrLaws S) {random : ℕ} {msg : F} {sk : Sk} {pk : Point} {sig : Sig}
    (hkeys : S.Matches sk pk) (hsign : schnorrSign S random msg sk pk = pure sig) :
    schnorrVerifySignature S msg pk sig = pure true := by
  refine hlaws.complete random _ sk msg sig ?_ hsign
  rw [hlaws.affine]
  exact hkeys

/-- The output that `vrf_prove` computes is the one `vrf_proof_to_hash` gives. -/
theorem vrfProofToHash_prove {Proof : Type} {S : VrfScheme F Sk Point Projective Proof}
    {params : VRFParams Projective} (hlaws : VrfLaws S params) {random : ℕ} {msg : F} {sk : Sk}
    {pk : Point} {proof : Proof} {output : F} (hkeys : S.Matches sk pk)
    (hprove : vrfProve S params random msg sk pk = pure (proof, output)) :
    vrfProofToHash S params msg pk proof = pure output := by
  unfold vrfProve at hprove
  obtain ⟨proof', hproof, hrest⟩ := bind_eq_pure hprove
  obtain ⟨x, y, hcoords⟩ := hlaws.coordinates (S.gamma proof')
  rw [hcoords] at hrest
  have hfinal : (pure (proof', S.hash [msg, x, y]) : Call (Proof × F)) = pure (proof, output) :=
    hrest
  cases pure_injective hfinal
  refine hlaws.complete random _ sk msg proof x y ?_ hproof hcoords
  rw [hlaws.affine]
  exact hkeys

end Theorems

end ZendooSc
