/-
ZendooSc.Api.Serialization — encodings of public keys and VRF proofs.

`SchnorrPublicKey`, `VRFPublicKey` and `VRFProof` have the same codec in three
layers. The Java method guards: an object that was freed is not serialized, and
bytes of a wrong length are not deserialized. The native function converts the
two flags. The library encodes, in a compressed or an uncompressed form.

The length guard knows one length for both forms, the compressed one. So the
compressed form goes round (`round_trip_iff`), and the uncompressed form, which
is longer, is refused by the guard before the flag is looked at.
-/
import ZendooSc.Jni

namespace ZendooSc

/-! ## Parameters -/

/-- `serialize_to_buffer` and `deserialize_from_buffer` at one type, with the
flags `semantic_checks` and `compressed`. -/
structure Codec (α : Type) where
  isValid : α → Bool
  serializeToBuffer : α → Option Bool → Except Error (List UInt8)
  deserializeFromBuffer : List UInt8 → Option Bool → Option Bool → Except Error α

/-- What is documented of a codec whose compressed form has `size` bytes. -/
structure CodecLaws {α : Type} (codec : Codec α) (size : ℕ) : Prop where
  inverse : ∀ x, codec.isValid x = true → ∀ check compressed : Bool,
    ∃ bytes, codec.serializeToBuffer x (some compressed) = .ok bytes
      ∧ codec.deserializeFromBuffer bytes (some check) (some compressed) = .ok x
  compressedLength : ∀ x bytes, codec.serializeToBuffer x (some true) = .ok bytes →
    bytes.length = size
  uncompressedLength : ∀ x bytes, codec.serializeToBuffer x (some false) = .ok bytes →
    size < bytes.length

/-- The types of `type_mapping.rs` with a compressed form. -/
structure CodecLib (SchnorrPk VRFPk Proof : Type) where
  groupCompressedSize : ℕ
  fieldSize : ℕ
  schnorrPk : Codec SchnorrPk
  vrfPk : Codec VRFPk
  vrfProof : Codec Proof

/-! ## The native layer -/

section Native

variable {α : Type} (codec : Codec α)

/-- A Java `boolean` as a `jboolean`. -/
def toJboolean (b : Bool) : UInt8 := if b then 1 else 0

/-- `jni_bool == JNI_TRUE`. -/
def isJniTrue (b : UInt8) : Bool := b == 1

@[simp] theorem isJniTrue_toJboolean (b : Bool) : isJniTrue (toJboolean b) = b := by
  cases b <;> rfl

/-- `deserialize_to_jobject`: null if the bytes do not decode. -/
def deserializeToJobject (objBytes : Option (List UInt8)) (checked compressed : Option UInt8) :
    Except Panic (Option α) := do
  let objBytes ← convertByteArray objBytes
  match codec.deserializeFromBuffer objBytes (checked.map isJniTrue)
    (compressed.map isJniTrue) with
  | .ok obj => pure (some obj)
  | .error _ => pure none

/-- `serialize_from_jobject`. -/
def serializeFromJobject (obj : Handle α) (compressed : Option UInt8) :
    Except Panic (List UInt8) := do
  let obj ← readHandle obj
  match codec.serializeToBuffer obj (compressed.map isJniTrue) with
  | .ok bytes => pure bytes
  | .error _ => .error (.other "unable to write to buffer")

/-! ## The Java layer -/

/-- `deserialize` of a class whose encodings have a fixed length. -/
def deserializeObject (what : String) (size : ℕ) (bytes : Option (List UInt8))
    (check compressed : Bool) : JavaResult (Option α) :=
  match bytes with
  | none => .thrown .nullPointer
  | some objBytes =>
      let found := objBytes.length
      if found ≠ size then
        .thrown (.illegalArgument s!"Incorrect {what} length, {size} expected, {found} found")
      else
        ffiExport (deserializeToJobject codec (some objBytes) (some (toJboolean check))
          (some (toJboolean compressed)))

/-- The serialize method of such a class, on an object that is not null. -/
def serializeObject (wasFreed : String) (obj : Handle α) (compressed : Bool) :
    JavaResult (List UInt8) :=
  match obj with
  | .null => .thrown .nullPointer
  | .freed => .thrown (.illegalState wasFreed)
  | .live a => ffiExport (serializeFromJobject codec (.live a) (some (toJboolean compressed)))

end Native

section Classes

variable {SchnorrPk VRFPk Proof : Type} (L : CodecLib SchnorrPk VRFPk Proof)

def schnorrPkSize : ℕ := L.groupCompressedSize

def vrfPkSize : ℕ := L.groupCompressedSize

def vrfProofSize : ℕ := L.groupCompressedSize + 2 * L.fieldSize

namespace SchnorrPublicKey

def deserialize (publicKeyBytes : Option (List UInt8)) (checkPublicKey compressed : Bool) :
    JavaResult (Option SchnorrPk) :=
  deserializeObject L.schnorrPk "public key" (schnorrPkSize L) publicKeyBytes checkPublicKey
    compressed

def serializePublicKey (key : Handle SchnorrPk) (compressed : Bool) : JavaResult (List UInt8) :=
  serializeObject L.schnorrPk "Public key was freed." key compressed

end SchnorrPublicKey

namespace VRFPublicKey

def deserialize (publicKeyBytes : Option (List UInt8)) (checkPublicKey compressed : Bool) :
    JavaResult (Option VRFPk) :=
  deserializeObject L.vrfPk "public key" (vrfPkSize L) publicKeyBytes checkPublicKey compressed

def serializePublicKey (key : Handle VRFPk) (compressed : Bool) : JavaResult (List UInt8) :=
  serializeObject L.vrfPk "Public key was freed." key compressed

end VRFPublicKey

namespace VRFProof

def deserialize (proofBytes : Option (List UInt8)) (checkVRFProof compressed : Bool) :
    JavaResult (Option Proof) :=
  deserializeObject L.vrfProof "proof" (vrfProofSize L) proofBytes checkVRFProof compressed

def serializeProof (proof : Handle Proof) (compressed : Bool) : JavaResult (List UInt8) :=
  serializeObject L.vrfProof "Proof was freed." proof compressed

end VRFProof

/-! ## Round trips -/

/-- Deserializing what `serialize` returned gives the object back. -/
def RoundTrips {α : Type} (serialize : Handle α → Bool → JavaResult (List UInt8))
    (deserialize : Option (List UInt8) → Bool → Bool → JavaResult (Option α))
    (x : α) (check compressed : Bool) : Prop :=
  ∃ bytes, serialize (.live x) compressed = .returned bytes
    ∧ deserialize (some bytes) check compressed = .returned (some x)

end Classes

section Theorems

variable {α : Type} {codec : Codec α} {size : ℕ}

theorem serializeObject_live {wasFreed : String} {x : α} {compressed : Bool}
    {bytes : List UInt8} (h : codec.serializeToBuffer x (some compressed) = .ok bytes) :
    serializeObject codec wasFreed (.live x) compressed = .returned bytes := by
  simp only [serializeObject, serializeFromJobject, readHandle, Option.map_some,
    isJniTrue_toJboolean]
  change ffiExport (match codec.serializeToBuffer x (some compressed) with
    | .ok bytes => pure bytes
    | .error _ => .error (.other "unable to write to buffer")) = _
  rw [h]
  rfl

/-- The guard refuses every length but one, in either form. -/
theorem deserializeObject_of_length_ne {what : String} {bytes : List UInt8}
    (h : bytes.length ≠ size) (check compressed : Bool) :
    ∃ message, deserializeObject codec what size (some bytes) check compressed
      = .thrown (.illegalArgument message) := by
  unfold deserializeObject
  exact ⟨_, if_pos h⟩

theorem deserializeObject_of_length_eq {what : String} {bytes : List UInt8} {x : α}
    {check compressed : Bool} (hlen : bytes.length = size)
    (h : codec.deserializeFromBuffer bytes (some check) (some compressed) = .ok x) :
    deserializeObject codec what size (some bytes) check compressed = .returned (some x) := by
  unfold deserializeObject
  simp only [hlen, ne_eq, not_true_eq_false, if_false, deserializeToJobject, Option.map_some,
    isJniTrue_toJboolean]
  change ffiExport (match codec.deserializeFromBuffer bytes (some check) (some compressed) with
    | .ok obj => pure (some obj)
    | .error _ => pure none) = _
  rw [h]
  rfl

/-- An object of such a class goes round in its compressed form only. -/
theorem roundTrips_iff (laws : CodecLaws codec size) (what wasFreed : String) {x : α}
    (hx : codec.isValid x = true) (check compressed : Bool) :
    RoundTrips (serializeObject codec wasFreed) (deserializeObject codec what size) x check
      compressed ↔ compressed = true := by
  obtain ⟨bytes, hser, hde⟩ := laws.inverse x hx check compressed
  have hserialize : serializeObject codec wasFreed (.live x) compressed = .returned bytes :=
    serializeObject_live hser
  constructor
  · rintro ⟨bytes', hbytes', hback⟩
    rw [hserialize, JavaResult.returned.injEq] at hbytes'
    subst hbytes'
    cases compressed with
    | true => rfl
    | false =>
        have hlen := laws.uncompressedLength x bytes hser
        have hne : bytes.length ≠ size := Nat.ne_of_gt hlen
        obtain ⟨message, hthrown⟩ : ∃ message, deserializeObject codec what size (some bytes)
            check false = .thrown (.illegalArgument message) :=
          deserializeObject_of_length_ne hne check false
        rw [hthrown] at hback
        cases hback
  · intro hc
    subst hc
    have hlen := laws.compressedLength x bytes hser
    exact ⟨bytes, hserialize, deserializeObject_of_length_eq hlen hde⟩

/-- Public keys and VRF proofs go round exactly in their compressed form. -/
theorem round_trip_iff {SchnorrPk VRFPk Proof : Type} (L : CodecLib SchnorrPk VRFPk Proof)
    (hschnorr : CodecLaws L.schnorrPk (schnorrPkSize L)) (hvrf : CodecLaws L.vrfPk (vrfPkSize L))
    (hproof : CodecLaws L.vrfProof (vrfProofSize L)) (check compressed : Bool) :
    (∀ x, L.schnorrPk.isValid x = true →
      (RoundTrips (SchnorrPublicKey.serializePublicKey L) (SchnorrPublicKey.deserialize L) x check
        compressed ↔ compressed = true))
    ∧ (∀ x, L.vrfPk.isValid x = true →
      (RoundTrips (VRFPublicKey.serializePublicKey L) (VRFPublicKey.deserialize L) x check
        compressed ↔ compressed = true))
    ∧ (∀ x, L.vrfProof.isValid x = true →
      (RoundTrips (VRFProof.serializeProof L) (VRFProof.deserialize L) x check compressed
        ↔ compressed = true)) := by
  refine ⟨?_, ?_, ?_⟩
  · intro x hx
    exact roundTrips_iff hschnorr _ _ hx check compressed
  · intro x hx
    exact roundTrips_iff hvrf _ _ hx check compressed
  · intro x hx
    exact roundTrips_iff hproof _ _ hx check compressed

end Theorems

/-! ## A padded codec -/

/-- One byte of content, padded to `n + 1` bytes in the compressed form and to
`n + m + 2` in the other. -/
def paddedCodec (n m : ℕ) : Codec UInt8 where
  isValid _ := true
  serializeToBuffer x compressed :=
    match compressed with
    | some false => .ok (x :: List.replicate (n + m + 1) 0)
    | _ => .ok (x :: List.replicate n 0)
  deserializeFromBuffer bytes _ compressed :=
    let expected := if compressed = some false then n + m + 2 else n + 1
    match bytes with
    | x :: rest =>
        if rest.length + 1 = expected then .ok x
        else .error (.library "unexpected length")
    | [] => .error (.library "unexpected length")

theorem paddedCodec_laws (n m : ℕ) : CodecLaws (paddedCodec n m) (n + 1) where
  inverse x _ check compressed := by
    cases compressed with
    | true =>
        refine ⟨x :: List.replicate n 0, rfl, ?_⟩
        simp [paddedCodec]
    | false =>
        refine ⟨x :: List.replicate (n + m + 1) 0, rfl, ?_⟩
        simp [paddedCodec]
  compressedLength x bytes h := by
    cases h
    simp
  uncompressedLength x bytes h := by
    cases h
    simp only [List.length_cons, List.length_replicate]
    omega

/-- The lengths of this repository's curve: a compressed point of 33 bytes and
a field element of 32. -/
def paddedCodecs : CodecLib UInt8 UInt8 UInt8 where
  groupCompressedSize := 33
  fieldSize := 32
  schnorrPk := paddedCodec 32 32
  vrfPk := paddedCodec 32 32
  vrfProof := paddedCodec 96 32

/-- The three objects go round compressed. -/
theorem round_trip_iff_padded :
    RoundTrips (SchnorrPublicKey.serializePublicKey paddedCodecs)
      (SchnorrPublicKey.deserialize paddedCodecs) 7 true true
    ∧ RoundTrips (VRFPublicKey.serializePublicKey paddedCodecs)
      (VRFPublicKey.deserialize paddedCodecs) 7 true true
    ∧ RoundTrips (VRFProof.serializeProof paddedCodecs) (VRFProof.deserialize paddedCodecs) 7
      true true := by
  obtain ⟨hschnorr, hvrf, hproof⟩ := round_trip_iff paddedCodecs (paddedCodec_laws 32 32)
    (paddedCodec_laws 32 32) (paddedCodec_laws 96 32) true true
  exact ⟨(hschnorr 7 rfl).mpr rfl, (hvrf 7 rfl).mpr rfl, (hproof 7 rfl).mpr rfl⟩

/-- A valid key that is not compressed does not go round: the guard throws. -/
theorem round_trip_counterexample :
    CodecLaws paddedCodecs.schnorrPk (schnorrPkSize paddedCodecs)
    ∧ paddedCodecs.schnorrPk.isValid 7 = true
    ∧ SchnorrPublicKey.serializePublicKey paddedCodecs (.live 7) false
      = .returned (7 :: List.replicate 65 0)
    ∧ SchnorrPublicKey.deserialize paddedCodecs (some (7 :: List.replicate 65 0)) true false
      = .thrown (.illegalArgument "Incorrect public key length, 33 expected, 66 found")
    ∧ ¬ RoundTrips (SchnorrPublicKey.serializePublicKey paddedCodecs)
      (SchnorrPublicKey.deserialize paddedCodecs) 7 true false := by
  have hser : SchnorrPublicKey.serializePublicKey paddedCodecs (.live 7) false
      = .returned (7 :: List.replicate 65 0) := rfl
  have hde : SchnorrPublicKey.deserialize paddedCodecs (some (7 :: List.replicate 65 0)) true
      false = .thrown (.illegalArgument "Incorrect public key length, 33 expected, 66 found") := by
    decide
  refine ⟨paddedCodec_laws 32 32, rfl, hser, hde, ?_⟩
  rintro ⟨bytes, hbytes, hback⟩
  rw [hser, JavaResult.returned.injEq] at hbytes
  subst hbytes
  rw [hde] at hback
  cases hback

end ZendooSc
