/-
ZendooSc.Handles.EncodingRuns — bytes that go from one process to another.

Ten of the classes have an encoding. An object of one process is serialized, and the
bytes become an object of another process, which has its own heap and its own
history. `transfer_iff` says for each class and each value of the flags when that
works: a class whose `deserialize` compares the length of the bytes with a constant
refuses what is not compressed. Where it works, the object stands for the same value
until it is closed, and gives the same bytes.

`existence_transfers` is what the encodings are for: a process that has no tree
checks the proof of one that has.
-/
import ZendooSc.Handles.CommitmentRuns

namespace ZendooSc.Handles

open Lib

variable {V : NativeType → Type}

/-! ## The classes with an encoding -/

/-- The object goes into bytes. The other three classes have no such methods. -/
def encodable : Kind → Bool
  | .poseidonHash | .inMemoryOptimizedMerkleTree | .commitmentTree => false
  | _ => true

/-- The class has a compressed form and another one. -/
def flagged : Kind → Bool
  | .schnorrPublicKey | .vrfPublicKey | .vrfProof => true
  | _ => false

/-- What the library is told of the flag `compressed`. -/
def compressedFlag (k : Kind) (compressed : Bool) : Option Bool :=
  if flagged k then some compressed else none

/-- What the library is told of the flag `check`. -/
def checkedFlag (k : Kind) (check : Bool) : Option Bool :=
  match k with
  | .schnorrPublicKey | .vrfPublicKey | .schnorrSignature | .vrfProof | .merklePath => some check
  | _ => none

/-- What a class with a length check calls itself when the check fails. -/
def lengthName : Kind → Option String
  | .fieldElement => some "field element"
  | .schnorrPublicKey | .vrfPublicKey => some "public key"
  | .schnorrSecretKey | .vrfSecretKey => some "secret key"
  | .schnorrSignature => some "signature"
  | .vrfProof => some "proof"
  | _ => none

/-- What `serialize` throws on an object that was freed, if it checks that. -/
def freedException : Kind → Option JavaException
  | .fieldElement | .merklePath => some (.illegalState "Field element was freed.")
  | .schnorrPublicKey | .vrfPublicKey => some (.illegalState "Public key was freed.")
  | .schnorrSecretKey | .vrfSecretKey => some (.illegalState "Secret key was freed.")
  | .vrfProof => some (.illegalState "Proof was freed.")
  | .scExistenceProof => some (.illegalState "Existence proof was freed.")
  | .scAbsenceProof => some (.illegalState "Absence proof was freed.")
  | _ => none

theorem serialize_eq (E : Env V) {k : Kind} (hk : encodable k = true) (this : Ref)
    (compressed : Bool) :
    serialize E k this compressed
      = serializeMethod E k (freedException k) this (compressedFlag k compressed) := by
  cases k with
  | poseidonHash | inMemoryOptimizedMerkleTree | commitmentTree => cases hk
  | _ => rfl

theorem deserialize_eq (E : Env V) {k : Kind} (hk : encodable k = true)
    (bytes : Option (List UInt8)) (check compressed : Bool) :
    deserialize E k bytes check compressed
      = deserializeMethod E k (lengthName k) bytes (checkedFlag k check)
          (compressedFlag k compressed) := by
  cases k with
  | poseidonHash | inMemoryOptimizedMerkleTree | commitmentTree => cases hk
  | _ => rfl

theorem encodable_of_flagged {k : Kind} (h : flagged k = true) :
    encodable k = true ∧ (lengthName k).isSome = true := by
  cases k with
  | schnorrPublicKey | vrfPublicKey | vrfProof => exact ⟨rfl, rfl⟩
  | _ => cases h

theorem immutable_of_encodable {k : Kind} (h : encodable k = true) : mutableClass k = false := by
  cases k with
  | poseidonHash | inMemoryOptimizedMerkleTree | commitmentTree => cases h
  | _ => rfl

/-! ## What is taken from the library -/

/-- The codecs of the library. `valid` is what a semantic check looks for. -/
structure FollowsCodecs (L : NativeLib V) (valid : (t : NativeType) → V t → Prop) : Prop where
  inverse : ∀ t v checked compressed bytes, (checked ≠ some false → valid t v) →
    L.serialize t v compressed = .ok bytes →
    L.deserialize t bytes checked compressed = .ok (some v)
  length : ∀ k v compressed bytes, (lengthName k).isSome = true → compressed ≠ some false →
    L.serialize k.nativeType v compressed = .ok bytes → bytes.length = L.encodedLength k
  uncompressedLength : ∀ k v bytes, flagged k = true →
    L.serialize k.nativeType v (some false) = .ok bytes → L.encodedLength k < bytes.length

/-! ## One call -/

section Calls

variable {E : Env V} {w : World V} {k : Kind} {this : Ref} {v : V k.nativeType}

theorem serializeMethod_exec (hv : valueOf w k this = some v) (wasFreed : Option JavaException)
    {compressed : Option Bool} {bytes : List UInt8}
    (hbytes : E.serialize k.nativeType v compressed = .ok bytes) :
    (serializeMethod E k wasFreed this compressed).exec w = (.ok bytes, w) := by
  have hrest : (reading k this >>= fun obj => native (E.serialize k.nativeType obj compressed)).exec
      w = (.ok bytes, w) := by
    rw [Program.exec_bind_ok (reading_exec hv), hbytes, native_exec]
  unfold serializeMethod
  rcases wasFreed with _ | e
  · obtain ⟨a, hp, -, -⟩ := valueOf_eq_some.mp hv
    rw [Program.exec_bind_ok (receiver_exec hp)]
    exact hrest
  · rw [Program.exec_bind_ok (checkNotFreed_exec e hv)]
    exact hrest

theorem serializeMethod_returned (hw : Owned w) {wasFreed : Option JavaException}
    {compressed : Option Bool} {bytes : List UInt8}
    (h : ((serializeMethod E k wasFreed this compressed).exec w).1 = .ok bytes) :
    ∃ v, valueOf w k this = some v ∧ E.serialize k.nativeType v compressed = .ok bytes := by
  rcases hrun : (serializeMethod E k wasFreed this compressed).exec w with ⟨result, w'⟩
  rw [hrun] at h
  obtain rfl : result = .ok bytes := h
  have hrest : (reading k this >>= fun obj => native (E.serialize k.nativeType obj compressed)).exec
      w = (.ok bytes, w') := by
    unfold serializeMethod at hrun
    rcases wasFreed with _ | e
    · obtain ⟨_, hrun⟩ := (looks_receiver _ _).returned hw hrun
      exact hrun
    · obtain ⟨_, hrun⟩ := (looks_checkNotFreed _ _ _).returned hw hrun
      exact hrun
  obtain ⟨v, hv, hnative⟩ := reading_returned hw hrest
  refine ⟨v, hv, ?_⟩
  rcases hserialize : E.serialize k.nativeType v compressed with e | out
  · rw [hserialize] at hnative
    obtain ⟨thrown, hthrow⟩ := native_error (V := V) (α := List UInt8) e
    rw [hthrow] at hnative
    cases hnative
  · rw [hserialize] at hnative
    cases hnative
    rfl

/-- The length is what the class expects, if it expects one. -/
def Fits (E : Env V) (k : Kind) (bytes : List UInt8) : Prop :=
  (lengthName k).isSome = true → bytes.length = E.encodedLength k

theorem deserializeMethod_exec {bytes : List UInt8} (hfits : Fits E k bytes)
    {checked compressed : Option Bool}
    (hback : E.deserialize k.nativeType bytes checked compressed = .ok (some v)) :
    (deserializeMethod E k (lengthName k) (some bytes) checked compressed).exec w
      = (returnObject E k v).exec w := by
  have hrest : (native (convertByteArray (some bytes)) >>= fun objBytes =>
      native (E.deserialize k.nativeType objBytes checked compressed) >>= fun obj =>
        returnOption E k obj).exec w = (returnObject E k v).exec w := by
    have hbytes : (native (convertByteArray (some bytes)) : JavaCall V _).exec w
        = (.ok bytes, w) := rfl
    rw [Program.exec_bind_ok hbytes, hback, Program.exec_bind_ok (native_exec _ w)]
    rfl
  unfold deserializeMethod
  rcases hname : lengthName k with _ | what
  · exact hrest
  · have hlength : bytes.length = E.encodedLength k := hfits (by rw [hname]; rfl)
    simp only [hlength, ne_eq, not_true_eq_false, if_false]
    exact hrest

theorem deserializeMethod_exec_length {bytes : List UInt8} {what : String}
    (hname : lengthName k = some what) (hlength : bytes.length ≠ E.encodedLength k)
    (checked compressed : Option Bool) :
    ∃ message, (deserializeMethod E k (lengthName k) (some bytes) checked compressed).exec w
      = (.error (.exception (.illegalArgument message)), w) := by
  unfold deserializeMethod
  rw [hname]
  simp only [hlength, ne_eq, not_false_eq_true, if_true]
  exact ⟨_, rfl⟩

end Calls

/-! ## Two processes of one library -/

/-- Elements are padded to 32 bytes and proofs are one byte. Keys and VRF proofs are
one byte if they are compressed, and two otherwise. -/
def padTo32 : (t : NativeType) → CommitmentValue t → Option Bool → Except Panic (List UInt8)
  | .fieldElement, x, _ => .ok (x :: List.replicate 31 0)
  | .scExistenceProof, x, _ | .scAbsenceProof, x, _ => .ok [x]
  | .commitmentTree, _, _ => .error .unwrapError
  | .g2, _, some false | .vrfProof, _, some false => .ok [0, 0]
  | .g2, _, _ | .vrfProof, _, _ | .scalar, _, _ | .schnorrSig, _, _ | .fieldHash, _, _
  | .gingerMHT, _, _ | .gingerMHTPath, _, _ => .ok [0]

def firstByte : (t : NativeType) → List UInt8 → Option (CommitmentValue t)
  | .fieldElement, bytes | .scExistenceProof, bytes | .scAbsenceProof, bytes => bytes.head?
  | .commitmentTree, _ => none
  | .g2, _ | .vrfProof, _ | .scalar, _ | .schnorrSig, _ | .fieldHash, _ | .gingerMHT, _
  | .gingerMHTPath, _ => some ()

def codecLib : NativeLib CommitmentValue :=
  { commitmentLib with
    encodedLength := fun k => if k = .fieldElement then 32 else 1
    serialize := padTo32
    deserialize := fun t bytes _ _ => .ok (firstByte t bytes) }

/-- The sender. -/
def codecEnv : Env CommitmentValue := { codecLib with malloc := fun n => n + 1 }

/-- The receiver, with another heap. -/
def otherEnv : Env CommitmentValue := { codecLib with malloc := fun n => 8 * n + 16 }

theorem otherEnv_same : otherEnv.toNativeLib = codecEnv.toNativeLib := rfl

theorem codecEnv_commitments :
    FollowsCommitmentModel codecEnv.toNativeLib countModel (fun c => c) :=
  { commitmentEnv_follows with }

theorem codecEnv_codecs : FollowsCodecs codecEnv.toNativeLib (fun _ _ => True) where
  inverse := by
    intro t v checked compressed bytes _ hbytes
    cases t with
    | fieldElement | scExistenceProof | scAbsenceProof =>
        cases hbytes
        rfl
    | commitmentTree => cases hbytes
    | _ => rfl
  length := by
    intro k v compressed bytes hname hcompressed hbytes
    rcases compressed with _ | _ | _
    · cases k with
      | merklePath | poseidonHash | inMemoryOptimizedMerkleTree | commitmentTree
      | scExistenceProof | scAbsenceProof => cases hname
      | _ =>
          cases hbytes
          rfl
    · exact absurd rfl hcompressed
    · cases k with
      | merklePath | poseidonHash | inMemoryOptimizedMerkleTree | commitmentTree
      | scExistenceProof | scAbsenceProof => cases hname
      | _ =>
          cases hbytes
          rfl
  uncompressedLength := by
    intro k v bytes hflag hbytes
    cases k with
    | schnorrPublicKey | vrfPublicKey | vrfProof =>
        cases hbytes
        decide
    | _ => cases hflag

/-! ## From one process to another -/

/-- After any operations, the bytes become an object with the value, if there is
memory for it. It has the value and gives the same bytes until it is closed. -/
def Transfers (E : Env V) (before : List Op) (k : Kind) (bytes : List UInt8)
    (check compressed : Bool) (v : V k.nativeType) : Prop :=
  (OutOfMemory E.malloc (run E before) ∧
      ((deserialize E k (some bytes) check compressed).exec (run E before)).1 = .error .abort) ∨
    ∃ r, ((deserialize E k (some bytes) check compressed).exec (run E before)).1 = .ok r ∧
      ∀ after, (valueOf (run E (before ++ .deserialize k (some bytes) check compressed :: after)) k r
            = some v ∧
          ((serialize E k r compressed).exec (run E (before ++
            .deserialize k (some bytes) check compressed :: after))).1 = .ok bytes) ∨
        ClosedDuring E (run E (before ++ [.deserialize k (some bytes) check compressed])) after
          (k, r)

section Processes

variable {E E' : Env V} {valid : (t : NativeType) → V t → Prop}

/-- An object that was serialized has a value, and the library has encoded it. -/
theorem serialize_returned {ops : List Op} {k : Kind} {this : Ref} {compressed : Bool}
    {bytes : List UInt8}
    (h : ((serialize E k this compressed).exec (run E ops)).1 = .ok bytes) :
    encodable k = true ∧ ∃ v, valueOf (run E ops) k this = some v ∧
      E.serialize k.nativeType v (compressedFlag k compressed) = .ok bytes := by
  rcases hk : encodable k with _ | _
  · cases k with
    | poseidonHash | inMemoryOptimizedMerkleTree | commitmentTree => cases h
    | _ => cases hk
  · rw [serialize_eq E hk] at h
    exact ⟨rfl, serializeMethod_returned (run_owned E ops) h⟩

theorem fits_of_compressed (hcodecs : FollowsCodecs E.toNativeLib valid) {k : Kind}
    {v : V k.nativeType} {compressed : Bool} {bytes : List UInt8}
    (hbytes : E.serialize k.nativeType v (compressedFlag k compressed) = .ok bytes)
    (hflag : flagged k = true → compressed = true) : Fits E k bytes := by
  intro hname
  refine hcodecs.length k v _ bytes hname ?_ hbytes
  unfold compressedFlag
  rcases hk : flagged k with _ | _
  · simp
  · simp [hflag hk]

/-- Bytes of a length that the class expects become an object again. -/
theorem transfers (hsame : E'.toNativeLib = E.toNativeLib)
    (hcodecs : FollowsCodecs E.toNativeLib valid) (before : List Op) {k : Kind}
    {v : V k.nativeType} {check compressed : Bool} {bytes : List UInt8}
    (hk : encodable k = true)
    (hbytes : E.serialize k.nativeType v (compressedFlag k compressed) = .ok bytes)
    (hvalid : checkedFlag k check ≠ some false → valid k.nativeType v)
    (hflag : flagged k = true → compressed = true) :
    Transfers E' before k bytes check compressed v := by
  have hfits : Fits E' k bytes := by
    unfold Fits
    rw [hsame]
    exact fits_of_compressed hcodecs hbytes hflag
  have hback : E'.deserialize k.nativeType bytes (checkedFlag k check)
      (compressedFlag k compressed) = .ok (some v) := by
    rw [hsame]
    exact hcodecs.inverse _ v _ _ bytes hvalid hbytes
  have hagain : E'.serialize k.nativeType v (compressedFlag k compressed) = .ok bytes := by
    rw [hsame]
    exact hbytes
  have hexec : (deserialize E' k (some bytes) check compressed).exec (run E' before)
      = (returnObject E' k v).exec (run E' before) := by
    rw [deserialize_eq E' hk]
    exact deserializeMethod_exec hfits hback
  rcases returnObject_exec E' k v (run E' before) with ⟨hfull, habort⟩ | ⟨r, w', hrun, hvalue⟩
  · refine .inl ⟨hfull, ?_⟩
    rw [hexec]
    exact habort
  · refine .inr ⟨r, by rw [hexec, hrun], ?_⟩
    intro after
    have hw := run_owned E' (before ++ [.deserialize k (some bytes) check compressed])
    have hafter : run E' (before ++ [.deserialize k (some bytes) check compressed]) = w' := by
      have hstep : step E' (.deserialize k (some bytes) check compressed)
          = discard (deserialize E' k (some bytes) check compressed) := rfl
      rw [run_concat, hstep, discard_world, hexec, hrun]
    rw [run_cons, ← run_concat]
    rw [← hafter] at hvalue
    rcases runFrom_value E' after hw (immutable_of_encodable hk) hvalue with hkept | ⟨hclosed, -⟩
    · refine .inl ⟨hkept, ?_⟩
      rw [serialize_eq E' hk, serializeMethod_exec hkept _ hagain]
    · exact .inr hclosed

/-- What one process serialized becomes an object of the same value in another, at
any time of both, exactly if the class has one form only or the bytes are of the
compressed one. -/
theorem transfer_iff (hsame : E'.toNativeLib = E.toNativeLib)
    (hcodecs : FollowsCodecs E.toNativeLib valid) (ops before : List Op) {k : Kind} {this : Ref}
    {compressed : Bool} {bytes : List UInt8} (check : Bool)
    (hbytes : ((serialize E k this compressed).exec (run E ops)).1 = .ok bytes) :
    ∃ v, valueOf (run E ops) k this = some v ∧
      ((checkedFlag k check ≠ some false → valid k.nativeType v) →
        (Transfers E' before k bytes check compressed v ↔
          (flagged k = true → compressed = true))) := by
  obtain ⟨hk, v, hv, hencoded⟩ := serialize_returned hbytes
  refine ⟨v, hv, ?_⟩
  intro hvalid
  constructor
  · intro htransfers hflag
    rcases hcompressed : compressed with _ | _
    · -- the uncompressed form is longer than what the class expects
      subst hcompressed
      have hfalse : compressedFlag k false = some false := if_pos hflag
      rw [hfalse] at hencoded
      have hlong := hcodecs.uncompressedLength k v bytes hflag hencoded
      obtain ⟨what, hname⟩ := Option.isSome_iff_exists.mp (encodable_of_flagged hflag).2
      have hne : bytes.length ≠ E'.encodedLength k := by
        rw [hsame]
        exact Nat.ne_of_gt hlong
      obtain ⟨message, hthrown⟩ := deserializeMethod_exec_length (w := run E' before) hname hne
        (checkedFlag k check) (compressedFlag k false)
      rw [← deserialize_eq E' hk] at hthrown
      rcases htransfers with ⟨-, habort⟩ | ⟨r, hrun, -⟩
      · rw [hthrown] at habort
        cases habort
      · rw [hthrown] at hrun
        cases hrun
    · rfl
  · exact transfers hsame hcodecs before hk hencoded hvalid

end Processes

/-- A public key goes over compressed, and only so. -/
theorem transfer_iff_key :
    Transfers otherEnv [.fieldElementFromLong 1] .schnorrPublicKey [0] true true () ∧
      ¬ Transfers otherEnv [.fieldElementFromLong 1] .schnorrPublicKey [0, 0] true false () := by
  have hshort : ((serialize codecEnv .schnorrPublicKey (some 0) true).exec
      (run codecEnv [.schnorrGenerate])).1 = .ok [0] := rfl
  have hlong : ((serialize codecEnv .schnorrPublicKey (some 0) false).exec
      (run codecEnv [.schnorrGenerate])).1 = .ok [0, 0] := rfl
  obtain ⟨_, -, hiff⟩ := transfer_iff otherEnv_same codecEnv_codecs [.schnorrGenerate]
    [.fieldElementFromLong 1] true hshort
  obtain ⟨_, -, hiff'⟩ := transfer_iff otherEnv_same codecEnv_codecs [.schnorrGenerate]
    [.fieldElementFromLong 1] true hlong
  refine ⟨(hiff fun _ => trivial).mpr fun _ => rfl, ?_⟩
  intro htransfers
  have hcompressed := (hiff' fun _ => trivial).mp htransfers rfl
  cases hcompressed

section Receiving

variable {E E' : Env V} {valid : (t : NativeType) → V t → Prop}

/-- At some time of the run the bytes became the object, which was not closed since. -/
def Received (E : Env V) (ops : List Op) (k : Kind) (bytes : List UInt8)
    (check compressed : Bool) (r : Ref) : Prop :=
  ∃ before after, ops = before ++ .deserialize k (some bytes) check compressed :: after ∧
    ((deserialize E k (some bytes) check compressed).exec (run E before)).1 = .ok r ∧
    ¬ ClosedDuring E (run E (before ++ [.deserialize k (some bytes) check compressed])) after (k, r)

theorem received_of_run (E : Env V) (before : List Op) (k : Kind) (bytes : List UInt8)
    (check compressed : Bool) (after : List Op) {r : Ref}
    (hrun : ((deserialize E k (some bytes) check compressed).exec (run E before)).1 = .ok r)
    (hafter : ∀ op ∈ after, ∀ w : World V, (k, r) ∉ op.closes w) :
    Received E (before ++ .deserialize k (some bytes) check compressed :: after) k bytes check
      compressed r :=
  ⟨before, after, rfl, hrun, not_closedDuring E hafter⟩

/-- An object that was received has the value that was sent. -/
theorem received_value (hsame : E'.toNativeLib = E.toNativeLib)
    (hcodecs : FollowsCodecs E.toNativeLib valid) {ops ops' : List Op} {k : Kind} {this r : Ref}
    {v : V k.nativeType} {check compressed : Bool} {bytes : List UInt8}
    (hv : valueOf (run E ops) k this = some v)
    (hbytes : ((serialize E k this compressed).exec (run E ops)).1 = .ok bytes)
    (hvalid : checkedFlag k check ≠ some false → valid k.nativeType v)
    (hflag : flagged k = true → compressed = true)
    (hreceived : Received E' ops' k bytes check compressed r) :
    valueOf (run E' ops') k r = some v := by
  obtain ⟨hk, v', hv', hencoded⟩ := serialize_returned hbytes
  obtain rfl : v' = v := Option.some.inj (hv'.symm.trans hv)
  obtain ⟨before, after, rfl, hrun, hopen⟩ := hreceived
  rcases transfers hsame hcodecs before hk hencoded hvalid hflag with
    ⟨-, habort⟩ | ⟨r', hrun', hlater⟩
  · rw [habort] at hrun
    cases hrun
  · obtain rfl : r' = r := Except.ok.inj (hrun'.symm.trans hrun)
    rcases hlater after with ⟨hkept, -⟩ | hclosed
    · exact hkept
    · exact absurd hclosed hopen

/-! ## A proof for another process -/

variable {M : CommitmentModel (V .fieldElement) (V .scExistenceProof) (V .scAbsenceProof)}
  {contentsOf : V .commitmentTree → Contents M}

/-- A process with commitment trees sends the commitment of a sidechain, an existence
proof for it and the commitment of everything. A process that receives the bytes, in
any order and at any time, has three objects that verify. -/
theorem existence_transfers (hsame : E'.toNativeLib = E.toNativeLib)
    (hlib : FollowsCommitmentModel E.toNativeLib M contentsOf)
    (hcodecs : FollowsCodecs E.toNativeLib valid)
    (hvalidElement : ∀ x, valid .fieldElement x) (hvalidProof : ∀ p, valid .scExistenceProof p)
    (ops ops' : List Op) {c : Contents M} {scId : Option (List UInt8)}
    {commitment proof root commitment' proof' root' : Ref}
    {commitmentBytes proofBytes rootBytes : List UInt8} {check compressed : Bool}
    (hcommitment : GaveOut E contentsOf ops c (.part .sc scId) commitment)
    (hproof : GaveOut E contentsOf ops c (.existence scId) proof)
    (hroot : GaveOut E contentsOf ops c .commitment root)
    (hcommitmentBytes : ((serialize E .fieldElement commitment compressed).exec (run E ops)).1
      = .ok commitmentBytes)
    (hproofBytes : ((serialize E .scExistenceProof proof compressed).exec (run E ops)).1
      = .ok proofBytes)
    (hrootBytes : ((serialize E .fieldElement root compressed).exec (run E ops)).1
      = .ok rootBytes)
    (hcommitment' : Received E' ops' .fieldElement commitmentBytes check compressed commitment')
    (hproof' : Received E' ops' .scExistenceProof proofBytes check compressed proof')
    (hroot' : Received E' ops' .fieldElement rootBytes check compressed root') :
    ((CommitmentTree.verifyScCommitment E' commitment' proof' root').exec (run E' ops')).1
      = .ok true := by
  obtain ⟨s, p, t, hs, hp, ht, hverifies⟩ := existence_values hlib hcommitment hproof hroot
  have hflag : flagged .fieldElement = true → compressed = true := nofun
  have hflagProof : flagged .scExistenceProof = true → compressed = true := nofun
  have hs' := received_value hsame hcodecs hs hcommitmentBytes (fun _ => hvalidElement s) hflag
    hcommitment'
  have hp' := received_value hsame hcodecs hp hproofBytes (fun _ => hvalidProof p) hflagProof
    hproof'
  have ht' := received_value hsame hcodecs ht hrootBytes (fun _ => hvalidElement t) hflag hroot'
  have hsameVerify : E'.verifyScCommitment s p t = .ok true := by
    rw [hsame]
    exact hverifies
  exact verifyScCommitment_exec hs' hp' ht' hsameVerify

end Receiving

/-- A tree that is filled, asked for the three objects and closed. -/
def sent : List Op :=
  filled ++ [.treeGetScCommitment (some 0) (scIdOf 7), .treeGetScExistenceProof (some 0) (scIdOf 7),
    .treeGetCommitment (some 0), .free .commitmentTree (some 0)]

/-- The sender closes its tree when it has the three objects, and the receiver makes
other objects, too. -/
theorem existence_transfers_two :
    ((CommitmentTree.verifyScCommitment otherEnv (some 1) (some 0) (some 2)).exec
      (run otherEnv [.fieldElementFromLong 9,
        .deserialize .fieldElement (some (2 :: List.replicate 31 0)) true true,
        .deserialize .scExistenceProof (some [2]) true true, .free .fieldElement (some 0),
        .deserialize .fieldElement (some (2 :: List.replicate 31 0)) true true])).1
      = .ok true := by
  -- the sender
  have hfilled : Holds (M := countModel) (fun c => c) (run codecEnv filled) (some 0)
    twoContents := ⟨_, rfl, rfl⟩
  have hcommitment := gaveOut_of_answer (E := codecEnv) filled (some 0) (.part .sc (scIdOf 7))
    [.treeGetScExistenceProof (some 0) (scIdOf 7), .treeGetCommitment (some 0),
      .free .commitmentTree (some 0)] (r := some 1) hfilled rfl (by decide)
    (by simp [Op.closes, Query.kind])
  have hasked : Holds (M := countModel) (fun c => c) (run codecEnv (filled ++
    [.treeGetScCommitment (some 0) (scIdOf 7)])) (some 0) twoContents := ⟨_, rfl, rfl⟩
  have hproof := gaveOut_of_answer (E := codecEnv) _ (some 0) (.existence (scIdOf 7))
    [.treeGetCommitment (some 0), .free .commitmentTree (some 0)] (r := some 0) hasked rfl
    (by decide) (by simp [Op.closes, Query.kind])
  have hproved : Holds (M := countModel) (fun c => c) (run codecEnv (filled ++
    [.treeGetScCommitment (some 0) (scIdOf 7), .treeGetScExistenceProof (some 0) (scIdOf 7)]))
    (some 0) twoContents := ⟨_, rfl, rfl⟩
  have hroot := gaveOut_of_answer (E := codecEnv) _ (some 0) .commitment
    [.free .commitmentTree (some 0)] (r := some 2) hproved rfl (by decide)
    (by simp [Op.closes, Query.kind])
  have hvalue : valueOf (run codecEnv sent) .fieldElement (some 1) = some 2 := by
    obtain ⟨s, hs, hvalue⟩ := gaveOut_value codecEnv_commitments hcommitment
    obtain rfl : (2 : UInt8) = s := Option.some.inj (Except.ok.inj hs)
    exact hvalue
  have hproofValue : valueOf (run codecEnv sent) .scExistenceProof (some 0) = some 2 := by
    obtain ⟨p, hp, hvalue⟩ := gaveOut_value codecEnv_commitments hproof
    obtain rfl : (2 : UInt8) = p := Option.some.inj (Except.ok.inj hp)
    exact hvalue
  have hrootValue : valueOf (run codecEnv sent) .fieldElement (some 2) = some 2 := by
    obtain ⟨t, ht, hvalue⟩ := gaveOut_value codecEnv_commitments hroot
    obtain rfl : (2 : UInt8) = t := Option.some.inj (Except.ok.inj ht)
    exact hvalue
  have hbytes : ((serialize codecEnv .fieldElement (some 1) true).exec (run codecEnv sent)).1
      = .ok (2 :: List.replicate 31 0) := by
    rw [serialize_eq codecEnv rfl, serializeMethod_exec hvalue _ rfl]
  have hproofBytes : ((serialize codecEnv .scExistenceProof (some 0) true).exec
      (run codecEnv sent)).1 = .ok [2] := by
    rw [serialize_eq codecEnv rfl, serializeMethod_exec hproofValue _ rfl]
  have hrootBytes : ((serialize codecEnv .fieldElement (some 2) true).exec (run codecEnv sent)).1
      = .ok (2 :: List.replicate 31 0) := by
    rw [serialize_eq codecEnv rfl, serializeMethod_exec hrootValue _ rfl]
  -- the receiver
  have hcommitment' := received_of_run otherEnv [.fieldElementFromLong 9] .fieldElement
    (2 :: List.replicate 31 0) true true [.deserialize .scExistenceProof (some [2]) true true,
      .free .fieldElement (some 0), .deserialize .fieldElement (some (2 :: List.replicate 31 0))
        true true] (r := some 1) rfl (by simp [Op.closes])
  have hproof' := received_of_run otherEnv [.fieldElementFromLong 9,
    .deserialize .fieldElement (some (2 :: List.replicate 31 0)) true true] .scExistenceProof [2]
    true true [.free .fieldElement (some 0), .deserialize .fieldElement
      (some (2 :: List.replicate 31 0)) true true] (r := some 0) rfl (by simp [Op.closes])
  have hroot' := received_of_run otherEnv [.fieldElementFromLong 9,
    .deserialize .fieldElement (some (2 :: List.replicate 31 0)) true true,
    .deserialize .scExistenceProof (some [2]) true true, .free .fieldElement (some 0)] .fieldElement
    (2 :: List.replicate 31 0) true true [] (r := some 2) rfl (by simp)
  exact existence_transfers otherEnv_same codecEnv_commitments codecEnv_codecs
    (fun _ => trivial) (fun _ => trivial) sent _ hcommitment hproof hroot hbytes hproofBytes
    hrootBytes hcommitment' hproof' hroot'

end ZendooSc.Handles
