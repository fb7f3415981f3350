/-
ZendooSc.Circuit.Gadgets — the gadget calls `generate_constraints` makes.

The constraint system and the gadgets are ginger-lib's, not this
repository's. What the circuit relies on is stated here once:

* an allocation makes private or public variables, and nothing else is asked
  of their values, except that a `UInt64` and a `Boolean` allocate bits;
* a gadget call computes its PRIMITIVE: the Poseidon hash of its inputs, the
  Schnorr verdict for the key coordinates, signature and message it is given,
  the big-endian packing of bits, a constant, a conditional addition, a
  difference;
* `enforce_equal` makes two variables equal.

The two primitives that are cryptography, the hash and the Schnorr check, are
parameters (`Primitives`). They are total: the hash of no input at all is some
field element, whatever the library does with it.

`publicInputs` and `privateInputs` read an assignment back in allocation
order, which is how a statement fixes the verifier's inputs and the prover's
witness.
-/
import ZendooSc.Lib.Wires

namespace ZendooSc

open Lib

/-! ## Primitives -/

/-- A Schnorr public key by its two affine coordinates. -/
structure SchnorrPk (F : Type) where
  x : F
  y : F
  deriving DecidableEq, Repr

/-- A Schnorr signature. -/
structure SchnorrSig (F : Type) where
  e : F
  s : F
  deriving DecidableEq, Repr

/-- The cryptographic primitives behind the gadgets: `FieldHash` in constant
length mode, and the verdict of `SchnorrSigScheme::verify`. -/
structure Primitives (F : Type) where
  hash : List F → F
  verdict : SchnorrPk F → F → SchnorrSig F → Bool

/-! ## Gadget calls -/

/-- The calls by which `generate_constraints` uses a constraint system. -/
inductive GadgetCall (F : Type) where
  /-- `FrGadget::alloc`. -/
  | frAlloc
  /-- `FrGadget::alloc_input`. -/
  | frAllocInput
  /-- `SchnorrPkGadget::alloc_without_check`: two coordinates, no curve check. -/
  | pkAllocWithoutCheck
  /-- `SchnorrSigGadget::alloc`: `e` and `s`. -/
  | sigAlloc
  /-- `UInt64::alloc`: 64 bits, least significant first. -/
  | uint64Alloc
  /-- `Boolean::alloc`. -/
  | booleanAlloc
  /-- `PoseidonHashGadget::enforce_hash_constant_length`. -/
  | enforceHashConstantLength
  /-- `SchnorrVrfySigGadget::enforce_signature_verdict`, reading the two key
  coordinates, the two signature elements and the message. -/
  | enforceSignatureVerdict
  /-- `FrGadget::zero`. -/
  | frZero
  /-- `conditionally_add_constant`, reading the summand and the condition. -/
  | conditionallyAddConstant (c : F)
  /-- `FrGadget::from_bits`, most significant bit first. -/
  | fromBits
  /-- `sub`. -/
  | sub
  /-- `enforce_equal`. -/
  | enforceEqual
  deriving DecidableEq, Repr

namespace GadgetCall

variable {F : Type}

/-- The calls that allocate witness variables. -/
def isPrivateAlloc : GadgetCall F → Bool
  | .frAlloc | .pkAllocWithoutCheck | .sigAlloc | .uint64Alloc | .booleanAlloc => true
  | _ => false

/-- The call that allocates a public input. -/
def isPublicAlloc : GadgetCall F → Bool
  | .frAllocInput => true
  | _ => false

variable [CommRing F] (P : Primitives F)

/-- The values the prover assigns to the new wires of a computing gadget. -/
def eval : GadgetCall F → List F → Option (List F)
  | .enforceHashConstantLength, xs => some [P.hash xs]
  | .enforceSignatureVerdict, [x, y, e, s, m] => some [bitVal (P.verdict ⟨x, y⟩ m ⟨e, s⟩)]
  | .frZero, [] => some [0]
  | .conditionallyAddConstant c, [a, v] => some [a + v * c]
  | .fromBits, bits => some [packBE bits]
  | .sub, [a, b] => some [a - b]
  | .enforceEqual, [_, _] => some []
  | _, _ => none

/-- The relation the constraints of a call enforce between the values it reads
and the values it makes. -/
def holds : GadgetCall F → List F → List F → Prop
  | .frAlloc, [], [_] => True
  | .frAllocInput, [], [_] => True
  | .pkAllocWithoutCheck, [], [_, _] => True
  | .sigAlloc, [], [_, _] => True
  | .uint64Alloc, [], bits => bits.length = 64 ∧ ∀ x ∈ bits, x = 0 ∨ x = 1
  | .booleanAlloc, [], [x] => x = 0 ∨ x = 1
  | .enforceEqual, [a, b], [] => a = b
  | op, xs, ys => op.eval P xs = some ys

end GadgetCall

/-- The gadget set over given primitives. -/
def gadgets {F : Type} [CommRing F] (P : Primitives F) : GadgetSem F (GadgetCall F) where
  eval := GadgetCall.eval P
  holds := GadgetCall.holds P

theorem gadgets_eval {F : Type} [CommRing F] (P : Primitives F) :
    (gadgets P).eval = GadgetCall.eval P := rfl

/-! ## What each call enforces -/

section Holds

variable {F : Type} [CommRing F] (P : Primitives F) (w : Wire → F) (ns : String)

@[simp] theorem holds_frAlloc (a : Wire) :
    Step.Holds (gadgets P) w ⟨ns, .frAlloc, [], [a]⟩ ↔ True := Iff.rfl

@[simp] theorem holds_frAllocInput (a : Wire) :
    Step.Holds (gadgets P) w ⟨ns, .frAllocInput, [], [a]⟩ ↔ True := Iff.rfl

@[simp] theorem holds_pkAlloc (x y : Wire) :
    Step.Holds (gadgets P) w ⟨ns, .pkAllocWithoutCheck, [], [x, y]⟩ ↔ True := Iff.rfl

@[simp] theorem holds_sigAlloc (e s : Wire) :
    Step.Holds (gadgets P) w ⟨ns, .sigAlloc, [], [e, s]⟩ ↔ True := Iff.rfl

@[simp] theorem holds_uint64Alloc (bits : List Wire) :
    Step.Holds (gadgets P) w ⟨ns, .uint64Alloc, [], bits⟩ ↔
      bits.length = 64 ∧ ∀ x ∈ bits, w x = 0 ∨ w x = 1 := by
  simp [Step.Holds, gadgets, GadgetCall.holds]

@[simp] theorem holds_booleanAlloc (a : Wire) :
    Step.Holds (gadgets P) w ⟨ns, .booleanAlloc, [], [a]⟩ ↔ w a = 0 ∨ w a = 1 := Iff.rfl

@[simp] theorem holds_enforceEqual (a b : Wire) :
    Step.Holds (gadgets P) w ⟨ns, .enforceEqual, [a, b], []⟩ ↔ w a = w b := Iff.rfl

@[simp] theorem holds_enforceHash (xs : List Wire) (a : Wire) :
    Step.Holds (gadgets P) w ⟨ns, .enforceHashConstantLength, xs, [a]⟩ ↔
      P.hash (xs.map w) = w a := by
  simp [Step.Holds, gadgets, GadgetCall.holds, GadgetCall.eval]

@[simp] theorem holds_verdict (x y e s m a : Wire) :
    Step.Holds (gadgets P) w ⟨ns, .enforceSignatureVerdict, [x, y, e, s, m], [a]⟩ ↔
      bitVal (P.verdict ⟨w x, w y⟩ (w m) ⟨w e, w s⟩) = w a := by
  simp [Step.Holds, gadgets, GadgetCall.holds, GadgetCall.eval]

@[simp] theorem holds_frZero (a : Wire) :
    Step.Holds (gadgets P) w ⟨ns, .frZero, [], [a]⟩ ↔ 0 = w a := by
  simp [Step.Holds, gadgets, GadgetCall.holds, GadgetCall.eval]

@[simp] theorem holds_condAdd (c : F) (a v b : Wire) :
    Step.Holds (gadgets P) w ⟨ns, .conditionallyAddConstant c, [a, v], [b]⟩ ↔
      w a + w v * c = w b := by
  simp [Step.Holds, gadgets, GadgetCall.holds, GadgetCall.eval]

@[simp] theorem holds_fromBits (bits : List Wire) (a : Wire) :
    Step.Holds (gadgets P) w ⟨ns, .fromBits, bits, [a]⟩ ↔ packBE (bits.map w) = w a := by
  simp [Step.Holds, gadgets, GadgetCall.holds, GadgetCall.eval]

@[simp] theorem holds_sub (a b c : Wire) :
    Step.Holds (gadgets P) w ⟨ns, .sub, [a, b], [c]⟩ ↔ w a - w b = w c := by
  simp [Step.Holds, gadgets, GadgetCall.holds, GadgetCall.eval]

/-- A loop's steps, one for each counter. -/
theorem sat_map_range (N : ℕ) (f : ℕ → Step (GadgetCall F)) :
    Sat (gadgets P) w ((List.range N).map f) ↔ ∀ i < N, (f i).Holds (gadgets P) w := by
  simp [Sat]

end Holds

/-! ## Reading an assignment back -/

section ReadBack

variable {F : Type} (w : Wire → F)

/-- The values of the allocations of one kind, in the order of allocation. -/
def allocated (kind : GadgetCall F → Bool) (S : List (Step (GadgetCall F))) : List F :=
  (S.filter fun s => kind s.op).flatMap fun s => s.outs.map w

/-- The verifier's inputs. -/
def publicInputs (S : List (Step (GadgetCall F))) : List F :=
  allocated w GadgetCall.isPublicAlloc S

/-- The prover's witness. -/
def privateInputs (S : List (Step (GadgetCall F))) : List F :=
  allocated w GadgetCall.isPrivateAlloc S

end ReadBack

end ZendooSc
