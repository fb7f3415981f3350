/-
ZendooSc.Circuit.Synthesis — setup and proving see the same circuit.

The two ways to make an instance are far apart: `getInstanceForSetup` takes
the length of `b` from the number of keys, `new` gets it by cutting the bits
of a field element. Both come out well shaped, so both emit `circuitSteps`
for the same number of keys, and the emission lemma says that the witness has
no part in it.

`proving_run` adds the values. An instance with nothing missing is assigned
in full, and every step's closure is realised by the recorded values.
-/
import ZendooSc.Circuit.Emission

namespace ZendooSc

open Lib NaiveTresholdSignature

/-! ## The two instances -/

theorem logMaxPks_eq (maxPks : UInt64) : logMaxPks maxPks = Nat.clog 2 maxPks.toNat :=
  trailingZeros_nextPowerOfTwo maxPks

theorem logMaxPks_le (maxPks : UInt64) : logMaxPks maxPks ≤ 64 := by
  rw [logMaxPks_eq]
  exact clog_le_64 maxPks

/-- The circuit's bits always fit the field's. -/
theorem logMaxPks_lt_sizeInBits {p : ℕ} (hp : 2 ^ 254 < p) (maxPks : UInt64) :
    logMaxPks maxPks + 1 ≤ sizeInBits p := by
  have hsize : 254 < Nat.size p := Nat.lt_size.mpr (Nat.le_of_lt hp)
  have hlog := logMaxPks_le maxPks
  unfold sizeInBits
  omega

theorem getInstanceForSetup_wellShaped {F : Type} (maxPks : UInt64) :
    (getInstanceForSetup F maxPks).WellShaped := by
  constructor <;> simp [getInstanceForSetup]

/-- Everything a prover of `N` keys chooses, apart from the bits of `b`. -/
structure Witness (F : Type) (N : ℕ) where
  keys : List (SchnorrPk F)
  sigs : List (SchnorrSig F)
  threshold : F
  scId : F
  epochNumber : F
  mrBt : F
  root : F
  btrFee : UInt64
  ftMinAmount : UInt64
  length_keys : keys.length = N
  length_sigs : sigs.length = N

/-- The instance of a witness and the bits of `b`. -/
def Witness.toInstance {F : Type} {N : ℕ} (wit : Witness F N) (bits : List Bool)
    (maxPks : UInt64) : NaiveTresholdSignature F where
  pks := wit.keys.map some
  sigs := wit.sigs.map some
  threshold := some wit.threshold
  b := bits.map some
  scId := some wit.scId
  epochNumber := some wit.epochNumber
  endCumulativeScTxCommTreeRoot := some wit.root
  mrBt := some wit.mrBt
  ftMinAmount := some wit.ftMinAmount
  btrFee := some wit.btrFee
  maxPks := maxPks

theorem Witness.toInstance_wellShaped {F : Type} {maxPks : UInt64}
    (wit : Witness F maxPks.toNat) {bits : List Bool}
    (hbits : bits.length = logMaxPks maxPks + 1) : (wit.toInstance bits maxPks).WellShaped := by
  constructor
  · simpa [toInstance] using wit.length_keys
  · simpa [toInstance] using wit.length_sigs
  · simpa [toInstance] using hbits

/-- The bits that are not skipped are the low ones. -/
theorem writeBits_drop {p : ℕ} (hp : 2 ^ 254 < p) (b : FieldElement p) (maxPks : UInt64) :
    (writeBits b).drop (sizeInBits p - (logMaxPks maxPks + 1))
      = bitsBE (logMaxPks maxPks + 1) b.val := by
  have hfit := logMaxPks_lt_sizeInBits hp maxPks
  have hsplit : sizeInBits p
      = (sizeInBits p - (logMaxPks maxPks + 1)) + (logMaxPks maxPks + 1) := by omega
  rw [writeBits]
  nth_rewrite 2 [hsplit]
  exact bitsBE_drop _ _ _

/-- `new` does not panic, and stores the low bits of `b`. -/
theorem new_eq {p : ℕ} (hp : 2 ^ 254 < p) {N : ℕ} (wit : Witness (FieldElement p) N)
    (b : FieldElement p) (maxPks : UInt64) :
    new wit.keys (wit.sigs.map some) wit.threshold b wit.scId wit.epochNumber wit.root wit.mrBt
        wit.ftMinAmount wit.btrFee maxPks
      = .ok (wit.toInstance (bitsBE (logMaxPks maxPks + 1) b.val) maxPks) := by
  have hfit := logMaxPks_lt_sizeInBits hp maxPks
  simp only [new, if_neg (Nat.not_lt.mpr hfit), writeBits_drop hp]
  rfl

/-! ## Nothing missing -/

section Full

variable {F : Type}

/-- Every witness of the instance is there. -/
structure NaiveTresholdSignature.Full (inst : NaiveTresholdSignature F) : Prop where
  pks : ∀ pk ∈ inst.pks, pk.isSome
  sigs : ∀ sig ∈ inst.sigs, sig.isSome
  threshold : inst.threshold.isSome
  b : ∀ b ∈ inst.b, b.isSome
  scId : inst.scId.isSome
  epochNumber : inst.epochNumber.isSome
  root : inst.endCumulativeScTxCommTreeRoot.isSome
  mrBt : inst.mrBt.isSome
  ftMinAmount : inst.ftMinAmount.isSome
  btrFee : inst.btrFee.isSome

/-- A source whose closure, if it is of the given kind, succeeds. -/
def Supplied (src : Source F SynthesisError) : Prop :=
  ∀ v, src = .given v → ∃ vs, v = .ok vs

theorem supplied_computed : Supplied (.computed : Source F SynthesisError) := by
  intro v hv
  cases hv

theorem supplied_readBack (x : Wire) : Supplied (.readBack x : Source F SynthesisError) := by
  intro v hv
  cases hv

theorem supplied_witness {α : Type} {v : Option α} {f : α → List F} (h : v.isSome) :
    Supplied (witnessSource (v.map f)) := by
  intro u hu
  obtain ⟨a, rfl⟩ := Option.isSome_iff_exists.mp h
  cases hu
  exact ⟨f a, rfl⟩

theorem isSome_of_mem_map_some {α : Type} {l : List α} {o : Option α} (h : o ∈ l.map some) :
    o.isSome := by
  obtain ⟨a, _, rfl⟩ := List.mem_map.mp h
  rfl

theorem Witness.toInstance_full {N : ℕ} (wit : Witness F N) (bits : List Bool) (maxPks : UInt64) :
    (wit.toInstance bits maxPks).Full where
  pks _ h := isSome_of_mem_map_some h
  sigs _ h := isSome_of_mem_map_some h
  threshold := rfl
  b _ h := isSome_of_mem_map_some h
  scId := rfl
  epochNumber := rfl
  root := rfl
  mrBt := rfl
  ftMinAmount := rfl
  btrFee := rfl

variable [CommRing F]

/-- An instance with nothing missing supplies every source. -/
theorem NaiveTresholdSignature.Full.supplied {inst : NaiveTresholdSignature F} (h : inst.Full) :
    ∀ src ∈ circuitSources inst, Supplied src := by
  simp only [circuitSources, pksSources, messageSources, signatureSources, inputSources,
    thresholdSources, List.forall_mem_append, List.forall_mem_cons, List.forall_mem_map,
    List.not_mem_nil, false_implies, implies_true, and_true]
  refine ⟨⟨?_, supplied_computed, ?_, supplied_computed⟩,
    ⟨?_, ?_, ?_, ?_, ?_, ?_, supplied_computed, supplied_computed⟩,
    ⟨?_, fun _ _ => supplied_computed, supplied_computed, fun _ _ => supplied_computed⟩,
    ⟨supplied_computed, supplied_computed⟩,
    ⟨supplied_readBack _, supplied_computed, supplied_readBack _, supplied_computed⟩,
    ?_, supplied_computed, supplied_computed, supplied_computed⟩
  · exact fun pk hpk => supplied_witness (h.pks pk hpk)
  · exact supplied_witness h.threshold
  · exact supplied_witness h.scId
  · exact supplied_witness h.epochNumber
  · exact supplied_witness h.mrBt
  · exact supplied_witness h.root
  · exact supplied_witness h.btrFee
  · exact supplied_witness h.ftMinAmount
  · exact fun sig hsig => supplied_witness (h.sigs sig hsig)
  · exact fun b hb => supplied_witness (h.b b hb)

/-- The proving run of an instance with nothing missing: the same steps as
setup, and a value for every wire that realises every step. -/
theorem proving_run (P : Primitives F) {inst : NaiveTresholdSignature F}
    (hshape : inst.WellShaped) (hfull : inst.Full) :
    ∃ vals, prove (gadgets P) .assignmentMissing inst.generateConstraints
        = .ok (circuitSteps F inst.maxPks.toNat (logMaxPks inst.maxPks + 1), .ok vals) ∧
      ∀ w, Reads w vals → ∀ i ∈ circuitInstrs inst, i.Realised (gadgets P) w := by
  have hemits := emits_generateConstraints P hshape
  have hgiven : ∀ i ∈ circuitInstrs inst, ∀ v, i.source = .given v → ∃ vs, v = .ok vs := by
    intro i hi v hv
    obtain ⟨k, hk, hik⟩ := List.mem_iff_getElem.mp hi
    have hsrc : i.source ∈ circuitSources inst := by
      rw [← hik]
      simp [circuitInstrs]
    exact hfull.supplied _ hsrc v hv
  obtain ⟨vals, hvals, hreal⟩ := assignAll_realised .assignmentMissing (circuitInstrs inst) []
    _ hemits.laid hgiven
  refine ⟨vals, ?_, by simpa using hreal⟩
  rw [hemits.prove_eq, map_step_circuitInstrs hshape, hvals, List.nil_append]

end Full

/-! ## The same circuit -/

/-- Setup and proving synthesize the same circuit. For every number of keys
and every full witness, both instances pass the assertions; the steps are the
same, no two of them share a namespace, and the prover assigns every wire. -/
theorem setup_and_proving_agree {p : ℕ} (hp : 2 ^ 254 < p) (P : Primitives (FieldElement p))
    (maxPks : UInt64) (wit : Witness (FieldElement p) maxPks.toNat) (b : FieldElement p) :
    ∃ S inst vals,
      setup (getInstanceForSetup (FieldElement p) maxPks).generateConstraints = .ok S ∧
      new wit.keys (wit.sigs.map some) wit.threshold b wit.scId wit.epochNumber wit.root
        wit.mrBt wit.ftMinAmount wit.btrFee maxPks = .ok inst ∧
      setup inst.generateConstraints = .ok S ∧
      prove (gadgets P) .assignmentMissing inst.generateConstraints = .ok (S, .ok vals) ∧
      (S.map Step.ns).Nodup := by
  have hblank : (getInstanceForSetup (FieldElement p) maxPks).WellShaped :=
    getInstanceForSetup_wellShaped maxPks
  have hsetup := setup_generateConstraints hblank
  have hshape := wit.toInstance_wellShaped (length_bitsBE (logMaxPks maxPks + 1) b.val)
  obtain ⟨vals, hprove, _⟩ := proving_run P hshape (wit.toInstance_full _ maxPks)
  exact ⟨_, _, vals, hsetup, new_eq hp wit b maxPks, setup_generateConstraints hshape, hprove,
    nodup_ns_circuitSteps _ _⟩

/-- Primitives to evaluate with: a polynomial for the hash, and a verdict that
compares one coordinate. -/
def standInPrimitives (p : ℕ) : Primitives (FieldElement p) where
  hash xs := xs.foldl (fun h x => 31 * h + x) 7
  verdict pk _ sig := decide (sig.s = pk.y)

/-- A witness for two keys, the first with a good signature. -/
def standInWitness (p : ℕ) : Witness (FieldElement p) (2 : UInt64).toNat :=
  ⟨[⟨-1, (2 : ℕ)⟩, ⟨-1, -(2 : ℕ)⟩], [⟨1, (2 : ℕ)⟩, ⟨0, 0⟩], 1, (10 : ℕ), (11 : ℕ), (12 : ℕ),
    (13 : ℕ), 14, 15, rfl, rfl⟩

theorem setup_and_proving_agree_two :
    ∃ S inst vals,
      setup (getInstanceForSetup (FieldElement tweedleModulus) 2).generateConstraints = .ok S ∧
      new (standInWitness tweedleModulus).keys ((standInWitness tweedleModulus).sigs.map some)
        1 0 10 11 13 12 15 14 2 = .ok inst ∧
      setup inst.generateConstraints = .ok S ∧
      prove (gadgets (standInPrimitives tweedleModulus)) .assignmentMissing
        inst.generateConstraints = .ok (S, .ok vals) ∧
      (S.map Step.ns).Nodup :=
  setup_and_proving_agree two_pow_lt_tweedleModulus (standInPrimitives tweedleModulus) 2
    (standInWitness tweedleModulus) 0

end ZendooSc
