/-
ZendooSc.Circuit.ThresholdSlack — the bits of `b`, and what they say of a
threshold.

`NaiveTresholdSignature::new` writes `b` as a bit string of the field's size and
keeps the last `log2(next_power_of_two(max_pks)) + 1` bits. The circuit packs
them again. `new_keeps_low_bits` says that the assertion on their number is met, and
what the proving run packs: `b` modulo that power of two, so `b` itself when it is
small, as every surplus of valid signatures over the threshold is.

`threshold_check_iff` is the threshold constraint of a proving run as an
equation in the field. No bits meet it when the threshold is above the count
(`le_of_threshold_check`): they pack to less than 2^65, and the difference is
within 2^64 of the modulus.
-/
import ZendooSc.Circuit.Transcript

namespace ZendooSc

open Lib NaiveTresholdSignature

/-- `log2(next_power_of_two(max_pks)) + 1`. -/
def slackWidth (maxPks : UInt64) : ℕ :=
  Nat.log2 (nextPowerOfTwo maxPks).toNat + 1

/-- The length `generate_constraints` asserts. -/
theorem slackWidth_eq {maxPks : UInt64} (h : maxPks.toNat ≤ 2 ^ 63) :
    slackWidth maxPks = logMaxPks maxPks + 1 := by
  rw [slackWidth, log2_nextPowerOfTwo h, logMaxPks_eq]

section Slack

variable {p : ℕ}

/-- `new` on any arguments: it does not panic, and keeps the low bits of `b`. -/
theorem new_b (hp : 2 ^ 254 < p) (pks : List (SchnorrPk (FieldElement p)))
    (sigs : List (Option (SchnorrSig (FieldElement p))))
    (threshold b scId epochNumber root mrBt : FieldElement p)
    (ftMinAmount btrFee maxPks : UInt64) :
    ∃ inst, new pks sigs threshold b scId epochNumber root mrBt ftMinAmount btrFee maxPks
        = .ok inst ∧ inst.pks = pks.map some ∧ inst.sigs = sigs ∧ inst.maxPks = maxPks ∧
      inst.b = (bitsBE (logMaxPks maxPks + 1) b.val).map some := by
  have hfit := logMaxPks_lt_sizeInBits hp maxPks
  simp only [new, if_neg (Nat.not_lt.mpr hfit), writeBits_drop hp]
  exact ⟨_, rfl, rfl, rfl, rfl, rfl⟩

/-- The low bits of `b` pack to `b` modulo the power of two. -/
theorem val_packBE_bitsBE [NeZero p] (d : ℕ) (b : FieldElement p) :
    (packBE ((bitsBE d b.val).map bitVal) : FieldElement p).val = b.val % 2 ^ d := by
  have hlt : b.val % 2 ^ d < p := Nat.lt_of_le_of_lt (Nat.mod_le _ _) (ZMod.val_lt b)
  rw [packBE_map_bitVal, natBE_bitsBE, ZMod.val_natCast, Nat.mod_eq_of_lt hlt]

/-- They pack to `b` exactly when it is below the power of two. -/
theorem packBE_bitsBE_eq_iff [NeZero p] (d : ℕ) (b : FieldElement p) :
    (packBE ((bitsBE d b.val).map bitVal) : FieldElement p) = b ↔ b.val < 2 ^ d := by
  rw [← (ZMod.val_injective p).eq_iff, val_packBE_bitsBE]
  exact Nat.mod_eq_iff_lt (Nat.two_pow_pos d).ne'

/-- A surplus is its own representative. -/
theorem val_natCast_sub (hp : 2 ^ 254 < p) {v t : ℕ} (hv : v < 2 ^ 64) (ht : t ≤ v) :
    ((v : FieldElement p) - (t : FieldElement p)).val = v - t := by
  rw [← Nat.cast_sub ht, ZMod.val_natCast, Nat.mod_eq_of_lt (by omega)]

/-- The namespace of the step that packs the bits. -/
def packNs : String := "pack the b's into a field element"

theorem pack_step (w : Wire → FieldElement p) (N d : ℕ) :
    inputsAt w (circuitSteps (FieldElement p) N d) packNs
        = some ((List.range d).map fun i => w (Layout.b N i)) ∧
      outputsAt w (circuitSteps (FieldElement p) N d) packNs = some [w (Layout.bField N d)] := by
  have hmem : (⟨packNs, .fromBits, (List.range d).map (Layout.b N), [Layout.bField N d]⟩ :
      Step (GadgetCall (FieldElement p))) ∈ circuitSteps (FieldElement p) N d := by
    simp [circuitSteps, thresholdSteps, packNs]
  rw [inputsAt, outputsAt, find?_ns _ (nodup_ns_circuitSteps N d) hmem]
  exact ⟨by simp, rfl⟩

/-- In the proving run of an instance the step reads its bits, in their order, and
makes the number they are. -/
theorem pack_run (P : Primitives (FieldElement p)) {maxPks : UInt64}
    (wit : Witness (FieldElement p) maxPks.toNat) {bits : List Bool}
    (hbits : bits.length = logMaxPks maxPks + 1) :
    ∃ vals, prove (gadgets P) .assignmentMissing (wit.toInstance bits maxPks).generateConstraints
        = .ok (circuitSteps _ maxPks.toNat (logMaxPks maxPks + 1), .ok vals) ∧
      ∀ w, Reads w vals →
        inputsAt w (circuitSteps _ maxPks.toNat (logMaxPks maxPks + 1)) packNs
          = some (bits.map bitVal) ∧
        outputsAt w (circuitSteps _ maxPks.toNat (logMaxPks maxPks + 1)) packNs
          = some [(natBE bits : FieldElement p)] := by
  obtain ⟨vals, hprove, hvals⟩ := prover_equations P wit hbits
  refine ⟨vals, hprove, fun w hw => ?_⟩
  obtain ⟨heqs, -, -, hpriv⟩ := hvals w hw
  obtain ⟨hreads, hmakes⟩ := pack_step w maxPks.toNat (logMaxPks maxPks + 1)
  rw [hreads, hmakes, (heqs.values hpriv).bField, (privateInputs_eq_encode.mp hpriv).2.2.2.2.2]
  exact ⟨rfl, rfl⟩

/-- For up to 2^63 keys and any `b`: `new` skips without underflow and keeps as many
bits as the circuit asserts, so that only the numbers of keys and signatures can make
its assertions fail. The proving run packs the bits to `b` modulo the power of two,
hence to `b` exactly when `b` is below it, and every surplus is. -/
theorem new_keeps_low_bits (hp : 2 ^ 254 < p) (pks : List (SchnorrPk (FieldElement p)))
    (sigs : List (Option (SchnorrSig (FieldElement p))))
    (threshold b scId epochNumber root mrBt : FieldElement p)
    (ftMinAmount btrFee maxPks : UInt64) (hmax : maxPks.toNat ≤ 2 ^ 63) :
    ∃ (inst : NaiveTresholdSignature (FieldElement p)) (bits : List Bool),
      new pks sigs threshold b scId epochNumber root mrBt ftMinAmount btrFee maxPks = .ok inst ∧
      inst.b = bits.map some ∧ inst.b.length = slackWidth maxPks ∧
      natBE bits = b.val % 2 ^ slackWidth maxPks ∧
      ((∃ S, setup inst.generateConstraints = .ok S) ↔
        pks.length = maxPks.toNat ∧ sigs.length = maxPks.toNat) ∧
      (∀ present : List (SchnorrSig (FieldElement p)), sigs = present.map some →
        pks.length = maxPks.toNat → present.length = maxPks.toNat →
        ∀ P : Primitives (FieldElement p), ∃ S vals,
          setup inst.generateConstraints = .ok S ∧
          prove (gadgets P) .assignmentMissing inst.generateConstraints = .ok (S, .ok vals) ∧
          ∀ w, Reads w vals → ∃ packed : FieldElement p,
            inputsAt w S packNs = some (bits.map bitVal) ∧
            outputsAt w S packNs = some [packed] ∧
            packed.val = b.val % 2 ^ slackWidth maxPks ∧
            (packed = b ↔ b.val < 2 ^ slackWidth maxPks)) ∧
      ∀ v t : ℕ, t ≤ v → v ≤ maxPks.toNat → b = (v : FieldElement p) - (t : FieldElement p) →
        b.val = v - t ∧ b.val < 2 ^ slackWidth maxPks := by
  have : NeZero p := ⟨by omega⟩
  have hwidth := slackWidth_eq hmax
  obtain ⟨inst, hnew, hpks, hsigs, hinst, hb⟩ :=
    new_b hp pks sigs threshold b scId epochNumber root mrBt ftMinAmount btrFee maxPks
  have hlen : inst.b.length = logMaxPks maxPks + 1 := by simp [hb]
  refine ⟨inst, bitsBE (logMaxPks maxPks + 1) b.val, hnew, hb, by rw [hlen, hwidth], ?_, ?_, ?_,
    ?_⟩
  · rw [natBE_bitsBE, hwidth]
  · constructor
    · rintro ⟨S, hS⟩
      obtain ⟨hshape, -⟩ := setup_generateConstraints_ok hS
      have hkeys := hshape.pks
      have hsignatures := hshape.sigs
      rw [hpks, hinst, List.length_map] at hkeys
      rw [hsigs, hinst] at hsignatures
      exact ⟨hkeys, hsignatures⟩
    · rintro ⟨hkeys, hsignatures⟩
      have hshape : inst.WellShaped :=
        ⟨by rw [hpks, hinst, List.length_map, hkeys], by rw [hsigs, hinst, hsignatures],
          by rw [hlen, hinst]⟩
      exact ⟨_, setup_generateConstraints hshape⟩
  · rintro present rfl hkeys hpresent P
    let wit : Witness (FieldElement p) maxPks.toNat :=
      ⟨pks, present, threshold, scId, epochNumber, mrBt, root, btrFee, ftMinAmount, hkeys, hpresent⟩
    have hbits := length_bitsBE (logMaxPks maxPks + 1) b.val
    obtain rfl : wit.toInstance (bitsBE (logMaxPks maxPks + 1) b.val) maxPks = inst :=
      Except.ok.inj ((new_eq hp wit b maxPks).symm.trans hnew)
    obtain ⟨vals, hprove, hvals⟩ := pack_run P wit hbits
    refine ⟨_, vals, setup_generateConstraints (wit.toInstance_wellShaped hbits), hprove,
      fun w hw => ?_⟩
    obtain ⟨hreads, hmakes⟩ := hvals w hw
    rw [hwidth]
    refine ⟨_, hreads, hmakes, ?_, ?_⟩
    · rw [← packBE_map_bitVal]
      exact val_packBE_bitsBE _ b
    · rw [← packBE_map_bitVal]
      exact packBE_bitsBE_eq_iff _ b
  · intro v t ht hv hvt
    have hval : b.val = v - t := by
      rw [hvt]
      exact val_natCast_sub hp (Nat.lt_of_le_of_lt hv maxPks.toNat_lt) ht
    refine ⟨hval, ?_⟩
    rw [hval, hwidth, logMaxPks_eq]
    exact sub_lt_two_pow hv t

/-- Four keys and a good signature for each of them. -/
def fourKeys : List (SchnorrPk (FieldElement tweedleModulus)) :=
  [⟨-1, (2 : ℕ)⟩, ⟨-1, (2 : ℕ)⟩, ⟨-1, (2 : ℕ)⟩, ⟨-1, (2 : ℕ)⟩]

def fourSigs : List (SchnorrSig (FieldElement tweedleModulus)) :=
  [⟨1, (2 : ℕ)⟩, ⟨1, (2 : ℕ)⟩, ⟨1, (2 : ℕ)⟩, ⟨1, (2 : ℕ)⟩]

/-- With threshold 0 the surplus is four, which needs the top bit. The proving run
packs it whole. -/
theorem new_keeps_low_bits_four :
    ∃ (inst : NaiveTresholdSignature (FieldElement tweedleModulus))
      (S : List (Step (GadgetCall (FieldElement tweedleModulus))))
      (vals : List (FieldElement tweedleModulus)),
      new fourKeys (fourSigs.map some) 0 ((4 : ℕ) : FieldElement tweedleModulus) 0 0 0 0 0 0 4
        = .ok inst ∧
      inst.b.length = 3 ∧ setup inst.generateConstraints = .ok S ∧
      prove (gadgets (standInPrimitives tweedleModulus)) .assignmentMissing
        inst.generateConstraints = .ok (S, .ok vals) ∧
      ∀ w, Reads w vals →
        outputsAt w S packNs = some [((4 : ℕ) : FieldElement tweedleModulus)] := by
  obtain ⟨inst, bits, hnew, -, hlen, -, -, hrun, hsurplus⟩ :=
    new_keeps_low_bits two_pow_lt_tweedleModulus fourKeys (fourSigs.map some) 0
      ((4 : ℕ) : FieldElement tweedleModulus) 0 0 0 0 0 0 4 (by decide)
  obtain ⟨S, vals, hS, hprove, hvals⟩ :=
    hrun fourSigs rfl rfl rfl (standInPrimitives tweedleModulus)
  have hsmall := (hsurplus 4 0 (by decide) (by decide) (by simp)).2
  refine ⟨inst, S, vals, hnew, hlen, hS, hprove, fun w hw => ?_⟩
  obtain ⟨packed, -, hmakes, -, hiff⟩ := hvals w hw
  rw [hmakes, hiff.mpr hsmall]

end Slack

/-! ## The threshold constraint -/

/-- The namespace of the step that compares the difference with the bits. -/
def thresholdNs : String := "threshold check"

section Check

open Layout

variable {p : ℕ} (P : Primitives (FieldElement p))

theorem inputsAt_threshold (w : Wire → FieldElement p) (N d : ℕ) :
    inputsAt w (circuitSteps (FieldElement p) N d) thresholdNs
      = some [w (difference N d), w (bField N d)] := by
  have hmem : (⟨thresholdNs, .enforceEqual, [difference N d, bField N d], []⟩ :
      Step (GadgetCall (FieldElement p))) ∈ circuitSteps (FieldElement p) N d := by
    simp [circuitSteps, thresholdSteps, thresholdNs]
  rw [inputsAt, find?_ns _ (nodup_ns_circuitSteps N d) hmem]
  rfl

/-- The assignment of a proving run of `c` meets the threshold constraint. -/
def MeetsThreshold (c : NaiveTresholdSignature (FieldElement p)) : Prop :=
  ∃ S vals, prove (gadgets P) .assignmentMissing c.generateConstraints = .ok (S, .ok vals) ∧
    ∀ w, Reads w vals → ∃ x, inputsAt w S thresholdNs = some [x, x]

/-- It does when the bits of `b` pack to the difference. -/
theorem threshold_check_iff {maxPks : UInt64} (wit : Witness (FieldElement p) maxPks.toNat)
    {bits : List Bool} (hbits : bits.length = logMaxPks maxPks + 1) :
    MeetsThreshold P (wit.toInstance bits maxPks) ↔
      (wit.validSignatures P : FieldElement p) - wit.threshold
        = (natBE bits : FieldElement p) := by
  obtain ⟨vals, hprove, hvals⟩ := prover_equations P wit hbits
  -- the two wires of the constraint, in any assignment that reads the run's values
  have hread : ∀ w, Reads w vals →
      inputsAt w (circuitSteps _ maxPks.toNat (logMaxPks maxPks + 1)) thresholdNs
        = some [(wit.validSignatures P : FieldElement p) - wit.threshold,
            (natBE bits : FieldElement p)] := by
    intro w hw
    obtain ⟨heqs, _, _, hpriv⟩ := hvals w hw
    have hval := heqs.values hpriv
    rw [inputsAt_threshold, hval.difference, hval.bField]
  constructor
  · rintro ⟨S, vals', hprove', hmeets⟩
    rw [hprove] at hprove'
    cases hprove'
    have hreads := reads_getD vals (0 : FieldElement p)
    obtain ⟨x, hx⟩ := hmeets _ hreads
    rw [hread _ hreads] at hx
    simp only [Option.some.injEq, List.cons.injEq, and_true] at hx
    rw [hx.1, hx.2]
  · intro hdiff
    refine ⟨_, vals, hprove, fun w hw => ⟨(natBE bits : FieldElement p), ?_⟩⟩
    rw [hread w hw, hdiff]

/-- A count below the threshold meets it with no bits at all. -/
theorem le_of_threshold_check (hp : 2 ^ 254 < p) {maxPks : UInt64}
    {wit : Witness (FieldElement p) maxPks.toNat} {bits : List Bool}
    (hbits : bits.length = logMaxPks maxPks + 1) {t : ℕ} (ht : t < 2 ^ 64)
    (hthr : wit.threshold = (t : FieldElement p))
    (h : MeetsThreshold P (wit.toInstance bits maxPks)) : t ≤ wit.validSignatures P := by
  have : NeZero p := ⟨by omega⟩
  have hdiff := (threshold_check_iff P wit hbits).mp h
  have hsmall := (exists_bits_iff _ _).mp ⟨bits, hbits, hdiff⟩
  rw [logMaxPks_eq, hthr] at hsmall
  exact (val_sub_lt_iff hp (wit.validSignatures_le P) maxPks.toNat_lt ht).mp hsmall

end Check

end ZendooSc
