/-
ZendooSc.Circuit.Relation — what the circuit proves.

The first section says, without wires, what a certificate means: the packed
fees, the message, the number of valid signatures, the commitment to the keys
and the hash of the certificate data, all of a `Witness`.

`CircuitEquations.values` connects the two levels. If the private wires of an
assignment carry a witness, every other wire the statement cares about
carries its meaning; `exists_witness` says the private wires always do.

`exact_relation` is the result. The public inputs and the witness for which
some bits satisfy all constraints are those with the right two hashes and
with a difference `v - t` whose representative is below `2 ^ d`. For a
threshold below 2^64 that is `t ≤ v`, because a negative difference is at
least `p - 2^64` and `2 ^ d` is at most 2^65.
-/
import ZendooSc.Circuit.Equations

namespace ZendooSc

open Lib Layout

/-! ## The meaning of a witness -/

/-- H(H(x_1..x_N), threshold). -/
def pksThresholdHash {F : Type} (P : Primitives F) (keys : List (SchnorrPk F)) (threshold : F) :
    F :=
  P.hash [P.hash (keys.map SchnorrPk.x), threshold]

namespace Witness

variable {F : Type} [CommRing F] {N : ℕ} (P : Primitives F) (wit : Witness F N)

/-- Both fees in one field element. -/
def fees : F := ((wit.btrFee.toNat * 2 ^ 64 + wit.ftMinAmount.toNat : ℕ) : F)

/-- The message the signatures are checked against. -/
def message : F :=
  P.hash [wit.scId, wit.epochNumber, wit.mrBt, wit.root, wit.fees]

/-- The number of positions with a true verdict. -/
def validSignatures : ℕ :=
  (wit.keys.zip wit.sigs).countP fun x => P.verdict x.1 (wit.message P) x.2

/-- The certificate data with the number of valid signatures. -/
def sysdata : List F :=
  [wit.scId, wit.epochNumber, wit.mrBt, (wit.validSignatures P : F), wit.root, wit.fees]

/-- H(H(sc_id, epoch_number, mr_bt, valid_signatures, root, fees)). -/
def certDataHash : F :=
  P.hash [P.hash (wit.sysdata P)]

theorem validSignatures_le : wit.validSignatures P ≤ N := by
  have h : wit.validSignatures P ≤ (wit.keys.zip wit.sigs).length := List.countP_le_length
  rwa [List.length_zip, wit.length_keys, wit.length_sigs, Nat.min_self] at h

end Witness

/-! ## Private wires and witnesses -/

section Decode

variable {F : Type}

theorem flatMap_pair_injective {α : Type} {f g : α → F}
    (hinj : ∀ a b, f a = f b → g a = g b → a = b) :
    ∀ l m : List α, l.flatMap (fun a => [f a, g a]) = m.flatMap (fun a => [f a, g a]) → l = m
  | [], [], _ => rfl
  | [], _ :: _, h => by simp at h
  | _ :: _, [], h => by simp at h
  | a :: l, b :: m, h => by
      simp only [List.flatMap_cons, List.cons_append, List.nil_append, List.cons.injEq] at h
      rw [hinj a b h.1 h.2.1, flatMap_pair_injective hinj l m h.2.2]

theorem length_flatMap_pair {α : Type} (f g : α → F) (l : List α) :
    (l.flatMap fun a => [f a, g a]).length = 2 * l.length := by
  induction l with
  | nil => rfl
  | cons a l ih =>
      simp only [List.flatMap_cons, List.length_append, List.length_cons, List.length_nil, ih]
      omega

variable [CommRing F] {w : Wire → F} {N d : ℕ}

/-- The private wires carry a witness when each of them carries its part. -/
theorem privateInputs_eq_encode {wit : Witness F N} {bits : List Bool} :
    privateInputs w (circuitSteps F N d) = wit.encode bits ↔
      (List.range N).map (keyAt w) = wit.keys ∧
      (w (threshold N) = wit.threshold ∧ w (scId N) = wit.scId ∧
        w (epochNumber N) = wit.epochNumber ∧ w (mrBt N) = wit.mrBt ∧ w (root N) = wit.root) ∧
      (btrFee N).map w = uint64Bits wit.btrFee ∧
      (ftMinAmount N).map w = uint64Bits wit.ftMinAmount ∧
      (List.range N).map (sigAt w N) = wit.sigs ∧
      ((List.range d).map fun i => w (b N i)) = bits.map bitVal := by
  rw [privateInputs_circuitSteps, Witness.encode]
  constructor
  · intro h
    obtain ⟨hk, h⟩ := List.append_inj h (by
      rw [length_flatMap_pair, length_flatMap_pair, wit.length_keys]
      simp)
    obtain ⟨hc, h⟩ := List.append_inj h (by simp)
    obtain ⟨hb, h⟩ := List.append_inj h (by simp [btrFee, uint64Bits])
    obtain ⟨hf, h⟩ := List.append_inj h (by simp [ftMinAmount, uint64Bits])
    obtain ⟨hs, hbits⟩ := List.append_inj h (by
      rw [length_flatMap_pair, length_flatMap_pair, wit.length_sigs]
      simp)
    refine ⟨flatMap_pair_injective ?_ _ _ hk, by simpa using hc, hb, hf,
      flatMap_pair_injective ?_ _ _ hs, hbits⟩
    · rintro ⟨x, y⟩ ⟨x', y'⟩ hx hy
      cases hx
      cases hy
      rfl
    · rintro ⟨e, s⟩ ⟨e', s'⟩ he hs
      cases he
      cases hs
      rfl
  · rintro ⟨hk, ⟨ht, hsc, hep, hmr, hroot⟩, hb, hf, hs, hbits⟩
    rw [hk, ht, hsc, hep, hmr, hroot, hb, hf, hs, hbits]

/-- Sixty-four wires of bits carry a word. -/
theorem exists_uint64 {l : List ℕ} (hlen : l.length = 64) (h : ∀ x ∈ l, IsBit (w x)) :
    ∃ n : UInt64, l.map w = uint64Bits n := by
  obtain ⟨bs, hbs⟩ := exists_map_bitVal (l.map w) (by simpa using h)
  have hlenbs : bs.reverse.length = 64 := by
    have := congrArg List.length hbs
    simpa [hlen] using this.symm
  have hlt : natBE bs.reverse < 2 ^ 64 := hlenbs ▸ natBE_lt bs.reverse
  refine ⟨UInt64.ofNat (natBE bs.reverse), ?_⟩
  rw [hbs, uint64Bits, UInt64.toNat_ofNat', Nat.mod_eq_of_lt hlt, bitsLE,
    bitsBE_natBE _ hlenbs, List.reverse_reverse]

/-- The private wires of an assignment with the circuit's equations always
carry a witness. -/
theorem CircuitEquations.exists_witness {P : Primitives F} (h : CircuitEquations P w N d) :
    ∃ (wit : Witness F N) (bits : List Bool), bits.length = d ∧
      privateInputs w (circuitSteps F N d) = wit.encode bits := by
  obtain ⟨btr, hbtr⟩ := exists_uint64 (by simp [Layout.btrFee]) h.btrFee
  obtain ⟨ft, hft⟩ := exists_uint64 (by simp [Layout.ftMinAmount]) h.ftMinAmount
  obtain ⟨bits, hbits⟩ := exists_map_bitVal ((List.range d).map fun i => w (b N i))
    (by simpa using h.bits)
  refine ⟨⟨(List.range N).map (keyAt w), (List.range N).map (sigAt w N), w (threshold N),
    w (scId N), w (epochNumber N), w (mrBt N), w (root N), btr, ft, by simp, by simp⟩, bits,
    ?_, ?_⟩
  · have := congrArg List.length hbits
    simpa using this.symm
  · rw [privateInputs_eq_encode]
    exact ⟨rfl, ⟨rfl, rfl, rfl, rfl, rfl⟩, hbtr, hft, rfl, hbits⟩

end Decode

/-! ## The values of the other wires -/

section Values

variable {F : Type} [CommRing F] {P : Primitives F} {w : Wire → F} {N d : ℕ}

/-- Packing two words, each most significant bit first. -/
theorem packBE_uint64Bits (btr ft : UInt64) :
    packBE ((uint64Bits btr).reverse ++ (uint64Bits ft).reverse : List F)
      = ((btr.toNat * 2 ^ 64 + ft.toNat : ℕ) : F) := by
  rw [uint64Bits, uint64Bits, ← List.map_reverse, ← List.map_reverse, reverse_bitsLE,
    reverse_bitsLE, ← List.map_append, packBE_map_bitVal, natBE_append, length_bitsBE,
    natBE_bitsBE_of_lt btr.toNat_lt, natBE_bitsBE_of_lt ft.toNat_lt]

/-- The partial counts count the true verdicts so far. -/
theorem CircuitEquations.count_eq (h : CircuitEquations P w N d) : ∀ i ≤ N,
    w (count N i) = (((List.range i).countP fun j =>
      P.verdict (keyAt w j) (w (Layout.message N)) (sigAt w N j) : ℕ) : F) := by
  intro i
  induction i with
  | zero =>
      intro _
      rw [h.countZero]
      simp
  | succ i ih =>
      intro hi
      rw [h.countSucc i hi, h.verdict i hi, ih (Nat.le_of_lt hi), List.range_succ,
        List.countP_append, Nat.cast_add, bitVal_eq_natCast]
      cases hv : P.verdict (keyAt w i) (w (Layout.message N)) (sigAt w N i) <;> simp [hv]

/-- What the wires carry when the private wires carry `wit` and `bits`. -/
structure Carries (P : Primitives F) (w : Wire → F) (d : ℕ) (wit : Witness F N)
    (bits : List Bool) : Prop where
  pksThresholdHash :
    w (Layout.pksThresholdHash N) = ZendooSc.pksThresholdHash P wit.keys wit.threshold
  message : w (Layout.message N) = wit.message P
  count : w (Layout.count N N) = (wit.validSignatures P : F)
  certDataHash : w (Layout.certDataHash N) = wit.certDataHash P
  bField : w (Layout.bField N d) = (natBE bits : F)
  difference : w (Layout.difference N d) = (wit.validSignatures P : F) - wit.threshold
  sysdata : [w (scId N), w (epochNumber N), w (mrBt N), w (Layout.count N N), w (root N),
    w (fees N)] = wit.sysdata P
  sysdataHash : w (Layout.sysdataHash N) = P.hash (wit.sysdata P)

theorem CircuitEquations.values (h : CircuitEquations P w N d) {wit : Witness F N}
    {bits : List Bool} (hpriv : privateInputs w (circuitSteps F N d) = wit.encode bits) :
    Carries P w d wit bits := by
  obtain ⟨hk, ⟨ht, hsc, hep, hmr, hroot⟩, hbtr, hft, hs, hbits⟩ :=
    privateInputs_eq_encode.mp hpriv
  have hfees : w (Layout.fees N) = wit.fees := by
    rw [h.fees, List.map_append, List.map_reverse, List.map_reverse, hbtr, hft,
      packBE_uint64Bits, Witness.fees]
  have hmsg : w (Layout.message N) = wit.message P := by
    rw [h.message, hsc, hep, hmr, hroot, hfees, Witness.message]
  have hcount : w (count N N) = (wit.validSignatures P : F) := by
    rw [h.count_eq N le_rfl, hmsg, Witness.validSignatures, ← hk, ← hs, List.zip_map',
      List.countP_map]
    rfl
  have hx : ((List.range N).map fun i => w (pkX i)) = wit.keys.map SchnorrPk.x := by
    rw [← hk, List.map_map]
    rfl
  have hsysdata : [w (scId N), w (epochNumber N), w (mrBt N), w (count N N), w (root N),
      w (Layout.fees N)] = wit.sysdata P := by
    rw [hsc, hep, hmr, hcount, hroot, hfees, Witness.sysdata]
  have hsysHash : w (Layout.sysdataHash N) = P.hash (wit.sysdata P) := by
    rw [h.sysdataHash, hsysdata]
  refine ⟨?_, hmsg, hcount, ?_, ?_, ?_, hsysdata, hsysHash⟩
  · rw [h.pksThresholdHash, h.pksHash, hx, ht, ZendooSc.pksThresholdHash]
  · rw [h.certDataHash, hsysHash, Witness.certDataHash]
  · rw [h.bField, hbits, packBE_map_bitVal]
  · rw [h.difference, hcount, ht]

end Values

/-! ## The threshold -/

section Threshold

variable {p : ℕ}

/-- Bits of width `d` that pack to `x` exist when `x` is small enough. -/
theorem exists_bits_iff [NeZero p] (d : ℕ) (x : FieldElement p) :
    (∃ bits : List Bool, bits.length = d ∧ x = (natBE bits : FieldElement p)) ↔
      x.val < 2 ^ d := by
  constructor
  · rintro ⟨bits, hlen, rfl⟩
    rw [ZMod.val_natCast]
    exact Nat.lt_of_le_of_lt (Nat.mod_le _ _) (hlen ▸ natBE_lt bits)
  · intro h
    refine ⟨bitsBE d x.val, length_bitsBE d x.val, ?_⟩
    rw [natBE_bitsBE_of_lt h, ZMod.natCast_zmod_val]

/-- The difference of two words, when not negative, fits the circuit's width. -/
theorem sub_lt_two_pow {v N : ℕ} (hv : v ≤ N) (t : ℕ) : v - t < 2 ^ (Nat.clog 2 N + 1) := by
  have hclog : N ≤ 2 ^ Nat.clog 2 N := Nat.le_pow_clog Nat.one_lt_two N
  have hpos : 0 < 2 ^ Nat.clog 2 N := Nat.two_pow_pos _
  rw [Nat.pow_succ]
  omega

/-- The difference of two words is small exactly when it is not negative: if
it is negative, its representative is within 2^64 of the modulus. -/
theorem val_sub_lt_iff (hp : 2 ^ 254 < p) {v t N : ℕ} (hv : v ≤ N) (hN : N < 2 ^ 64)
    (ht : t < 2 ^ 64) :
    ((v : FieldElement p) - (t : FieldElement p)).val < 2 ^ (Nat.clog 2 N + 1) ↔ t ≤ v := by
  have : NeZero p := ⟨by omega⟩
  have hd : Nat.clog 2 N + 1 ≤ 65 := Nat.succ_le_succ (Nat.clog_le_of_le_pow (Nat.le_of_lt hN))
  have hpow : 2 ^ (Nat.clog 2 N + 1) ≤ 2 ^ 65 := Nat.pow_le_pow_right (by omega) hd
  constructor
  · intro h
    by_contra hlt
    have hneg : (v : FieldElement p) - (t : FieldElement p) =
        ((p - (t - v) : ℕ) : FieldElement p) := by
      rw [Nat.cast_sub (by omega), Nat.cast_sub (by omega), ZMod.natCast_self]
      ring
    rw [hneg, ZMod.val_natCast, Nat.mod_eq_of_lt (by omega)] at h
    omega
  · intro hle
    have hcast : (v : FieldElement p) - (t : FieldElement p) = ((v - t : ℕ) : FieldElement p) := by
      rw [Nat.cast_sub hle]
    rw [hcast, ZMod.val_natCast, Nat.mod_eq_of_lt (by omega)]
    exact sub_lt_two_pow hv t

end Threshold

/-! ## The relation -/

section Relation

variable {p : ℕ} (P : Primitives (FieldElement p))

/-- A satisfying assignment carries the meaning of its witness, and its two
public inputs are the two hashes. -/
theorem Sat.values {N d : ℕ} {w : Wire → FieldElement p} {wit : Witness (FieldElement p) N}
    {bits : List Bool} (hsat : Sat (gadgets P) w (circuitSteps _ N d))
    (hpriv : privateInputs w (circuitSteps _ N d) = wit.encode bits) :
    Carries P w d wit bits ∧
      publicInputs w (circuitSteps _ N d)
        = [pksThresholdHash P wit.keys wit.threshold, wit.certDataHash P] ∧
      (wit.validSignatures P : FieldElement p) - wit.threshold = (natBE bits : FieldElement p) := by
  obtain ⟨heqs, hin1, hin2, hthr⟩ := (sat_circuitSteps P w N d).mp hsat
  have hval := heqs.values hpriv
  refine ⟨hval, ?_, ?_⟩
  · rw [publicInputs_circuitSteps, ← hin1, ← hin2, hval.pksThresholdHash, hval.certDataHash]
  · rw [← hval.difference, ← hval.bField, hthr]

/-- The proving run on bits that pack to the difference: its values satisfy
every step. -/
theorem prover_sat {maxPks : UInt64} (wit : Witness (FieldElement p) maxPks.toNat)
    {bits : List Bool} (hbits : bits.length = logMaxPks maxPks + 1)
    (hdiff : (wit.validSignatures P : FieldElement p) - wit.threshold
      = (natBE bits : FieldElement p)) :
    ∃ vals, prove (gadgets P) .assignmentMissing (wit.toInstance bits maxPks).generateConstraints
        = .ok (circuitSteps _ maxPks.toNat (logMaxPks maxPks + 1), .ok vals) ∧
      ∀ w, Reads w vals →
        Sat (gadgets P) w (circuitSteps _ maxPks.toNat (logMaxPks maxPks + 1)) ∧
        privateInputs w (circuitSteps _ maxPks.toNat (logMaxPks maxPks + 1))
          = wit.encode bits := by
  obtain ⟨vals, hprove, hvals⟩ := prover_equations P wit hbits
  refine ⟨vals, hprove, fun w hw => ?_⟩
  obtain ⟨heqs, hin1, hin2, hpriv⟩ := hvals w hw
  have hval := heqs.values hpriv
  refine ⟨(sat_circuitSteps P _ _ _).mpr ⟨heqs, hin1.symm, hin2.symm, ?_⟩, hpriv⟩
  rw [hval.difference, hval.bField, hdiff]

/-- Bits that pack to the difference complete a witness to a satisfying
assignment. -/
theorem exists_sat {maxPks : UInt64} (wit : Witness (FieldElement p) maxPks.toNat)
    {bits : List Bool} (hbits : bits.length = logMaxPks maxPks + 1)
    (hdiff : (wit.validSignatures P : FieldElement p) - wit.threshold
      = (natBE bits : FieldElement p)) :
    ∃ w, Sat (gadgets P) w (circuitSteps _ maxPks.toNat (logMaxPks maxPks + 1)) ∧
      privateInputs w (circuitSteps _ maxPks.toNat (logMaxPks maxPks + 1))
        = wit.encode bits := by
  obtain ⟨vals, _, hvals⟩ := prover_sat P wit hbits hdiff
  exact ⟨_, hvals _ (reads_getD vals 0)⟩

/-- Some bits complete a witness exactly when the difference is small. -/
theorem satisfiable_iff [NeZero p] {maxPks : UInt64}
    (wit : Witness (FieldElement p) maxPks.toNat) :
    (∃ bits w, Sat (gadgets P) w (circuitSteps _ maxPks.toNat (logMaxPks maxPks + 1)) ∧
        privateInputs w (circuitSteps _ maxPks.toNat (logMaxPks maxPks + 1))
          = wit.encode bits) ↔
      ((wit.validSignatures P : FieldElement p) - wit.threshold).val
        < 2 ^ (Nat.clog 2 maxPks.toNat + 1) := by
  rw [← logMaxPks_eq, ← exists_bits_iff]
  constructor
  · rintro ⟨bits, w, hsat, hpriv⟩
    obtain ⟨_, _, hdiff⟩ := Sat.values P hsat hpriv
    have hbits := congrArg List.length (privateInputs_eq_encode.mp hpriv).2.2.2.2.2
    exact ⟨bits, by simpa using hbits.symm, hdiff⟩
  · rintro ⟨bits, hbits, hdiff⟩
    exact ⟨bits, exists_sat P wit hbits hdiff⟩

/-- The exact relation of the threshold circuit: which public inputs and which
witness some bits complete to a satisfying assignment, and what that says of a
threshold below 2^64. -/
theorem exact_relation (hp : 2 ^ 254 < p) {inst : NaiveTresholdSignature (FieldElement p)}
    {S : List (Step (GadgetCall (FieldElement p)))}
    (hS : setup inst.generateConstraints = .ok S)
    (wit : Witness (FieldElement p) inst.maxPks.toNat) :
    (∀ c1 c2 : FieldElement p,
      (∃ bits w, Sat (gadgets P) w S ∧ publicInputs w S = [c1, c2] ∧
        privateInputs w S = wit.encode bits) ↔
      c1 = pksThresholdHash P wit.keys wit.threshold ∧ c2 = wit.certDataHash P ∧
        ((wit.validSignatures P : FieldElement p) - wit.threshold).val
          < 2 ^ (Nat.clog 2 inst.maxPks.toNat + 1)) ∧
    ∀ t : ℕ, t < 2 ^ 64 → wit.threshold = (t : FieldElement p) →
      ((∃ bits w, Sat (gadgets P) w S ∧ privateInputs w S = wit.encode bits) ↔
        t ≤ wit.validSignatures P) := by
  have : NeZero p := ⟨by omega⟩
  obtain ⟨_, rfl⟩ := setup_generateConstraints_ok hS
  constructor
  · intro c1 c2
    rw [← satisfiable_iff]
    constructor
    · rintro ⟨bits, w, hsat, hpub, hpriv⟩
      obtain ⟨_, hinputs, _⟩ := Sat.values P hsat hpriv
      rw [hinputs] at hpub
      simp only [List.cons.injEq, and_true] at hpub
      exact ⟨hpub.1.symm, hpub.2.symm, bits, w, hsat, hpriv⟩
    · rintro ⟨rfl, rfl, bits, w, hsat, hpriv⟩
      exact ⟨bits, w, hsat, (Sat.values P hsat hpriv).2.1, hpriv⟩
  · intro t ht hthr
    rw [satisfiable_iff, hthr]
    exact val_sub_lt_iff hp (wit.validSignatures_le P) inst.maxPks.toNat_lt ht

/-- With one good signature out of two and threshold 1 there is a satisfying
assignment. -/
theorem exact_relation_two :
    ∃ bits w, Sat (gadgets (standInPrimitives tweedleModulus)) w
        (circuitSteps (FieldElement tweedleModulus) 2 (logMaxPks 2 + 1)) ∧
      privateInputs w (circuitSteps (FieldElement tweedleModulus) 2 (logMaxPks 2 + 1))
        = (standInWitness tweedleModulus).encode bits :=
  ((exact_relation (standInPrimitives tweedleModulus) two_pow_lt_tweedleModulus
    (setup_generateConstraints (getInstanceForSetup_wellShaped 2))
    (standInWitness tweedleModulus)).2 1 (by decide) Nat.cast_one.symm).mpr (by decide)

end Relation

end ZendooSc
