/-
ZendooSc.Api.CommittedKeys — which keys the constant commits to.

A comment in the circuit says the keys need no check when they are allocated
because they are hashed, and so verifiable by everyone. Only the x
coordinates are hashed, on both sides. The prover can put any y coordinate on
a wire, on the curve or not, and verification reads both.

`CommittedKeysSound` is the guarantee one would like, for one list of witness
keys: whatever Schnorr verification is, a satisfying assignment with the
committed constant has at least `threshold` signatures that verify under the
committed keys. `committed_keys_iff` says for which witness keys it holds. If
the x coordinates agree with the committed ones and the y coordinates do not,
`exists_forged_run` has a verification function and a satisfying run that
break it; the threshold has to be positive and within reach.
-/
import ZendooSc.Api.CctpCallsTheorems
import Mathlib.Data.Finset.Card

namespace ZendooSc

open Lib

section Committed

variable {p : ℕ}

/-- The number of signatures that verify under the keys of the same position. -/
def validUnder (P : Primitives (FieldElement p)) (pks : List (SchnorrPk (FieldElement p)))
    (msg : FieldElement p) (sigs : List (SchnorrSig (FieldElement p))) : ℕ :=
  (pks.zip sigs).countP fun x => P.verdict x.1 msg x.2

/-- A satisfying assignment with the constant of `pks` and `threshold`, whose
witness keys are `keys`, has `threshold` signatures that verify under `pks`.
The hash is asked not to collide on the two lists the constant is made of. -/
def CommittedKeysSound {Bt : Type} (L : CertLib p Bt) (pks : List (SchnorrPk (FieldElement p)))
    (threshold : UInt64) (keys : List (SchnorrPk (FieldElement p))) : Prop :=
  ∀ (P : Primitives (FieldElement p)) (inst : NaiveTresholdSignature (FieldElement p))
    (S : List (Step (GadgetCall (FieldElement p)))) (w : Wire → FieldElement p)
    (wit : Witness (FieldElement p) inst.maxPks.toNat) (bits : List Bool) (c1 : FieldElement p),
    P.hash = L.hash → inst.maxPks.toNat = pks.length →
    setup inst.generateConstraints = .ok S → Sat (gadgets P) w S →
    privateInputs w S = wit.encode bits → wit.keys = keys →
    computePksThresholdHash L pks threshold = pure c1 → (publicInputs w S).head? = some c1 →
    NoCollision L.hash [L.hash (keys.map SchnorrPk.x), wit.threshold]
      [L.hash (pks.map SchnorrPk.x), fieldOfNat threshold.toNat] →
    NoCollision L.hash (keys.map SchnorrPk.x) (pks.map SchnorrPk.x) →
    threshold.toNat ≤ validUnder P pks (wit.message P) wit.sigs

/-! ## Runs with other y coordinates -/

theorem countP_range_mem {T : Finset ℕ} {N : ℕ} (h : T ⊆ Finset.range N) :
    (List.range N).countP (fun i => decide (i ∈ T)) = T.card := by
  rw [List.countP_eq_length_filter,
    ← List.toFinset_card_of_nodup (List.nodup_range.filter _)]
  congr 1
  ext i
  simp only [List.mem_toFinset, List.mem_filter, List.mem_range, decide_eq_true_eq,
    and_iff_right_iff_imp]
  intro hi
  exact Finset.mem_range.mp (h hi)

theorem map_range_getD {α : Type} (l : List α) (a : α) :
    (List.range l.length).map (fun i => l.getD i a) = l := by
  refine List.ext_getElem (by simp) fun i h1 h2 => ?_
  simp [List.getD_eq_getElem?_getD, h2]

/-- Counting valid signatures by position. -/
theorem validUnder_map_range (P : Primitives (FieldElement p)) {N : ℕ}
    (pks : ℕ → SchnorrPk (FieldElement p)) (sigs : ℕ → SchnorrSig (FieldElement p))
    (msg : FieldElement p) :
    validUnder P ((List.range N).map pks) msg ((List.range N).map sigs)
      = (List.range N).countP fun i => P.verdict (pks i) msg (sigs i) := by
  rw [validUnder, List.zip_map', List.countP_map]
  rfl

/-- A verification function that accepts the signatures made for one y
coordinate. -/
def verdictByY (hash : List (FieldElement p) → FieldElement p) : Primitives (FieldElement p) where
  hash := hash
  verdict pk _ sig := decide (sig.e = 1) && decide (sig.s = pk.y)

/-- Signatures for the positions in `T`, made for the given keys. -/
def signFor (keys : ℕ → SchnorrPk (FieldElement p)) (T : Finset ℕ) (i : ℕ) :
    SchnorrSig (FieldElement p) :=
  if i ∈ T then ⟨1, (keys i).y⟩ else ⟨0, 0⟩

/-- A signature verifies at its own position, if the key there has the y
coordinate it was made for. -/
theorem verdict_signFor (hp : 2 ^ 254 < p) (hash : List (FieldElement p) → FieldElement p)
    (keys : ℕ → SchnorrPk (FieldElement p)) (T : Finset ℕ) (pk : SchnorrPk (FieldElement p))
    (msg : FieldElement p) (i : ℕ) :
    (verdictByY hash).verdict pk msg (signFor keys T i)
      = (decide (i ∈ T) && decide ((keys i).y = pk.y)) := by
  have : Fact (1 < p) := ⟨by omega⟩
  by_cases hi : i ∈ T
  · simp [verdictByY, signFor, hi]
  · have hne : (0 : FieldElement p) ≠ 1 := zero_ne_one
    simp [verdictByY, signFor, hi, hne]

/-- Under the keys they were made for, as many verify as there are positions. -/
theorem validUnder_signFor (hp : 2 ^ 254 < p) (hash : List (FieldElement p) → FieldElement p)
    (keys : ℕ → SchnorrPk (FieldElement p)) {T : Finset ℕ} {N : ℕ} (hT : T ⊆ Finset.range N)
    (msg : FieldElement p) :
    validUnder (verdictByY hash) ((List.range N).map keys) msg
      ((List.range N).map (signFor keys T)) = T.card := by
  rw [validUnder_map_range, ← countP_range_mem hT]
  refine List.countP_congr fun i _ => ?_
  rw [verdict_signFor hp]
  simp

/-- Under other keys one position fewer, where the y coordinates differ. -/
theorem validUnder_signFor_lt (hp : 2 ^ 254 < p)
    (hash : List (FieldElement p) → FieldElement p)
    (keys pks : ℕ → SchnorrPk (FieldElement p)) {T : Finset ℕ} {N j : ℕ}
    (hT : T ⊆ Finset.range N) (hj : j ∈ T) (hy : (keys j).y ≠ (pks j).y)
    (msg : FieldElement p) :
    validUnder (verdictByY hash) ((List.range N).map pks) msg
      ((List.range N).map (signFor keys T)) < T.card := by
  have herase : T.erase j ⊆ Finset.range N := Finset.Subset.trans (Finset.erase_subset j T) hT
  have hle : validUnder (verdictByY hash) ((List.range N).map pks) msg
      ((List.range N).map (signFor keys T)) ≤ (T.erase j).card := by
    rw [validUnder_map_range, ← countP_range_mem herase]
    refine List.countP_mono_left fun i _ hi => ?_
    rw [verdict_signFor hp, Bool.and_eq_true, decide_eq_true_eq, decide_eq_true_eq] at hi
    rw [decide_eq_true_eq, Finset.mem_erase]
    refine ⟨?_, hi.1⟩
    rintro rfl
    exact hy hi.2
  exact Nat.lt_of_le_of_lt hle (Finset.card_erase_lt_of_mem hj)

/-- Lists with equal x coordinates that are not equal differ in a y
coordinate somewhere. -/
theorem exists_y_ne {keys pks : List (SchnorrPk (FieldElement p))}
    (hx : keys.map SchnorrPk.x = pks.map SchnorrPk.x)
    (hy : keys.map SchnorrPk.y ≠ pks.map SchnorrPk.y) :
    ∃ j < pks.length, (keys.getD j ⟨0, 0⟩).y ≠ (pks.getD j ⟨0, 0⟩).y := by
  by_contra hall
  push Not at hall
  have hlen : keys.length = pks.length := by
    have h := congrArg List.length hx
    simpa using h
  refine hy (List.ext_getElem (by simp [hlen]) fun i h1 h2 => ?_)
  have hi : i < pks.length := by simpa using h2
  have h := hall i hi
  simpa [List.getD_eq_getElem?_getD, hlen, hi] using h

/-- Keys with the committed x coordinates but another y coordinate somewhere:
a satisfying run with the committed constant and too few signatures that
verify under the committed keys. -/
theorem exists_forged_run (hp : 2 ^ 254 < p) {Bt : Type} (L : CertLib p Bt)
    {pks keys : List (SchnorrPk (FieldElement p))} {threshold : UInt64}
    (hsize : pks.length < 2 ^ 64) (hx : keys.map SchnorrPk.x = pks.map SchnorrPk.x)
    (hy : keys.map SchnorrPk.y ≠ pks.map SchnorrPk.y) (hpos : threshold ≠ 0)
    (hreach : threshold.toNat ≤ pks.length) : ¬ CommittedKeysSound L pks threshold keys := by
  obtain ⟨j, hj, hyj⟩ := exists_y_ne hx hy
  have hlen : keys.length = pks.length := by
    have h := congrArg List.length hx
    simpa using h
  have hone : 1 ≤ threshold.toNat := by
    have hne : threshold.toNat ≠ 0 := fun h => hpos (UInt64.toNat_inj.mp (by simpa using h))
    omega
  have hN : (UInt64.ofNat pks.length).toNat = pks.length :=
    UInt64.toNat_ofNat_of_lt' hsize
  -- positions to sign for: as many as the threshold, the differing one among them
  have hsub : ({j} : Finset ℕ) ⊆ Finset.range pks.length := by simpa using hj
  have hsmall : ({j} : Finset ℕ).card ≤ threshold.toNat := by simpa using hone
  have hbig : threshold.toNat ≤ (Finset.range pks.length).card := by simpa using hreach
  obtain ⟨T, hjT, hT, hcard⟩ := Finset.exists_subsuperset_card_eq hsub hsmall hbig
  have hjmem : j ∈ T := hjT (Finset.mem_singleton_self j)
  have hkeys : (List.range pks.length).map (fun i => keys.getD i ⟨0, 0⟩) = keys := by
    rw [← hlen]
    exact map_range_getD keys ⟨0, 0⟩
  have hpks := map_range_getD pks ⟨0, 0⟩
  let sigs := (List.range pks.length).map (signFor (fun i => keys.getD i ⟨0, 0⟩) T)
  let wit : Witness (FieldElement p) (UInt64.ofNat pks.length).toNat :=
    ⟨keys, sigs, fieldOfNat threshold.toNat, 0, 0, 0, 0, 0, 0, by rw [hlen, hN], by simp [sigs, hN]⟩
  let P := verdictByY L.hash
  have hvalid : wit.validSignatures P = threshold.toNat := by
    have h := validUnder_signFor hp L.hash (fun i => keys.getD i ⟨0, 0⟩) hT (wit.message P)
    rw [hkeys, hcard] at h
    exact h
  have hfew : validUnder P pks (wit.message P) wit.sigs < threshold.toNat := by
    have h := validUnder_signFor_lt hp L.hash (fun i => keys.getD i ⟨0, 0⟩)
      (fun i => pks.getD i ⟨0, 0⟩) hT hjmem hyj (wit.message P)
    rw [hpks, hcard] at h
    exact h
  have hbits := length_bitsBE (logMaxPks (UInt64.ofNat pks.length) + 1) 0
  have hdiff : (wit.validSignatures P : FieldElement p) - wit.threshold
      = (natBE (bitsBE (logMaxPks (UInt64.ofNat pks.length) + 1) 0) : FieldElement p) := by
    rw [hvalid, natBE_bitsBE, Nat.zero_mod, Nat.cast_zero]
    exact sub_self _
  obtain ⟨w, hsat, hpriv⟩ := exists_sat P wit hbits hdiff
  obtain ⟨_, hpub, _⟩ := Sat.values P hsat hpriv
  intro hsound
  have hle := hsound P (wit.toInstance _ _) _ w wit _ _ rfl hN
    (setup_generateConstraints (wit.toInstance_wellShaped hbits)) hsat hpriv rfl
    (computePksThresholdHash_eq L pks threshold) (by
      rw [← hx]
      exact congrArg List.head? hpub) (fun _ _ => by rw [hx]) (fun _ _ => hx)
  exact Nat.not_le.mpr hfew hle

/-! ## The condition -/

theorem zipWith_coordinates (l : List (SchnorrPk (FieldElement p))) :
    List.zipWith SchnorrPk.mk (l.map SchnorrPk.x) (l.map SchnorrPk.y) = l := by
  induction l with
  | nil => rfl
  | cons pk l ih => rw [List.map_cons, List.map_cons, List.zipWith_cons_cons, ih]

/-- The threshold of a satisfying assignment is met by its witness keys. -/
theorem Sat.threshold_le (hp : 2 ^ 254 < p) {P : Primitives (FieldElement p)}
    {maxPks : UInt64} {w : Wire → FieldElement p} {wit : Witness (FieldElement p) maxPks.toNat}
    {bits : List Bool} {t : ℕ} (ht : t < 2 ^ 64) (hthr : wit.threshold = (t : FieldElement p))
    (hsat : Sat (gadgets P) w (circuitSteps _ maxPks.toNat (logMaxPks maxPks + 1)))
    (hpriv : privateInputs w (circuitSteps _ maxPks.toNat (logMaxPks maxPks + 1))
      = wit.encode bits) : t ≤ wit.validSignatures P := by
  have : NeZero p := ⟨by omega⟩
  have hsmall := (satisfiable_iff P wit).mp ⟨bits, w, hsat, hpriv⟩
  rw [hthr] at hsmall
  exact (val_sub_lt_iff hp (wit.validSignatures_le P) maxPks.toNat_lt ht).mp hsmall

/-- The commitment fixes x coordinates and nothing else. The guarantee holds
for a list of witness keys exactly when, if their x coordinates are the
committed ones, their y coordinates are as well, or the threshold is zero or
above the number of keys. -/
theorem committed_keys_iff (hp : 2 ^ 254 < p) {Bt : Type} (L : CertLib p Bt)
    {pks keys : List (SchnorrPk (FieldElement p))} (threshold : UInt64)
    (hsize : pks.length < 2 ^ 64) :
    CommittedKeysSound L pks threshold keys ↔
      (keys.map SchnorrPk.x = pks.map SchnorrPk.x →
        threshold = 0 ∨ pks.length < threshold.toNat ∨
          keys.map SchnorrPk.y = pks.map SchnorrPk.y) := by
  constructor
  · intro hsound hx
    by_contra hbad
    push Not at hbad
    obtain ⟨hpos, hreach, hy⟩ := hbad
    exact exists_forged_run hp L hsize hx hy hpos hreach hsound
  · intro hcond P inst S w wit bits c1 hhash hN hS hsat hpriv hkeys hc1 hhead hcoll1 hcoll2
    obtain ⟨_, rfl⟩ := setup_generateConstraints_ok hS
    obtain ⟨_, hpub, _⟩ := Sat.values P hsat hpriv
    -- the constant opens to the x coordinates and the threshold
    rw [computePksThresholdHash_eq] at hc1
    have hopen : L.hash [L.hash (keys.map SchnorrPk.x), wit.threshold]
        = L.hash [L.hash (pks.map SchnorrPk.x), fieldOfNat threshold.toNat] := by
      rw [hpub, List.head?_cons, pksThresholdHash, hhash, hkeys] at hhead
      exact (Option.some.inj hhead).trans (pure_injective hc1).symm
    have hpair := hcoll1 rfl hopen
    simp only [List.cons.injEq, and_true] at hpair
    have hlen : (keys.map SchnorrPk.x).length = (pks.map SchnorrPk.x).length := by
      rw [List.length_map, List.length_map, ← hkeys, wit.length_keys, hN]
    have hx := hcoll2 hlen hpair.1
    have hle := Sat.threshold_le hp threshold.toNat_lt hpair.2 hsat hpriv
    rcases hcond hx with hzero | hreach | hy
    · rw [hzero]
      exact Nat.zero_le _
    · have hv := wit.validSignatures_le P
      omega
    · have hsame : keys = pks := by
        rw [← zipWith_coordinates keys, hx, hy, zipWith_coordinates]
      rw [← hsame, ← hkeys]
      exact hle

/-- With the committed key itself the guarantee holds. -/
theorem committed_keys_iff_one :
    CommittedKeysSound (standInLib tweedleModulus) [⟨-1, 2⟩] 1 [⟨-1, 2⟩] :=
  (committed_keys_iff two_pow_lt_tweedleModulus (standInLib tweedleModulus) 1
    (by decide)).mpr (fun _ => Or.inr (Or.inr rfl))

/-- The point (-1, 2) of the curve is committed, and its negative is on the
wires. -/
theorem committed_keys_counterexample :
    (2 : FieldElement tweedleModulus) ^ 2 = (-1) ^ 3 + 5 ∧
      ¬ ∀ keys, CommittedKeysSound (standInLib tweedleModulus) [⟨-1, 2⟩] 1 keys := by
  have hforged : ¬ CommittedKeysSound (standInLib tweedleModulus) [⟨-1, 2⟩] 1 [⟨-1, -2⟩] :=
    exists_forged_run two_pow_lt_tweedleModulus (standInLib tweedleModulus)
      (by decide) rfl (by decide) (by decide) (by decide)
  exact ⟨by decide, fun hall => hforged (hall [⟨-1, -2⟩])⟩

end Committed

end ZendooSc
