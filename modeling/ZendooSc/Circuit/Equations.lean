/-
ZendooSc.Circuit.Equations — what the steps of the circuit ask of an
assignment, as equations between wires.

`CircuitEquations P w N d` collects everything except the three
`enforce_equal`s: which wires are bits, and what each computing gadget makes
of the wires it reads. `sat_circuitSteps` says a satisfying assignment is one
with these equations and the three equalities. `realised_equations` says the
values of a proving run satisfy the same equations, and that its two public
inputs are the wires they were read back from, so for an honest prover only
the threshold equality is left to check.

The two lists `privateInputs` and `publicInputs` are computed here in closed
form as well.
-/
import ZendooSc.Circuit.Synthesis

namespace ZendooSc

open Lib Layout

/-- The values of a witness and the bits of `b`, in the order of allocation. -/
def Witness.encode {F : Type} [CommRing F] {N : ℕ} (wit : Witness F N) (bits : List Bool) :
    List F :=
  wit.keys.flatMap (fun pk => [pk.x, pk.y]) ++
    ([wit.threshold, wit.scId, wit.epochNumber, wit.mrBt, wit.root] ++
    (uint64Bits wit.btrFee ++ (uint64Bits wit.ftMinAmount ++
    (wit.sigs.flatMap (fun sig => [sig.e, sig.s]) ++ bits.map bitVal))))

variable {F : Type} [CommRing F] (P : Primitives F) (w : Wire → F) (N d : ℕ)

/-! ## Equations -/

/-- An assignment of a wire that carries a bit. -/
abbrev IsBit (a : F) : Prop := a = 0 ∨ a = 1

/-- The key on wires `pkX i` and `pkY i`. -/
def keyAt (i : ℕ) : SchnorrPk F := ⟨w (pkX i), w (pkY i)⟩

def sigAt (i : ℕ) : SchnorrSig F := ⟨w (sigE N i), w (sigS N i)⟩

structure CircuitEquations : Prop where
  pksHash : w (pksHash N) = P.hash ((List.range N).map fun i => w (pkX i))
  pksThresholdHash :
    w (pksThresholdHash N) = P.hash [w (Layout.pksHash N), w (Layout.threshold N)]
  btrFee : ∀ x ∈ btrFee N, IsBit (w x)
  ftMinAmount : ∀ x ∈ ftMinAmount N, IsBit (w x)
  fees : w (fees N) = packBE (((Layout.btrFee N).reverse ++ (Layout.ftMinAmount N).reverse).map w)
  message : w (message N)
    = P.hash [w (scId N), w (epochNumber N), w (mrBt N), w (root N), w (Layout.fees N)]
  verdict : ∀ i < N, w (verdict N i)
    = bitVal (P.verdict (keyAt w i) (w (Layout.message N)) (sigAt w N i))
  countZero : w (count N 0) = 0
  countSucc : ∀ i < N, w (count N (i + 1)) = w (count N i) + w (Layout.verdict N i)
  sysdataHash : w (sysdataHash N)
    = P.hash [w (scId N), w (epochNumber N), w (mrBt N), w (count N N), w (root N),
        w (Layout.fees N)]
  certDataHash : w (certDataHash N) = P.hash [w (Layout.sysdataHash N)]
  bits : ∀ i < d, IsBit (w (b N i))
  bField : w (bField N d) = packBE ((List.range d).map fun i => w (b N i))
  difference : w (difference N d) = w (count N N) - w (Layout.threshold N)

theorem sat_circuitSteps :
    Sat (gadgets P) w (circuitSteps F N d) ↔
      CircuitEquations P w N d ∧ w (pksThresholdHash N) = w (constantInput N) ∧
        w (certDataHash N) = w (certDataInput N) ∧ w (difference N d) = w (bField N d) := by
  simp only [circuitSteps, pksSteps, messageSteps, signatureSteps, certDataSteps, inputSteps,
    thresholdSteps, sat_append, sat_cons, sat_nil, sat_map_range, holds_frAlloc,
    holds_frAllocInput, holds_pkAlloc, holds_sigAlloc, holds_uint64Alloc, holds_booleanAlloc,
    holds_enforceEqual, holds_enforceHash, holds_verdict, holds_frZero, holds_condAdd,
    holds_fromBits, holds_sub, List.map_cons, List.map_nil, List.map_map, Function.comp_def,
    and_true, true_and, implies_true, mul_one]
  constructor
  · rintro ⟨⟨hk, hkt⟩, ⟨hbtr, hft, hfees, hmsg⟩, ⟨hver, hzero, hadd⟩, ⟨hsys, hcert⟩,
      ⟨hin1, hin2⟩, hb, hbf, hdiff, hthr⟩
    exact ⟨⟨hk.symm, hkt.symm, hbtr.2, hft.2, hfees.symm, hmsg.symm,
      fun i hi => (hver i hi).symm, hzero.symm, fun i hi => (hadd i hi).symm, hsys.symm,
      hcert.symm, hb, hbf.symm, hdiff.symm⟩, hin1, hin2, hthr⟩
  · rintro ⟨h, hin1, hin2, hthr⟩
    exact ⟨⟨h.pksHash.symm, h.pksThresholdHash.symm⟩,
      ⟨⟨by simp [Layout.btrFee], h.btrFee⟩, ⟨by simp [Layout.ftMinAmount], h.ftMinAmount⟩,
        h.fees.symm, h.message.symm⟩,
      ⟨fun i hi => (h.verdict i hi).symm, h.countZero.symm, fun i hi => (h.countSucc i hi).symm⟩,
      ⟨h.sysdataHash.symm, h.certDataHash.symm⟩, ⟨hin1, hin2⟩, h.bits, h.bField.symm,
      h.difference.symm, hthr⟩

/-! ## Reading the inputs back -/

theorem publicInputs_circuitSteps :
    publicInputs w (circuitSteps F N d) = [w (constantInput N), w (certDataInput N)] := by
  simp [publicInputs, allocated, circuitSteps, pksSteps, messageSteps, signatureSteps,
    certDataSteps, inputSteps, thresholdSteps, List.filter_map, Function.comp_def,
    GadgetCall.isPublicAlloc]

/-- The witness in the order of allocation. -/
theorem privateInputs_circuitSteps :
    privateInputs w (circuitSteps F N d)
      = ((List.range N).map (keyAt w)).flatMap (fun pk => [pk.x, pk.y]) ++
        ([w (threshold N), w (scId N), w (epochNumber N), w (mrBt N), w (root N)] ++
        ((btrFee N).map w ++ ((ftMinAmount N).map w ++
        (((List.range N).map (sigAt w N)).flatMap (fun sig => [sig.e, sig.s]) ++
          (List.range d).map fun i => w (b N i))))) := by
  have hbits : ((List.range d).map fun i => w (b N i))
      = (List.range d).flatMap fun i => [w (b N i)] := List.map_eq_flatMap
  rw [hbits]
  simp [privateInputs, allocated, circuitSteps, pksSteps, messageSteps, signatureSteps,
    certDataSteps, inputSteps, thresholdSteps, List.filter_map, Function.comp_def,
    GadgetCall.isPrivateAlloc, List.flatMap_map, keyAt, sigAt]

/-! ## The values of a proving run -/

section Realised

variable {P w N d}

theorem realised_witnessSource {s : Step (GadgetCall F)} {xs : List F} :
    Instr.Realised (gadgets P) w ⟨s, witnessSource (some xs)⟩ ↔ xs = s.outs.map w := by
  simp [Instr.Realised, witnessSource, okOrMissing]

theorem realised_frSource {s : Step (GadgetCall F)} {a : F} :
    Instr.Realised (gadgets P) w ⟨s, frSource (some a)⟩ ↔ [a] = s.outs.map w :=
  realised_witnessSource

theorem realised_pkSource {s : Step (GadgetCall F)} {pk : SchnorrPk F} :
    Instr.Realised (gadgets P) w ⟨s, pkSource (some pk)⟩ ↔ [pk.x, pk.y] = s.outs.map w :=
  realised_witnessSource

theorem realised_sigSource {s : Step (GadgetCall F)} {sig : SchnorrSig F} :
    Instr.Realised (gadgets P) w ⟨s, sigSource (some sig)⟩ ↔ [sig.e, sig.s] = s.outs.map w :=
  realised_witnessSource

theorem realised_bitSource {s : Step (GadgetCall F)} {b : Bool} :
    Instr.Realised (gadgets P) w ⟨s, bitSource (some b)⟩ ↔ [bitVal b] = s.outs.map w :=
  realised_witnessSource

theorem realised_uint64Source {s : Step (GadgetCall F)} {n : UInt64} :
    Instr.Realised (gadgets P) w ⟨s, uint64Source (some n)⟩ ↔ uint64Bits n = s.outs.map w :=
  realised_witnessSource

variable {wit : Witness F N} {bits : List Bool} {maxPks : UInt64}

theorem realised_pks
    (h : ∀ i ∈ List.zipWith Instr.mk (pksSteps F N) (pksSources (wit.toInstance bits maxPks)),
      i.Realised (gadgets P) w) :
    (List.range N).map (keyAt w) = wit.keys ∧
      w (pksHash N) = P.hash ((List.range N).map fun i => w (pkX i)) ∧
      w (threshold N) = wit.threshold ∧
      w (pksThresholdHash N) = P.hash [w (pksHash N), w (threshold N)] := by
  have hkeys := wit.length_keys
  rw [pksSteps, pksSources, List.zipWith_append (by simp [Witness.toInstance, hkeys]),
    List.forall_mem_append, Witness.toInstance,
    forall_mem_zipWith_range (by simpa using hkeys)] at h
  obtain ⟨hloop, hrest⟩ := h
  simp only [List.zipWith_cons_cons, List.zipWith_nil_left, List.forall_mem_cons,
    List.not_mem_nil, false_implies, implies_true, and_true, realised_frSource,
    Instr.realised_computed, gadgets_eval, GadgetCall.eval, List.map_cons, List.map_nil,
    List.map_map, Option.some.injEq, List.cons.injEq] at hrest
  obtain ⟨hhash, hthr, hhash2⟩ := hrest
  refine ⟨?_, hhash.symm, hthr.symm, hhash2.symm⟩
  refine List.ext_getElem (by simp [hkeys]) fun i h1 h2 => ?_
  have hkey := hloop i (some wit.keys[i]) (by simp)
  rw [realised_pkSource] at hkey
  simp only [List.map_cons, List.map_nil, List.cons.injEq, and_true] at hkey
  simp [keyAt, ← hkey.1, ← hkey.2]

theorem realised_message
    (h : ∀ i ∈ List.zipWith Instr.mk (messageSteps F N)
      (messageSources (wit.toInstance bits maxPks)), i.Realised (gadgets P) w) :
    w (scId N) = wit.scId ∧ w (epochNumber N) = wit.epochNumber ∧ w (mrBt N) = wit.mrBt ∧
      w (root N) = wit.root ∧ (btrFee N).map w = uint64Bits wit.btrFee ∧
      (ftMinAmount N).map w = uint64Bits wit.ftMinAmount ∧
      w (fees N) = packBE (((btrFee N).reverse ++ (ftMinAmount N).reverse).map w) ∧
      w (message N)
        = P.hash [w (scId N), w (epochNumber N), w (mrBt N), w (root N), w (fees N)] := by
  simp only [messageSteps, messageSources, Witness.toInstance, List.zipWith_cons_cons,
    List.zipWith_nil_left, List.forall_mem_cons, List.not_mem_nil, false_implies, implies_true,
    and_true, realised_frSource, realised_uint64Source, Instr.realised_computed, gadgets_eval,
    GadgetCall.eval, List.map_cons, List.map_nil, Option.some.injEq, List.cons.injEq] at h
  obtain ⟨hsc, hep, hmr, hroot, hbtr, hft, hfees, hmsg⟩ := h
  exact ⟨hsc.symm, hep.symm, hmr.symm, hroot.symm, hbtr.symm, hft.symm, hfees.symm, hmsg.symm⟩

theorem realised_signatures
    (h : ∀ i ∈ List.zipWith Instr.mk (signatureSteps F N)
      (signatureSources (wit.toInstance bits maxPks)), i.Realised (gadgets P) w) :
    (List.range N).map (sigAt w N) = wit.sigs ∧
      (∀ i < N, w (verdict N i)
        = bitVal (P.verdict (keyAt w i) (w (message N)) (sigAt w N i))) ∧
      w (count N 0) = 0 ∧
      ∀ i < N, w (count N (i + 1)) = w (count N i) + w (verdict N i) := by
  have hsigs := wit.length_sigs
  have hlen : (wit.sigs.map some).length = N := by simpa using hsigs
  rw [signatureSteps, signatureSources, Witness.toInstance,
    List.zipWith_append (by simp [hsigs]), List.zipWith_append (by simp [hsigs]),
    List.zipWith_cons_cons, zipWith_range_const _ _ _ hlen, zipWith_range_const _ _ _ hlen,
    List.forall_mem_append, List.forall_mem_append, List.forall_mem_cons,
    forall_mem_zipWith_range hlen] at h
  simp only [List.forall_mem_map, List.mem_range, Instr.realised_computed, gadgets_eval,
    GadgetCall.eval, List.map_cons, List.map_nil, Option.some.injEq, List.cons.injEq, and_true,
    mul_one] at h
  obtain ⟨hloop, hver, hzero, hadd⟩ := h
  refine ⟨?_, fun i hi => (hver i hi).symm, hzero.symm, fun i hi => (hadd i hi).symm⟩
  refine List.ext_getElem (by simp [hsigs]) fun i h1 h2 => ?_
  have hsig := hloop i (some wit.sigs[i]) (by simp)
  rw [realised_sigSource] at hsig
  simp only [List.map_cons, List.map_nil, List.cons.injEq, and_true] at hsig
  simp [sigAt, ← hsig.1, ← hsig.2]

theorem realised_certData
    (h : ∀ i ∈ List.zipWith Instr.mk (certDataSteps F N) [.computed, .computed],
      (i : Instr F (GadgetCall F) SynthesisError).Realised (gadgets P) w) :
    w (sysdataHash N) = P.hash [w (scId N), w (epochNumber N), w (mrBt N), w (count N N),
        w (root N), w (fees N)] ∧
      w (certDataHash N) = P.hash [w (sysdataHash N)] := by
  simp only [certDataSteps, List.zipWith_cons_cons, List.zipWith_nil_left, List.forall_mem_cons,
    List.not_mem_nil, false_implies, implies_true, and_true, Instr.realised_computed,
    gadgets_eval, GadgetCall.eval, List.map_cons, List.map_nil, Option.some.injEq,
    List.cons.injEq] at h
  exact ⟨h.1.symm, h.2.symm⟩

/-- A public input is the wire it was read back from. -/
theorem realised_inputs
    (h : ∀ i ∈ List.zipWith Instr.mk (inputSteps F N) (inputSources N),
      i.Realised (gadgets P) w) :
    w (constantInput N) = w (pksThresholdHash N) ∧ w (certDataInput N) = w (certDataHash N) := by
  simp only [inputSteps, inputSources, List.zipWith_cons_cons, List.zipWith_nil_left,
    List.forall_mem_cons, List.not_mem_nil, false_implies, implies_true, and_true,
    Instr.realised_computed, Instr.realised_readBack, gadgets_eval, GadgetCall.eval,
    List.map_cons, List.map_nil, List.cons.injEq] at h
  exact ⟨h.1, h.2.2⟩

theorem realised_threshold (hbits : bits.length = d)
    (h : ∀ i ∈ List.zipWith Instr.mk (thresholdSteps F N d)
      (thresholdSources (wit.toInstance bits maxPks)), i.Realised (gadgets P) w) :
    ((List.range d).map fun i => w (b N i)) = bits.map bitVal ∧
      w (bField N d) = packBE ((List.range d).map fun i => w (b N i)) ∧
      w (difference N d) = w (count N N) - w (threshold N) := by
  rw [thresholdSteps, thresholdSources, List.zipWith_append (by simp [Witness.toInstance, hbits]),
    List.forall_mem_append, Witness.toInstance,
    forall_mem_zipWith_range (by simpa using hbits)] at h
  obtain ⟨hloop, hrest⟩ := h
  simp only [List.zipWith_cons_cons, List.zipWith_nil_left, List.forall_mem_cons,
    List.not_mem_nil, false_implies, implies_true, and_true, Instr.realised_computed,
    gadgets_eval, GadgetCall.eval, List.map_cons, List.map_nil, List.map_map,
    Option.some.injEq, List.cons.injEq] at hrest
  refine ⟨?_, hrest.1.symm, hrest.2.symm⟩
  refine List.ext_getElem (by simp [hbits]) fun i h1 h2 => ?_
  have hi : i < bits.length := by simpa using h2
  have hbit := hloop i (some bits[i]) (by simp)
  rw [realised_bitSource] at hbit
  simp only [List.map_cons, List.map_nil, List.cons.injEq, and_true] at hbit
  simp [← hbit]

theorem isBit_of_map_eq {α : Type} {l : List α} {f : α → F} {bs : List Bool}
    (h : l.map f = bs.map bitVal) : ∀ x ∈ l, IsBit (f x) := by
  intro x hx
  have hmem : f x ∈ bs.map bitVal := h ▸ List.mem_map_of_mem hx
  exact mem_map_bitVal hmem

/-- The values of a proving run satisfy the equations, carry the witness, and
expose the two hashes. -/
theorem realised_equations (hN : maxPks.toNat = N) (hd : logMaxPks maxPks + 1 = d)
    (hbits : bits.length = d)
    (h : ∀ i ∈ circuitInstrs (wit.toInstance bits maxPks), i.Realised (gadgets P) w) :
    CircuitEquations P w N d ∧ w (constantInput N) = w (pksThresholdHash N) ∧
      w (certDataInput N) = w (certDataHash N) ∧
      privateInputs w (circuitSteps F N d) = wit.encode bits := by
  subst hN hd
  have hmax : (wit.toInstance bits maxPks).maxPks = maxPks := rfl
  rw [circuitInstrs, circuitSteps, circuitSources, hmax,
    List.zipWith_append (by simp [pksSteps, pksSources, Witness.toInstance, wit.length_keys]),
    List.zipWith_append (by simp [messageSteps, messageSources]),
    List.zipWith_append (by
      simp [signatureSteps, signatureSources, Witness.toInstance, wit.length_sigs]),
    List.zipWith_append (by simp [certDataSteps]),
    List.zipWith_append (by simp [inputSteps, inputSources])] at h
  simp only [List.forall_mem_append] at h
  obtain ⟨hpks, hmsg, hsig, hcert, hin, hthr⟩ := h
  obtain ⟨hk, hpksHash, ht, hpksT⟩ := realised_pks hpks
  obtain ⟨hsc, hep, hmr, hroot, hbtr, hft, hfees, hmessage⟩ := realised_message hmsg
  obtain ⟨hs, hver, hzero, hadd⟩ := realised_signatures hsig
  obtain ⟨hsys, hcd⟩ := realised_certData hcert
  obtain ⟨hin1, hin2⟩ := realised_inputs hin
  obtain ⟨hb, hbf, hdiff⟩ := realised_threshold hbits hthr
  refine ⟨⟨hpksHash, hpksT, isBit_of_map_eq hbtr, isBit_of_map_eq hft, hfees, hmessage, hver,
    hzero, hadd, hsys, hcd, ?_, hbf, hdiff⟩, hin1, hin2, ?_⟩
  · intro i hi
    exact isBit_of_map_eq hb i (List.mem_range.mpr hi)
  · rw [privateInputs_circuitSteps, hk, ht, hsc, hep, hmr, hroot, hbtr, hft, hs, hb,
      Witness.encode]

end Realised

/-- The proving run of a full instance: one assignment with all of this. -/
theorem prover_equations {maxPks : UInt64} (wit : Witness F maxPks.toNat) {bits : List Bool}
    (hbits : bits.length = logMaxPks maxPks + 1) :
    ∃ vals, prove (gadgets P) .assignmentMissing (wit.toInstance bits maxPks).generateConstraints
        = .ok (circuitSteps F maxPks.toNat (logMaxPks maxPks + 1), .ok vals) ∧
      ∀ w, Reads w vals →
        CircuitEquations P w maxPks.toNat (logMaxPks maxPks + 1) ∧
        w (constantInput maxPks.toNat) = w (pksThresholdHash maxPks.toNat) ∧
        w (certDataInput maxPks.toNat) = w (certDataHash maxPks.toNat) ∧
        privateInputs w (circuitSteps F maxPks.toNat (logMaxPks maxPks + 1))
          = wit.encode bits := by
  obtain ⟨vals, hprove, hreal⟩ := proving_run P (wit.toInstance_wellShaped hbits)
    (wit.toInstance_full bits maxPks)
  exact ⟨vals, hprove, fun w hw => realised_equations rfl rfl hbits (hreal w hw)⟩

end ZendooSc
