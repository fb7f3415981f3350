/-
ZendooSc.Circuit.Transcript — what one run of the circuit hashes and checks.

An assignment fixes more than its public inputs: the lists that went into the
hash, the message each signature was checked against, the values read and
made by the step with a given namespace. This module reads these off the
steps of `generateConstraints` and gives them in closed form.

`NoCollision` is the assumption on the hash. No function from lists of field
elements to field elements is injective, so collision freedom is asked of the
lists that two runs really hash, and only where their lengths agree.
`Carries.same_data` then peels the certificate hash of two runs: equal hashes
mean equal data, equal counts and equal fees, the last two because they are
integers below the modulus.
-/
import ZendooSc.Circuit.Relation

namespace ZendooSc

open Lib Layout

/-! ## Readings -/

section Readings

variable {F : Type} (w : Wire → F) (S : List (Step (GadgetCall F)))

/-- The lists the run hashes, in order. -/
def hashedLists [DecidableEq F] : List (List F) :=
  (S.filter fun s => s.op = .enforceHashConstantLength).map fun s => s.ins.map w

/-- The messages the run checks signatures against, one for each verdict. -/
def checkedMessages [DecidableEq F] : List F :=
  (S.filter fun s => s.op = .enforceSignatureVerdict).flatMap fun s =>
    (s.ins.getLast?.map w).toList

/-- The values read by the step with this namespace. -/
def inputsAt (ns : String) : Option (List F) :=
  (S.find? fun s => s.ns == ns).map fun s => s.ins.map w

/-- The values made by the step with this namespace. -/
def outputsAt (ns : String) : Option (List F) :=
  (S.find? fun s => s.ns == ns).map fun s => s.outs.map w

end Readings

/-- The namespace of the step that hashes the message. -/
def messageNs : String :=
  "H(sc_id, epoch_number, bt_root, end_cumulative_sc_tx_comm_tree_root, btr_fee, ft_min_amount)"

/-- The namespace of the step that hashes the certificate data. -/
def sysdataNs : String :=
  "H(sc_id, epoch_number, bt_root, valid_sigs, end_cumulative_sc_tx_comm_tree_root, btr_fee, ft_min_amount)"

/-- In a run without duplicate namespaces a step is found under its own. -/
theorem find?_ns {Op : Type} (S : List (Step Op)) (hnd : (S.map Step.ns).Nodup) {s : Step Op}
    (hs : s ∈ S) : S.find? (fun t => t.ns == s.ns) = some s := by
  induction S with
  | nil => cases hs
  | cons t S ih =>
      rw [List.map_cons, List.nodup_cons] at hnd
      rcases List.mem_cons.mp hs with rfl | hmem
      · simp
      · have hne : t.ns ≠ s.ns := by
          intro heq
          exact hnd.1 (List.mem_map.mpr ⟨s, hmem, heq.symm⟩)
        simp [hne, ih hnd.2 hmem]

section Closed

variable {F : Type} [CommRing F] (w : Wire → F) (N d : ℕ)

theorem hashedLists_circuitSteps [DecidableEq F] :
    hashedLists w (circuitSteps F N d)
      = [(List.range N).map fun i => w (pkX i), [w (pksHash N), w (threshold N)],
         [w (scId N), w (epochNumber N), w (mrBt N), w (root N), w (fees N)],
         [w (scId N), w (epochNumber N), w (mrBt N), w (count N N), w (root N), w (fees N)],
         [w (sysdataHash N)]] := by
  simp [hashedLists, circuitSteps, pksSteps, messageSteps, signatureSteps, certDataSteps,
    inputSteps, thresholdSteps, List.filter_map, Function.comp_def]

theorem checkedMessages_circuitSteps [DecidableEq F] :
    checkedMessages w (circuitSteps F N d) = List.replicate N (w (message N)) := by
  simp [checkedMessages, circuitSteps, pksSteps, messageSteps, signatureSteps, certDataSteps,
    inputSteps, thresholdSteps, List.filter_map, Function.comp_def]
  rw [List.flatMap_map]
  calc (List.range N).flatMap _ = (List.range N).map fun _ => w (message N) :=
        List.map_eq_flatMap.symm
    _ = List.replicate N (w (message N)) := by rw [List.map_const', List.length_range]

theorem outputsAt_message : outputsAt w (circuitSteps F N d) messageNs = some [w (message N)] := by
  have hmem : (⟨messageNs, .enforceHashConstantLength,
      [scId N, epochNumber N, mrBt N, root N, fees N], [message N]⟩ : Step (GadgetCall F))
      ∈ circuitSteps F N d := by
    simp [circuitSteps, messageSteps, messageNs]
  rw [outputsAt, find?_ns _ (nodup_ns_circuitSteps N d) hmem]
  rfl

theorem inputsAt_sysdata :
    inputsAt w (circuitSteps F N d) sysdataNs
      = some [w (scId N), w (epochNumber N), w (mrBt N), w (count N N), w (root N),
          w (fees N)] := by
  have hmem : (⟨sysdataNs, .enforceHashConstantLength,
      [scId N, epochNumber N, mrBt N, count N N, root N, fees N], [sysdataHash N]⟩ :
      Step (GadgetCall F)) ∈ circuitSteps F N d := by
    simp [circuitSteps, certDataSteps, sysdataNs]
  rw [inputsAt, find?_ns _ (nodup_ns_circuitSteps N d) hmem]
  rfl

end Closed

/-! ## Collisions -/

section Collisions

variable {F : Type}

/-- Two lists of one length with the same hash are the same list. -/
def NoCollision (hash : List F → F) (xs ys : List F) : Prop :=
  xs.length = ys.length → hash xs = hash ys → xs = ys

/-- No list hashed in one run collides with a list hashed in the other. -/
def NoCollisionBetween (hash : List F → F) (xss yss : List (List F)) : Prop :=
  ∀ xs ∈ xss, ∀ ys ∈ yss, NoCollision hash xs ys

theorem NoCollision.singleton {hash : List F → F} {x y : F} (h : NoCollision hash [x] [y])
    (heq : hash [x] = hash [y]) : x = y := by
  have hlist := h rfl heq
  simpa using hlist

end Collisions

section SameData

variable {p : ℕ}

/-- The lists that a run with this witness hashes. -/
def Witness.hashed {F : Type} [CommRing F] {N : ℕ} (P : Primitives F) (wit : Witness F N) :
    List (List F) :=
  [wit.keys.map SchnorrPk.x, [P.hash (wit.keys.map SchnorrPk.x), wit.threshold],
    [wit.scId, wit.epochNumber, wit.mrBt, wit.root, wit.fees], wit.sysdata P,
    [P.hash (wit.sysdata P)]]

theorem hashedLists_eq {P : Primitives (FieldElement p)} {N d : ℕ} {w : Wire → FieldElement p}
    {wit : Witness (FieldElement p) N} {bits : List Bool}
    (hsat : Sat (gadgets P) w (circuitSteps _ N d))
    (hpriv : privateInputs w (circuitSteps _ N d) = wit.encode bits) :
    hashedLists w (circuitSteps _ N d) = wit.hashed P := by
  obtain ⟨hcarries, -, -⟩ := Sat.values P hsat hpriv
  obtain ⟨heqs, -⟩ := (sat_circuitSteps P w N d).mp hsat
  obtain ⟨hkeys, ⟨hthreshold, hsc, hep, hmr, hroot⟩, -⟩ := privateInputs_eq_encode.mp hpriv
  have hx : ((List.range N).map fun i => w (pkX i)) = wit.keys.map SchnorrPk.x := by
    rw [← hkeys, List.map_map]
    rfl
  have hfees : w (fees N) = wit.fees := by
    have hsysdata := hcarries.sysdata
    simp only [Witness.sysdata, List.cons.injEq, and_true] at hsysdata
    exact hsysdata.2.2.2.2.2
  rw [hashedLists_circuitSteps, hx, heqs.pksHash, hx, hthreshold, hcarries.sysdata,
    hcarries.sysdataHash, hsc, hep, hmr, hroot, hfees]
  rfl

/-- Integers below 2^128 are not identified in the field. -/
theorem natCast_injOn (hp : 2 ^ 254 < p) {m n : ℕ} (hm : m < 2 ^ 128) (hn : n < 2 ^ 128)
    (h : (m : FieldElement p) = (n : FieldElement p)) : m = n := by
  have hmod := (ZMod.natCast_eq_natCast_iff' m n p).mp h
  rwa [Nat.mod_eq_of_lt (by omega), Nat.mod_eq_of_lt (by omega)] at hmod

/-- Both fees can be read back from their packing. -/
theorem fees_injective (hp : 2 ^ 254 < p) {N1 N2 : ℕ} {wit1 : Witness (FieldElement p) N1}
    {wit2 : Witness (FieldElement p) N2} (h : wit1.fees = wit2.fees) :
    wit1.btrFee = wit2.btrFee ∧ wit1.ftMinAmount = wit2.ftMinAmount := by
  have hb1 := wit1.btrFee.toNat_lt
  have hb2 := wit2.btrFee.toNat_lt
  have hf1 := wit1.ftMinAmount.toNat_lt
  have hf2 := wit2.ftMinAmount.toNat_lt
  have hnat := natCast_injOn hp (by omega) (by omega) h
  exact ⟨UInt64.toNat_inj.mp (by omega), UInt64.toNat_inj.mp (by omega)⟩

/-- Equal certificate hashes, without a collision on the two lists under
them, are of equal data. -/
theorem sysdata_of_certDataHash {P : Primitives (FieldElement p)} {N1 N2 : ℕ}
    {wit1 : Witness (FieldElement p) N1} {wit2 : Witness (FieldElement p) N2}
    (hcert : NoCollision P.hash [P.hash (wit1.sysdata P)] [P.hash (wit2.sysdata P)])
    (hsys : NoCollision P.hash (wit1.sysdata P) (wit2.sysdata P))
    (heq : wit1.certDataHash P = wit2.certDataHash P) : wit1.sysdata P = wit2.sysdata P := by
  have hlen : (wit1.sysdata P).length = (wit2.sysdata P).length := by
    simp only [Witness.sysdata, List.length_cons, List.length_nil]
  have hinner : P.hash (wit1.sysdata P) = P.hash (wit2.sysdata P) := hcert.singleton heq
  exact hsys hlen hinner

/-- Witnesses with equal certificate data agree on everything a certificate
says, and on the message. -/
theorem same_of_sysdata (hp : 2 ^ 254 < p) {P : Primitives (FieldElement p)} {N1 N2 : ℕ}
    (hN1 : N1 < 2 ^ 64) (hN2 : N2 < 2 ^ 64)
    {wit1 : Witness (FieldElement p) N1} {wit2 : Witness (FieldElement p) N2}
    (h : wit1.sysdata P = wit2.sysdata P) :
    wit1.scId = wit2.scId ∧ wit1.epochNumber = wit2.epochNumber ∧ wit1.mrBt = wit2.mrBt ∧
      wit1.root = wit2.root ∧ wit1.btrFee = wit2.btrFee ∧
      wit1.ftMinAmount = wit2.ftMinAmount ∧
      wit1.validSignatures P = wit2.validSignatures P ∧
      wit1.message P = wit2.message P := by
  simp only [Witness.sysdata, List.cons.injEq, and_true] at h
  obtain ⟨hsc, hep, hmr, hcount, hroot, hfees⟩ := h
  obtain ⟨hbtr, hft⟩ := fees_injective hp hfees
  have hv1 := wit1.validSignatures_le P
  have hv2 := wit2.validSignatures_le P
  refine ⟨hsc, hep, hmr, hroot, hbtr, hft, natCast_injOn hp (by omega) (by omega) hcount, ?_⟩
  rw [Witness.message, Witness.message, hsc, hep, hmr, hroot, hfees]

end SameData

end ZendooSc
