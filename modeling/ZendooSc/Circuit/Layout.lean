/-
ZendooSc.Circuit.Layout — the closed form of the circuit.

`generateConstraints` is a program; this module says what it comes to. For
`N` keys and `d` bits of `b`, `circuitSteps N d` lists the steps in order,
each with its namespace, its call and the positions of its variables. The
positions are arithmetic in `N`:

  0 ..            two wires per key
  2N ..           the two commitment hashes around the threshold
  2N+3 ..         the certificate data, 128 bits of fees, the message
  2N+137 ..       two wires per signature
  4N+137 ..       one verdict per key, then zero and the N partial counts
  6N+138 ..       the two data hashes, then the two public inputs
  6N+142 ..       d bits, their packing, and the difference

`circuitSources self` lists, in the same order, where each step takes its
values from. Only this second list looks at the witness.
-/
import ZendooSc.Circuit.NaiveThresholdSig
import ZendooSc.Lib.WiresTheorems

namespace ZendooSc

open Lib

/-! ## Wires -/

namespace Layout

def pkX (i : ℕ) : ℕ := 2 * i
def pkY (i : ℕ) : ℕ := 2 * i + 1

section

variable (N : ℕ)

def pksHash : ℕ := 2 * N
def threshold : ℕ := 2 * N + 1
def pksThresholdHash : ℕ := 2 * N + 2
def scId : ℕ := 2 * N + 3
def epochNumber : ℕ := 2 * N + 4
def mrBt : ℕ := 2 * N + 5
def root : ℕ := 2 * N + 6
def btrFee : List ℕ := List.range' (2 * N + 7) 64
def ftMinAmount : List ℕ := List.range' (2 * N + 71) 64
def fees : ℕ := 2 * N + 135
def message : ℕ := 2 * N + 136
def sigE (i : ℕ) : ℕ := 2 * N + 137 + 2 * i
def sigS (i : ℕ) : ℕ := 2 * N + 137 + 2 * i + 1
def verdict (i : ℕ) : ℕ := 4 * N + 137 + i

/-- The partial count after `i` keys; before any key it is the zero gadget. -/
def count (i : ℕ) : ℕ := 5 * N + 137 + i

def sysdataHash : ℕ := 6 * N + 138
def certDataHash : ℕ := 6 * N + 139
def constantInput : ℕ := 6 * N + 140
def certDataInput : ℕ := 6 * N + 141
def b (i : ℕ) : ℕ := 6 * N + 142 + i
def bField (d : ℕ) : ℕ := 6 * N + 142 + d
def difference (d : ℕ) : ℕ := 6 * N + 142 + d + 1

end

end Layout

/-! ## Steps -/

section Steps

open Layout

variable (F : Type) (N d : ℕ)

def pksSteps : List (Step (GadgetCall F)) :=
  ((List.range N).map fun i =>
    ⟨"alloc_pk_" ++ toString i, .pkAllocWithoutCheck, [], [pkX i, pkY i]⟩) ++
  [⟨"hash public keys", .enforceHashConstantLength, (List.range N).map pkX, [pksHash N]⟩,
   ⟨"alloc threshold", .frAlloc, [], [threshold N]⟩,
   ⟨"H(H(pks), threshold)", .enforceHashConstantLength, [pksHash N, threshold N],
    [pksThresholdHash N]⟩]

def messageSteps : List (Step (GadgetCall F)) :=
  [⟨"alloc sc id", .frAlloc, [], [scId N]⟩,
   ⟨"alloc epoch number", .frAlloc, [], [epochNumber N]⟩,
   ⟨"alloc mr_bt", .frAlloc, [], [mrBt N]⟩,
   ⟨"alloc end_cumulative_sc_tx_comm_tree_root", .frAlloc, [], [root N]⟩,
   ⟨"alloc btr_fee", .uint64Alloc, [], btrFee N⟩,
   ⟨"alloc ft_min_amount", .uint64Alloc, [], ftMinAmount N⟩,
   ⟨"pack(btr_fee, ft_min_amount)", .fromBits,
    (btrFee N).reverse ++ (ftMinAmount N).reverse, [fees N]⟩,
   ⟨"H(sc_id, epoch_number, bt_root, end_cumulative_sc_tx_comm_tree_root, btr_fee, ft_min_amount)",
    .enforceHashConstantLength, [scId N, epochNumber N, mrBt N, root N, fees N], [message N]⟩]

def signatureSteps [CommRing F] : List (Step (GadgetCall F)) :=
  ((List.range N).map fun i =>
    ⟨"alloc_sig_" ++ toString i, .sigAlloc, [], [sigE N i, sigS N i]⟩) ++
  (((List.range N).map fun i =>
    ⟨"check_sig_verdict_" ++ toString i, .enforceSignatureVerdict,
      [pkX i, pkY i, sigE N i, sigS N i, message N], [verdict N i]⟩) ++
  (⟨"alloc valid signatures count", .frZero, [], [count N 0]⟩ ::
  ((List.range N).map fun i =>
    ⟨"add_verdict_" ++ toString i, .conditionallyAddConstant 1,
      [count N i, verdict N i], [count N (i + 1)]⟩)))

def certDataSteps : List (Step (GadgetCall F)) :=
  [⟨"H(sc_id, epoch_number, bt_root, valid_sigs, end_cumulative_sc_tx_comm_tree_root, btr_fee, ft_min_amount)",
    .enforceHashConstantLength,
    [scId N, epochNumber N, mrBt N, count N N, root N, fees N], [sysdataHash N]⟩,
   ⟨"H(proof_data (not present), cert_data_hash)", .enforceHashConstantLength,
    [sysdataHash N], [certDataHash N]⟩]

def inputSteps : List (Step (GadgetCall F)) :=
  [⟨"alloc constant as input", .frAllocInput, [], [constantInput N]⟩,
   ⟨"pks_threshold_hash: expected == actual", .enforceEqual,
    [pksThresholdHash N, constantInput N], []⟩,
   ⟨"alloc input cert_data_hash_g", .frAllocInput, [], [certDataInput N]⟩,
   ⟨"cert_data_hash: expected == actual", .enforceEqual,
    [certDataHash N, certDataInput N], []⟩]

def thresholdSteps : List (Step (GadgetCall F)) :=
  ((List.range d).map fun i => ⟨"alloc b_" ++ toString i, .booleanAlloc, [], [b N i]⟩) ++
  [⟨"pack the b's into a field element", .fromBits, (List.range d).map (b N), [bField N d]⟩,
   ⟨"valid_signatures - threshold", .sub, [count N N, threshold N], [difference N d]⟩,
   ⟨"threshold check", .enforceEqual, [difference N d, bField N d], []⟩]

/-- All steps of the circuit for `N` keys and `d` bits. -/
def circuitSteps [CommRing F] : List (Step (GadgetCall F)) :=
  pksSteps F N ++ (messageSteps F N ++ (signatureSteps F N ++ (certDataSteps F N ++
    (inputSteps F N ++ thresholdSteps F N d))))

end Steps

/-! ## Sources -/

section Sources

variable {F : Type} [CommRing F] (self : NaiveTresholdSignature F)

/-- A closure that hands over an optional witness. -/
def witnessSource (v : Option (List F)) : Source F SynthesisError :=
  .given (okOrMissing v)

def pkSource (pk : Option (SchnorrPk F)) : Source F SynthesisError :=
  witnessSource (pk.map fun pk => [pk.x, pk.y])

def sigSource (sig : Option (SchnorrSig F)) : Source F SynthesisError :=
  witnessSource (sig.map fun sig => [sig.e, sig.s])

def bitSource (b : Option Bool) : Source F SynthesisError :=
  witnessSource (b.map fun b => [bitVal b])

def frSource (v : Option F) : Source F SynthesisError :=
  witnessSource (v.map fun a => [a])

def uint64Source (v : Option UInt64) : Source F SynthesisError :=
  witnessSource (v.map uint64Bits)

def pksSources : List (Source F SynthesisError) :=
  self.pks.map pkSource ++ [.computed, frSource self.threshold, .computed]

def messageSources : List (Source F SynthesisError) :=
  [frSource self.scId, frSource self.epochNumber, frSource self.mrBt,
   frSource self.endCumulativeScTxCommTreeRoot, uint64Source self.btrFee,
   uint64Source self.ftMinAmount, .computed, .computed]

def signatureSources : List (Source F SynthesisError) :=
  self.sigs.map sigSource ++ (self.sigs.map (fun _ => .computed) ++
    (.computed :: self.sigs.map (fun _ => .computed)))

def inputSources (N : ℕ) : List (Source F SynthesisError) :=
  [.readBack (Layout.pksThresholdHash N), .computed, .readBack (Layout.certDataHash N),
   .computed]

def thresholdSources : List (Source F SynthesisError) :=
  self.b.map bitSource ++ [.computed, .computed, .computed]

/-- Where each step of the circuit takes its values from. -/
def circuitSources : List (Source F SynthesisError) :=
  pksSources self ++ (messageSources self ++ (signatureSources self ++
    ([.computed, .computed] ++ (inputSources self.maxPks.toNat ++ thresholdSources self))))

/-- The circuit as instructions. -/
def circuitInstrs : List (Instr F (GadgetCall F) SynthesisError) :=
  List.zipWith Instr.mk (circuitSteps F self.maxPks.toNat (logMaxPks self.maxPks + 1))
    (circuitSources self)

end Sources

end ZendooSc
