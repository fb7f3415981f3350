/-
ZendooSc.Circuit.Emission — `generateConstraints` emits the closed form.

Each gadget request has its rule, each part of the circuit is walked once
with these rules, and `emits_generateConstraints` puts the parts together: an
instance whose three lengths are right emits `circuitInstrs`, whatever its
witness. The converse is `setup_generateConstraints_ok`: a synthesis that
returns is of such an instance, because the three assertions come first.

The namespaces of `circuitSteps` are pairwise distinct. A name is either one
of the circuit's literals or a loop's literal followed by the counter, so the
part of the circuit it belongs to can be read off its first letters.
-/
import ZendooSc.Circuit.Layout

namespace ZendooSc

open Lib Layout NaiveTresholdSignature

variable {F : Type} [CommRing F] (P : Primitives F)

/-! ## One request at a time -/

theorem witnessSource_fits {n : ℕ} {s : Step (GadgetCall F)} {v : Option (List F)}
    (h : ∀ xs, v = some xs → xs.length = s.outs.length) :
    (witnessSource v).Fits (gadgets P) n s := by
  intro vs hvs
  cases v with
  | none => cases hvs
  | some xs =>
      cases hvs
      exact h _ rfl

theorem emits_frAlloc (ns : String) (v : Option F) (n : ℕ) :
    Emits (gadgets P) (frAlloc ns v) n n [⟨⟨ns, .frAlloc, [], [n]⟩, frSource v⟩] (n + 1) := by
  refine Emits.emit (by simp) (witnessSource_fits P fun xs hxs => ?_)
  cases v <;> cases hxs
  rfl

theorem emits_frAllocInput (ns : String) {x n : ℕ} (hx : x < n) :
    Emits (gadgets P) (frAllocInput ns x : CS F Wire) n n
      [⟨⟨ns, .frAllocInput, [], [n]⟩, .readBack x⟩] (n + 1) :=
  Emits.emit (by simp) ⟨hx, rfl⟩

theorem emits_pkAllocWithoutCheck (ns : String) (pk : Option (SchnorrPk F)) (n : ℕ) :
    Emits (gadgets P) (pkAllocWithoutCheck ns pk) n (n, n + 1)
      [⟨⟨ns, .pkAllocWithoutCheck, [], [n, n + 1]⟩, pkSource pk⟩] (n + 2) := by
  refine Emits.map (Emits.emit (by simp) (witnessSource_fits P fun xs hxs => ?_)) _
  cases pk <;> cases hxs
  rfl

theorem emits_sigAlloc (ns : String) (sig : Option (SchnorrSig F)) (n : ℕ) :
    Emits (gadgets P) (sigAlloc ns sig) n (n, n + 1)
      [⟨⟨ns, .sigAlloc, [], [n, n + 1]⟩, sigSource sig⟩] (n + 2) := by
  refine Emits.map (Emits.emit (by simp) (witnessSource_fits P fun xs hxs => ?_)) _
  cases sig <;> cases hxs
  rfl

theorem emits_booleanAlloc (ns : String) (b : Option Bool) (n : ℕ) :
    Emits (gadgets P) (booleanAlloc ns b) n n
      [⟨⟨ns, .booleanAlloc, [], [n]⟩, bitSource b⟩] (n + 1) := by
  refine Emits.emit (by simp) (witnessSource_fits P fun xs hxs => ?_)
  cases b <;> cases hxs
  rfl

theorem emits_uint64Alloc (ns : String) (v : Option UInt64) (n : ℕ) :
    Emits (gadgets P) (uint64Alloc ns v) n (List.range' n 64)
      [⟨⟨ns, .uint64Alloc, [], List.range' n 64⟩, uint64Source v⟩] (n + 64) := by
  refine Emits.map (Emits.emit (by simp) (witnessSource_fits P fun xs hxs => ?_)) _
  cases v <;> cases hxs
  simp [uint64Bits]

theorem emits_enforceHash (ns : String) {xs : List ℕ} {n : ℕ} (hxs : ∀ x ∈ xs, x < n) :
    Emits (gadgets P) (enforceHashConstantLength ns xs : CS F Wire) n n
      [⟨⟨ns, .enforceHashConstantLength, xs, [n]⟩, .computed⟩] (n + 1) :=
  Emits.emit hxs fun vs _ => ⟨[P.hash vs], rfl, rfl⟩

theorem emits_fromBits (ns : String) {bits : List ℕ} {n : ℕ} (hxs : ∀ x ∈ bits, x < n) :
    Emits (gadgets P) (fromBits ns bits : CS F Wire) n n
      [⟨⟨ns, .fromBits, bits, [n]⟩, .computed⟩] (n + 1) :=
  Emits.emit hxs fun vs _ => ⟨[packBE vs], rfl, rfl⟩

theorem emits_frZero (ns : String) (n : ℕ) :
    Emits (gadgets P) (frZero ns : CS F Wire) n n
      [⟨⟨ns, .frZero, [], [n]⟩, .computed⟩] (n + 1) := by
  refine Emits.emit (by simp) fun vs hvs => ?_
  cases List.length_eq_zero_iff.mp hvs
  exact ⟨[0], rfl, rfl⟩

theorem emits_verdict (ns : String) {pk sig : ℕ × ℕ} {m n : ℕ}
    (hins : ∀ x ∈ [pk.1, pk.2, sig.1, sig.2, m], x < n) :
    Emits (gadgets P) (enforceSignatureVerdict ns pk sig m : CS F Wire) n n
      [⟨⟨ns, .enforceSignatureVerdict, [pk.1, pk.2, sig.1, sig.2, m], [n]⟩, .computed⟩]
      (n + 1) := by
  refine Emits.emit hins fun vs hvs => ?_
  match vs, hvs with
  | [x, y, e, s, msg], _ => exact ⟨[bitVal (P.verdict ⟨x, y⟩ msg ⟨e, s⟩)], rfl, rfl⟩

theorem emits_condAdd (ns : String) {a v n : ℕ} (c : F) (ha : a < n) (hv : v < n) :
    Emits (gadgets P) (conditionallyAddConstant ns a v c) n n
      [⟨⟨ns, .conditionallyAddConstant c, [a, v], [n]⟩, .computed⟩] (n + 1) := by
  refine Emits.emit (by simp [ha, hv]) fun vs hvs => ?_
  match vs, hvs with
  | [x, y], _ => exact ⟨[x + y * c], rfl, rfl⟩

theorem emits_sub (ns : String) {a b n : ℕ} (ha : a < n) (hb : b < n) :
    Emits (gadgets P) (sub ns a b : CS F Wire) n n
      [⟨⟨ns, .sub, [a, b], [n]⟩, .computed⟩] (n + 1) := by
  refine Emits.emit (by simp [ha, hb]) fun vs hvs => ?_
  match vs, hvs with
  | [x, y], _ => exact ⟨[x - y], rfl, rfl⟩

theorem emits_enforceEqual (ns : String) {a b n : ℕ} (ha : a < n) (hb : b < n) :
    Emits (gadgets P) (enforceEqual ns a b : CS F Unit) n ()
      [⟨⟨ns, .enforceEqual, [a, b], []⟩, .computed⟩] n := by
  have hemit : Emits (gadgets P) (emit ns .enforceEqual [a, b] 0 .computed : CS F Wire) n n
      [⟨⟨ns, .enforceEqual, [a, b], []⟩, .computed⟩] n := by
    refine Emits.emit (by simp [ha, hb]) fun vs hvs => ?_
    match vs, hvs with
    | [x, y], _ => exact ⟨[], rfl, rfl⟩
  exact hemit.map fun _ => ()

/-! ## The parts of the circuit -/

variable (self : NaiveTresholdSignature F)

theorem emits_allocPks {N : ℕ} (hN : self.pks.length = N) :
    Emits (gadgets P) self.allocPks 0
      ⟨(List.range N).map fun i => (pkX i, pkY i), Layout.threshold N, pksThresholdHash N⟩
      (List.zipWith Instr.mk (pksSteps F N) (pksSources self)) (Layout.scId N) := by
  rw [pksSteps, pksSources, List.zipWith_append (by simp [hN])]
  refine (Emits.forEnum_zip (2 * ·) hN
    fun i pk _ => emits_pkAllocWithoutCheck P ("alloc_pk_" ++ toString i) pk (2 * i)).bind ?_
  simp only [List.map_map, Function.comp_def]
  refine (emits_enforceHash P _ ?_).cons ((emits_frAlloc P _ _ _).cons
    ((emits_enforceHash P _ ?_).map _))
  · intro x hx
    obtain ⟨i, hi, rfl⟩ := List.mem_map.mp hx
    have := List.mem_range.mp hi
    omega
  · simp

theorem emits_allocMessage (N : ℕ) :
    Emits (gadgets P) self.allocMessage (Layout.scId N)
      ⟨Layout.scId N, Layout.epochNumber N, Layout.mrBt N, root N, fees N, message N⟩
      (List.zipWith Instr.mk (messageSteps F N) (messageSources self)) (sigE N 0) := by
  refine (emits_frAlloc P _ _ _).cons ((emits_frAlloc P _ _ _).cons ((emits_frAlloc P _ _ _).cons
    ((emits_frAlloc P _ _ _).cons ((emits_uint64Alloc P _ _ _).cons
      ((emits_uint64Alloc P _ _ _).cons ((emits_fromBits P _ ?_).cons
        ((emits_enforceHash P _ ?_).map _)))))))
  · intro x hx
    simp only [List.mem_append, List.mem_reverse, List.mem_range'_1, Layout.scId] at hx ⊢
    omega
  · intro x hx
    simp only [List.mem_cons, List.not_mem_nil, or_false, Layout.scId] at hx ⊢
    omega

theorem emits_countSignatures {N : ℕ} (hN : self.sigs.length = N) :
    Emits (gadgets P)
      (self.countSignatures ((List.range N).map fun i => (pkX i, pkY i)) (message N))
      (sigE N 0) (count N N)
      (List.zipWith Instr.mk (signatureSteps F N) (signatureSources self))
      (sysdataHash N) := by
  have hsigs : Emits (gadgets P)
      (forEnum self.sigs fun i sig => sigAlloc ("alloc_sig_" ++ toString i) sig)
      (sigE N 0) ((List.range N).map fun i => (sigE N i, sigS N i))
      (List.zipWith Instr.mk ((List.range N).map fun i =>
        ⟨"alloc_sig_" ++ toString i, .sigAlloc, [], [sigE N i, sigS N i]⟩)
        (self.sigs.map sigSource)) (sigE N N) :=
    Emits.forEnum_zip (sigE N) hN fun i sig _ => emits_sigAlloc P _ sig (sigE N i)
  have hverdicts : Emits (gadgets P)
      (forEnum ((List.range N).map fun i => ((pkX i, pkY i), (sigE N i, sigS N i)))
        fun i x => (enforceSignatureVerdict ("check_sig_verdict_" ++ toString i) x.1 x.2
          (message N) : CS F Wire))
      (verdict N 0) ((List.range N).map (verdict N))
      ((List.range N).map fun i =>
        ⟨⟨"check_sig_verdict_" ++ toString i, .enforceSignatureVerdict,
          [pkX i, pkY i, sigE N i, sigS N i, message N], [verdict N i]⟩, .computed⟩)
      (verdict N N) := by
    refine Emits.forRange (verdict N) fun i hi => emits_verdict P _ fun x hx => ?_
    simp only [List.mem_cons, List.not_mem_nil, or_false, pkX, pkY, sigE, sigS, message,
      verdict] at hx ⊢
    omega
  have hadds : Emits (gadgets P)
      (foldEnum ((List.range N).map (verdict N)) (count N 0) fun acc i v =>
        (conditionallyAddConstant ("add_verdict_" ++ toString i) acc v 1 : CS F Wire))
      (count N 1) (count N N)
      ((List.range N).map fun i =>
        ⟨⟨"add_verdict_" ++ toString i, .conditionallyAddConstant 1,
          [count N i, verdict N i], [count N (i + 1)]⟩, .computed⟩)
      (count N (N + 1)) := by
    refine Emits.foldRange (fun i => count N (i + 1)) (count N) fun i hi =>
      emits_condAdd P _ 1 ?_ ?_
    · simp only [count]
      omega
    · simp only [count, verdict]
      omega
  -- the end of one loop is the start of the next
  rw [show sigE N N = verdict N 0 by simp only [sigE, verdict]; omega] at hsigs
  rw [show verdict N N = count N 0 by simp only [verdict, count]; omega] at hverdicts
  rw [show count N (N + 1) = sysdataHash N by simp only [count, sysdataHash]; omega] at hadds
  rw [signatureSteps, signatureSources, List.zipWith_append (by simp [hN]),
    List.zipWith_append (by simp [hN]), zipWith_range_const _ _ _ hN, List.zipWith_cons_cons,
    zipWith_range_const _ _ _ hN]
  refine hsigs.bind ?_
  rw [List.zip_map']
  exact hverdicts.bind ((emits_frZero P _ _).cons hadds)

theorem emits_certDataHash (N : ℕ) :
    Emits (gadgets P)
      (certDataHash ⟨Layout.scId N, Layout.epochNumber N, Layout.mrBt N, root N, fees N,
        message N⟩ (count N N))
      (sysdataHash N) (Layout.certDataHash N)
      (List.zipWith Instr.mk (certDataSteps F N) [.computed, .computed])
      (constantInput N) := by
  refine (emits_enforceHash P _ fun x hx => ?_).cons (emits_enforceHash P _ fun x hx => ?_)
  · simp only [List.mem_cons, List.not_mem_nil, or_false, Layout.scId, Layout.epochNumber,
      Layout.mrBt, root, fees, count, sysdataHash] at hx ⊢
    omega
  · simp only [List.mem_cons, List.not_mem_nil, or_false, sysdataHash] at hx ⊢
    omega

theorem emits_exposeInputs (N : ℕ) :
    Emits (gadgets P) (exposeInputs (pksThresholdHash N) (Layout.certDataHash N) : CS F Unit)
      (constantInput N) ()
      (List.zipWith Instr.mk (inputSteps F N) (inputSources N)) (Layout.b N 0) := by
  have h1 : pksThresholdHash N < constantInput N := by
    simp only [pksThresholdHash, constantInput]
    omega
  have h2 : Layout.certDataHash N < constantInput N := by
    simp only [Layout.certDataHash, constantInput]
    omega
  exact (emits_frAllocInput P _ h1).cons
    ((emits_enforceEqual P _ (Nat.lt_succ_of_lt h1) (Nat.lt_succ_self _)).cons
      ((emits_frAllocInput P _ (Nat.lt_succ_of_lt h2)).cons
        (emits_enforceEqual P _ (Nat.lt_succ_of_lt (Nat.lt_succ_of_lt h2))
          (Nat.lt_succ_self _))))

theorem emits_checkThreshold {N d : ℕ} (hd : self.b.length = d) :
    Emits (gadgets P) (self.checkThreshold (count N N) (Layout.threshold N))
      (Layout.b N 0) ()
      (List.zipWith Instr.mk (thresholdSteps F N d) (thresholdSources self))
      (difference N d + 1) := by
  rw [thresholdSteps, thresholdSources, List.zipWith_append (by simp [hd])]
  refine (Emits.forEnum_zip (Layout.b N) hd
    fun i b _ => emits_booleanAlloc P ("alloc b_" ++ toString i) b (Layout.b N i)).bind ?_
  refine (emits_fromBits P _ fun x hx => ?_).cons
    ((emits_sub P _ ?_ ?_).cons (emits_enforceEqual P _ ?_ ?_))
  · obtain ⟨i, hi, rfl⟩ := List.mem_map.mp hx
    have := List.mem_range.mp hi
    simp only [Layout.b]
    omega
  · simp only [count, Layout.b]
    omega
  · simp only [Layout.threshold, Layout.b]
    omega
  · simp only [Layout.b]
    omega
  · simp only [Layout.b]
    omega

/-! ## The circuit -/

/-- The three assertions `generate_constraints` begins with. -/
structure NaiveTresholdSignature.WellShaped (inst : NaiveTresholdSignature F) : Prop where
  pks : inst.pks.length = inst.maxPks.toNat
  sigs : inst.sigs.length = inst.maxPks.toNat
  b : inst.b.length = logMaxPks inst.maxPks + 1

theorem emits_assertEq {a b : ℕ} (h : a = b) (n : ℕ) :
    Emits (gadgets P) (assertEq a b : CS F Unit) n () [] n := by
  rw [assertEq, if_pos h]
  exact Emits.pure () n

/-- An instance that passes the assertions emits the closed form. -/
theorem emits_generateConstraints {self : NaiveTresholdSignature F} (h : self.WellShaped) :
    Emits (gadgets P) self.generateConstraints 0 () (circuitInstrs self)
      (difference self.maxPks.toNat (logMaxPks self.maxPks + 1) + 1) := by
  rw [circuitInstrs, circuitSteps, circuitSources,
    List.zipWith_append (by simp [pksSteps, pksSources, h.pks]),
    List.zipWith_append (by simp [messageSteps, messageSources]),
    List.zipWith_append (by simp [signatureSteps, signatureSources, h.sigs]),
    List.zipWith_append (by simp [certDataSteps]),
    List.zipWith_append (by simp [inputSteps, inputSources])]
  exact (emits_assertEq P h.pks.symm 0).skip ((emits_assertEq P h.sigs.symm 0).skip
    ((emits_assertEq P h.b.symm 0).skip ((emits_allocPks P self h.pks).bind
      ((emits_allocMessage P self _).bind ((emits_countSignatures P self h.sigs).bind
        ((emits_certDataHash P _).bind ((emits_exposeInputs P _).bind
          (emits_checkThreshold P self h.b))))))))

theorem map_step_circuitInstrs {self : NaiveTresholdSignature F} (h : self.WellShaped) :
    (circuitInstrs self).map Instr.step
      = circuitSteps F self.maxPks.toNat (logMaxPks self.maxPks + 1) := by
  refine map_step_zipWith _ _ ?_
  simp [circuitSteps, circuitSources, pksSteps, pksSources, messageSteps, messageSources,
    signatureSteps, signatureSources, certDataSteps, inputSteps, inputSources,
    thresholdSteps, thresholdSources, h.pks, h.sigs, h.b]

theorem setup_generateConstraints {self : NaiveTresholdSignature F} (h : self.WellShaped) :
    setup self.generateConstraints
      = .ok (circuitSteps F self.maxPks.toNat (logMaxPks self.maxPks + 1)) := by
  let P : Primitives F := ⟨fun _ => 0, fun _ _ _ => false⟩
  rw [(emits_generateConstraints P h).setup_eq, map_step_circuitInstrs h]

/-- A synthesis that returns passed the assertions. -/
theorem setup_generateConstraints_ok {self : NaiveTresholdSignature F}
    {S : List (Step (GadgetCall F))} (h : setup self.generateConstraints = .ok S) :
    self.WellShaped ∧
      S = circuitSteps F self.maxPks.toNat (logMaxPks self.maxPks + 1) := by
  have hshape : self.WellShaped := by
    by_contra hbad
    have hfail : ∃ e, setup self.generateConstraints = .error e := by
      unfold generateConstraints assertEq
      by_cases h1 : self.maxPks.toNat = self.pks.length
      · by_cases h2 : self.maxPks.toNat = self.sigs.length
        · have h3 : logMaxPks self.maxPks + 1 ≠ self.b.length :=
            fun h3 => hbad ⟨h1.symm, h2.symm, h3.symm⟩
          rw [if_pos h1, if_pos h2, if_neg h3, abort_bind]
          exact ⟨_, rfl⟩
        · rw [if_neg h2, abort_bind, if_pos h1]
          exact ⟨_, rfl⟩
      · rw [if_neg h1, abort_bind]
        exact ⟨_, rfl⟩
    obtain ⟨e, he⟩ := hfail
    rw [he] at h
    cases h
  rw [setup_generateConstraints hshape] at h
  cases h
  exact ⟨hshape, rfl⟩

/-! ## Namespaces -/

/-- The names before the signature loop. -/
def dataNames : List String :=
  ["hash public keys", "alloc threshold", "H(H(pks), threshold)", "alloc sc id",
   "alloc epoch number", "alloc mr_bt", "alloc end_cumulative_sc_tx_comm_tree_root",
   "alloc btr_fee", "alloc ft_min_amount", "pack(btr_fee, ft_min_amount)",
   "H(sc_id, epoch_number, bt_root, end_cumulative_sc_tx_comm_tree_root, btr_fee, ft_min_amount)"]

/-- The names between the counting loop and the bit loop. -/
def inputNames : List String :=
  ["H(sc_id, epoch_number, bt_root, valid_sigs, end_cumulative_sc_tx_comm_tree_root, btr_fee, ft_min_amount)",
   "H(proof_data (not present), cert_data_hash)", "alloc constant as input",
   "pks_threshold_hash: expected == actual", "alloc input cert_data_hash_g",
   "cert_data_hash: expected == actual"]

/-- The names after the bit loop. -/
def thresholdNames : List String :=
  ["pack the b's into a field element", "valid_signatures - threshold", "threshold check"]

/-- The names of one loop. -/
def loopNames (pre : String) (n : ℕ) : List String :=
  (List.range n).map fun i => pre ++ toString i

/-- The part of the circuit a name belongs to, by its first letters. -/
def nameTag (s : String) : ℕ :=
  if "alloc_pk_".toList.isPrefixOf s.toList then 0
  else if "alloc_sig_".toList.isPrefixOf s.toList then 2
  else if "check_sig_verdict_".toList.isPrefixOf s.toList then 3
  else if "add_verdict_".toList.isPrefixOf s.toList then 5
  else if "alloc b_".toList.isPrefixOf s.toList then 7
  else if s ∈ dataNames then 1
  else if s = "alloc valid signatures count" then 4
  else if s ∈ inputNames then 6
  else 8

theorem map_ns_circuitSteps (N d : ℕ) :
    (circuitSteps F N d).map Step.ns
      = [loopNames "alloc_pk_" N, dataNames, loopNames "alloc_sig_" N,
          loopNames "check_sig_verdict_" N, ["alloc valid signatures count"],
          loopNames "add_verdict_" N, inputNames, loopNames "alloc b_" d,
          thresholdNames].flatten := by
  simp [circuitSteps, pksSteps, messageSteps, signatureSteps, certDataSteps, inputSteps,
    thresholdSteps, loopNames, dataNames, inputNames, thresholdNames, Function.comp_def]

/-- No two steps of the circuit share a namespace. -/
theorem nodup_ns_circuitSteps (N d : ℕ) : ((circuitSteps F N d).map Step.ns).Nodup := by
  have hdata : dataNames.Nodup ∧ ∀ a ∈ dataNames, nameTag a = 1 := by decide +kernel
  have hcount : ["alloc valid signatures count"].Nodup ∧
      nameTag "alloc valid signatures count" = 4 := by decide +kernel
  have hinput : inputNames.Nodup ∧ ∀ a ∈ inputNames, nameTag a = 6 := by decide +kernel
  have hthreshold : thresholdNames.Nodup ∧ ∀ a ∈ thresholdNames, nameTag a = 8 := by
    decide +kernel
  rw [map_ns_circuitSteps]
  refine nodup_flatten_of_tag nameTag _ 0 ?_
  simp only [List.zipIdx_cons, List.zipIdx_nil, List.forall_mem_cons, List.not_mem_nil,
    false_implies, implies_true, and_true]
  refine ⟨⟨nodup_numbered _ _, ?_⟩, hdata, ⟨nodup_numbered _ _, ?_⟩, ⟨nodup_numbered _ _, ?_⟩,
    hcount, ⟨nodup_numbered _ _, ?_⟩, hinput, ⟨nodup_numbered _ _, ?_⟩, hthreshold⟩
  all_goals
    intro a ha
    obtain ⟨i, _, rfl⟩ := List.mem_map.mp ha
    simp [nameTag, String.toList_append, List.isPrefixOf]

end ZendooSc
