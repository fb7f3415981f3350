/-
ZendooSc.Lib.WiresTheorems — the rules for composing synthesizers, and what a
proving run records.

`Emits G m n a is n'` says everything about a synthesizer `m` that starts at
wire `n`: it returns `a`, appends the instructions `is` and stops at wire
`n'`, and each instruction is PLACED: its new wires are the next free ones,
it reads only older wires, and its closure returns as many values as it has
new wires. There is one rule per construct (`pure`, bind, `emit`, and the two
enumerating loops), so a program's closed form is found by walking it once.

`assignAll_realised` is the reason for placing. If every closure that does not
read the constraint system succeeds, the proving run assigns every wire, and
each instruction is REALISED by the final assignment: a gadget's outputs are
the gadget's value of its inputs, wherever they ended up.

The last section is about namespaces. Names are built from a literal and a
loop counter; `nodup_numbered` keeps one loop's names apart and
`nodup_flatten_of_tag` keeps different segments apart.
-/
import ZendooSc.Lib.Wires
import Mathlib.Data.List.Nodup
import Std.Data.String.ToNat

namespace ZendooSc.Lib

/-! ## Placement -/

section Placement

variable {F Op ε : Type} (G : GadgetSem F Op)

/-- The closure returns one value per new wire, and reads only wires below `n`. -/
def Source.Fits (n : Wire) (s : Step Op) : Source F ε → Prop
  | .given v => ∀ vs, v = .ok vs → vs.length = s.outs.length
  | .readBack x => x < n ∧ s.outs.length = 1
  | .computed => ∀ xs : List F, xs.length = s.ins.length →
      ∃ ys, G.eval s.op xs = some ys ∧ ys.length = s.outs.length

/-- The new wires are the next free ones and everything read is older. -/
structure Instr.Placed (n : Wire) (i : Instr F Op ε) : Prop where
  outs : i.step.outs = List.range' n i.step.outs.length
  ins : ∀ x ∈ i.step.ins, x < n
  fits : i.source.Fits G n i.step

/-- Instructions placed one after the other from wire `n` up to wire `m`. -/
def Laid : Wire → List (Instr F Op ε) → Wire → Prop
  | n, [], m => n = m
  | n, i :: is, m => i.Placed G n ∧ Laid (n + i.step.outs.length) is m

theorem Laid.append {is js : List (Instr F Op ε)} {n m k : Wire}
    (hi : Laid G n is m) (hj : Laid G m js k) : Laid G n (is ++ js) k := by
  induction is generalizing n with
  | nil => cases hi; exact hj
  | cons i is ih => exact ⟨hi.1, ih hi.2⟩

end Placement

/-! ## Composing synthesizers -/

section Rules

variable {F Op ε π α β : Type} (G : GadgetSem F Op)

/-- From wire `n`, `m` returns `a`, appends the placed instructions `is` and
stops at wire `n'`. -/
structure Emits (m : Synth F Op ε π α) (n : ℕ) (a : α)
    (is : List (Instr F Op ε)) (n' : ℕ) : Prop where
  run : ∀ pre, m ⟨n, pre⟩ = .ok (a, ⟨n', pre ++ is⟩)
  laid : Laid G n is n'

variable {G}

theorem Emits.pure (a : α) (n : ℕ) :
    Emits G (Pure.pure a : Synth F Op ε π α) n a [] n where
  run pre := by rw [List.append_nil]; rfl
  laid := rfl

theorem Emits.bind {m : Synth F Op ε π α} {f : α → Synth F Op ε π β}
    {n n1 n2 : ℕ} {a : α} {b : β} {is js : List (Instr F Op ε)}
    (hm : Emits G m n a is n1) (hf : Emits G (f a) n1 b js n2) :
    Emits G (m >>= f) n b (is ++ js) n2 where
  run pre := by
    show (m ⟨n, pre⟩ >>= fun x => f x.1 x.2) = _
    rw [hm.run pre, ← List.append_assoc, ← hf.run (pre ++ is)]
    rfl
  laid := hm.laid.append G hf.laid

/-- `bind` after a synthesizer that emits one instruction. -/
theorem Emits.cons {m : Synth F Op ε π α} {f : α → Synth F Op ε π β}
    {n n1 n2 : ℕ} {a : α} {b : β} {i : Instr F Op ε} {js : List (Instr F Op ε)}
    (hm : Emits G m n a [i] n1) (hf : Emits G (f a) n1 b js n2) :
    Emits G (m >>= f) n b (i :: js) n2 :=
  hm.bind hf

/-- `bind` after a synthesizer that emits nothing. -/
theorem Emits.skip {m : Synth F Op ε π α} {f : α → Synth F Op ε π β}
    {n n2 : ℕ} {a : α} {b : β} {js : List (Instr F Op ε)}
    (hm : Emits G m n a [] n) (hf : Emits G (f a) n b js n2) :
    Emits G (m >>= f) n b js n2 :=
  hm.bind hf

/-- Nothing runs after an abort. -/
theorem abort_bind (e : π) (f : α → Synth F Op ε π β) : (abort e >>= f) = abort e := rfl

/-- A synthesizer followed by a pure function of its result. -/
theorem Emits.map {m : Synth F Op ε π α} {n n1 : ℕ} {a : α}
    {is : List (Instr F Op ε)} (hm : Emits G m n a is n1) (g : α → β) :
    Emits G (m >>= fun x => Pure.pure (g x)) n (g a) is n1 := by
  have h : Emits G (m >>= fun x => Pure.pure (g x)) n (g a) (is ++ []) n1 :=
    hm.bind (Emits.pure (g a) n1)
  rwa [List.append_nil] at h

theorem Emits.emit {ns : String} {op : Op} {ins : List ℕ} {width : ℕ}
    {source : Source F ε} {n : ℕ} (hins : ∀ x ∈ ins, x < n)
    (hfits : source.Fits G n ⟨ns, op, ins, List.range' n width⟩) :
    Emits G (Lib.emit ns op ins width source : Synth F Op ε π Wire) n n
      [⟨⟨ns, op, ins, List.range' n width⟩, source⟩] (n + width) where
  run _ := rfl
  laid := by
    refine ⟨⟨?_, hins, hfits⟩, ?_⟩
    · simp
    · simp [Laid]

/-- The collecting loop from any first index. `pos i` is the wire at which
iteration `i` starts. -/
theorem Emits.mapM_zipIdx {body : ℕ → α → Synth F Op ε π β} {pos : ℕ → ℕ}
    {res : ℕ → α → β} {ins : ℕ → α → Instr F Op ε} :
    ∀ (l : List α) (s : ℕ),
      (∀ i a, l[i]? = some a →
        Emits G (body (s + i) a) (pos (s + i)) (res (s + i) a) [ins (s + i) a]
          (pos (s + i + 1))) →
      Emits G ((l.zipIdx s).mapM fun x => body x.2 x.1) (pos s)
        ((l.zipIdx s).map fun x => res x.2 x.1)
        ((l.zipIdx s).map fun x => ins x.2 x.1) (pos (s + l.length))
  | [], s, _ => by
      have h : Emits G (Pure.pure [] : Synth F Op ε π (List β)) (pos s) [] [] (pos s) :=
        Emits.pure [] (pos s)
      simpa using h
  | a :: l, s, h => by
      have hhead := h 0 a rfl
      have htail := Emits.mapM_zipIdx l (s + 1) (fun i b hb => by
        have hi := h (i + 1) b (by simpa using hb)
        rwa [show s + (i + 1) = s + 1 + i by omega] at hi)
      have hend : s + (a :: l).length = s + 1 + l.length := by
        simp only [List.length_cons]; omega
      rw [hend, List.zipIdx_cons, List.mapM_cons]
      exact hhead.bind (htail.map _)

/-- The collecting loop. -/
theorem Emits.forEnum {body : ℕ → α → Synth F Op ε π β} (pos : ℕ → ℕ)
    (res : ℕ → α → β) (ins : ℕ → α → Instr F Op ε) {l : List α}
    (h : ∀ i a, l[i]? = some a →
      Emits G (body i a) (pos i) (res i a) [ins i a] (pos (i + 1))) :
    Emits G (Lib.forEnum l body) (pos 0) (l.zipIdx.map fun x => res x.2 x.1)
      (l.zipIdx.map fun x => ins x.2 x.1) (pos l.length) := by
  have hrun : Emits G ((l.zipIdx 0).mapM fun x => body x.2 x.1) (pos 0)
      ((l.zipIdx 0).map fun x => res x.2 x.1) ((l.zipIdx 0).map fun x => ins x.2 x.1)
      (pos (0 + l.length)) :=
    Emits.mapM_zipIdx l 0 (fun i a ha => by simpa using h i a ha)
  rwa [Nat.zero_add] at hrun

/-- The accumulating loop from any first index. `acc i` is the accumulator
before iteration `i`. -/
theorem Emits.foldlM_zipIdx {body : β → ℕ → α → Synth F Op ε π β} {pos : ℕ → ℕ}
    {acc : ℕ → β} {ins : ℕ → α → Instr F Op ε} :
    ∀ (l : List α) (s : ℕ),
      (∀ i a, l[i]? = some a →
        Emits G (body (acc (s + i)) (s + i) a) (pos (s + i)) (acc (s + i + 1))
          [ins (s + i) a] (pos (s + i + 1))) →
      Emits G ((l.zipIdx s).foldlM (fun b x => body b x.2 x.1) (acc s)) (pos s)
        (acc (s + l.length)) ((l.zipIdx s).map fun x => ins x.2 x.1)
        (pos (s + l.length))
  | [], s, _ => by
      have h : Emits G (Pure.pure (acc s) : Synth F Op ε π β) (pos s) (acc s) [] (pos s) :=
        Emits.pure (acc s) (pos s)
      simpa using h
  | a :: l, s, h => by
      have hhead := h 0 a rfl
      have htail := Emits.foldlM_zipIdx l (s + 1) (fun i b hb => by
        have hi := h (i + 1) b (by simpa using hb)
        rwa [show s + (i + 1) = s + 1 + i by omega] at hi)
      have hend : s + (a :: l).length = s + 1 + l.length := by
        simp only [List.length_cons]; omega
      rw [hend, List.zipIdx_cons, List.foldlM_cons]
      exact hhead.bind htail

/-- The accumulating loop. -/
theorem Emits.foldEnum {body : β → ℕ → α → Synth F Op ε π β} (pos : ℕ → ℕ)
    (acc : ℕ → β) (ins : ℕ → α → Instr F Op ε) {l : List α}
    (h : ∀ i a, l[i]? = some a →
      Emits G (body (acc i) i a) (pos i) (acc (i + 1)) [ins i a] (pos (i + 1))) :
    Emits G (Lib.foldEnum l (acc 0) body) (pos 0) (acc l.length)
      (l.zipIdx.map fun x => ins x.2 x.1) (pos l.length) := by
  have hrun : Emits G ((l.zipIdx 0).foldlM (fun b x => body b x.2 x.1) (acc 0)) (pos 0)
      (acc (0 + l.length)) ((l.zipIdx 0).map fun x => ins x.2 x.1) (pos (0 + l.length)) :=
    Emits.foldlM_zipIdx l 0 (fun i a ha => by simpa using h i a ha)
  rwa [Nat.zero_add] at hrun

/-- Mapping the counters of an enumerated list. -/
theorem map_zipIdx_snd {N : ℕ} (f : ℕ → β) (l : List α) (hN : l.length = N) :
    (l.zipIdx.map fun x => f x.2) = (List.range N).map f := by
  refine List.ext_getElem (by simp [hN]) fun i h1 h2 => ?_
  simp

/-- The entry of a list indexed by the counters. -/
theorem getElem?_range_map {N i : ℕ} {f : ℕ → α} {a : α}
    (h : ((List.range N).map f)[i]? = some a) : i < N ∧ f i = a := by
  obtain ⟨hi, ha⟩ := List.getElem?_eq_some_iff.mp h
  simp only [List.length_map, List.length_range] at hi
  simp only [List.getElem_map, List.getElem_range] at ha
  exact ⟨hi, ha⟩

/-- A loop's steps paired with its sources, element by element. -/
theorem zipWith_range_map {N : ℕ} (f : ℕ → Step Op) (g : α → Source F ε) (l : List α)
    (hN : l.length = N) :
    List.zipWith Instr.mk ((List.range N).map f) (l.map g)
      = l.zipIdx.map fun x => ⟨f x.2, g x.1⟩ := by
  refine List.ext_getElem (by simp [hN]) fun i h1 h2 => ?_
  simp

/-- The same when every source is the same. -/
theorem zipWith_range_const {N : ℕ} (f : ℕ → Step Op) (src : Source F ε) (l : List α)
    (hN : l.length = N) :
    List.zipWith Instr.mk ((List.range N).map f) (l.map fun _ => src)
      = (List.range N).map fun i => ⟨f i, src⟩ := by
  rw [zipWith_range_map f (fun _ => src) l hN]
  exact map_zipIdx_snd (fun i => Instr.mk (f i) src) l hN

/-- A property of all instructions of a loop. -/
theorem forall_mem_zipWith_range {N : ℕ} {f : ℕ → Step Op} {g : α → Source F ε} {l : List α}
    (hN : l.length = N) (Q : Instr F Op ε → Prop) :
    (∀ i ∈ List.zipWith Instr.mk ((List.range N).map f) (l.map g), Q i) ↔
      ∀ i a, l[i]? = some a → Q ⟨f i, g a⟩ := by
  rw [zipWith_range_map f g l hN]
  constructor
  · intro h i a ha
    refine h _ (List.mem_map.mpr ⟨(a, i), ?_, rfl⟩)
    exact List.mk_mem_zipIdx_iff_getElem?.mpr ha
  · intro h x hx
    obtain ⟨⟨a, i⟩, hmem, rfl⟩ := List.mem_map.mp hx
    exact h i a (List.mk_mem_zipIdx_iff_getElem?.mp hmem)

/-- The collecting loop when the step depends on the counter only and the
source on the element only. -/
theorem Emits.forEnum_zip {body : ℕ → α → Synth F Op ε π β} (pos : ℕ → ℕ) {res : ℕ → β}
    {f : ℕ → Step Op} {g : α → Source F ε} {l : List α} {N : ℕ} (hN : l.length = N)
    (h : ∀ i a, l[i]? = some a →
      Emits G (body i a) (pos i) (res i) [⟨f i, g a⟩] (pos (i + 1))) :
    Emits G (Lib.forEnum l body) (pos 0) ((List.range N).map res)
      (List.zipWith Instr.mk ((List.range N).map f) (l.map g)) (pos N) := by
  have hrun := Emits.forEnum pos (fun i _ => res i) (fun i a => ⟨f i, g a⟩) h
  rwa [map_zipIdx_snd res l hN, hN, ← zipWith_range_map f g l hN] at hrun

/-- The collecting loop over a list indexed by the counters. -/
theorem Emits.forRange {body : ℕ → α → Synth F Op ε π β} (pos : ℕ → ℕ) {f : ℕ → α}
    {res : ℕ → β} {ins : ℕ → Instr F Op ε} {N : ℕ}
    (h : ∀ i, i < N → Emits G (body i (f i)) (pos i) (res i) [ins i] (pos (i + 1))) :
    Emits G (Lib.forEnum ((List.range N).map f) body) (pos 0) ((List.range N).map res)
      ((List.range N).map ins) (pos N) := by
  have hlen : ((List.range N).map f).length = N := by simp
  have hrun : Emits G (Lib.forEnum ((List.range N).map f) body) (pos 0)
      (((List.range N).map f).zipIdx.map fun x => res x.2)
      (((List.range N).map f).zipIdx.map fun x => ins x.2)
      (pos ((List.range N).map f).length) := by
    refine Emits.forEnum pos (fun i _ => res i) (fun i _ => ins i) fun i a ha => ?_
    obtain ⟨hi, rfl⟩ := getElem?_range_map ha
    exact h i hi
  rwa [map_zipIdx_snd res _ hlen, map_zipIdx_snd ins _ hlen, hlen] at hrun

/-- The accumulating loop over a list indexed by the counters. -/
theorem Emits.foldRange {body : β → ℕ → α → Synth F Op ε π β} (pos : ℕ → ℕ) (acc : ℕ → β)
    {f : ℕ → α} {ins : ℕ → Instr F Op ε} {N : ℕ}
    (h : ∀ i, i < N →
      Emits G (body (acc i) i (f i)) (pos i) (acc (i + 1)) [ins i] (pos (i + 1))) :
    Emits G (Lib.foldEnum ((List.range N).map f) (acc 0) body) (pos 0) (acc N)
      ((List.range N).map ins) (pos N) := by
  have hlen : ((List.range N).map f).length = N := by simp
  have hrun : Emits G (Lib.foldEnum ((List.range N).map f) (acc 0) body) (pos 0)
      (acc ((List.range N).map f).length)
      (((List.range N).map f).zipIdx.map fun x => ins x.2)
      (pos ((List.range N).map f).length) := by
    refine Emits.foldEnum pos acc (fun i _ => ins i) fun i a ha => ?_
    obtain ⟨hi, rfl⟩ := getElem?_range_map ha
    exact h i hi
  rwa [map_zipIdx_snd ins _ hlen, hlen] at hrun

/-- The steps of instructions made by pairing. -/
theorem map_step_zipWith (ss : List (Step Op)) (rs : List (Source F ε))
    (h : ss.length = rs.length) : (List.zipWith Instr.mk ss rs).map Instr.step = ss := by
  refine List.ext_getElem (by simp [h]) fun i h1 h2 => ?_
  simp

theorem Emits.setup_eq {m : Synth F Op ε π α} {a : α} {is : List (Instr F Op ε)}
    {n : ℕ} (h : Emits G m 0 a is n) : setup m = .ok (is.map Instr.step) := by
  simp [setup, h.run []]

theorem Emits.prove_eq {m : Synth F Op ε π α} {a : α} {is : List (Instr F Op ε)}
    {n : ℕ} (h : Emits G m 0 a is n) (missing : ε) :
    prove G missing m = .ok (is.map Instr.step, assignAll G missing [] is) := by
  simp [prove, h.run []]

end Rules

/-! ## What a proving run records -/

section Realised

variable {F Op ε : Type} {G : GadgetSem F Op}

/-- The assignment agrees with a list of recorded values. -/
def Reads (w : Wire → F) (vals : List F) : Prop :=
  ∀ x v, vals[x]? = some v → w x = v

/-- Some assignment carries any list of values. -/
theorem reads_getD (vals : List F) (rest : F) : Reads (fun x => vals.getD x rest) vals := by
  intro x v hx
  simp [List.getD_eq_getElem?_getD, hx]

theorem Reads.of_append {w : Wire → F} {vals new : List F} (h : Reads w (vals ++ new)) :
    Reads w vals := by
  intro x v hx
  have hlt : x < vals.length := (List.getElem?_eq_some_iff.mp hx).1
  exact h x v (by rw [List.getElem?_append_left hlt, hx])

/-- Looking up old wires in the record is applying the assignment to them. -/
theorem Reads.mapM_getElem? {w : Wire → F} {vals : List F} (h : Reads w vals)
    (xs : List Wire) (hlt : ∀ x ∈ xs, x < vals.length) :
    (xs.mapM fun x => vals[x]?) = some (xs.map w) := by
  induction xs with
  | nil => rfl
  | cons x xs ih =>
      have hx : x < vals.length := hlt x List.mem_cons_self
      have hval : vals[x]? = some (w x) := by
        rw [List.getElem?_eq_getElem hx, ← h x _ (List.getElem?_eq_getElem hx)]
      rw [List.mapM_cons, hval, ih (fun y hy => hlt y (List.mem_cons_of_mem x hy))]
      rfl

/-- The newest wires carry the newest values. -/
theorem Reads.map_range' {w : Wire → F} {vals new : List F} (h : Reads w (vals ++ new)) :
    (List.range' vals.length new.length).map w = new := by
  refine List.ext_getElem (by simp) fun i h1 h2 => ?_
  rw [List.getElem_map, List.getElem_range', Nat.one_mul]
  refine h _ _ ?_
  rw [List.getElem?_append_right (by omega), Nat.add_sub_cancel_left,
    List.getElem?_eq_getElem h2]

/-- What an instruction's closure says of the final assignment. -/
def Instr.Realised (G : GadgetSem F Op) (w : Wire → F) (i : Instr F Op ε) : Prop :=
  match i.source with
  | .given v => v = .ok (i.step.outs.map w)
  | .readBack x => i.step.outs.map w = [w x]
  | .computed => G.eval i.step.op (i.step.ins.map w) = some (i.step.outs.map w)

theorem Instr.realised_computed {w : Wire → F} {s : Step Op} :
    (⟨s, .computed⟩ : Instr F Op ε).Realised G w ↔
      G.eval s.op (s.ins.map w) = some (s.outs.map w) := Iff.rfl

theorem Instr.realised_readBack {w : Wire → F} {s : Step Op} {x : Wire} :
    (⟨s, .readBack x⟩ : Instr F Op ε).Realised G w ↔ s.outs.map w = [w x] := Iff.rfl

/-- One placed instruction whose own closure succeeds: it is assigned, with
one value per new wire, and realised by every assignment that agrees. -/
theorem Instr.assign_ok (missing : ε) {vals : List F} {i : Instr F Op ε}
    (hp : i.Placed G vals.length)
    (hok : ∀ v, i.source = .given v → ∃ vs, v = .ok vs) :
    ∃ new, i.assign G missing vals = .ok new ∧ new.length = i.step.outs.length ∧
      ∀ w, Reads w (vals ++ new) → i.Realised G w := by
  obtain ⟨houts, hins, hfits⟩ := hp
  unfold Instr.assign Instr.Realised
  cases hsrc : i.source with
  | given v =>
      obtain ⟨vs, rfl⟩ := hok v hsrc
      rw [hsrc] at hfits
      have hlen : vs.length = i.step.outs.length := hfits vs rfl
      refine ⟨vs, rfl, hlen, fun w hw => ?_⟩
      rw [houts, ← hlen, hw.map_range']
  | readBack x =>
      rw [hsrc] at hfits
      obtain ⟨hx, hlen⟩ := hfits
      have hget : vals[x]? = some vals[x] := List.getElem?_eq_getElem hx
      refine ⟨[vals[x]], by simp [hget], by simp [hlen], fun w hw => ?_⟩
      have hmap := hw.map_range'
      simp only [List.length_singleton] at hmap
      show i.step.outs.map w = [w x]
      rw [houts, hlen, hmap, hw.of_append x _ hget]
  | computed =>
      rw [hsrc] at hfits
      -- the values found do not depend on which agreeing assignment is asked
      obtain ⟨xs, hxs, hxlen⟩ : ∃ xs : List F,
          (i.step.ins.mapM fun x => vals[x]?) = some xs ∧ xs.length = i.step.ins.length := by
        by_cases hnil : i.step.ins = []
        · exact ⟨[], by simp [hnil], by simp [hnil]⟩
        · obtain ⟨x0, hx0⟩ := List.exists_mem_of_ne_nil _ hnil
          have h0 : 0 < vals.length := Nat.lt_of_le_of_lt (Nat.zero_le _) (hins x0 hx0)
          have hself : Reads (fun x => vals.getD x vals[0]) vals := by
            intro x v hx
            simp [hx]
          exact ⟨_, hself.mapM_getElem? _ hins, by simp⟩
      obtain ⟨ys, hys, hylen⟩ := hfits xs hxlen
      refine ⟨ys, by simp [hxs, hys], hylen, fun w hw => ?_⟩
      have hread := hw.of_append.mapM_getElem? _ hins
      have hxw : xs = i.step.ins.map w := by
        rw [hxs] at hread
        exact Option.some.inj hread
      show G.eval i.step.op (i.step.ins.map w) = some (i.step.outs.map w)
      rw [← hxw, hys, houts, ← hylen, hw.map_range']

/-- A laid-out program whose given closures all succeed is assigned in full,
and every instruction is realised by the recorded values. -/
theorem assignAll_realised (missing : ε) :
    ∀ (is : List (Instr F Op ε)) (vals : List F) (m : Wire),
      Laid G vals.length is m →
      (∀ i ∈ is, ∀ v, i.source = .given v → ∃ vs, v = .ok vs) →
      ∃ new, assignAll G missing vals is = .ok (vals ++ new) ∧
        ∀ w, Reads w (vals ++ new) → ∀ i ∈ is, i.Realised G w
  | [], vals, _, _, _ => ⟨[], by simp [assignAll], by simp⟩
  | i :: is, vals, m, hlaid, hok => by
      obtain ⟨hp, hrest⟩ := hlaid
      obtain ⟨new, hassign, hlen, hreal⟩ :=
        Instr.assign_ok missing hp (hok i List.mem_cons_self)
      have hrest' : Laid G (vals ++ new).length is m := by
        rwa [List.length_append, hlen]
      obtain ⟨more, hall, hmore⟩ := assignAll_realised missing is (vals ++ new) m hrest'
        (fun j hj => hok j (List.mem_cons_of_mem i hj))
      rw [List.append_assoc] at hall hmore
      refine ⟨new ++ more, by simp [assignAll, hassign, hall], fun w hw j hj => ?_⟩
      rcases List.mem_cons.mp hj with rfl | hj
      · exact hreal w (by rw [← List.append_assoc] at hw; exact hw.of_append)
      · exact hmore w hw j hj

end Realised

/-! ## Namespaces -/

/-- The names of one loop are distinct: the counter can be read back. -/
theorem numbered_injective (pre : String) :
    Function.Injective fun i : ℕ => pre ++ toString i := by
  intro i j h
  have hl : (pre ++ toString i).toList = (pre ++ toString j).toList := by
    rw [show pre ++ toString i = pre ++ toString j from h]
  rw [String.toList_append, String.toList_append] at hl
  have hs : toString i = toString j := String.toList_inj.mp (List.append_cancel_left hl)
  exact Nat.repr_inj.mp hs

theorem nodup_numbered (pre : String) (n : ℕ) :
    ((List.range n).map fun i => pre ++ toString i).Nodup :=
  List.nodup_range.map (numbered_injective pre)

/-- Segments that are each free of duplicates, and that a tag tells apart, are
free of duplicates together. -/
theorem nodup_flatten_of_tag {α : Type} (tag : α → ℕ) :
    ∀ (segs : List (List α)) (s : ℕ),
      (∀ x ∈ segs.zipIdx s, x.1.Nodup ∧ ∀ a ∈ x.1, tag a = x.2) → segs.flatten.Nodup
  | [], _, _ => by simp
  | seg :: segs, s, h => by
      have hhead := h (seg, s) (by simp [List.zipIdx_cons])
      have htail : ∀ x ∈ segs.zipIdx (s + 1), x.1.Nodup ∧ ∀ a ∈ x.1, tag a = x.2 :=
        fun x hx => h x (by rw [List.zipIdx_cons]; exact List.mem_cons_of_mem _ hx)
      rw [List.flatten_cons, List.nodup_append]
      refine ⟨hhead.1, nodup_flatten_of_tag tag segs (s + 1) htail, ?_⟩
      intro a ha b hb hab
      obtain ⟨seg', hseg', hb'⟩ := List.mem_flatten.mp hb
      obtain ⟨k, hk⟩ := List.mem_iff_getElem?.mp hseg'
      have hmem : (seg', s + 1 + k) ∈ segs.zipIdx (s + 1) := by
        rw [List.mk_mem_zipIdx_iff_le_and_getElem?_sub]
        exact ⟨by omega, by simpa using hk⟩
      have hta : tag a = s := hhead.2 a ha
      have htb : tag b = s + 1 + k := (htail _ hmem).2 b hb'
      rw [hab, htb] at hta
      omega

end ZendooSc.Lib
