/-
ZendooSc.Lib.Wires — synthesizing a constraint system, for any gadget set.

A synthesizer walks a program once and asks a constraint system for one thing
after another: allocate a variable, call a gadget on variables made before.
Each request is a STEP. It carries the namespace it runs under, the gadget
called, the wires it reads and the wires it makes; wires are numbered in the
order they are made.

Two things are done with the steps:

* SETUP keeps them and never runs a closure that computes a value;
* PROVING runs every closure in order and records the value of each wire.

`Synth` is the monad of such programs, `emit` its only effect, `setup` and
`prove` the two runs. `Sat` says what the steps demand of an assignment of all
wires, honest or not. The gadget set is a parameter: an operation type `Op`
with `GadgetSem`, the values a prover computes (`eval`) and the relation the
constraints enforce (`holds`).

`ZendooSc.Lib.WiresTheorems` has the rules for composing synthesizers.
-/
import ZendooSc.Lib.Bits

namespace ZendooSc.Lib

/-! ## Steps and their meaning -/

/-- The position of a value in the order of creation. -/
abbrev Wire := ℕ

/-- One request to the constraint system. -/
structure Step (Op : Type) where
  ns : String
  op : Op
  ins : List Wire
  outs : List Wire
  deriving DecidableEq, Repr

/-- What a gadget set computes and what it enforces. `eval` is what the prover
assigns to the new wires of a gadget call, `holds` is the relation between the
values read and the values made. -/
structure GadgetSem (F Op : Type) where
  eval : Op → List F → Option (List F)
  holds : Op → List F → List F → Prop

section Meaning

variable {F Op : Type} (G : GadgetSem F Op) (w : Wire → F)

/-- The constraints of one step, under an assignment of every wire. -/
def Step.Holds (s : Step Op) : Prop :=
  G.holds s.op (s.ins.map w) (s.outs.map w)

/-- The assignment satisfies every step. -/
def Sat (S : List (Step Op)) : Prop :=
  ∀ s ∈ S, s.Holds G w

@[simp] theorem sat_nil : Sat G w [] := by
  intro s hs
  cases hs

@[simp] theorem sat_cons (s : Step Op) (S : List (Step Op)) :
    Sat G w (s :: S) ↔ s.Holds G w ∧ Sat G w S := by
  simp [Sat]

@[simp] theorem sat_append (S T : List (Step Op)) :
    Sat G w (S ++ T) ↔ Sat G w S ∧ Sat G w T := by
  simp [Sat, or_imp, forall_and]

end Meaning

/-! ## Synthesizers -/

/-- Where a prover takes the values of a step's new wires from. -/
inductive Source (F ε : Type) where
  /-- A closure that does not look at the constraint system. -/
  | given (v : Except ε (List F))
  /-- A closure that reads back the value of an earlier wire. -/
  | readBack (x : Wire)
  /-- The gadget computes them from the values it reads. -/
  | computed

/-- A step together with the closure for its values. -/
structure Instr (F Op ε : Type) where
  step : Step Op
  source : Source F ε

/-- What a synthesizer has emitted so far, and the next free wire. -/
structure Draft (F Op ε : Type) where
  next : Wire
  instrs : List (Instr F Op ε)

/-- A synthesizer: it emits instructions, or stops with an error of type `π`
before it emits any value. -/
abbrev Synth (F Op ε π : Type) := StateT (Draft F Op ε) (Except π)

section Run

variable {F Op ε π α : Type}

/-- Ask for one step that makes `width` wires; the result is the first of them. -/
def emit (ns : String) (op : Op) (ins : List Wire) (width : ℕ) (source : Source F ε) :
    Synth F Op ε π Wire := fun d =>
  .ok (d.next, {
    next := d.next + width
    instrs := d.instrs ++ [⟨⟨ns, op, ins, List.range' d.next width⟩, source⟩] })

/-- Stop the synthesizer. -/
def abort (e : π) : Synth F Op ε π α := fun _ => .error e

/-- `for (i, a) in l.iter().enumerate()`, collecting the results. -/
def forEnum {β : Type} (l : List α) (body : ℕ → α → Synth F Op ε π β) :
    Synth F Op ε π (List β) :=
  l.zipIdx.mapM fun x => body x.2 x.1

/-- `for (i, a) in l.iter().enumerate()`, updating one accumulator. -/
def foldEnum {β : Type} (l : List α) (init : β) (body : β → ℕ → α → Synth F Op ε π β) :
    Synth F Op ε π β :=
  l.zipIdx.foldlM (fun acc x => body acc x.2 x.1) init

/-- The steps a setup run sees. No closure is called. -/
def setup (m : Synth F Op ε π α) : Except π (List (Step Op)) :=
  match m ⟨0, []⟩ with
  | .ok (_, d) => .ok (d.instrs.map Instr.step)
  | .error e => .error e

/-- The values one closure returns, given the values assigned so far. A value
that is not there is reported as `missing`. -/
def Instr.assign (G : GadgetSem F Op) (missing : ε) (vals : List F) (i : Instr F Op ε) :
    Except ε (List F) :=
  match i.source with
  | .given v => v
  | .readBack x =>
      match vals[x]? with
      | some a => .ok [a]
      | none => .error missing
  | .computed =>
      match (i.step.ins.mapM fun x => vals[x]?).bind (G.eval i.step.op) with
      | some out => .ok out
      | none => .error missing

/-- Run the closures in order and record what they return. -/
def assignAll (G : GadgetSem F Op) (missing : ε) :
    List F → List (Instr F Op ε) → Except ε (List F)
  | vals, [] => .ok vals
  | vals, i :: is =>
      match i.assign G missing vals with
      | .ok new => assignAll G missing (vals ++ new) is
      | .error e => .error e

/-- The steps a proving run sees and the value it assigns to every wire. -/
def prove (G : GadgetSem F Op) (missing : ε) (m : Synth F Op ε π α) :
    Except π (List (Step Op) × Except ε (List F)) :=
  match m ⟨0, []⟩ with
  | .ok (_, d) => .ok (d.instrs.map Instr.step, assignAll G missing [] d.instrs)
  | .error e => .error e

end Run

end ZendooSc.Lib
