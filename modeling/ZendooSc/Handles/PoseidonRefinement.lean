/-
ZendooSc.Handles.PoseidonRefinement — a `PoseidonHash` is a list of inputs.

`Digest` is what the class stands for: a mode, a personalization and the
elements given since the creation or the last reset. `HashModel` says what
finalizing one comes to. The hash states of ginger-lib are outside of this
repository; `FollowsHashModel` is what is taken from them.

`Factory` lists the static methods that make an instance and `Use` the methods
called on it. A native method is written down twice, in Java with the type it
is to return and in Rust with the type it returns. `Use.exec` puts the two
together: where Java waits for an object and the exported function returns
nothing, what Java gets is not specified.

A run is a list of calls with the world each began in. In between, objects come
and go, as long as the box of the instance is left alone. `run_represents` says
that in every run the instance stands for the digest the calls describe.
`poseidon_hash_refines_iff` adds the values the calls hand to Java: they are as
described unless the run has a successful `reset`, which is declared to return a
`FieldElement` and is exported as a function that returns nothing.
-/
import ZendooSc.Handles.Footprints
import ZendooSc.Handles.Runs
import ZendooSc.Handles.Values
import ZendooSc.Lib.Simulation

namespace ZendooSc.Handles

open Lib

variable {V : NativeType → Type}

/-! ## What the class stands for -/

/-- The three modes of a hash. -/
inductive Mode where
  | constantLength (inputSize : UInt64)
  | variableLength (modRate : Bool)
  deriving DecidableEq, Repr

/-- An instance: its mode, its personalization, and the elements it was given. -/
structure Digest (F : Type) where
  mode : Mode
  personalization : List F
  inputs : List F
  deriving DecidableEq, Repr

namespace Digest

variable {F : Type}

def fresh (mode : Mode) (personalization : List F) : Digest F := ⟨mode, personalization, []⟩

def update (d : Digest F) (input : F) : Digest F := { d with inputs := d.inputs ++ [input] }

def reset (d : Digest F) (personalization : List F) : Digest F := fresh d.mode personalization

end Digest

/-- The hash function, and the rate that `modRate` is about. -/
structure HashModel (F : Type) where
  rate : ℕ
  hash : Mode → List F → List F → F

namespace HashModel

variable {F : Type} (M : HashModel F)

/-- The mode admits so many elements. -/
def Admits (mode : Mode) (length : ℕ) : Prop :=
  match mode with
  | .constantLength inputSize => length = inputSize.toNat
  | .variableLength true => M.rate ∣ length
  | .variableLength false => True

instance (mode : Mode) (length : ℕ) : Decidable (M.Admits mode length) :=
  match mode with
  | .constantLength inputSize => inferInstanceAs (Decidable (length = inputSize.toNat))
  | .variableLength true => inferInstanceAs (Decidable (M.rate ∣ length))
  | .variableLength false => inferInstanceAs (Decidable True)

/-- The hash of the elements, if the mode admits that many. -/
def finalize (d : Digest F) : Option F :=
  if M.Admits d.mode d.inputs.length then some (M.hash d.mode d.personalization d.inputs) else none

end HashModel

/-- `FieldHash` of the library works as a digest does. `digestOf` is what a state
of it stands for. -/
structure FollowsHashModel (L : NativeLib V) (M : HashModel (V .fieldElement))
    (digestOf : V .fieldHash → Digest (V .fieldElement)) : Prop where
  initConstantLength : ∀ inputSize xs,
    ∃ h, L.getPoseidonHashConstantLength inputSize (nonEmpty xs) = .ok h ∧
      digestOf h = .fresh (.constantLength inputSize) xs
  initVariableLength : ∀ modRate xs,
    ∃ h, L.getPoseidonHashVariableLength modRate (nonEmpty xs) = .ok h ∧
      digestOf h = .fresh (.variableLength modRate) xs
  update : ∀ x h, ∃ h', (L.updatePoseidonHash x).exec h = (.ok (), h') ∧
    digestOf h' = (digestOf h).update x
  finalize : ∀ h x, M.finalize (digestOf h) = some x → L.finalizePoseidonHash h = pure x
  finalizeNone : ∀ h, M.finalize (digestOf h) = none →
    ∃ e, L.finalizePoseidonHash h = fromResult (.error e)
  reset : ∀ xs h, ∃ h', (L.resetPoseidonHash (nonEmpty xs)).exec h = (.ok (), h') ∧
    digestOf h' = (digestOf h).reset xs

/-! ## Instances -/

/-- The values of a personalization, if it is an array of live elements. -/
def livePersonalization (w : World V) (personalization : Option (List Ref)) :
    Option (List (V .fieldElement)) :=
  personalization.bind (valuesOf w .fieldElement)

variable (E : Env V)

/-- The static methods that make an instance. -/
inductive Factory where
  | getInstance
  | getInstanceWith (personalization : Option (List Ref))
  | getInstanceConstantLength (inputSize : Int32)
  | getInstanceConstantLengthWith (inputSize : Int32) (personalization : Option (List Ref))
  | getInstanceVariableLength (modRate : Bool)
  | getInstanceVariableLengthWith (modRate : Bool) (personalization : Option (List Ref))

namespace Factory

def make : Factory → JavaCall V Ref
  | getInstance => PoseidonHash.getInstanceVariableLength E false (some [])
  | getInstanceWith personalization =>
      PoseidonHash.getInstanceVariableLength E false personalization
  | getInstanceConstantLength inputSize =>
      PoseidonHash.getInstanceConstantLength E inputSize (some [])
  | getInstanceConstantLengthWith inputSize personalization =>
      PoseidonHash.getInstanceConstantLength E inputSize personalization
  | getInstanceVariableLength modRate =>
      PoseidonHash.getInstanceVariableLength E modRate (some [])
  | getInstanceVariableLengthWith modRate personalization =>
      PoseidonHash.getInstanceVariableLength E modRate personalization

/-- The mode asked for. -/
def mode : Factory → Mode
  | getInstance | getInstanceWith _ => .variableLength false
  | getInstanceConstantLength inputSize | getInstanceConstantLengthWith inputSize _ =>
      .constantLength inputSize.toInt64.toUInt64
  | getInstanceVariableLength modRate | getInstanceVariableLengthWith modRate _ =>
      .variableLength modRate

/-- The personalization asked for. Without one it is an empty array. -/
def personalization : Factory → Option (List Ref)
  | getInstance | getInstanceConstantLength _ | getInstanceVariableLength _ => some []
  | getInstanceWith personalization | getInstanceConstantLengthWith _ personalization
  | getInstanceVariableLengthWith _ personalization => personalization

end Factory

/-- The methods of an instance. `reset()` is `reset` with an empty array. -/
inductive Use where
  | update (input : Ref)
  | finalizeHash
  | reset (personalization : Option (List Ref))
  deriving DecidableEq, Repr

/-- The types the native methods are declared with. -/
inductive ReturnType where
  | void
  | object
  deriving DecidableEq, Repr

/-- What Java gets from a native method that returned. -/
inductive Returned where
  | nothing
  | object (r : Ref)
  | unspecified
  deriving DecidableEq, Repr

/-- The value of an exported function, if it has one, through its Java
declaration. -/
def handed (declared : ReturnType) (exported : Option Ref) : Returned :=
  match declared, exported with
  | .void, _ => .nothing
  | .object, some r => .object r
  | .object, none => .unspecified

namespace Use

/-- The return types of `nativeUpdate`, `nativeFinalize` and `nativeReset` in
`PoseidonHash.java`. -/
def declared : Use → ReturnType
  | update _ => .void
  | finalizeHash => .object
  | reset _ => .object

/-- The method with the exported function it calls. Those of `update` and
`reset` return nothing. -/
def call (this : Ref) : Use → JavaCall V (Option Ref)
  | update input => (fun _ => none) <$> PoseidonHash.update E this input
  | finalizeHash => some <$> PoseidonHash.finalizeHash E this
  | reset personalization => (fun _ => none) <$> PoseidonHash.reset E this personalization

/-- The call as Java sees it. -/
def exec (this : Ref) (u : Use) (w : World V) : Except Halt Returned × World V :=
  ((handed u.declared <$> u.call E this).exec w)

/-- What a call does to the digest. A call with an argument that has no value
does nothing. -/
def spec (w : World V) (d : Digest (V .fieldElement)) : Use → Digest (V .fieldElement)
  | update input => (valueOf w .fieldElement input).elim d d.update
  | finalizeHash => d
  | reset personalization => (livePersonalization w personalization).elim d d.reset

end Use

/-! ## What is asked of an instance -/

variable (M : HashModel (V .fieldElement)) (digestOf : V .fieldHash → Digest (V .fieldElement))

/-- The instance is live, and its box stands for the digest. -/
def Represents (this : Ref) (w : World V) (d : Digest (V .fieldElement)) : Prop :=
  ∃ h, valueOf w .poseidonHash this = some h ∧ digestOf h = d

/-- The reference is null for `none`, and to a `FieldElement` with the value
otherwise. -/
def RefersTo (w : World V) (r : Ref) : Option (V .fieldElement) → Prop
  | none => r = none
  | some x => valueOf w .fieldElement r = some x

/-- What Java is to get from a call, in terms of the digest before it. Where there
is a hash, there may be no memory for it. -/
def Answers (w : World V) (d : Digest (V .fieldElement)) (result : Except Halt Returned)
    (w' : World V) : Use → Prop
  | .update input =>
      if (valueOf w .fieldElement input).isSome then result = .ok .nothing
      else ∃ e, result = .error (.exception e)
  | .finalizeHash =>
      (M.finalize d).isSome ∧ OutOfMemory E.malloc w ∧ result = .error .abort ∨
        ∃ r, result = .ok (.object r) ∧ RefersTo w' r (M.finalize d)
  | .reset personalization =>
      if (livePersonalization w personalization).isSome then
        ∃ r x, result = .ok (.object r) ∧ RefersTo w' r x
      else ∃ e, result = .error (.exception e)

/-- A call does to the instance what it does to the digest, and answers as the
digest says. `finalizeHash` leaves the box itself as it was. -/
structure Conforms (this : Ref) (w : World V) (d : Digest (V .fieldElement)) (u : Use) : Prop where
  state : Represents digestOf this (u.exec E this w).2 (u.spec w d)
  kept : u = .finalizeHash →
    valueOf (u.exec E this w).2 .poseidonHash this = valueOf w .poseidonHash this
  answer : Answers E M w d (u.exec E this w).1 (u.exec E this w).2 u

/-- What may happen between two calls on an instance: anything that keeps the
ownership discipline and leaves its box alone. -/
def Undisturbed (this : Ref) (w w' : World V) : Prop :=
  (Owned w → Owned w') ∧ valueOf w' .poseidonHash this = valueOf w .poseidonHash this

/-- The calls of a run on an instance, each with the world it begins in. -/
def Calls (this : Ref) (w : World V) (turns : List (World V × Use)) : Prop :=
  IsRun (Undisturbed this) (fun w u => (u.exec E this w).2) w turns

/-- The digest after some calls. -/
def digestAfter (d : Digest (V .fieldElement)) (turns : List (World V × Use)) :
    Digest (V .fieldElement) :=
  specRun (fun w d u => u.spec w d) d turns

/-- A new instance is as asked for, and every call of the run conforms. -/
def Refines (factory : Factory) (w₀ : World V) (this : Ref) (w₁ : World V)
    (turns : List (World V × Use)) : Prop :=
  ∃ xs, livePersonalization w₀ factory.personalization = some xs ∧
    Represents digestOf this w₁ (.fresh factory.mode xs) ∧
    ∀ before w u, before ++ [(w, u)] <+: turns →
      Conforms E M digestOf this w (digestAfter (.fresh factory.mode xs) before) u

/-! ## Creating an instance -/

theorem readPersonalization_exec {w : World V} {personalization : Option (List Ref)}
    {xs : List (V .fieldElement)} (h : livePersonalization w personalization = some xs) :
    (PoseidonHash.readPersonalization personalization).exec w = (.ok (nonEmpty xs), w) := by
  obtain ⟨refs, rfl, hxs⟩ := Option.bind_eq_some_iff.mp h
  show ((refs.mapM (reading .fieldElement)) >>= fun fields => pure (nonEmpty fields)).exec w = _
  rw [Program.exec_bind_ok (mapM_reading_exec hxs)]
  rfl

theorem readPersonalization_exec_none {w : World V} (hw : Owned w)
    {personalization : Option (List Ref)} (h : livePersonalization w personalization = none) :
    ∃ e, (PoseidonHash.readPersonalization personalization).exec w
      = (.error (.exception e), w) := by
  rcases personalization with _ | refs
  · exact ⟨_, rfl⟩
  · have hnone : valuesOf w .fieldElement refs = none := h
    obtain ⟨e, hthrow⟩ := mapM_reading_exec_none hw hnone
    refine ⟨e, ?_⟩
    show ((refs.mapM (reading .fieldElement)) >>= fun fields => pure (nonEmpty fields)).exec w = _
    exact Program.exec_bind_error hthrow

variable {E M digestOf}

/-- What the two native constructors do after they read the personalization. -/
theorem create_exec {w w' : World V} (hw : Owned w) {personalization : Option (List Ref)}
    {this : Ref} {init : Option (List (V .fieldElement)) → Except Panic (V .fieldHash)}
    {mode : Mode}
    (hinit : ∀ xs, ∃ h, init (nonEmpty xs) = .ok h ∧ digestOf h = .fresh mode xs)
    (hmake : (PoseidonHash.readPersonalization personalization >>= fun fields =>
      native (init fields) >>= fun h => returnObject E .poseidonHash h).exec w = (.ok this, w')) :
    Owned w' ∧ ∃ xs, livePersonalization w personalization = some xs ∧
      Represents digestOf this w' (.fresh mode xs) := by
  rcases hlive : livePersonalization w personalization with _ | xs
  · obtain ⟨e, hthrow⟩ := readPersonalization_exec_none hw hlive
    rw [Program.exec_bind_error hthrow] at hmake
    cases hmake
  · obtain ⟨h, hok, hdigest⟩ := hinit xs
    have hrest : (returnObject E .poseidonHash h).exec w = (.ok this, w') := by
      rw [Program.exec_bind_ok (readPersonalization_exec hlive), hok] at hmake
      exact hmake
    have howned := (safe_returnObject E .poseidonHash h w hw).1
    rw [hrest] at howned
    obtain ⟨w'', ⟨-, hrun⟩ | ⟨r, hrun, hvalue⟩, -⟩ := returnJobject_exec E.malloc .poseidonHash h w
    · rw [returnObject, hrun] at hrest
      cases hrest
    · rw [returnObject, hrun] at hrest
      cases hrest
      exact ⟨howned, xs, rfl, h, hvalue, hdigest⟩

/-- Every factory reads its personalization and creates a hash in its mode. -/
theorem make_cases (hlib : FollowsHashModel E.toNativeLib M digestOf) (factory : Factory) :
    ∃ init : Option (List (V .fieldElement)) → Except Panic (V .fieldHash),
      (∀ xs, ∃ h, init (nonEmpty xs) = .ok h ∧ digestOf h = .fresh factory.mode xs) ∧
      factory.make E = (PoseidonHash.readPersonalization factory.personalization >>= fun fields =>
        native (init fields) >>= fun h => returnObject E .poseidonHash h) := by
  cases factory with
  | getInstance | getInstanceWith personalization =>
      exact ⟨_, hlib.initVariableLength false, rfl⟩
  | getInstanceConstantLength inputSize
  | getInstanceConstantLengthWith inputSize personalization =>
      exact ⟨_, hlib.initConstantLength inputSize.toInt64.toUInt64, rfl⟩
  | getInstanceVariableLength modRate | getInstanceVariableLengthWith modRate personalization =>
      exact ⟨_, hlib.initVariableLength modRate, rfl⟩

/-- An instance that a factory made stands for a fresh digest. -/
theorem make_represents (hlib : FollowsHashModel E.toNativeLib M digestOf) {w w' : World V}
    (hw : Owned w) {factory : Factory} {this : Ref}
    (hmake : (factory.make E).exec w = (.ok this, w')) :
    Owned w' ∧ ∃ xs, livePersonalization w factory.personalization = some xs ∧
      Represents digestOf this w' (.fresh factory.mode xs) := by
  obtain ⟨init, hinit, heq⟩ := make_cases hlib factory
  rw [heq] at hmake
  exact create_exec hw hinit hmake

/-! ## Calls on an instance -/

/-- `update` on a live instance comes down to what the library does. -/
theorem update_exec (hlib : FollowsHashModel E.toNativeLib M digestOf) {w : World V}
    {this input : Ref} {s : V .fieldHash} {x : V .fieldElement}
    (hs : valueOf w .poseidonHash this = some s) (hx : valueOf w .fieldElement input = some x) :
    ∃ w', (PoseidonHash.update E this input).exec w = (.ok (), w') ∧
      Represents digestOf this w' ((digestOf s).update x) := by
  obtain ⟨s', hrun, hdigest⟩ := hlib.update x s
  obtain ⟨w', hmodify, hvalue⟩ := modifying_exec hs hrun
  refine ⟨w', ?_, s', hvalue, hdigest⟩
  unfold PoseidonHash.update
  rw [Program.exec_bind_ok (checkNotFreed_exec _ hs), Program.exec_bind_ok (reading_exec hs),
    Program.exec_bind_ok (reading_exec hx), hmodify]

theorem update_exec_none {w : World V} (hw : Owned w) {this input : Ref} {s : V .fieldHash}
    (hs : valueOf w .poseidonHash this = some s) (hx : valueOf w .fieldElement input = none) :
    ∃ e, (PoseidonHash.update E this input).exec w = (.error (.exception e), w) := by
  obtain ⟨e, hthrow⟩ := reading_exec_none hw hx
  refine ⟨e, ?_⟩
  unfold PoseidonHash.update
  rw [Program.exec_bind_ok (checkNotFreed_exec _ hs), Program.exec_bind_ok (reading_exec hs),
    Program.exec_bind_error hthrow]

/-- `finalizeHash` on a live instance hands out what the digest comes to, and
leaves the box as it was. -/
theorem finalizeHash_exec (hlib : FollowsHashModel E.toNativeLib M digestOf) {w : World V}
    {this : Ref} {s : V .fieldHash} (hs : valueOf w .poseidonHash this = some s) :
    ∃ result w', (PoseidonHash.finalizeHash E this).exec w = (result, w') ∧
      valueOf w' .poseidonHash this = some s ∧
      ((M.finalize (digestOf s)).isSome ∧ OutOfMemory E.malloc w ∧ result = .error .abort ∨
        ∃ r, result = .ok r ∧ RefersTo w' r (M.finalize (digestOf s))) := by
  have hcall : (PoseidonHash.finalizeHash E this).exec w =
      (returnResult E .fieldElement (E.finalizePoseidonHash s)).exec w := by
    unfold PoseidonHash.finalizeHash
    rw [Program.exec_bind_ok (checkNotFreed_exec _ hs), Program.exec_bind_ok (reading_exec hs)]
  rw [hcall]
  rcases hfinal : M.finalize (digestOf s) with _ | x
  · obtain ⟨e, herror⟩ := hlib.finalizeNone s hfinal
    rw [herror]
    exact ⟨.ok none, w, rfl, hs, .inr ⟨none, rfl, rfl⟩⟩
  · rw [hlib.finalize s x hfinal]
    obtain ⟨w', hbox, hkeeps⟩ := returnJobject_exec E.malloc .fieldElement x w
    have hkept := hkeeps .poseidonHash this s hs
    rcases hbox with ⟨hmemory, habort⟩ | ⟨r, hreturn, hr⟩
    · exact ⟨_, w', habort, hkept, .inl ⟨rfl, hmemory, rfl⟩⟩
    · exact ⟨_, w', hreturn, hkept, .inr ⟨r, rfl, hr⟩⟩

/-- `reset` on a live instance, with an array of live elements. -/
theorem reset_exec (hlib : FollowsHashModel E.toNativeLib M digestOf) {w : World V} {this : Ref}
    {personalization : Option (List Ref)} {s : V .fieldHash} {xs : List (V .fieldElement)}
    (hs : valueOf w .poseidonHash this = some s)
    (hxs : livePersonalization w personalization = some xs) :
    ∃ w', (PoseidonHash.reset E this personalization).exec w = (.ok (), w') ∧
      Represents digestOf this w' ((digestOf s).reset xs) := by
  obtain ⟨s', hrun, hdigest⟩ := hlib.reset xs s
  obtain ⟨w', hmodify, hvalue⟩ := modifying_exec hs hrun
  refine ⟨w', ?_, s', hvalue, hdigest⟩
  unfold PoseidonHash.reset
  rw [Program.exec_bind_ok (checkNotFreed_exec _ hs), Program.exec_bind_ok (reading_exec hs),
    Program.exec_bind_ok (readPersonalization_exec hxs), hmodify]

theorem reset_exec_none {w : World V} (hw : Owned w) {this : Ref}
    {personalization : Option (List Ref)} {s : V .fieldHash}
    (hs : valueOf w .poseidonHash this = some s)
    (hnone : livePersonalization w personalization = none) :
    ∃ e, (PoseidonHash.reset E this personalization).exec w = (.error (.exception e), w) := by
  obtain ⟨e, hthrow⟩ := readPersonalization_exec_none hw hnone
  refine ⟨e, ?_⟩
  unfold PoseidonHash.reset
  rw [Program.exec_bind_ok (checkNotFreed_exec _ hs), Program.exec_bind_ok (reading_exec hs),
    Program.exec_bind_error hthrow]

theorem exec_update {w w' : World V} {this input : Ref} {result : Except Halt Unit}
    (h : (PoseidonHash.update E this input).exec w = (result, w')) :
    (Use.update input).exec E this w = (result.map fun _ => .nothing, w') := by
  rw [Use.exec, Program.exec_map, Use.call, Program.exec_map, h]
  rcases result with e | ⟨⟩
  · rfl
  · rfl

theorem exec_finalizeHash {w w' : World V} {this : Ref} {result : Except Halt Ref}
    (h : (PoseidonHash.finalizeHash E this).exec w = (result, w')) :
    Use.finalizeHash.exec E this w = (result.map .object, w') := by
  rw [Use.exec, Program.exec_map, Use.call, Program.exec_map, h]
  rcases result with e | r
  · rfl
  · rfl

/-- What Java gets from a reset that returns is not specified. -/
theorem exec_reset {w w' : World V} {this : Ref} {personalization : Option (List Ref)}
    {result : Except Halt Unit}
    (h : (PoseidonHash.reset E this personalization).exec w = (result, w')) :
    (Use.reset personalization).exec E this w = (result.map fun _ => .unspecified, w') := by
  rw [Use.exec, Program.exec_map, Use.call, Program.exec_map, h]
  rcases result with e | ⟨⟩
  · rfl
  · rfl

/-- A call keeps the ownership discipline. -/
theorem call_owned {w : World V} (hw : Owned w) (this : Ref) (u : Use) :
    Owned (u.exec E this w).2 := by
  have hsafe : Safe (u.call E this) := by
    cases u with
    | update input => exact (update_protocol E this input).safe.map _
    | finalizeHash => exact (finalizeHash_protocol E this).safe.map _
    | reset personalization => exact (poseidonReset_protocol E this personalization).safe.map _
  rw [Use.exec, Program.exec_map]
  exact (hsafe w hw).1

section Conformance

variable (hlib : FollowsHashModel E.toNativeLib M digestOf) {w : World V} (hw : Owned w)
  {this : Ref} {d : Digest (V .fieldElement)} (hd : Represents digestOf this w d)

include hlib hw hd

theorem update_conforms (input : Ref) :
    Conforms E M digestOf this w d (.update input) := by
  obtain ⟨s, hs, rfl⟩ := hd
  rcases hx : valueOf w .fieldElement input with _ | x
  · obtain ⟨e, hthrow⟩ := update_exec_none (E := E) hw hs hx
    refine ⟨?_, nofun, ?_⟩
    · rw [exec_update hthrow, Use.spec, hx]
      exact ⟨s, hs, rfl⟩
    · rw [exec_update hthrow, Answers, hx]
      exact ⟨e, rfl⟩
  · obtain ⟨w', hrun, hrepr⟩ := update_exec hlib hs hx
    refine ⟨?_, nofun, ?_⟩
    · rw [exec_update hrun, Use.spec, hx]
      exact hrepr
    · rw [exec_update hrun, Answers, hx]
      rfl

omit hw in
theorem finalizeHash_conforms : Conforms E M digestOf this w d .finalizeHash := by
  obtain ⟨s, hs, rfl⟩ := hd
  obtain ⟨result, w', hrun, hkept, hresult⟩ := finalizeHash_exec hlib hs
  have hexec := exec_finalizeHash hrun
  refine ⟨?_, fun _ => ?_, ?_⟩
  · rw [hexec]
    exact ⟨s, hkept, rfl⟩
  · rw [hexec, hkept, hs]
  · rw [hexec, Answers]
    rcases hresult with ⟨hsome, hmemory, rfl⟩ | ⟨r, rfl, hr⟩
    · exact .inl ⟨hsome, hmemory, rfl⟩
    · exact .inr ⟨r, rfl, hr⟩

/-- A reset starts the digest anew, or changes nothing. -/
theorem reset_represents (personalization : Option (List Ref)) :
    Represents digestOf this ((Use.reset personalization).exec E this w).2
      ((Use.reset personalization).spec w d) := by
  obtain ⟨s, hs, rfl⟩ := hd
  rcases hxs : livePersonalization w personalization with _ | xs
  · obtain ⟨e, hthrow⟩ := reset_exec_none (E := E) hw hs hxs
    rw [exec_reset hthrow, Use.spec, hxs]
    exact ⟨s, hs, rfl⟩
  · obtain ⟨w', hrun, hrepr⟩ := reset_exec hlib hs hxs
    rw [exec_reset hrun, Use.spec, hxs]
    exact hrepr

/-- A reset that succeeds hands Java a value that is none: the exported function
returns nothing. -/
theorem reset_conforms_iff (personalization : Option (List Ref)) :
    Conforms E M digestOf this w d (.reset personalization) ↔
      livePersonalization w personalization = none := by
  have hstate := reset_represents hlib hw hd personalization
  obtain ⟨s, hs, rfl⟩ := hd
  rcases hxs : livePersonalization w personalization with _ | xs
  · obtain ⟨e, hthrow⟩ := reset_exec_none (E := E) hw hs hxs
    refine iff_of_true ⟨hstate, nofun, ?_⟩ rfl
    rw [Answers, hxs, exec_reset hthrow]
    exact ⟨e, rfl⟩
  · obtain ⟨w', hrun, -⟩ := reset_exec hlib hs hxs
    refine iff_of_false ?_ nofun
    intro hconforms
    have hanswer := hconforms.answer
    rw [Answers, hxs, exec_reset hrun] at hanswer
    obtain ⟨r, x, hreturned, -⟩ := hanswer
    cases hreturned

/-- Whatever the call, the instance stands for the next digest. -/
theorem call_represents (u : Use) : Represents digestOf this (u.exec E this w).2 (u.spec w d) := by
  cases u with
  | update input => exact (update_conforms hlib hw hd input).state
  | finalizeHash => exact (finalizeHash_conforms hlib hd).state
  | reset personalization => exact reset_represents hlib hw hd personalization

/-- A call conforms unless it is a reset that succeeds. -/
theorem conforms_iff (u : Use) :
    Conforms E M digestOf this w d u ↔
      ∀ personalization, u = .reset personalization →
        livePersonalization w personalization = none := by
  cases u with
  | update input => exact iff_of_true (update_conforms hlib hw hd input) nofun
  | finalizeHash => exact iff_of_true (finalizeHash_conforms hlib hd) nofun
  | reset personalization =>
      rw [reset_conforms_iff hlib hw hd]
      constructor
      · rintro hnone _ ⟨⟩
        exact hnone
      · intro h
        exact h personalization rfl

end Conformance

/-! ## Runs -/

/-- An instance simulates its digest, call by call. -/
theorem simulates (hlib : FollowsHashModel E.toNativeLib M digestOf) (this : Ref) :
    Simulates (Undisturbed this) (fun w (u : Use) => (u.exec E this w).2)
      (fun w d (u : Use) => u.spec w d) fun w d => Owned w ∧ Represents digestOf this w d where
  between := by
    intro w w' d hbetween hrelated
    obtain ⟨hw, s, hs, hdigest⟩ := hrelated
    exact ⟨hbetween.1 hw, s, hbetween.2.trans hs, hdigest⟩
  step := by
    intro w d u hrelated
    exact ⟨call_owned hrelated.1 this u, call_represents hlib hrelated.1 hrelated.2 u⟩

/-- In every run, with or without resets, every call finds the instance in the
state its digest describes. -/
theorem run_represents (hlib : FollowsHashModel E.toNativeLib M digestOf) {w : World V}
    (hw : Owned w) {this : Ref} {d : Digest (V .fieldElement)}
    (hd : Represents digestOf this w d) {turns : List (World V × Use)}
    (hcalls : Calls E this w turns) :
    ∀ before w' u, before ++ [(w', u)] <+: turns →
      Owned w' ∧ Represents digestOf this w' (digestAfter d before) :=
  (simulates hlib this).run ⟨hw, hd⟩ hcalls

/-! ## The refinement -/

/-- An instance refines its digest, the values handed to Java included, exactly
in the runs without a reset that succeeds. -/
theorem poseidon_hash_refines_iff (hlib : FollowsHashModel E.toNativeLib M digestOf)
    {w₀ w₁ : World V} (hw₀ : Owned w₀) {factory : Factory} {this : Ref}
    (hmake : (factory.make E).exec w₀ = (.ok this, w₁)) {turns : List (World V × Use)}
    (hcalls : Calls E this w₁ turns) :
    Refines E M digestOf factory w₀ this w₁ turns ↔
      ∀ w personalization, (w, .reset personalization) ∈ turns →
        livePersonalization w personalization = none := by
  obtain ⟨hw₁, xs, hlive, hfresh⟩ := make_represents hlib hw₀ hmake
  have hrun := run_represents hlib hw₁ hfresh hcalls
  constructor
  · intro hrefines w personalization hmem
    obtain ⟨xs', hlive', -, hconforms⟩ := hrefines
    obtain rfl : xs = xs' := Option.some.inj (hlive.symm.trans hlive')
    obtain ⟨before, after, rfl⟩ := List.append_of_mem hmem
    have hbefore : before ++ [(w, Use.reset personalization)] <+:
        before ++ (w, Use.reset personalization) :: after := ⟨after, by simp⟩
    obtain ⟨hw, hd⟩ := hrun before w _ hbefore
    exact (reset_conforms_iff hlib hw hd personalization).mp (hconforms before w _ hbefore)
  · intro hnone
    refine ⟨xs, hlive, hfresh, ?_⟩
    intro before w u hbefore
    obtain ⟨hw, hd⟩ := hrun before w u hbefore
    refine (conforms_iff hlib hw hd u).mpr ?_
    rintro personalization rfl
    exact hnone w personalization (hbefore.subset (by simp))

/-! ## A library that works as digests do -/

/-- Field elements are numbers and hash states are digests. -/
abbrev DigestValue : NativeType → Type
  | .fieldElement => ℕ
  | .fieldHash => Digest ℕ
  | _ => Unit

instance (t : NativeType) : Inhabited (DigestValue t) :=
  match t with
  | .fieldElement => ⟨0⟩
  | .fieldHash => ⟨.fresh (.variableLength false) []⟩
  | .g2 | .scalar | .schnorrSig | .vrfProof | .gingerMHTPath | .gingerMHT | .commitmentTree
  | .scExistenceProof | .scAbsenceProof => ⟨()⟩

/-- The sum of all elements for the hash. -/
def sumModel : HashModel ℕ :=
  ⟨2, fun _ personalization inputs => (personalization ++ inputs).foldl Nat.add 0⟩

def digestLib : NativeLib DigestValue :=
  { defaultLib DigestValue with
    fieldElementFrom := fun value => value.toNat
    getPoseidonHashConstantLength := fun inputSize personalization =>
      .ok (Digest.fresh (.constantLength inputSize) (personalization.getD []))
    getPoseidonHashVariableLength := fun modRate personalization =>
      .ok (Digest.fresh (.variableLength modRate) (personalization.getD []))
    updatePoseidonHash := fun input => Program.update fun d : Digest ℕ => d.update input
    finalizePoseidonHash := fun d =>
      match sumModel.finalize d with
      | some x => pure x
      | none => fromResult (.error .hashInputLength)
    resetPoseidonHash := fun personalization =>
      Program.update fun d : Digest ℕ => d.reset (personalization.getD []) }

def digestEnv : Env DigestValue := { digestLib with malloc := fun n => n + 1 }

theorem nonEmpty_getD {α : Type} (xs : List α) : (nonEmpty xs).getD [] = xs := by
  cases xs with
  | nil => rfl
  | cons x xs => rfl

theorem digestEnv_follows : FollowsHashModel digestEnv.toNativeLib sumModel id where
  initConstantLength := by
    intro inputSize xs
    refine ⟨_, rfl, ?_⟩
    rw [nonEmpty_getD]
    rfl
  initVariableLength := by
    intro modRate xs
    refine ⟨_, rfl, ?_⟩
    rw [nonEmpty_getD]
    rfl
  update := by
    intro x d
    exact ⟨d.update x, rfl, rfl⟩
  finalize := by
    intro d x hx
    show (match sumModel.finalize d with
      | some x => pure x
      | none => fromResult (.error .hashInputLength) : Call ℕ) = pure x
    rw [id, hx] at *
  finalizeNone := by
    intro d hnone
    refine ⟨.hashInputLength, ?_⟩
    show (match sumModel.finalize d with
      | some x => pure x
      | none => fromResult (.error .hashInputLength) : Call ℕ) = _
    rw [id, hnone] at *
  reset := by
    intro xs d
    refine ⟨_, rfl, ?_⟩
    rw [nonEmpty_getD]
    rfl

/-- The world after a factory was called. -/
def worldAfter (E : Env V) (factory : Factory) (w : World V) : World V :=
  ((factory.make E).exec w).2

/-- An instance is made, and used with nothing in between. -/
def straightRun (E : Env V) (factory : Factory) (w : World V) (this : Ref) (uses : List Use) :
    List (World V × Use) :=
  turnsFrom (fun w (u : Use) => (u.exec E this w).2) (worldAfter E factory w) uses

theorem calls_straightRun (E : Env V) (factory : Factory) (w : World V) (this : Ref)
    (uses : List Use) :
    Calls E this (worldAfter E factory w) (straightRun E factory w this uses) :=
  isRun_turnsFrom (fun _ => ⟨id, rfl⟩) _ uses _

/-- A world with one field element. -/
def five : World DigestValue := run digestEnv [.fieldElementFromLong 5]

/-- A personalization by the element, which is then hashed. -/
theorem poseidon_hash_refines_iff_sum :
    Refines digestEnv sumModel id (.getInstanceWith (some [some 0])) five (some 0)
      (worldAfter digestEnv (.getInstanceWith (some [some 0])) five)
      (straightRun digestEnv (.getInstanceWith (some [some 0])) five (some 0)
        [.update (some 0), .finalizeHash]) := by
  refine (poseidon_hash_refines_iff digestEnv_follows (run_owned digestEnv _) rfl
    (calls_straightRun digestEnv _ five (some 0) _)).mpr ?_
  intro w personalization hmem
  simp [straightRun, turnsFrom] at hmem

/-- A new instance is reset. What Java gets is neither null nor a reference. -/
theorem poseidon_hash_reset_counterexample :
    FollowsHashModel digestEnv.toNativeLib sumModel id ∧
      (Factory.getInstance.make digestEnv).exec World.start =
        (.ok (some 0), worldAfter digestEnv .getInstance World.start) ∧
      Calls digestEnv (some 0) (worldAfter digestEnv .getInstance World.start)
        (straightRun digestEnv .getInstance World.start (some 0) [.reset (some [])]) ∧
      ¬ Refines digestEnv sumModel id .getInstance World.start (some 0)
        (worldAfter digestEnv .getInstance World.start)
        (straightRun digestEnv .getInstance World.start (some 0) [.reset (some [])]) := by
  refine ⟨digestEnv_follows, rfl, calls_straightRun digestEnv _ World.start (some 0) _, ?_⟩
  intro hrefines
  obtain ⟨xs, -, -, hconforms⟩ := hrefines
  have hanswer := (hconforms [] _ (.reset (some [])) (List.prefix_refl _)).answer
  obtain ⟨r, x, hreturned, -⟩ := hanswer
  have hreset : ((Use.reset (some [])).exec digestEnv (some 0)
      (worldAfter digestEnv .getInstance World.start)).1 = .ok .unspecified := rfl
  rw [hreset] at hreturned
  cases hreturned

end ZendooSc.Handles
