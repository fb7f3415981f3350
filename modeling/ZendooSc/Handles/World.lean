/-
ZendooSc.Handles.World — Java objects and the native boxes behind them.

Thirteen Java classes hold a `long`, which is zero or the address of a box that
Rust allocated. `World` has the heap of boxes, the pointer fields of all
objects, class by class, and the three composite classes that hold two such
objects. An object is named by its class and its number in the order of
creation, and a reference is such a number or null.

Addresses are handed out by an allocator that is not described: any address may
come next. An address that is null or in use cannot, so a program that is handed
one aborts, as it does when memory runs out.

The primitives below are the ways native code touches a pointer. Following an
address without a live box of the expected type behind it is `Halt.ub`, and so
is freeing it.
-/
import ZendooSc.Jni
import ZendooSc.Lib.Ownership
import ZendooSc.Lib.Program

namespace ZendooSc

open Lib

/-- The Rust types that are boxed. A public key of either scheme is a group
element, a secret key a scalar. -/
inductive NativeType where
  | fieldElement
  | g2
  | scalar
  | schnorrSig
  | vrfProof
  | fieldHash
  | gingerMHTPath
  | gingerMHT
  | commitmentTree
  | scExistenceProof
  | scAbsenceProof
  deriving DecidableEq, Repr

/-- The Java classes with a native pointer. -/
inductive Kind where
  | fieldElement
  | schnorrPublicKey
  | schnorrSecretKey
  | schnorrSignature
  | vrfPublicKey
  | vrfSecretKey
  | vrfProof
  | poseidonHash
  | merklePath
  | inMemoryOptimizedMerkleTree
  | commitmentTree
  | scExistenceProof
  | scAbsenceProof
  deriving DecidableEq, Repr

/-- The type of the boxes a class points to. -/
abbrev Kind.nativeType : Kind → NativeType
  | fieldElement => .fieldElement
  | schnorrPublicKey => .g2
  | schnorrSecretKey => .scalar
  | schnorrSignature => .schnorrSig
  | vrfPublicKey => .g2
  | vrfSecretKey => .scalar
  | vrfProof => .vrfProof
  | poseidonHash => .fieldHash
  | merklePath => .gingerMHTPath
  | inMemoryOptimizedMerkleTree => .gingerMHT
  | commitmentTree => .commitmentTree
  | scExistenceProof => .scExistenceProof
  | scAbsenceProof => .scAbsenceProof

/-- The composite classes: `SchnorrKeyPair`, `VRFKeyPair`, `VRFProveResult`. -/
inductive PairKind where
  | schnorrKeyPair
  | vrfKeyPair
  | vrfProveResult
  deriving DecidableEq, Repr

/-- The classes of the two parts, in the order of the constructor. -/
abbrev PairKind.first : PairKind → Kind
  | schnorrKeyPair => .schnorrSecretKey
  | vrfKeyPair => .vrfSecretKey
  | vrfProveResult => .vrfProof

abbrev PairKind.second : PairKind → Kind
  | schnorrKeyPair => .schnorrPublicKey
  | vrfKeyPair => .vrfPublicKey
  | vrfProveResult => .fieldElement

/-- A Java reference: null, or the number of an object of its class. A number
no object has yet counts as null. -/
abbrev Ref := Option ℕ

variable {V : NativeType → Type}

/-- A box: its type and its value. -/
abbrev Box (V : NativeType → Type) := (t : NativeType) × V t

/-- A box has the type its owner's class expects. -/
def fits (k : Kind) (b : Box V) : Prop := b.1 = k.nativeType

structure World (V : NativeType → Type) where
  store : Store Kind (Box V)
  pairs : PairKind → List (Ref × Ref)
  ticks : ℕ

/-- Before the first call. -/
def World.start : World V := ⟨Store.empty, fun _ => [], 0⟩

/-- The pointer field of the object a reference names. -/
def World.pointer (w : World V) (k : Kind) (r : Ref) : Option ℕ :=
  r.bind fun i => w.store.pointer k i

/-- The ways a Java call does not return. -/
inductive Halt where
  | exception (e : JavaException)
  | ub
  | abort
  deriving DecidableEq, Repr

/-- A Java or native call. -/
abbrev JavaCall (V : NativeType → Type) (α : Type) := Program (World V) Halt α

section Primitives

variable {α : Type}

def throwJava (e : JavaException) : JavaCall V α := Program.stop (.exception e)

/-- A step of a native function that does not touch the world. A panic becomes
an exception. -/
def native (x : Except Panic α) : JavaCall V α :=
  match ffiExport x with
  | .returned a => pure a
  | .thrown e => throwJava e

/-- A number that no call gets twice. -/
def tick : JavaCall V ℕ := do
  let n ← Program.look World.ticks
  Program.update fun w => { w with ticks := w.ticks + 1 }
  pure n

/-! ## Reading -/

/-- The pointer field of `this`: calling a method of null throws. -/
def receiver (k : Kind) (this : Ref) : JavaCall V ℕ := do
  match ← Program.look fun w => w.pointer k this with
  | some a => pure a
  | none => throwJava .nullPointer

/-- `if (pointer == 0) throw ...`. -/
def checkNotFreed (k : Kind) (this : Ref) (e : JavaException) : JavaCall V Unit := do
  let a ← receiver k this
  if a = 0 then throwJava e else pure ()

/-- `get_field`, with `expect`. -/
def getField (k : Kind) (r : Ref) : JavaCall V ℕ := do
  match ← Program.look fun w => w.pointer k r with
  | some a => pure a
  | none => native (.error .unwrapError)

/-- `&*input`. -/
def deref (t : NativeType) (a : ℕ) : JavaCall V (V t) := do
  match ← Program.look fun w => w.store.heap a with
  | none => Program.stop .ub
  | some b => if h : b.1 = t then pure (h ▸ b.2) else Program.stop .ub

/-- `read_raw_pointer` and `read_mut_raw_pointer`. -/
def readRawPointer (t : NativeType) (input : ℕ) : JavaCall V (V t) :=
  if input = 0 then throwJava .nullPointer else deref t input

/-- `read_nullable_raw_pointer`. -/
def readNullableRawPointer (t : NativeType) (input : ℕ) : JavaCall V (Option (V t)) :=
  if input = 0 then pure none else some <$> deref t input

/-- The native value of an object. -/
def reading (k : Kind) (r : Ref) : JavaCall V (V k.nativeType) := do
  let a ← getField k r
  readRawPointer k.nativeType a

def readingNullable (k : Kind) (r : Ref) : JavaCall V (Option (V k.nativeType)) := do
  let a ← getField k r
  readNullableRawPointer k.nativeType a

/-- The two parts of a composite object. -/
def pairFields (p : PairKind) (this : Ref) : JavaCall V (Ref × Ref) := do
  match ← Program.look fun w => this.bind fun i => (w.pairs p)[i]? with
  | some parts => pure parts
  | none => throwJava .nullPointer

/-! ## Writing -/

/-- A native function with `&mut` on the value of an object. It may panic half
way through. -/
def modifying (k : Kind) (r : Ref) (f : Program (V k.nativeType) Panic α) : JavaCall V α := do
  let a ← getField k r
  let v ← readRawPointer k.nativeType a
  Program.update fun w =>
    { w with store := w.store.write a ⟨k.nativeType, (f.exec v).2⟩ }
  native (f.exec v).1

/-- `Box::into_raw(Box::new(obj))`, and a Java object around it. -/
def returnJobject (malloc : ℕ → ℕ) (k : Kind) (obj : V k.nativeType) : JavaCall V Ref := do
  let n ← tick
  let w ← Program.look id
  if malloc n = 0 ∨ (w.store.heap (malloc n)).isSome then
    Program.stop .abort
  else do
    Program.update fun w => { w with store := w.store.adopt k (malloc n) ⟨k.nativeType, obj⟩ }
    pure (some (w.store.fields k).length)

/-- A Java object without a box. -/
def newNullObject (k : Kind) : JavaCall V Ref := do
  let w ← Program.look id
  Program.update fun w => { w with store := w.store.addObject k 0 }
  pure (some (w.store.fields k).length)

def newPair (p : PairKind) (a b : Ref) : JavaCall V Ref := do
  let w ← Program.look id
  Program.update fun w => { w with pairs := Function.update w.pairs p (w.pairs p ++ [(a, b)]) }
  pure (some (w.pairs p).length)

/-! ## Freeing -/

/-- `drop(Box::from_raw(p))`, for a box of type `t`. -/
def dropBox (t : NativeType) (a : ℕ) : JavaCall V Unit := do
  match ← Program.look fun w => w.store.heap a with
  | none => Program.stop .ub
  | some b =>
      if b.1 = t then Program.update fun w => { w with store := w.store.drop a }
      else Program.stop .ub

/-- A native free function: nothing happens on null. -/
def nativeFree (t : NativeType) (a : ℕ) : JavaCall V Unit :=
  if a = 0 then pure () else dropBox t a

/-- How a free method hands the address to native code: as an argument, or by
letting it read the field again. -/
inductive FreeConvention where
  | argument
  | field
  deriving DecidableEq, Repr

/-- `if (pointer != 0) { nativeFree...; pointer = 0; }`. -/
def freeObject (convention : FreeConvention) (t : NativeType) (k : Kind) (this : Ref) :
    JavaCall V Unit := do
  let a ← receiver k this
  if a = 0 then pure ()
  else do
    match convention with
    | .argument => nativeFree t a
    | .field => do
        let field ← getField k this
        nativeFree t field
    match this with
    | some i => Program.update fun w => { w with store := w.store.clear k i }
    | none => pure ()

end Primitives

end ZendooSc
