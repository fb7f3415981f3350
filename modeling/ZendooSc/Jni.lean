/-
ZendooSc.Jni — the boundary between Java and the native functions.

A native function is exported through `ffi_export!`, which catches a panic and
throws a `RuntimeException` in its place. One panic is different: reading a
null pointer throws a `NullPointerException` first, and the macro leaves a
pending exception alone.

The arguments are what Java can pass. An array, a string or an object may be
null, which the native side meets with `expect`. A string may have a character that
`to_str` does not read: U+0000, one beyond the basic plane, or half of one. An
object that stands for a native value may also have been freed: its pointer field
is then zero.
-/
import ZendooSc.Calls

namespace ZendooSc

/-- The exceptions Java sees from this code. -/
inductive JavaException where
  | runtime (e : Panic)
  | nullPointer
  | illegalArgument (message : String)
  | illegalState (message : String)
  deriving DecidableEq, Repr

/-- A Java call returns a value or throws. -/
inductive JavaResult (α : Type) where
  | returned (a : α)
  | thrown (e : JavaException)
  deriving DecidableEq, Repr

namespace JavaResult

variable {α β : Type}

def bind (x : JavaResult α) (f : α → JavaResult β) : JavaResult β :=
  match x with
  | returned a => f a
  | thrown e => thrown e

end JavaResult

/-- `ffi_export!`: a panic becomes a `RuntimeException`, unless an exception
is already pending. -/
def ffiExport {α : Type} (body : Except Panic α) : JavaResult α :=
  match body with
  | .ok a => .returned a
  | .error .nullPointer => .thrown .nullPointer
  | .error e => .thrown (.runtime e)

@[simp] theorem ffiExport_ok {α : Type} (a : α) :
    ffiExport (.ok a : Except Panic α) = .returned a := rfl

theorem ffiExport_eq_returned {α : Type} {body : Except Panic α} {a : α} :
    ffiExport body = .returned a ↔ body = .ok a := by
  rcases body with e | b
  · constructor
    · intro h
      cases e <;> cases h
    · intro h
      cases h
  · simp

/-! ## Reading arguments -/

/-- A Java reference to an object with a native pointer. -/
inductive Handle (α : Type) where
  | null
  | freed
  | live (value : α)

/-- `get_field`, then `read_raw_pointer`. -/
def readHandle {α : Type} : Handle α → Except Panic α
  | .null => .error .unwrapError
  | .freed => .error .nullPointer
  | .live a => .ok a

/-- A JNI function on a reference, with `expect`. -/
def expectRef {α : Type} : Option α → Except Panic α
  | none => .error .unwrapError
  | some a => .ok a

/-- `convert_byte_array`, with `expect`. -/
def convertByteArray (bytes : Option (List UInt8)) : Except Panic (List UInt8) :=
  expectRef bytes

/-- A Java string: its UTF-16 units, which need not be those of a text. -/
abbrev JavaString := List UInt16

/-- The character of a unit. JNI hands out modified UTF-8, in which zero has two bytes
and a surrogate three; neither is UTF-8, whatever stands next to it. -/
def decodeUnit (u : UInt16) : Option Char :=
  if u = 0 ∨ (0xD800 ≤ u ∧ u ≤ 0xDFFF) then none else some (Char.ofNat u.toNat)

/-- `to_str`, on what JNI hands out. -/
def toStr (s : JavaString) : Option String :=
  (s.mapM decodeUnit).map String.ofList

/-- `get_string`, with `expect`, and `to_str`, with `unwrap`. -/
def getString (s : Option JavaString) : Except Panic String := do
  let s ← expectRef s
  match toStr s with
  | some s => .ok s
  | none => .error .unwrapError

/-- The Java string of a text in the basic plane. -/
def javaText (s : String) : JavaString :=
  s.toList.map fun c => UInt16.ofNat c.toNat

theorem getString_unreadable {units : JavaString} (h : toStr units = none) :
    getString (some units) = .error .unwrapError := by
  simp [getString, expectRef, h, bind, Except.bind]

theorem getString_eq_ok {s : Option JavaString} {path : String} :
    getString s = .ok path ↔ ∃ units, s = some units ∧ toStr units = some path := by
  rcases s with _ | units
  · constructor
    · intro h
      cases h
    · rintro ⟨_, h, -⟩
      cases h
  · rcases h : toStr units with _ | str
    · simp [getString, expectRef, h, bind, Except.bind]
    · simp [getString, expectRef, h, bind, Except.bind]

/-- `[u8; n]`. -/
abbrev FixedBytes (n : ℕ) := { bytes : List UInt8 // bytes.length = n }

/-- `try_into` a fixed buffer, with `expect`. -/
def tryIntoFixed (n : ℕ) (bytes : List UInt8) : Except Panic (FixedBytes n) :=
  if h : bytes.length = n then .ok ⟨bytes, h⟩ else .error .unwrapError

/-! ## Backward transfers -/

/-- The Java object `BackwardTransfer`. Its constructor checks nothing. -/
structure JavaBackwardTransfer where
  publicKeyHash : Option (List UInt8)
  amount : Int64

/-- `BackwardTransfer` of cctp-lib. -/
structure BackwardTransfer where
  pkDest : FixedBytes 20
  amount : UInt64

/-- One round of the loop over `_bt_list`. -/
def readBackwardTransfer (o : Option JavaBackwardTransfer) : Except Panic BackwardTransfer := do
  let o ← expectRef o
  let p ← convertByteArray o.publicKeyHash
  let pk ← tryIntoFixed 20 p
  pure ⟨pk, o.amount.toUInt64⟩

end ZendooSc
