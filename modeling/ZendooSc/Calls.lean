/-
ZendooSc.Calls — what a call of the Rust code can come to.

A call returns a value, returns an error, or panics. `Call` has the three
outcomes in one monad: `ExceptT Error` for what `?` passes on, under
`Except Panic` for what nothing in Rust handles. `ZendooSc.Jni` says what Java
sees of the three.

A successful call is written `x = pure a`. `bind_eq_pure` takes a successful
sequence of calls apart, which is how a proof walks a function backwards.
-/
import Mathlib.Data.Nat.Notation

namespace ZendooSc

/-- The ways this code panics. -/
inductive Panic where
  | assertEq (left right : ℕ)
  | subtractOverflow
  | unwrapNone
  | unwrapError
  | unimplemented
  | indexOutOfBounds
  | nullPointer
  | other (message : String)
  deriving DecidableEq, Repr

/-- `ProvingSystem`, the tag in front of every key and proof. -/
inductive ProvingSystem where
  | undefined
  | darlin
  | coboundaryMarlin
  deriving DecidableEq, Repr

/-- The errors the modelled functions return themselves, and any error a
library call returned. -/
inductive Error where
  | provingSystemMismatch
  | undefinedProvingSystem
  | setupFailed (message : String)
  | hashInputLength
  | library (what : String)
  deriving DecidableEq, Repr

/-- A call returns a value or an error, or panics. -/
abbrev Call (α : Type) := ExceptT Error (Except Panic) α

/-- A library call that returned a `Result`, with `?`. -/
def fromResult {α : Type} (r : Except Error α) : Call α :=
  ExceptT.mk (.ok r)

def panicWith {α : Type} (e : Panic) : Call α :=
  ExceptT.mk (.error e)

/-- `assert_eq!`. -/
def assertEqual (left right : ℕ) : Call Unit :=
  if left = right then pure () else panicWith (.assertEq left right)

@[simp] theorem fromResult_ok {α : Type} (a : α) : fromResult (.ok a) = pure a := rfl

theorem fromResult_eq_pure {α : Type} {r : Except Error α} {a : α}
    (h : fromResult r = pure a) : r = .ok a := by
  have h' : (Except.ok r : Except Panic (Except Error α)) = .ok (.ok a) := h
  exact Except.ok.inj h'

/-- A sequence of calls returns a value when its parts do. -/
theorem bind_eq_pure {α β : Type} {x : Call α} {f : α → Call β} {b : β}
    (h : x >>= f = pure b) : ∃ a, x = pure a ∧ f a = pure b := by
  match x, h with
  | .error e, h => cases h
  | .ok (.error e), h => cases h
  | .ok (.ok a), h => exact ⟨a, rfl, h⟩

theorem pure_injective {α : Type} {a b : α} (h : (pure a : Call α) = pure b) : a = b := by
  have h' : (Except.ok (Except.ok a) : Except Panic (Except Error α)) = .ok (.ok b) := h
  exact Except.ok.inj (Except.ok.inj h')

@[simp] theorem fromResult_error_bind {α β : Type} (e : Error) (f : α → Call β) :
    (fromResult (.error e) : Call α) >>= f = fromResult (.error e) := rfl

@[simp] theorem fromResult_error_map {α β : Type} (e : Error) (f : α → β) :
    f <$> (fromResult (.error e) : Call α) = fromResult (.error e) := rfl

@[simp] theorem panicWith_bind {α β : Type} (e : Panic) (f : α → Call β) :
    (panicWith e : Call α) >>= f = panicWith e := rfl

theorem fromResult_error_ne_pure {α : Type} (e : Error) (a : α) :
    (fromResult (.error e) : Call α) ≠ pure a := by
  intro h
  cases fromResult_eq_pure h

/-- A panic is neither an error nor a value. -/
theorem panicWith_ne {α : Type} (e : Panic) :
    (∀ e', (panicWith e : Call α) ≠ fromResult (.error e')) ∧
      ∀ a, (panicWith e : Call α) ≠ pure a := by
  refine ⟨fun e' h => ?_, fun a h => ?_⟩
  · have h' : (Except.error e : Except Panic (Except Error α)) = .ok (.error e') := h
    cases h'
  · have h' : (Except.error e : Except Panic (Except Error α)) = .ok (.ok a) := h
    cases h'

@[simp] theorem assertEqual_self (n : ℕ) : assertEqual n n = pure () := by
  rw [assertEqual, if_pos rfl]

end ZendooSc
