/-
ZendooSc.Exception — `exception.rs`: how a native function fails.

A native function runs inside `ffi_export!`. Its body calls the JVM, which may
leave a Java exception pending, throws with `throw!` and `throw_and_exit!`, and
panics. The macro catches the panic and throws a `RuntimeException` with its
description, inside a second catch; a panic there aborts the process.

The JVM is a parameter, `JniEnv`, with the laws of the three functions used of
it. A `Body` is a tree of JVM calls with a throw, a panic or a value at its
leaves; a call carries the proof that it keeps an exception that is pending.

`Body.pending_run` is what every step preserves: the pending exception is the
first one of those the body raised. `ffi_export_reports_first` adds the two
catches. `ffiExport_refines` connects it to the shorter `ffiExport` of
`ZendooSc.Jni` that the models of the native functions use.
-/
import ZendooSc.Jni
import ZendooSc.Lib.Program

namespace ZendooSc.Exception

open Lib Lib.Program

/-! ## Panics -/

/-- What a panic carries. Describing an error may panic, and so may dropping a
payload of another type. -/
inductive Payload where
  | str (s : String)
  | string (s : String)
  | error (toString : Except Payload String) (dropped : Option Payload)
  | other (dropped : Option Payload)

/-- How Rust code stops without a value. -/
inductive Stop where
  | panic (e : Payload)
  | abort

/-- `any_to_string`: the payload is described, then dropped. -/
def anyToString : Payload → Except Stop String
  | .str s => .ok s
  | .string s => .ok s
  | .error (.ok s) none => .ok s
  | .error (.ok _) (some e) => .error (.panic e)
  | .error (.error e) none => .error (.panic e)
  -- a panic while another one unwinds
  | .error (.error _) (some _) => .error .abort
  | .other none => .ok "Unknown error occurred"
  | .other (some e) => .error (.panic e)

section CatchUnwind

variable {σ α : Type}

/-- `catch_unwind`. -/
def catchUnwind (x : Program σ Stop α) : Program σ Stop (Except Payload α) :=
  ExceptT.mk fun s =>
    match x.exec s with
    | (.ok a, s') => (.ok (.ok a), s')
    | (.error (.panic e), s') => (.ok (.error e), s')
    | (.error .abort, s') => (.error .abort, s')

theorem exec_catchUnwind (x : Program σ Stop α) (s : σ) :
    (catchUnwind x).exec s =
      match x.exec s with
      | (.ok a, s') => (.ok (.ok a), s')
      | (.error (.panic e), s') => (.ok (.error e), s')
      | (.error .abort, s') => (.error .abort, s') := rfl

end CatchUnwind

/-! ## The JVM -/

/-- What a JNI function returns in place of a value. -/
abbrev JniError := String

/-- The part of the JVM that `exception.rs` uses, on states `σ`. -/
structure JniEnv (σ Throwable Class : Type) where
  /-- The exception Java sees when the native function returns. -/
  pending : σ → Option Throwable
  exceptionCheck : σ → Except JniError Bool
  findClass : String → σ → Except JniError Class × σ
  throwNew : Class → String → σ → Except JniError Unit × σ
  className : Class → String
  /-- The exception made from the name of a class and a message. -/
  exception : String → String → Throwable
  exceptionCheck_eq : ∀ s, exceptionCheck s = .ok (pending s).isSome
  findClass_ok : ∀ name s c s', findClass name s = (.ok c, s') →
    className c = name ∧ pending s' = pending s
  throwNew_ok : ∀ c description s s', throwNew c description s = (.ok (), s') →
    pending s' = some (exception (className c) description)

section Throwing

variable {σ Throwable Class α : Type} (J : JniEnv σ Throwable Class)

/-- `_throw_inner`. -/
def throwInner (exception description : String) : Program σ Stop Unit := do
  let check ← look J.exceptionCheck
  match check with
  | .error e => stop (.panic (.string e))
  -- a pending exception will be thrown by the JVM when the native method returns
  | .ok true => pure ()
  | .ok false => do
      let exceptionClass ← perform (J.findClass exception)
      match exceptionClass with
      | .error _ => stop (.panic (.string ("Unable to find " ++ exception ++ " class")))
      | .ok c => do
          let thrown ← perform (J.throwNew c description)
          match thrown with
          | .error _ => stop (.panic (.string ("Should be able to throw " ++ exception)))
          | .ok () => pure ()

/-- `throw!`: throws and returns the default. -/
def throwAndReturn (exception description : String) (default : α) : Program σ Stop α := do
  throwInner J exception description
  pure default

/-- `throw_and_exit!`: throws and panics. -/
def throwAndExit (exception description : String) : Program σ Stop α := do
  throwInner J exception description
  stop (.panic (.string
    ("Thrown exception: " ++ exception ++ " for reason: " ++ description)))

/-- `ffi_export!`, with what it returns in place of a value. -/
def exported (fallback : α) (body : Program σ Stop α) : Program σ Stop α := do
  let result ← catchUnwind body
  match result with
  | .ok x => pure x
  | .error e1 => do
      let thrown ← catchUnwind (do
        let description ← lift (anyToString e1)
        throwAndReturn J "java/lang/RuntimeException" description fallback)
      match thrown with
      | .ok default => pure default
      | .error e2 => do
          -- printed, outside of both catches
          let _ ← lift (anyToString e2)
          stop .abort

/-- A reference to a Java object, null or not. -/
abbrev JObject := Option ℕ

/-- `ffi_export!` for functions returning `jobject`. -/
def ffiExportJobject (body : Program σ Stop JObject) : Program σ Stop JObject :=
  exported J none body

/-- `ffi_export!` for functions returning `jbyteArray`. -/
def ffiExportJbyteArray (body : Program σ Stop JObject) : Program σ Stop JObject :=
  exported J none body

/-- `ffi_export!` for functions returning a type implementing `Default`. -/
def ffiExportDefault [Inhabited α] (body : Program σ Stop α) : Program σ Stop α :=
  exported J default body

/-- `ffi_export!` for functions returning void. -/
def ffiExportVoid (body : Program σ Stop Unit) : Program σ Stop Unit :=
  exported J () body

end Throwing

/-! ## Bodies -/

section Bodies

variable {σ Throwable Class Reply α : Type}

/-- A JNI function that a body calls. What it raises becomes pending, unless an
exception is pending already. -/
structure JniCall (J : JniEnv σ Throwable Class) (Reply : Type) where
  run : σ → Reply × σ
  raises : σ → Option Throwable
  pending_run : ∀ s, J.pending (run s).2 = (J.pending s).or (raises s)

/-- The body of a native function. -/
inductive Body (J : JniEnv σ Throwable Class) (Reply α : Type) where
  | ret (a : α)
  | jni (call : JniCall J Reply) (next : Reply → Body J Reply α)
  | throwAndReturn (exception description : String) (default : α)
  | throwAndExit (exception description : String)
  | panic (e : Payload)

variable {J : JniEnv σ Throwable Class}

def Body.run : Body J Reply α → Program σ Stop α
  | .ret a => pure a
  | .jni call next => do
      let reply ← perform call.run
      (next reply).run
  | .throwAndReturn exception description default =>
      Exception.throwAndReturn J exception description default
  | .throwAndExit exception description => Exception.throwAndExit J exception description
  | .panic e => stop (.panic e)

variable (J)

/-- What `_throw_inner` raises: its exception, also when one is pending already and
it does nothing; or what the JVM left when it failed. -/
def throwRaises (exception description : String) (s : σ) : List Throwable :=
  if (J.pending s).isSome then
    [J.exception exception description]
  else
    match J.findClass exception s with
    | (.error _, s1) => (J.pending s1).toList
    | (.ok c, s1) =>
        match J.throwNew c description s1 with
        | (.error _, s2) => (J.pending s2).toList
        | (.ok (), _) => [J.exception exception description]

variable {J}

/-- The exceptions a body raises from a state, in order, with those that come too
late. -/
def Body.raises : Body J Reply α → σ → List Throwable
  | .ret _, _ => []
  | .jni call next, s => (call.raises s).toList ++ (next (call.run s).1).raises (call.run s).2
  | .throwAndReturn exception description _, s => throwRaises J exception description s
  | .throwAndExit exception description, s => throwRaises J exception description s
  | .panic _, _ => []

/-! ## The first exception stays -/

/-- The three ways out of `_throw_inner`: an exception is pending and it does
nothing, it throws, or it panics. -/
theorem throwInner_cases (exception description : String) (s : σ) :
    ((J.pending s).isSome ∧ (throwInner J exception description).exec s = (.ok (), s)) ∨
    (J.pending s = none ∧ ∃ s', (throwInner J exception description).exec s = (.ok (), s') ∧
      J.pending s' = some (J.exception exception description) ∧
      throwRaises J exception description s = [J.exception exception description]) ∨
    (J.pending s = none ∧ ∃ message s',
      (throwInner J exception description).exec s = (.error (.panic (.string message)), s') ∧
      throwRaises J exception description s = (J.pending s').toList) := by
  rcases hpending : (J.pending s).isSome with _ | _
  case true =>
    refine Or.inl ⟨rfl, ?_⟩
    simp [throwInner, exec_look_bind, J.exceptionCheck_eq, hpending]
  have hnone : J.pending s = none := by simpa using hpending
  rcases hfind : J.findClass exception s with ⟨e | c, s1⟩
  · refine Or.inr (Or.inr ⟨hnone, "Unable to find " ++ exception ++ " class", s1, ?_, ?_⟩)
    · simp only [throwInner, exec_look_bind, J.exceptionCheck_eq, hpending, exec_perform_bind,
        hfind]
      rfl
    · simp [throwRaises, hpending, hfind]
  · obtain ⟨hname, hsame⟩ := J.findClass_ok _ _ _ _ hfind
    rcases hthrow : J.throwNew c description s1 with ⟨e | ⟨⟩, s2⟩
    · refine Or.inr (Or.inr ⟨hnone, "Should be able to throw " ++ exception, s2, ?_, ?_⟩)
      · simp only [throwInner, exec_look_bind, J.exceptionCheck_eq, hpending, exec_perform_bind,
          hfind, hthrow]
        rfl
      · simp [throwRaises, hpending, hfind, hthrow]
    · refine Or.inr (Or.inl ⟨hnone, s2, ?_, ?_, ?_⟩)
      · simp only [throwInner, exec_look_bind, J.exceptionCheck_eq, hpending, exec_perform_bind,
          hfind, hthrow]
        rfl
      · rw [J.throwNew_ok _ _ _ _ hthrow, hname]
      · simp [throwRaises, hpending, hfind, hthrow]

/-- `_throw_inner` raises its exception and keeps one that is pending. -/
theorem pending_throwInner (exception description : String) (s : σ) :
    J.pending ((throwInner J exception description).exec s).2
      = (J.pending s).or (throwRaises J exception description s).head? := by
  rcases throwInner_cases (J := J) exception description s with
    ⟨hsome, hexec⟩ | ⟨hnone, s', hexec, hpending, hraises⟩ | ⟨hnone, message, s', hexec, hraises⟩
  · obtain ⟨x, hx⟩ := Option.isSome_iff_exists.mp hsome
    rw [hexec, hx]
    rfl
  · rw [hexec, hnone, hraises, hpending]
    rfl
  · rw [hexec, hnone, hraises]
    cases J.pending s' <;> rfl

/-- The state after `throw!` or `throw_and_exit!` is the one after
`_throw_inner`. -/
theorem exec_throwInner_bind (exception description : String) (x : Program σ Stop α)
    (hx : ∀ s, (x.exec s).2 = s) (s : σ) :
    ((throwInner J exception description >>= fun _ => x).exec s).2
      = ((throwInner J exception description).exec s).2 := by
  rw [exec_bind]
  rcases (throwInner J exception description).exec s with ⟨e | ⟨⟩, s'⟩
  · rfl
  · exact hx s'

/-- Whatever a body does, the exception that is pending after it is the one that
was pending before, or else the first one it raised. -/
theorem Body.pending_run (body : Body J Reply α) (s : σ) :
    J.pending (body.run.exec s).2 = (J.pending s).or (body.raises s).head? := by
  induction body generalizing s with
  | ret a => simp [run, raises]
  | panic e => simp [run, raises]
  | throwAndReturn exception description default =>
    rw [run, Exception.throwAndReturn, exec_throwInner_bind _ _ _ (fun _ => rfl),
      pending_throwInner, raises]
  | throwAndExit exception description =>
    rw [run, Exception.throwAndExit, exec_throwInner_bind _ _ _ (fun _ => rfl),
      pending_throwInner, raises]
  | jni call next ih =>
    rw [run, exec_perform_bind, ih, call.pending_run, raises]
    cases J.pending s with
    | some x => rfl
    | none => cases call.raises s <;> simp

/-- A body returns or panics; it does not abort. -/
theorem Body.run_cases (body : Body J Reply α) (s : σ) :
    (∃ a s', body.run.exec s = (.ok a, s')) ∨
      ∃ e s', body.run.exec s = (.error (.panic e), s') := by
  induction body generalizing s with
  | ret a => exact Or.inl ⟨a, s, rfl⟩
  | panic e => exact Or.inr ⟨e, s, rfl⟩
  | jni call next ih => exact ih _ _
  | throwAndReturn exception description default =>
    rcases throwInner_cases (J := J) exception description s with
      ⟨_, hexec⟩ | ⟨_, s', hexec, _⟩ | ⟨_, message, s', hexec, _⟩
    · exact Or.inl ⟨default, s, exec_bind_ok hexec⟩
    · exact Or.inl ⟨default, s', exec_bind_ok hexec⟩
    · exact Or.inr ⟨_, s', exec_bind_error hexec⟩
  | throwAndExit exception description =>
    rcases throwInner_cases (J := J) exception description s with
      ⟨_, hexec⟩ | ⟨_, s', hexec, _⟩ | ⟨_, message, s', hexec, _⟩
    · exact Or.inr ⟨_, s, exec_bind_ok hexec⟩
    · exact Or.inr ⟨_, s', exec_bind_ok hexec⟩
    · exact Or.inr ⟨_, s', exec_bind_error hexec⟩

/-! ## The two catches -/

theorem exec_exported_ok {x : Program σ Stop α} {fallback a : α} {s s' : σ}
    (h : x.exec s = (.ok a, s')) : (exported J fallback x).exec s = (.ok a, s') := by
  simp only [exported, exec_bind, exec_catchUnwind, h]
  rfl

/-- What the second catch makes of a panic in it. -/
def secondPanic (e2 : Payload) : Stop :=
  match anyToString e2 with
  | .ok _ => .abort
  | .error stop => stop

/-- A panic is described and thrown. -/
theorem exec_exported_panic {x : Program σ Stop α} {fallback : α} {s s' : σ} {e : Payload}
    (h : x.exec s = (.error (.panic e), s')) :
    (exported J fallback x).exec s =
      match anyToString e with
      | .ok d =>
          match (throwInner J "java/lang/RuntimeException" d).exec s' with
          | (.ok (), s'') => (.ok fallback, s'')
          | (.error (.panic e2), s'') => (.error (secondPanic e2), s'')
          | (.error .abort, s'') => (.error .abort, s'')
      | .error (.panic e2) => (.error (secondPanic e2), s')
      | .error .abort => (.error .abort, s') := by
  simp only [exported, exec_bind, exec_catchUnwind, h, exec_lift, throwAndReturn]
  rcases anyToString e with (e2 | _) | d
  · simp only [secondPanic]
    rcases anyToString e2 with stop | d2
    · rfl
    · rfl
  · rfl
  · rcases hthrow : (throwInner J "java/lang/RuntimeException" d).exec s' with
      ⟨(e2 | _) | ⟨⟩, s''⟩
    · simp only [hthrow, secondPanic]
      rcases anyToString e2 with stop | d2
      · rfl
      · rfl
    · simp only [hthrow]
    · simp only [hthrow]
      rfl

/-- If describing the payload panics, that panic can be described. -/
def Describable (e : Payload) : Prop :=
  ∀ e2 e3, anyToString e = .error (.panic e2) → anyToString e2 ≠ .error (.panic e3)

theorem Describable.secondPanic {e e2 : Payload} (h : Describable e)
    (he2 : anyToString e = .error (.panic e2)) : secondPanic e2 = .abort := by
  unfold Exception.secondPanic
  rcases hd : anyToString e2 with (e3 | _) | d
  · exact absurd hd (h e2 e3 he2)
  · rfl
  · rfl

/-- What Java sees of a run of a body from the state `s`. -/
def Reports (J : JniEnv σ Throwable Class) (fallback : α) (body : Body J Reply α)
    (exported : Program σ Stop α) (s : σ) : Prop :=
  match body.run.exec s with
  | (.ok a, s') => exported.exec s = (.ok a, s') ∧ J.pending s' = (body.raises s).head?
  | (.error (.panic e), s') => Describable e →
      (∃ s'' x, exported.exec s = (.ok fallback, s'') ∧ J.pending s'' = some x ∧
        ((body.raises s).head? = some x ∨
          body.raises s = [] ∧ ∃ d, anyToString e = .ok d ∧
            x = J.exception "java/lang/RuntimeException" d)) ∨
      (∃ s'', exported.exec s = (.error .abort, s'') ∧
        ((∀ d, anyToString e ≠ .ok d) ∨
          body.raises s = [] ∧ ∃ d e2, anyToString e = .ok d ∧
            ((throwInner J "java/lang/RuntimeException" d).exec s').1 = .error (.panic e2)))
  | (.error .abort, _) => False

/-- The macro on any body, with any value in place of the result. -/
theorem exported_reports (fallback : α) (body : Body J Reply α) {s : σ}
    (hs : J.pending s = none) : Reports J fallback body (exported J fallback body.run) s := by
  have hpending := body.pending_run s
  rw [hs, Option.none_or] at hpending
  rcases body.run_cases s with ⟨a, s', hrun⟩ | ⟨e, s', hrun⟩
  · rw [hrun] at hpending
    simp only [Reports, hrun]
    exact ⟨exec_exported_ok hrun, hpending⟩
  rw [hrun] at hpending
  simp only [Reports, hrun, exec_exported_panic hrun]
  intro hdescribable
  rcases hd : anyToString e with (e2 | _) | d
  · refine Or.inr ⟨s', ?_, Or.inl (by simp)⟩
    simp only [hdescribable.secondPanic hd]
  · exact Or.inr ⟨s', rfl, Or.inl (by simp)⟩
  -- the payload is described, so what `_throw_inner` does decides
  rcases throwInner_cases (J := J) "java/lang/RuntimeException" d s' with
    ⟨hsome, hexec⟩ | ⟨hnone, s'', hexec, hthrown, _⟩ | ⟨hnone, message, s'', hexec, _⟩
  · obtain ⟨x, hx⟩ := Option.isSome_iff_exists.mp hsome
    refine Or.inl ⟨s', x, ?_, hx, Or.inl ?_⟩
    · simp only [hexec]
    · rw [← hpending]
      exact hx
  · have hempty : body.raises s = [] := List.head?_eq_none_iff.mp (hpending.symm.trans hnone)
    refine Or.inl ⟨s'', _, ?_, hthrown, Or.inr ⟨hempty, d, rfl, rfl⟩⟩
    simp only [hexec]
  · have hempty : body.raises s = [] := List.head?_eq_none_iff.mp (hpending.symm.trans hnone)
    refine Or.inr ⟨s'', ?_, Or.inr ⟨hempty, d, .string message, rfl, ?_⟩⟩
    · simp only [hexec]
      rfl
    · rw [hexec]

/-- All four forms of `ffi_export!`, on every body. A normal return passes the
value and the pending exception through. After a panic whose description can be
told, the result is null or the default with the first exception of the body
pending, a `RuntimeException` with the description if the body raised none; or
the process aborts, and then describing the payload or throwing the
`RuntimeException` failed. -/
theorem ffi_export_reports_first (J : JniEnv σ Throwable Class) (s : σ)
    (hs : J.pending s = none) :
    (∀ body : Body J Reply JObject, Reports J none body (ffiExportJobject J body.run) s) ∧
    (∀ body : Body J Reply JObject, Reports J none body (ffiExportJbyteArray J body.run) s) ∧
    (∀ (β : Type) [Inhabited β] (body : Body J Reply β),
      Reports J default body (ffiExportDefault J body.run) s) ∧
    ∀ body : Body J Reply Unit, Reports J () body (ffiExportVoid J body.run) s :=
  ⟨fun body => exported_reports none body hs, fun body => exported_reports none body hs,
    fun _ _ body => exported_reports default body hs, fun body => exported_reports () body hs⟩

/-! ## A JVM -/

/-- A JVM that finds every class and can throw. -/
def plainJvm : JniEnv (Option (String × String)) (String × String) String where
  pending s := s
  exceptionCheck s := .ok s.isSome
  findClass name s := (.ok name, s)
  throwNew c description _ := (.ok (), some (c, description))
  className c := c
  exception name description := (name, description)
  exceptionCheck_eq _ := rfl
  findClass_ok name s c s' h := by
    cases h
    exact ⟨rfl, rfl⟩
  throwNew_ok c description s s' h := by
    cases h
    rfl

/-- A call on a null reference. -/
def nullCall : JniCall plainJvm Unit where
  run s := ((), s.or (some ("java/lang/NullPointerException", "Received null pointer")))
  raises _ := some ("java/lang/NullPointerException", "Received null pointer")
  pending_run _ := rfl

/-- Three failures, of which Java sees the first. -/
theorem ffi_export_reports_first_plain :
    Reports plainJvm none
      (.jni nullCall fun _ => .throwAndExit "java/lang/Exception" "second" :
        Body plainJvm Unit JObject)
      (ffiExportJobject plainJvm
        (.jni nullCall fun _ => .throwAndExit "java/lang/Exception" "second" :
          Body plainJvm Unit JObject).run) none :=
  (ffi_export_reports_first plainJvm none rfl).1 _

/-- A body with an exception pending that panics with an error whose description
panics. -/
def undescribed : Body plainJvm Unit JObject :=
  .jni nullCall fun _ => .panic (.error
    (.error (.str "a Display implementation returned an error unexpectedly: Error")) none)

/-- The process aborts, although the exception is pending and throwing a
`RuntimeException` never fails. -/
theorem ffi_export_aborts_undescribed :
    (ffiExportJobject plainJvm undescribed.run).exec none
        = (.error .abort, some ("java/lang/NullPointerException", "Received null pointer")) ∧
      ∀ description s,
        ((throwInner plainJvm "java/lang/RuntimeException" description).exec s).1 = .ok () := by
  refine ⟨rfl, fun description s => ?_⟩
  cases s
  · rfl
  · rfl

/-! ## The models of the native functions -/

/-- A computation that ends in a value or a panic, as a body. -/
def bodyOf (J : JniEnv σ Throwable Class) (message : Panic → String) :
    Except Panic α → Body J Reply α
  | .ok a => .ret a
  | .error .nullPointer =>
      .throwAndExit "java/lang/NullPointerException" "Received null pointer"
  | .error e => .panic (.string (message e))

/-- A JVM in which throwing does not fail. -/
def Throws (J : JniEnv σ Throwable Class) : Prop :=
  ∀ exception description s, ((throwInner J exception description).exec s).1 = .ok ()

theorem Throws.exec (hJ : Throws J) (exception description : String) {s : σ}
    (hs : J.pending s = none) :
    ∃ s', (throwInner J exception description).exec s = (.ok (), s') ∧
      J.pending s' = some (J.exception exception description) := by
  have hok := hJ exception description s
  rcases throwInner_cases (J := J) exception description s with
    ⟨hsome, _⟩ | ⟨_, s', hexec, hpending, _⟩ | ⟨_, message, s', hexec, _⟩
  · rw [hs] at hsome
    cases hsome
  · exact ⟨s', hexec, hpending⟩
  · rw [hexec] at hok
    cases hok

/-- A second throw changes nothing. -/
theorem exec_throwInner_of_pending (exception description : String) {s : σ} {x : Throwable}
    (hs : J.pending s = some x) :
    (throwInner J exception description).exec s = (.ok (), s) := by
  rcases throwInner_cases (J := J) exception description s with
    ⟨_, hexec⟩ | ⟨hnone, _⟩ | ⟨hnone, _⟩
  · exact hexec
  · rw [hs] at hnone
    cases hnone
  · rw [hs] at hnone
    cases hnone

theorem bodyOf_error (message : Panic → String) {e : Panic} (he : e ≠ .nullPointer) :
    (bodyOf J message (.error e) : Body J Reply α) = .panic (.string (message e)) := by
  cases e <;> first | rfl | exact absurd rfl he

theorem ffiExport_error {e : Panic} (he : e ≠ .nullPointer) :
    (ffiExport (.error e) : JavaResult α) = .thrown (.runtime e) := by
  cases e <;> first | rfl | exact absurd rfl he

/-- Where throwing does not fail, `ffiExport` of `ZendooSc.Jni` says what Java
gets: the value, or the exception that is pending. -/
theorem ffiExport_refines (hJ : Throws J) (message : Panic → String) (fallback : α)
    (x : Except Panic α) {s : σ} (hs : J.pending s = none) :
    ∃ r s', (exported J fallback (bodyOf J message x : Body J Reply α).run).exec s = (.ok r, s') ∧
      match ffiExport x with
      | .returned a => r = a ∧ J.pending s' = none
      | .thrown .nullPointer => r = fallback ∧ J.pending s'
          = some (J.exception "java/lang/NullPointerException" "Received null pointer")
      | .thrown (.runtime e) => r = fallback ∧ J.pending s'
          = some (J.exception "java/lang/RuntimeException" (message e))
      | .thrown _ => False := by
  rcases x with e | a
  · by_cases he : e = .nullPointer
    · subst he
      obtain ⟨s', hthrow, hpending⟩ :=
        hJ.exec "java/lang/NullPointerException" "Received null pointer" hs
      have hrun : (bodyOf J message (.error .nullPointer) : Body J Reply α).run.exec s
          = (.error (.panic (.string ("Thrown exception: " ++ "java/lang/NullPointerException" ++
              " for reason: " ++ "Received null pointer"))), s') := exec_bind_ok hthrow
      refine ⟨fallback, s', ?_, rfl, hpending⟩
      rw [exec_exported_panic hrun]
      simp only [anyToString, exec_throwInner_of_pending _ _ hpending]
    · obtain ⟨s', hthrow, hpending⟩ := hJ.exec "java/lang/RuntimeException" (message e) hs
      have hrun : (bodyOf J message (.error e) : Body J Reply α).run.exec s
          = (.error (.panic (.string (message e))), s) := by
        rw [bodyOf_error message he]
        rfl
      refine ⟨fallback, s', ?_, ?_⟩
      · rw [exec_exported_panic hrun]
        simp only [anyToString, hthrow]
      · rw [ffiExport_error he]
        exact ⟨rfl, hpending⟩
  · exact ⟨a, s, exec_exported_ok rfl, rfl, hs⟩

theorem plainJvm_throws : Throws plainJvm := by
  intro exception description s
  cases s with
  | _ => rfl

/-- A native function that panics. -/
def panicking (e : Panic) : Body plainJvm Unit JObject :=
  bodyOf plainJvm (fun _ => "unwrap") (.error e)

/-- A missing reference and a failed `unwrap`. -/
theorem ffiExport_refines_plain :
    (∃ r s', (exported plainJvm none (panicking .nullPointer).run).exec none = (.ok r, s') ∧
        r = none ∧ plainJvm.pending s' =
          some ("java/lang/NullPointerException", "Received null pointer")) ∧
      ∃ r s', (exported plainJvm none (panicking .unwrapError).run).exec none = (.ok r, s') ∧
        r = none ∧ plainJvm.pending s' = some ("java/lang/RuntimeException", "unwrap") :=
  ⟨ffiExport_refines plainJvm_throws (fun _ => "unwrap") none (.error .nullPointer) rfl,
    ffiExport_refines plainJvm_throws (fun _ => "unwrap") none (.error .unwrapError) rfl⟩

end Bodies

end ZendooSc.Exception
