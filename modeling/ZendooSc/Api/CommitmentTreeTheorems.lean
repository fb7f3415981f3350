/-
ZendooSc.Api.CommitmentTreeTheorems — what the decoders of the commitment tree
accept, and which arguments they confuse.

An argument of fixed width is read strictly by `parse` and `tryInto`. `copy`
takes shorter arrays too, and fills them up with zeros. `element` takes longer
ones, and ignores the rest. So a call may reach the tree with arguments of a
wrong width, and two calls that differ may reach it with the same data.

Every decoder is described by a `Decodes`, and the descriptions of the five
entry points are put together from those of their arguments. `strict_iff` and
`neverAliases_iff` draw the two conclusions once, for any entry point;
`byte_arguments_iff` has them for the five.
-/
import ZendooSc.Api.CommitmentTree
import Mathlib.Tactic.Tauto

namespace ZendooSc

open Lib

/-! ## Arguments of fixed width -/

/-- The ways an argument of fixed width is read. -/
inductive ByteDecoder where
  | parse
  | copy
  | element
  | tryInto
  deriving DecidableEq, Repr

/-- An argument of fixed width: how it is read, its width, the bytes given. -/
structure FixedArg where
  decoder : ByteDecoder
  width : ℕ
  bytes : Option (List UInt8)
  deriving DecidableEq, Repr

/-- The argument has exactly its width. -/
def FixedArg.Exact (arg : FixedArg) : Prop :=
  ∃ bs, arg.bytes = some bs ∧ bs.length = arg.width

/-- The decoder of the argument takes it. -/
def FixedArg.Accepted {F : Type} (deserialize : List UInt8 → Option F) (arg : FixedArg) : Prop :=
  ∃ bs, arg.bytes = some bs ∧
    match arg.decoder with
    | .parse => bs.length = arg.width ∧ (deserialize bs).isSome
    | .copy => bs.length ≤ arg.width
    | .element => (deserialize bs).isSome
    | .tryInto => bs.length = arg.width

/-- What a zeroed buffer of `n` bytes holds after the copy. -/
def padded (n : ℕ) (bytes : Option (List UInt8)) : Option (List UInt8) :=
  bytes.map fun bs => bs ++ List.replicate (n - bs.length) 0

/-- What `FieldElement::deserialize` looks at. -/
def front (bytes : Option (List UInt8)) : Option (List UInt8) :=
  bytes.map (List.take fieldSize)

/-- What is documented of `FieldElement::deserialize`: it reads `FIELD_SIZE`
bytes from the front, and no two such strings give the same element. -/
structure FieldElementLaws {F : Type} (deserialize : List UInt8 → Option F) : Prop where
  short : ∀ bytes, bytes.length < fieldSize → deserialize bytes = none
  reads : ∀ bytes, deserialize bytes = deserialize (bytes.take fieldSize)
  injective : ∀ bytes bytes' x, bytes.length = fieldSize → bytes'.length = fieldSize →
    deserialize bytes = some x → deserialize bytes' = some x → bytes = bytes'

/-! ## The copy loop -/

/-- The loop writes what it is given over the buffer, if it fits. -/
theorem copyInto_val {n : ℕ} (src : List UInt8) (buffer : FixedBytes n) (pos : ℕ)
    (h : pos + src.length ≤ n) :
    ∃ out, copyInto buffer pos src = .ok out
      ∧ out.val = buffer.val.take pos ++ src ++ buffer.val.drop (pos + src.length) := by
  induction src generalizing buffer pos with
  | nil =>
      refine ⟨buffer, rfl, ?_⟩
      simp
  | cons e rest ih =>
      simp only [List.length_cons] at h
      have hpos : pos < n := by omega
      have hlen : pos < buffer.val.length := by rw [buffer.property]; exact hpos
      unfold copyInto
      rw [if_pos hpos]
      obtain ⟨out, hrun, hout⟩ :=
        ih ⟨buffer.val.set pos e, by rw [List.length_set, buffer.property]⟩ (pos + 1) (by omega)
      refine ⟨out, hrun, ?_⟩
      have htake : (buffer.val.set pos e).take (pos + 1) = buffer.val.take pos ++ [e] := by
        rw [List.take_add_one, List.getElem?_set_self hlen, List.take_set_of_le (Nat.le_refl _)]
        rfl
      have hdrop : (buffer.val.set pos e).drop (pos + 1 + rest.length)
          = buffer.val.drop (pos + (rest.length + 1)) := by
        rw [List.drop_set_of_lt (by omega)]
        congr 1
        omega
      rw [hout, htake, hdrop, List.length_cons, List.append_assoc _ [e]]
      rfl

/-- It panics on a byte past the end. -/
theorem copyInto_error {n : ℕ} (src : List UInt8) (buffer : FixedBytes n) (pos : ℕ)
    (hpos : pos ≤ n) (h : n < pos + src.length) :
    copyInto buffer pos src = .error .indexOutOfBounds := by
  induction src generalizing buffer pos with
  | nil =>
      simp only [List.length_nil] at h
      omega
  | cons e rest ih =>
      simp only [List.length_cons] at h
      unfold copyInto
      by_cases hlt : pos < n
      · rw [if_pos hlt]
        exact ih _ (pos + 1) (by omega) (by omega)
      · rw [if_neg hlt]

/-- `get_byte_array` takes what fits and pads it. -/
theorem getByteArray_some {n : ℕ} {bs : List UInt8} (h : bs.length ≤ n) :
    ∃ out, getByteArray (some bs) n = .ok out
      ∧ out.val = bs ++ List.replicate (n - bs.length) 0 := by
  obtain ⟨out, hrun, hout⟩ := copyInto_val bs (zeroed n) 0 (by omega)
  refine ⟨out, hrun, ?_⟩
  rw [hout]
  simp [zeroed]

theorem getByteArray_long {n : ℕ} {bs : List UInt8} (h : n < bs.length) :
    getByteArray (some bs) n = .error .indexOutOfBounds :=
  copyInto_error bs (zeroed n) 0 (Nat.zero_le n) (by omega)

/-! ## The decoders of one argument -/

section Arguments

variable {F : Type} {deserialize : List UInt8 → Option F}

theorem int64_toUInt64_injective : Function.Injective Int64.toUInt64 := by
  intro a b h
  cases a
  cases b
  cases h
  rfl

theorem int32_toUInt32_injective : Function.Injective Int32.toUInt32 := by
  intro a b h
  cases a
  cases b
  cases h
  rfl

theorem int8_toUInt8_injective : Function.Injective Int8.toUInt8 := by
  intro a b h
  cases a
  cases b
  cases h
  rfl

/-- A reference that must be there, as it is. -/
theorem expectRef_decodes {α : Type} :
    Decodes (fun o : Option α => orPanic (expectRef o)) (fun o => o.isSome = true) id where
  accepts o := by
    cases o with
    | none => simp [expectRef, orPanic, Except.mapError]
    | some a => simp [expectRef, orPanic, Except.mapError]
  views o o' ho ho' := by
    obtain ⟨a, rfl⟩ := Option.isSome_iff_exists.mp ho
    obtain ⟨a', rfl⟩ := Option.isSome_iff_exists.mp ho'
    simp [expectRef, orPanic, Except.mapError]

theorem convertByteArray_decodes :
    Decodes (fun b => orPanic (convertByteArray b)) (fun b => b.isSome = true) id :=
  expectRef_decodes

/-- The copy takes anything that is not too long, and sees it padded. -/
theorem getByteArray_decodes (deserialize : List UInt8 → Option F) (n : ℕ) :
    Decodes (fun b => orPanic (getByteArray b n))
      (fun b => FixedArg.Accepted deserialize ⟨.copy, n, b⟩) (padded n) := by
  have hdecodes : Decodes (fun b => getByteArray b n)
      (fun b => FixedArg.Accepted deserialize ⟨.copy, n, b⟩) (padded n) := by
    constructor
    case accepts =>
      intro b
      constructor
      · rintro ⟨out, hout⟩
        cases b with
        | none => cases hout
        | some bs =>
            refine ⟨bs, rfl, ?_⟩
            by_contra hlong
            rw [getByteArray_long (Nat.lt_of_not_le hlong)] at hout
            cases hout
      · rintro ⟨bs, hbs, hle⟩
        cases hbs
        obtain ⟨out, hout, -⟩ := getByteArray_some hle
        exact ⟨out, hout⟩
    case views =>
      rintro b b' ⟨bs, hbs, hle⟩ ⟨bs', hbs', hle'⟩
      cases hbs
      cases hbs'
      obtain ⟨out, hout, hval⟩ := getByteArray_some hle
      obtain ⟨out', hout', hval'⟩ := getByteArray_some hle'
      rw [hout, hout', Except.ok.injEq, Subtype.ext_iff, hval, hval']
      simp [padded]
  exact hdecodes.mapError Refusal.panic

theorem deserializeOr_eq_ok {e : Refusal} {bs : List UInt8} {x : F} :
    deserializeOr deserialize e bs = .ok x ↔ deserialize bs = some x := by
  unfold deserializeOr
  rcases deserialize bs with _ | y
  · simp
  · simp

theorem parseJbyteArrayToVec_some {bs : List UInt8} {n : ℕ} :
    (bs.length = n → parseJbyteArrayToVec (some bs) n = .ok bs)
    ∧ (bs.length ≠ n → ∃ e, parseJbyteArrayToVec (some bs) n = .error e) := by
  constructor
  · intro h
    exact if_neg (not_not.mpr h)
  · intro h
    exact ⟨_, if_pos h⟩

theorem readFieldElement_eq_ok {e : Refusal} {b : Option (List UInt8)} {x : F} :
    readFieldElement deserialize e b = .ok x ↔
      ∃ bs, b = some bs ∧ bs.length = fieldSize ∧ deserialize bs = some x := by
  cases b with
  | none =>
      constructor
      · intro h
        cases h
      · rintro ⟨bs, hbs, -⟩
        cases hbs
  | some bs =>
      by_cases hlen : bs.length = fieldSize
      · have hrun : readFieldElement deserialize e (some bs) = deserializeOr deserialize e bs := by
          unfold readFieldElement
          rw [parseJbyteArrayToVec_some.1 hlen]
          rfl
        rw [hrun, deserializeOr_eq_ok]
        simp [hlen]
      · obtain ⟨e', he'⟩ := parseJbyteArrayToVec_some.2 hlen
        have hrun : readFieldElement deserialize e (some bs) = .error (.panic e') := by
          unfold readFieldElement
          rw [he']
          rfl
        rw [hrun]
        simp [hlen]

/-- A parsed field element has its exact width, and is seen as it is. -/
theorem readFieldElement_decodes (hlaws : FieldElementLaws deserialize) (e : Refusal) :
    Decodes (readFieldElement deserialize e)
      (fun b => FixedArg.Accepted deserialize ⟨.parse, fieldSize, b⟩) id where
  accepts b := by
    constructor
    · rintro ⟨x, hx⟩
      obtain ⟨bs, hbs, hlen, hde⟩ := readFieldElement_eq_ok.mp hx
      exact ⟨bs, hbs, hlen, by rw [hde]; rfl⟩
    · rintro ⟨bs, hbs, hlen, hde⟩
      obtain ⟨x, hx⟩ := Option.isSome_iff_exists.mp hde
      exact ⟨x, readFieldElement_eq_ok.mpr ⟨bs, hbs, hlen, hx⟩⟩
  views b b' hb hb' := by
    obtain ⟨bs, hbs, hlen, hde⟩ := hb
    obtain ⟨bs', hbs', hlen', hde'⟩ := hb'
    obtain ⟨x, hx⟩ := Option.isSome_iff_exists.mp hde
    obtain ⟨x', hx'⟩ := Option.isSome_iff_exists.mp hde'
    have hrun : readFieldElement deserialize e b = .ok x :=
      readFieldElement_eq_ok.mpr ⟨bs, hbs, hlen, hx⟩
    have hrun' : readFieldElement deserialize e b' = .ok x' :=
      readFieldElement_eq_ok.mpr ⟨bs', hbs', hlen', hx'⟩
    constructor
    · intro heq
      rw [hrun, hrun', Except.ok.injEq] at heq
      subst heq
      have hsame := hlaws.injective bs bs' x hlen hlen' hx hx'
      exact hbs.trans ((congrArg some hsame).trans hbs'.symm)
    · intro heq
      exact congrArg _ heq

/-- An element of an array may be longer than its width, and only its front is
seen. -/
theorem readElement_decodes (hlaws : FieldElementLaws deserialize) :
    Decodes (readElement deserialize)
      (fun b => FixedArg.Accepted deserialize ⟨.element, fieldSize, b⟩) front where
  accepts b := by
    cases b with
    | none =>
        constructor
        · rintro ⟨x, hx⟩
          cases hx
        · rintro ⟨bs, hbs, -⟩
          cases hbs
    | some bs =>
        have hrun : ∀ x, readElement deserialize (some bs) = .ok x ↔ deserialize bs = some x :=
          fun x => deserializeOr_eq_ok
        constructor
        · rintro ⟨x, hx⟩
          exact ⟨bs, rfl, Option.isSome_iff_exists.mpr ⟨x, (hrun x).mp hx⟩⟩
        · rintro ⟨bs', hbs', hde⟩
          cases hbs'
          obtain ⟨x, hx⟩ := Option.isSome_iff_exists.mp hde
          exact ⟨x, (hrun x).mpr hx⟩
  views b b' hb hb' := by
    obtain ⟨bs, rfl, hde⟩ := hb
    obtain ⟨bs', rfl, hde'⟩ := hb'
    obtain ⟨x, hx⟩ := Option.isSome_iff_exists.mp hde
    obtain ⟨x', hx'⟩ := Option.isSome_iff_exists.mp hde'
    have hrun : readElement deserialize (some bs) = .ok x := deserializeOr_eq_ok.mpr hx
    have hrun' : readElement deserialize (some bs') = .ok x' := deserializeOr_eq_ok.mpr hx'
    have hwide : ∀ {cs : List UInt8} {y : F}, deserialize cs = some y →
        (cs.take fieldSize).length = fieldSize := by
      intro cs y hcs
      rw [List.length_take]
      by_contra hshort
      rw [hlaws.short cs (by omega)] at hcs
      cases hcs
    rw [hrun, hrun', Except.ok.injEq]
    constructor
    · intro heq
      subst heq
      rw [hlaws.reads] at hx hx'
      exact congrArg some (hlaws.injective _ _ x (hwide ((hlaws.reads bs).trans hx))
        (hwide ((hlaws.reads bs').trans hx')) hx hx')
    · intro heq
      have htake : bs.take fieldSize = bs'.take fieldSize := Option.some_injective _ heq
      rw [hlaws.reads, htake, ← hlaws.reads, hx'] at hx
      exact (Option.some_injective _ hx).symm

theorem readBackwardTransfer_eq_ok {o : Option JavaBackwardTransfer} {bt : BackwardTransfer} :
    readBackwardTransfer o = .ok bt ↔
      o.bind (·.publicKeyHash) = some bt.pkDest.val
        ∧ o.map (·.amount.toUInt64) = some bt.amount := by
  obtain ⟨⟨pk, hpk⟩, amount⟩ := bt
  rcases o with _ | ⟨_ | bs, a⟩
  · constructor
    · intro h
      cases h
    · rintro ⟨h, -⟩
      cases h
  · constructor
    · intro h
      cases h
    · rintro ⟨h, -⟩
      cases h
  · by_cases hlen : bs.length = 20
    · have hrun : readBackwardTransfer (some ⟨some bs, a⟩)
          = .ok ⟨⟨bs, hlen⟩, a.toUInt64⟩ := by
        change (tryIntoFixed 20 bs >>= fun pk =>
          (pure ⟨pk, a.toUInt64⟩ : Except Panic BackwardTransfer)) = _
        rw [tryIntoFixed, dif_pos hlen]
        rfl
      rw [hrun]
      simp
    · have hrun : readBackwardTransfer (some ⟨some bs, a⟩) = .error .unwrapError := by
        change (tryIntoFixed 20 bs >>= fun pk =>
          (pure ⟨pk, a.toUInt64⟩ : Except Panic BackwardTransfer)) = _
        rw [tryIntoFixed, dif_neg hlen]
        rfl
      rw [hrun]
      constructor
      · intro h
        cases h
      · rintro ⟨h, -⟩
        cases h
        exact absurd hpk hlen

/-- A backward transfer has a key hash of its exact width, and is seen as it
is. -/
theorem readBackwardTransfer_decodes (deserialize : List UInt8 → Option F) :
    Decodes (fun o => orPanic (readBackwardTransfer o))
      (fun o => FixedArg.Accepted deserialize ⟨.tryInto, mcPkSize, o.bind (·.publicKeyHash)⟩)
      id := by
  have hdecodes : Decodes readBackwardTransfer
      (fun o => FixedArg.Accepted deserialize ⟨.tryInto, mcPkSize, o.bind (·.publicKeyHash)⟩)
      id := by
    constructor
    case accepts =>
      intro o
      constructor
      · rintro ⟨bt, hbt⟩
        exact ⟨_, (readBackwardTransfer_eq_ok.mp hbt).1, bt.pkDest.property⟩
      · rintro ⟨bs, hbs, hlen⟩
        rcases o with _ | jbt
        · cases hbs
        · exact ⟨⟨⟨bs, hlen⟩, jbt.amount.toUInt64⟩, readBackwardTransfer_eq_ok.mpr ⟨hbs, rfl⟩⟩
    case views =>
      rintro o o' ⟨bs, hbs, hlen⟩ ⟨bs', hbs', hlen'⟩
      rcases o with _ | ⟨hash, amount⟩
      · cases hbs
      · rcases o' with _ | ⟨hash', amount'⟩
        · cases hbs'
        · have hrun : readBackwardTransfer (some ⟨hash, amount⟩)
              = .ok ⟨⟨bs, hlen⟩, amount.toUInt64⟩ :=
            readBackwardTransfer_eq_ok.mpr ⟨hbs, rfl⟩
          have hrun' : readBackwardTransfer (some ⟨hash', amount'⟩)
              = .ok ⟨⟨bs', hlen'⟩, amount'.toUInt64⟩ :=
            readBackwardTransfer_eq_ok.mpr ⟨hbs', rfl⟩
          change hash = some bs at hbs
          change hash' = some bs' at hbs'
          rw [hrun, hrun', hbs, hbs']
          simp [int64_toUInt64_injective.eq_iff]
  exact hdecodes.mapError Refusal.panic

/-! ## Entry points -/

/-- A function of the tree, by how it reads its arguments: which of them have a
fixed width, which of the others must be there, and what it sees of them all.
What it does with them is `nativeAdd`. -/
structure EntryPoint (Args Dec : Type) where
  decode : Args → Decode Dec
  call {Tree : Type} : (Dec → Program Tree Panic Bool) → Args → Handle Tree →
    JavaResult Bool × Handle Tree
  call_eq {Tree : Type} (add : Dec → Program Tree Panic Bool) (args : Args)
    (tree : Handle Tree) : call add args tree = nativeAdd decode add args tree
  fixedArgs : Args → List FixedArg
  present : Args → Prop
  canonical : Args → Args

namespace EntryPoint

variable {Args Dec Tree : Type} (E : EntryPoint Args Dec) (deserialize)

/-- Every argument is taken by its decoder. -/
def Accepts (args : Args) : Prop :=
  (∀ arg ∈ E.fixedArgs args, arg.Accepted deserialize) ∧ E.present args

/-- Every argument of fixed width has exactly its width. -/
def AllExact (args : Args) : Prop :=
  ∀ arg ∈ E.fixedArgs args, arg.Exact

/-- If an argument does not have its width, the call fails and the tree is
unchanged, whatever the operation of the tree is. -/
def Strict (args : Args) (tree : Handle Tree) : Prop :=
  ¬ E.AllExact args → ∀ add : Dec → Program Tree Panic Bool,
    (E.call add args tree).1 ≠ .returned true ∧ (E.call add args tree).2 = tree

/-- Two calls that differ in an argument of fixed width do not reach the tree
with the same data. -/
def NeverAliases (args args' : Args) : Prop :=
  E.fixedArgs args ≠ E.fixedArgs args' →
    ¬ ∃ decoded, E.decode args = .ok decoded ∧ E.decode args' = .ok decoded

variable {E deserialize}

/-- A call whose arguments are not decoded does not touch the tree. -/
theorem nativeAdd_undecoded {args : Args} (hrun : ∀ decoded, E.decode args ≠ .ok decoded)
    (tree : Handle Tree) (add : Dec → Program Tree Panic Bool) :
    (nativeAdd E.decode add args tree).1 ≠ .returned true
      ∧ (nativeAdd E.decode add args tree).2 = tree := by
  unfold nativeAdd
  rcases hdecode : E.decode args with (e | _) | decoded
  · refine ⟨?_, rfl⟩
    intro h
    cases ffiExport_eq_returned.mp h
  · refine ⟨?_, rfl⟩
    intro h
    cases h
  · exact absurd hdecode (hrun decoded)

theorem nativeAdd_refused (hdecodes : Decodes E.decode (E.Accepts deserialize) E.canonical)
    {args : Args} (hrefused : ¬ E.Accepts deserialize args) (tree : Handle Tree)
    (add : Dec → Program Tree Panic Bool) :
    (nativeAdd E.decode add args tree).1 ≠ .returned true
      ∧ (nativeAdd E.decode add args tree).2 = tree := by
  refine nativeAdd_undecoded ?_ tree add
  intro decoded hrun
  exact hrefused ((hdecodes.accepts args).mp ⟨decoded, hrun⟩)

/-- Nor does a call on a tree that is not there. -/
theorem nativeAdd_no_tree {tree : Handle Tree} (htree : ∀ t, tree ≠ .live t) (args : Args)
    (add : Dec → Program Tree Panic Bool) :
    (nativeAdd E.decode add args tree).1 ≠ .returned true
      ∧ (nativeAdd E.decode add args tree).2 = tree := by
  by_cases hrun : ∃ decoded, E.decode args = .ok decoded
  · obtain ⟨decoded, hok⟩ := hrun
    unfold nativeAdd
    rw [hok]
    rcases tree with _ | _ | t
    · refine ⟨?_, rfl⟩
      intro h
      cases h
    · refine ⟨?_, rfl⟩
      intro h
      cases h
    · exact absurd rfl (htree t)
  · exact nativeAdd_undecoded (not_exists.mp hrun) tree add

/-- A call is strict when all widths are exact, or something stops it. -/
theorem strict_iff (hdecodes : Decodes E.decode (E.Accepts deserialize) E.canonical) (args : Args)
    (tree : Handle Tree) :
    E.Strict args tree ↔
      E.AllExact args ∨ ¬ E.Accepts deserialize args ∨ ∀ t, tree ≠ .live t := by
  constructor
  · intro hstrict
    by_contra hcond
    simp only [not_or, not_not, not_forall] at hcond
    obtain ⟨hexact, haccepts, t, rfl⟩ := hcond
    obtain ⟨decoded, hrun⟩ := hdecodes.exists_ok haccepts
    have hfails := (hstrict hexact fun _ => pure true).1
    apply hfails
    rw [E.call_eq, nativeAdd, hrun]
    rfl
  · intro hcond hinexact add
    rw [E.call_eq]
    rcases hcond with hexact | hrefused | htree
    · exact absurd hexact hinexact
    · exact nativeAdd_refused hdecodes hrefused tree add
    · exact nativeAdd_no_tree htree args add

/-- Two calls do not alias when they are the same on the arguments of fixed
width, or differ in what is seen, or one of them is stopped. -/
theorem neverAliases_iff (hdecodes : Decodes E.decode (E.Accepts deserialize) E.canonical)
    (args args' : Args) :
    E.NeverAliases args args' ↔
      E.fixedArgs args = E.fixedArgs args' ∨ E.canonical args ≠ E.canonical args'
        ∨ ¬ E.Accepts deserialize args ∨ ¬ E.Accepts deserialize args' := by
  unfold NeverAliases
  rw [hdecodes.same_value]
  tauto

end EntryPoint

/-! ## The five entry points -/

theorem readFieldConfig_decodes :
    Decodes readFieldConfig (fun o => o.isSome = true) id := by
  have hinj : Function.Injective fun config : CustomFieldElementsConfig =>
      config.nBits.toUInt8 := by
    rintro ⟨a⟩ ⟨b⟩ h
    exact congrArg _ (int8_toUInt8_injective h)
  have hdecodes : Decodes (fun o => (fun config : CustomFieldElementsConfig =>
      config.nBits.toUInt8) <$> orPanic (expectRef o)) (fun o => o.isSome = true) id :=
    expectRef_decodes.map hinj
  exact hdecodes

theorem readBitvectorConfig_decodes :
    Decodes readBitvectorConfig (fun o => o.isSome = true) id := by
  have hinj : Function.Injective fun config : CustomBitvectorElementsConfig =>
      (⟨config.bitVectorSizeBits.toUInt32, config.maxCompressedByteSize.toUInt32⟩ :
        BitVectorElementsConfig) := by
    rintro ⟨a, b⟩ ⟨a', b'⟩ h
    rw [BitVectorElementsConfig.mk.injEq] at h
    have ha : a = a' := int32_toUInt32_injective h.1
    have hb : b = b' := int32_toUInt32_injective h.2
    rw [ha, hb]
  exact expectRef_decodes.map hinj

theorem readArray_decodes {α β V : Type} {read : α → Decode β} {acc : α → Prop} {view : α → V}
    (h : Decodes read acc view) :
    Decodes (readArray read) (fun array => ∃ xs, array = some xs ∧ ∀ x ∈ xs, acc x)
      (Option.map (List.map view)) :=
  h.list.required _

theorem readNullable_decodes {α β V : Type} {read : α → Decode β} {acc : α → Prop}
    {view : α → V} (h : Decodes read acc view) :
    Decodes (readNullable read) (fun arg => ∀ x ∈ arg, acc x) (Option.map view) :=
  h.optional

theorem nonEmpty_injective {α : Type} : Function.Injective (nonEmpty : List α → _) := by
  intro xs ys h
  cases xs with
  | nil =>
      cases ys with
      | nil => rfl
      | cons y ys => cases h
  | cons x xs =>
      cases ys with
      | nil => cases h
      | cons y ys => exact Option.some_injective _ h

def csw (deserialize : List UInt8 → Option F) : EntryPoint CswArgs (Csw F) where
  decode := decodeCsw deserialize
  call := nativeAddCsw deserialize
  call_eq _ _ _ := rfl
  fixedArgs args :=
    [⟨.parse, fieldSize, args.scId⟩,
      ⟨.parse, fieldSize, args.nullifier⟩,
      ⟨.copy, mcPkSize, args.mcPkHash⟩]
  present _ := True
  canonical args := { args with mcPkHash := padded mcPkSize args.mcPkHash }

theorem decodeCsw_decodes (hlaws : FieldElementLaws deserialize) :
    Decodes (decodeCsw deserialize) ((csw deserialize).Accepts deserialize)
      (csw deserialize).canonical := by
  have hfe := readFieldElement_decodes hlaws (.panic .unwrapError)
  have hparts := (hfe.comap CswArgs.scId).both ((hfe.comap CswArgs.nullifier).both
    ((getByteArray_decodes deserialize mcPkSize).comap CswArgs.mcPkHash))
  apply hparts.record (fun args x => (⟨x.1, args.amount.toUInt64, x.2.1, x.2.2⟩ : Csw F))
    CswArgs.amount
  · intro args
    simp only [decodeCsw, decodeBoth, map_bind, bind_assoc, pure_bind, map_pure]
  · rintro args args' ⟨a, b, c⟩ ⟨a', b', c'⟩
    simp only [Csw.mk.injEq, Prod.mk.injEq, int64_toUInt64_injective.eq_iff]
    tauto
  · intro args
    simp [EntryPoint.Accepts, csw]
  · intro args args' _ _
    simp only [csw, CswArgs.mk.injEq, Prod.mk.injEq, id]
    tauto

def fwt (deserialize : List UInt8 → Option F) : EntryPoint FwtArgs (Fwt F) where
  decode := decodeFwt deserialize
  call := nativeAddFwt deserialize
  call_eq _ _ _ := rfl
  fixedArgs args :=
    [⟨.parse, fieldSize, args.scId⟩,
      ⟨.copy, fieldSize, args.pubKey⟩,
      ⟨.copy, mcPkSize, args.mcReturnAddress⟩,
      ⟨.copy, fieldSize, args.txHash⟩]
  present _ := True
  canonical args :=
    { args with
      pubKey := padded fieldSize args.pubKey
      mcReturnAddress := padded mcPkSize args.mcReturnAddress
      txHash := padded fieldSize args.txHash }

theorem decodeFwt_decodes (hlaws : FieldElementLaws deserialize) :
    Decodes (decodeFwt deserialize) ((fwt deserialize).Accepts deserialize)
      (fwt deserialize).canonical := by
  have hfe := readFieldElement_decodes hlaws (.panic .unwrapError)
  have hcopy := getByteArray_decodes deserialize fieldSize
  have hparts := (hfe.comap FwtArgs.scId).both ((hcopy.comap FwtArgs.pubKey).both
    (((getByteArray_decodes deserialize mcPkSize).comap FwtArgs.mcReturnAddress).both
      (hcopy.comap FwtArgs.txHash)))
  apply hparts.record (fun args x => (⟨x.1, args.amount.toUInt64, x.2.1, x.2.2.1, x.2.2.2,
    args.outIdx.toUInt32⟩ : Fwt F)) (fun args => (args.amount, args.outIdx))
  · intro args
    simp only [decodeFwt, decodeBoth, map_bind, bind_assoc, pure_bind, map_pure]
  · rintro args args' ⟨a, b, c, d⟩ ⟨a', b', c', d'⟩
    simp only [Fwt.mk.injEq, Prod.mk.injEq, int64_toUInt64_injective.eq_iff,
      int32_toUInt32_injective.eq_iff]
    tauto
  · intro args
    simp [EntryPoint.Accepts, fwt]
  · intro args args' _ _
    simp only [fwt, FwtArgs.mk.injEq, Prod.mk.injEq, id]
    tauto

/-- The elements of an array of field elements. -/
def elements (array : Option (List (Option (List UInt8)))) : List FixedArg :=
  (array.getD []).map fun o => ⟨.element, fieldSize, o⟩

def btr (deserialize : List UInt8 → Option F) : EntryPoint BtrArgs (Btr F) where
  decode := decodeBtr deserialize
  call := nativeAddBtr deserialize
  call_eq _ _ _ := rfl
  fixedArgs args :=
    ⟨.parse, fieldSize, args.scId⟩ :: ⟨.copy, 20, args.mcDestinationAddress⟩
      :: ⟨.copy, fieldSize, args.txHash⟩ :: elements args.scRequestData
  present args := args.scRequestData.isSome
  canonical args :=
    { args with
      mcDestinationAddress := padded 20 args.mcDestinationAddress
      scRequestData := args.scRequestData.map (List.map front)
      txHash := padded fieldSize args.txHash }

theorem decodeBtr_decodes (hlaws : FieldElementLaws deserialize) :
    Decodes (decodeBtr deserialize) ((btr deserialize).Accepts deserialize)
      (btr deserialize).canonical := by
  have hfe := readFieldElement_decodes hlaws (.panic .unwrapError)
  have hdata := readArray_decodes (readElement_decodes hlaws)
  have hparts := (hfe.comap BtrArgs.scId).both
    (((getByteArray_decodes deserialize 20).comap BtrArgs.mcDestinationAddress).both
      ((hdata.comap BtrArgs.scRequestData).both
        ((getByteArray_decodes deserialize fieldSize).comap BtrArgs.txHash)))
  apply hparts.record (fun args x => (⟨x.1, args.scFee.toUInt64, x.2.2.1, x.2.1, x.2.2.2,
    args.outIdx.toUInt32⟩ : Btr F)) (fun args => (args.scFee, args.outIdx))
  · intro args
    simp only [decodeBtr, decodeBoth, map_bind, bind_assoc, pure_bind, map_pure]
  · rintro args args' ⟨a, b, c, d⟩ ⟨a', b', c', d'⟩
    simp only [Btr.mk.injEq, Prod.mk.injEq, int64_toUInt64_injective.eq_iff,
      int32_toUInt32_injective.eq_iff]
    tauto
  · intro args
    rcases hdata : args.scRequestData with _ | xs
    · simp [EntryPoint.Accepts, btr, hdata]
    · simp only [EntryPoint.Accepts, btr, hdata, elements, Option.getD_some, Option.some.injEq,
        exists_eq_left', List.forall_mem_cons, List.forall_mem_map, Option.isSome_some]
      tauto
  · intro args args' _ _
    simp only [btr, BtrArgs.mk.injEq, Prod.mk.injEq, id]
    tauto

def cert (deserialize : List UInt8 → Option F) : EntryPoint CertArgs (Cert F) where
  decode := decodeCert deserialize
  call := nativeAddCert deserialize
  call_eq _ _ _ := rfl
  fixedArgs args :=
    ⟨.parse, fieldSize, args.scId⟩
      :: ⟨.parse, fieldSize, args.endCumulativeScTxCommitmentTreeRoot⟩
      :: (args.btList.getD []).map (fun o => ⟨.tryInto, mcPkSize, o.bind (·.publicKeyHash)⟩)
      ++ elements args.customFieldsNullable
  present args := args.btList.isSome
  canonical args :=
    { args with customFieldsNullable := args.customFieldsNullable.map (List.map front) }

theorem decodeCert_decodes (hlaws : FieldElementLaws deserialize) :
    Decodes (decodeCert deserialize) ((cert deserialize).Accepts deserialize)
      (cert deserialize).canonical := by
  have hfe := readFieldElement_decodes hlaws (.panic .unwrapError)
  have hbts := readArray_decodes (readBackwardTransfer_decodes deserialize)
  have hfields := readNullable_decodes (readElement_decodes hlaws).list
  have hparts := (hfe.comap CertArgs.scId).both ((hbts.comap CertArgs.btList).both
    ((hfields.comap CertArgs.customFieldsNullable).both
      (hfe.comap CertArgs.endCumulativeScTxCommitmentTreeRoot)))
  apply hparts.record (fun args x => (⟨x.1, args.epochNumber.toUInt32, args.quality.toUInt64,
    nonEmpty x.2.1, x.2.2.1, x.2.2.2, args.btrFee.toUInt64, args.ftMinAmount.toUInt64⟩ : Cert F))
    (fun args => (args.epochNumber, args.quality, args.btrFee, args.ftMinAmount))
  · intro args
    simp only [decodeCert, decodeBoth, map_bind, bind_assoc, pure_bind, map_pure]
  · rintro args args' ⟨a, b, c, d⟩ ⟨a', b', c', d'⟩
    simp only [Cert.mk.injEq, Prod.mk.injEq, int64_toUInt64_injective.eq_iff,
      int32_toUInt32_injective.eq_iff, nonEmpty_injective.eq_iff]
    tauto
  · intro args
    rcases hbts : args.btList with _ | bts
    · simp [EntryPoint.Accepts, cert, hbts]
    · rcases hfields : args.customFieldsNullable with _ | xs
      · simp only [EntryPoint.Accepts, cert, hbts, hfields, elements, Option.getD_some,
          Option.getD_none, Option.some.injEq, exists_eq_left', List.forall_mem_cons,
          List.forall_mem_append, List.forall_mem_map, Option.isSome_some, List.cons_append]
        simp
        tauto
      · simp only [EntryPoint.Accepts, cert, hbts, hfields, elements, Option.getD_some,
          Option.some.injEq, exists_eq_left', List.forall_mem_cons, List.forall_mem_append,
          List.forall_mem_map, Option.isSome_some, List.cons_append, Option.mem_def,
          forall_eq']
        tauto
  · intro args args' _ _
    simp only [cert, CertArgs.mk.injEq, Prod.mk.injEq, id, List.map_id_fun, Option.map_id_fun]
    tauto

def scCr (deserialize : List UInt8 → Option F) : EntryPoint ScCrArgs (ScCr F) where
  decode := decodeScCr deserialize
  call := nativeAddScCr deserialize
  call_eq _ _ _ := rfl
  fixedArgs args :=
    ⟨.parse, fieldSize, args.scId⟩ :: ⟨.copy, fieldSize, args.pubKey⟩
      :: ⟨.copy, fieldSize, args.txHash⟩
      :: args.constantNullable.toList.map (fun bs => ⟨.parse, fieldSize, some bs⟩)
  present args :=
    (∃ xs, args.customFieldElementsConfigs = some xs ∧ ∀ o ∈ xs, o.isSome = true)
      ∧ (∃ xs, args.customBitvectorElementsConfigs = some xs ∧ ∀ o ∈ xs, o.isSome = true)
      ∧ args.customCreationData.isSome
      ∧ args.certVerificationKey.isSome
  canonical args :=
    { args with
      pubKey := padded fieldSize args.pubKey
      txHash := padded fieldSize args.txHash }

theorem decodeScCr_decodes (hlaws : FieldElementLaws deserialize) :
    Decodes (decodeScCr deserialize) ((scCr deserialize).Accepts deserialize)
      (scCr deserialize).canonical := by
  have hfe := readFieldElement_decodes hlaws .jniFalse
  have hcopy := getByteArray_decodes deserialize fieldSize
  have hconstant := readNullable_decodes (hfe.comap (some : List UInt8 → _))
  have hparts := (hfe.comap ScCrArgs.scId).both ((hcopy.comap ScCrArgs.pubKey).both
    ((hcopy.comap ScCrArgs.txHash).both
      (((readArray_decodes readFieldConfig_decodes).comap
          ScCrArgs.customFieldElementsConfigs).both
        (((readArray_decodes readBitvectorConfig_decodes).comap
            ScCrArgs.customBitvectorElementsConfigs).both
          ((convertByteArray_decodes.comap ScCrArgs.customCreationData).both
            ((hconstant.comap ScCrArgs.constantNullable).both
              (convertByteArray_decodes.comap ScCrArgs.certVerificationKey)))))))
  apply hparts.record (fun args x => ({
      scId := x.1
      amount := args.amount.toUInt64
      pubKey := x.2.1
      txHash := x.2.2.1
      outIdx := args.outIdx.toUInt32
      withdrawalEpochLength := args.withdrawalEpochLength.toUInt32
      mcBtrRequestDataLength := args.mcBtrRequestDataLength.toUInt8
      customFieldElementsConfigs := nonEmpty x.2.2.2.1
      customBitvectorElementsConfigs := nonEmpty x.2.2.2.2.1
      btrFee := args.btrFee.toUInt64
      ftMinAmount := args.ftMinAmount.toUInt64
      customCreationData := nonEmpty x.2.2.2.2.2.1
      constant := x.2.2.2.2.2.2.1
      certVerificationKey := x.2.2.2.2.2.2.2
      cswVerificationKey := args.cswVerificationKeyNullable } : ScCr F))
    (fun args => (args.amount, args.outIdx, args.withdrawalEpochLength,
      args.mcBtrRequestDataLength, args.btrFee, args.ftMinAmount,
      args.cswVerificationKeyNullable))
  · intro args
    simp only [decodeScCr, decodeBoth, map_bind, bind_assoc, pure_bind, map_pure]
  · rintro args args' ⟨a, b, c, d, e, f, g, h⟩ ⟨a', b', c', d', e', f', g', h'⟩
    simp only [ScCr.mk.injEq, Prod.mk.injEq, int64_toUInt64_injective.eq_iff,
      int32_toUInt32_injective.eq_iff, int8_toUInt8_injective.eq_iff, nonEmpty_injective.eq_iff]
    tauto
  · intro args
    simp only [EntryPoint.Accepts, scCr, List.forall_mem_cons, List.forall_mem_map,
      Option.mem_toList]
    tauto
  · intro args args' _ _
    have hsome : Function.Injective (Option.map (some : List UInt8 → _)) :=
      Option.map_injective (Option.some_injective _)
    simp only [scCr, ScCrArgs.mk.injEq, Prod.mk.injEq, id, List.map_id_fun, Option.map_id_fun,
      hsome.eq_iff]
    tauto

/-! ## Main result -/

/-- When the calls of an entry point are strict, and when two of them do not
alias. -/
structure ByteArguments {Args Dec : Type} (E : EntryPoint Args Dec)
    (deserialize : List UInt8 → Option F) (Tree : Type) : Prop where
  strict : ∀ args (tree : Handle Tree), E.Strict args tree ↔
    E.AllExact args ∨ ¬ E.Accepts deserialize args ∨ ∀ t, tree ≠ .live t
  neverAliases : ∀ args args', E.NeverAliases args args' ↔
    E.fixedArgs args = E.fixedArgs args' ∨ E.canonical args ≠ E.canonical args'
      ∨ ¬ E.Accepts deserialize args ∨ ¬ E.Accepts deserialize args'

theorem EntryPoint.byteArguments {Args Dec Tree : Type} {E : EntryPoint Args Dec}
    (hdecodes : Decodes E.decode (E.Accepts deserialize) E.canonical) :
    ByteArguments E deserialize Tree where
  strict := EntryPoint.strict_iff hdecodes
  neverAliases := EntryPoint.neverAliases_iff hdecodes

/-- The five entry points read their byte arguments strictly and injectively
exactly when nothing is padded or cut off. -/
theorem byte_arguments_iff (hlaws : FieldElementLaws deserialize) (Tree : Type) :
    ByteArguments (scCr deserialize) deserialize Tree
    ∧ ByteArguments (fwt deserialize) deserialize Tree
    ∧ ByteArguments (btr deserialize) deserialize Tree
    ∧ ByteArguments (cert deserialize) deserialize Tree
    ∧ ByteArguments (csw deserialize) deserialize Tree :=
  ⟨EntryPoint.byteArguments (decodeScCr_decodes hlaws),
    EntryPoint.byteArguments (decodeFwt_decodes hlaws),
    EntryPoint.byteArguments (decodeBtr_decodes hlaws),
    EntryPoint.byteArguments (decodeCert_decodes hlaws),
    EntryPoint.byteArguments (decodeCsw_decodes hlaws)⟩

end Arguments

/-! ## Short and long arguments -/

/-- Field elements by their 32 bytes. -/
def bytesDeserialize (bytes : List UInt8) : Option (List UInt8) :=
  if fieldSize ≤ bytes.length then some (bytes.take fieldSize) else none

theorem bytesDeserialize_laws : FieldElementLaws bytesDeserialize where
  short bytes h := if_neg (Nat.not_le.mpr h)
  reads bytes := by
    unfold bytesDeserialize
    rw [List.take_take, List.length_take, Nat.min_self]
    by_cases h : fieldSize ≤ bytes.length
    · rw [if_pos h, if_pos (by omega)]
    · rw [if_neg h, if_neg (by omega)]
  injective bytes bytes' x h h' hx hx' := by
    unfold bytesDeserialize at hx hx'
    rw [if_pos (Nat.le_of_eq h.symm), List.take_of_length_le (Nat.le_of_eq h)] at hx
    rw [if_pos (Nat.le_of_eq h'.symm), List.take_of_length_le (Nat.le_of_eq h')] at hx'
    exact Option.some_injective _ (hx.trans hx'.symm)

/-- A forward transfer with the given public key. -/
def fwtArgs (pubKey : List UInt8) : FwtArgs where
  scId := some (List.replicate 32 0)
  amount := 5
  pubKey := some pubKey
  mcReturnAddress := some (List.replicate 20 0)
  txHash := some (List.replicate 32 0)
  outIdx := 0

/-- A request with the given request data. -/
def btrArgs (scRequestData : List (List UInt8)) : BtrArgs where
  scId := some (List.replicate 32 0)
  scFee := 5
  mcDestinationAddress := some (List.replicate 20 0)
  scRequestData := some (scRequestData.map some)
  txHash := some (List.replicate 32 0)
  outIdx := 0

/-- A tree that records what reaches it. -/
def recordAdd {Dec : Type} (decoded : Dec) : Program (List Dec) Panic Bool := do
  Program.update fun log => decoded :: log
  pure true

/-- A transfer to a key of exact width is strict, and so is one to a longer key,
which panics. Transfers to two keys of exact width do not reach the tree as one. -/
theorem byte_arguments_iff_exact :
    (fwt bytesDeserialize).Strict (fwtArgs (List.replicate 32 7))
        (.live ([] : List (Fwt (List UInt8))))
      ∧ (fwt bytesDeserialize).Strict (fwtArgs (List.replicate 33 7))
        (.live ([] : List (Fwt (List UInt8))))
      ∧ (fwt bytesDeserialize).NeverAliases (fwtArgs (List.replicate 32 7))
        (fwtArgs (List.replicate 32 8)) := by
  have hfwt := (byte_arguments_iff bytesDeserialize_laws (List (Fwt (List UInt8)))).2.1
  refine ⟨(hfwt.strict _ _).mpr (.inl ?_), (hfwt.strict _ _).mpr (.inr (.inl ?_)),
    (hfwt.neverAliases _ _).mpr (.inr (.inl ?_))⟩
  · intro arg harg
    simp only [fwt, fwtArgs, List.mem_cons, List.not_mem_nil, or_false] at harg
    rcases harg with rfl | rfl | rfl | rfl
    · exact ⟨_, rfl, rfl⟩
    · exact ⟨_, rfl, rfl⟩
    · exact ⟨_, rfl, rfl⟩
    · exact ⟨_, rfl, rfl⟩
  · intro haccepts
    obtain ⟨bs, hbs, hlen⟩ :=
      haccepts.1 ⟨.copy, fieldSize, some (List.replicate 33 7)⟩ (by simp [fwt, fwtArgs])
    cases hbs
    exact absurd hlen (by decide)
  · intro hsame
    exact absurd (congrArg FwtArgs.pubKey hsame) (by decide)

/-- A transfer to a key of one byte is added, as one to the padded key, and so
is a request with an element of 33 bytes, as one with its front. -/
theorem byte_arguments_counterexample :
    ((nativeAddFwt bytesDeserialize recordAdd (fwtArgs [7]) (.live [])).1 = .returned true
      ∧ ¬ (fwt bytesDeserialize).Strict (fwtArgs [7]) (.live ([] : List (Fwt (List UInt8))))
      ∧ ¬ (fwt bytesDeserialize).NeverAliases (fwtArgs [7])
        (fwtArgs (7 :: List.replicate 31 0)))
    ∧ ¬ (btr bytesDeserialize).Strict (btrArgs [List.replicate 33 7])
        (.live ([] : List (Btr (List UInt8))))
    ∧ ¬ (btr bytesDeserialize).NeverAliases (btrArgs [List.replicate 33 7])
        (btrArgs [List.replicate 32 7]) := by
  refine ⟨⟨rfl, ?_, ?_⟩, ?_, ?_⟩
  · intro hstrict
    refine (hstrict ?_ recordAdd).1 rfl
    intro hexact
    obtain ⟨bs, hbs, hlen⟩ := hexact ⟨.copy, fieldSize, some [7]⟩ (by simp [fwt, fwtArgs])
    cases hbs
    cases hlen
  · intro hnever
    refine hnever ?_ ⟨_, rfl, rfl⟩
    decide
  · intro hstrict
    refine (hstrict ?_ recordAdd).1 rfl
    intro hexact
    obtain ⟨bs, hbs, hlen⟩ := hexact ⟨.element, fieldSize, some (List.replicate 33 7)⟩
      (by simp [btr, btrArgs, elements])
    cases hbs
    cases hlen
  · intro hnever
    refine hnever ?_ ⟨_, rfl, rfl⟩
    decide

end ZendooSc
