/-
ZendooSc.Handles.CommitmentRuns — commitment trees over whole runs.

`Contents` is what a `CommitmentTree` stands for: the entries it was offered and
took, in order, each one taken after those before it. Which entries are taken and
what is answered for them is for cctp-lib, outside of this repository:
`CommitmentModel` gives it a name, and `FollowsCommitmentModel` is what is taken
from there. The queries of a tree may write to it, as they build the subtrees that
are missing, but not to what it contains.

`commitment_tree_refines` follows a tree through a run in which everything else may
happen too, from the bytes of the Java arguments to the answers. By it,
`existence_verifies` and `absence_verifies`: the proofs that a tree gave out for a
sidechain verify at any later time, against the commitment that a tree with the
same contents gave out.
-/
import ZendooSc.Handles.PoseidonRefinement
import ZendooSc.Handles.Returns

namespace ZendooSc.Handles

open Lib

/-! ## What a tree stands for -/

/-- What a tree is offered, decoded. -/
inductive Entry (F : Type) where
  | scc (data : ScCr F)
  | fwt (data : Fwt F)
  | bwtr (data : Btr F)
  | cert (data : Cert F)
  | certLeaf (scId leaf : F)
  | csw (data : Csw F)

/-- The commitments for one sidechain: the five of its data, and the one of the
sidechain itself. -/
inductive Part where
  | scc
  | fwt
  | bwtr
  | cert
  | csw
  | sc

/-- Which entry is taken after others, and what is answered for the entries. -/
structure CommitmentModel (F Existence Absence : Type) where
  accepts : List (Entry F) → Entry F → Bool
  part : Part → F → List (Entry F) → Option F
  certLeaves : F → List (Entry F) → Option (List F)
  existence : F → List (Entry F) → Option Existence
  absence : F → List (Entry F) → Option Absence
  commitment : List (Entry F) → Option F

section Contents

variable {F Existence Absence : Type}

/-- Each entry was taken after those before it. -/
inductive Taken (M : CommitmentModel F Existence Absence) : List (Entry F) → Prop where
  | nil : Taken M []
  | offer {entries : List (Entry F)} {x : Entry F} :
      Taken M entries → M.accepts entries x = true → Taken M (entries ++ [x])

/-- The entries of a tree. -/
structure Contents (M : CommitmentModel F Existence Absence) where
  entries : List (Entry F)
  taken : Taken M entries

variable {M : CommitmentModel F Existence Absence}

namespace Contents

def empty : Contents M := ⟨[], .nil⟩

/-- An entry that is not taken changes nothing. -/
def offer (c : Contents M) (x : Entry F) : Contents M :=
  if h : M.accepts c.entries x = true then ⟨c.entries ++ [x], c.taken.offer h⟩ else c

def offerAll (c : Contents M) (xs : List (Entry F)) : Contents M := xs.foldl offer c

end Contents

end Contents

/-! ## Additions and queries -/

/-- The methods that add to a tree, with their Java arguments. -/
inductive Addition where
  | scCr (args : ScCrArgs)
  | fwt (args : FwtArgs)
  | btr (args : BtrArgs)
  | cert (args : CertArgs)
  | csw (args : CswArgs)
  | nativeCertLeaf (scId leaf : Option (List UInt8))
  | certLeaf (scId leaf : Option (List UInt8))

/-- The methods that ask a tree for one object. -/
inductive Query where
  | part (p : Part) (scId : Option (List UInt8))
  | existence (scId : Option (List UInt8))
  | absence (scId : Option (List UInt8))
  | commitment

variable {V : NativeType → Type}

/-- The identifier of a sidechain, or a leaf. -/
def decodeScId {F : Type} (deserialize : List UInt8 → Option F) (bytes : Option (List UInt8)) :
    Decode F :=
  readFieldElement deserialize (.panic .unwrapError) bytes

def decodeCertLeaf {F : Type} (deserialize : List UInt8 → Option F)
    (scId leaf : Option (List UInt8)) : Decode (Entry F) := do
  let scId ← decodeScId deserialize scId
  let leaf ← decodeScId deserialize leaf
  pure (.certLeaf scId leaf)

namespace Addition

def op (this : Ref) : Addition → Op
  | scCr args => .treeAddScCr this args
  | fwt args => .treeAddFwt this args
  | btr args => .treeAddBtr this args
  | cert args => .treeAddCert this args
  | csw args => .treeAddCsw this args
  | nativeCertLeaf scId leaf => .treeNativeAddCertLeaf this scId leaf
  | certLeaf scId leaf => .treeAddCertLeaf this scId leaf

def call (E : Env V) (this : Ref) : Addition → JavaCall V Bool
  | scCr args => CommitmentTree.addScCr E this args
  | fwt args => CommitmentTree.addFwt E this args
  | btr args => CommitmentTree.addBtr E this args
  | cert args => CommitmentTree.addCert E this args
  | csw args => CommitmentTree.addCsw E this args
  | nativeCertLeaf scId leaf => CommitmentTree.nativeAddCertLeaf E this scId leaf
  | certLeaf scId leaf => CommitmentTree.addCertLeaf E this scId leaf

/-- What the arguments say. -/
def decode {F : Type} (deserialize : List UInt8 → Option F) : Addition → Decode (Entry F)
  | scCr args => (decodeScCr deserialize args).map .scc
  | fwt args => (decodeFwt deserialize args).map .fwt
  | btr args => (decodeBtr deserialize args).map .bwtr
  | cert args => (decodeCert deserialize args).map .cert
  | csw args => (decodeCsw deserialize args).map .csw
  | nativeCertLeaf scId leaf | certLeaf scId leaf => decodeCertLeaf deserialize scId leaf

end Addition

/-- The addition an operation makes to a tree, if it makes one. -/
def Op.addition (this : Ref) : Op → Option Addition
  | .treeAddScCr tree args => if tree = this then some (.scCr args) else none
  | .treeAddFwt tree args => if tree = this then some (.fwt args) else none
  | .treeAddBtr tree args => if tree = this then some (.btr args) else none
  | .treeAddCert tree args => if tree = this then some (.cert args) else none
  | .treeAddCsw tree args => if tree = this then some (.csw args) else none
  | .treeNativeAddCertLeaf tree scId leaf =>
      if tree = this then some (.nativeCertLeaf scId leaf) else none
  | .treeAddCertLeaf tree scId leaf => if tree = this then some (.certLeaf scId leaf) else none
  | _ => none

namespace Query

def op (this : Ref) : Query → Op
  | part .scc scId => .treeGetScCrCommitment this scId
  | part .fwt scId => .treeGetFwtCommitment this scId
  | part .bwtr scId => .treeGetBtrCommitment this scId
  | part .cert scId => .treeGetCertCommitment this scId
  | part .csw scId => .treeGetCswCommitment this scId
  | part .sc scId => .treeGetScCommitment this scId
  | existence scId => .treeGetScExistenceProof this scId
  | absence scId => .treeGetScAbsenceProof this scId
  | commitment => .treeGetCommitment this

def call (E : Env V) (this : Ref) : Query → JavaCall V Ref
  | part .scc scId => CommitmentTree.getScCrCommitment E this scId
  | part .fwt scId => CommitmentTree.getFwtCommitment E this scId
  | part .bwtr scId => CommitmentTree.getBtrCommitment E this scId
  | part .cert scId => CommitmentTree.getCertCommitment E this scId
  | part .csw scId => CommitmentTree.getCswCommitment E this scId
  | part .sc scId => CommitmentTree.getScCommitment E this scId
  | existence scId => CommitmentTree.getScExistenceProof E this scId
  | absence scId => CommitmentTree.getScAbsenceProof E this scId
  | commitment => CommitmentTree.getCommitment E this

/-- The class of what is given out. -/
def kind : Query → Kind
  | part .. | commitment => .fieldElement
  | existence _ => .scExistenceProof
  | absence _ => .scAbsenceProof

end Query

/-! ## What is taken from the library -/

section Laws

variable {α : Type}
  {M : CommitmentModel (V .fieldElement) (V .scExistenceProof) (V .scAbsenceProof)}

/-- The operation of the library offers the entry. -/
def Offers (contentsOf : V .commitmentTree → Contents M)
    (add : Program (V .commitmentTree) Panic Bool) (x : Entry (V .fieldElement)) : Prop :=
  ∀ v, ∃ v', add.exec v = (.ok (M.accepts (contentsOf v).entries x), v') ∧
    contentsOf v' = (contentsOf v).offer x

/-- The operation of the library answers for the entries, and keeps them. -/
def Tells (contentsOf : V .commitmentTree → Contents M)
    (get : Program (V .commitmentTree) Panic α)
    (answer : List (Entry (V .fieldElement)) → α) : Prop :=
  ∀ v, ∃ v', get.exec v = (.ok (answer (contentsOf v).entries), v') ∧ contentsOf v' = contentsOf v

/-- `CommitmentTree` of cctp-lib works as contents do. `contentsOf` is what its
values stand for. -/
structure FollowsCommitmentModel (L : NativeLib V)
    (M : CommitmentModel (V .fieldElement) (V .scExistenceProof) (V .scAbsenceProof))
    (contentsOf : V .commitmentTree → Contents M) : Prop where
  create : contentsOf L.createCommitmentTree = .empty
  addScc : ∀ data, Offers contentsOf (L.addScc data) (.scc data)
  addFwt : ∀ data, Offers contentsOf (L.addFwt data) (.fwt data)
  addBwtr : ∀ data, Offers contentsOf (L.addBwtr data) (.bwtr data)
  addCert : ∀ data, Offers contentsOf (L.addCert data) (.cert data)
  addCertLeaf : ∀ scId leaf, Offers contentsOf (L.addCertLeaf scId leaf) (.certLeaf scId leaf)
  addCsw : ∀ data, Offers contentsOf (L.addCsw data) (.csw data)
  getScc : ∀ scId, Tells contentsOf (L.getScc scId) (M.part .scc scId)
  getFwtCommitment : ∀ scId, Tells contentsOf (L.getFwtCommitment scId) (M.part .fwt scId)
  getBwtrCommitment : ∀ scId, Tells contentsOf (L.getBwtrCommitment scId) (M.part .bwtr scId)
  getCertCommitment : ∀ scId, Tells contentsOf (L.getCertCommitment scId) (M.part .cert scId)
  getCswCommitment : ∀ scId, Tells contentsOf (L.getCswCommitment scId) (M.part .csw scId)
  getScCommitment : ∀ scId, Tells contentsOf (L.getScCommitment scId) (M.part .sc scId)
  getCertLeaves : ∀ scId, Tells contentsOf (L.getCertLeaves scId) (M.certLeaves scId)
  getScExistenceProof : ∀ scId, Tells contentsOf (L.getScExistenceProof scId) (M.existence scId)
  getScAbsenceProof : ∀ scId, Tells contentsOf (L.getScAbsenceProof scId) (M.absence scId)
  getCommitment : Tells contentsOf L.getCommitment M.commitment
  verifyScCommitment : ∀ (c : Contents M) scId commitment proof root,
    M.part .sc scId c.entries = some commitment → M.existence scId c.entries = some proof →
    M.commitment c.entries = some root → L.verifyScCommitment commitment proof root = .ok true
  verifyScAbsence : ∀ (c : Contents M) scId proof root,
    M.absence scId c.entries = some proof → M.commitment c.entries = some root →
    L.verifyScAbsence scId proof root = .ok true

end Laws

variable {E : Env V}
  {M : CommitmentModel (V .fieldElement) (V .scExistenceProof) (V .scAbsenceProof)}
  {contentsOf : V .commitmentTree → Contents M}

/-- What a query is answered, or why its argument is refused. -/
def Query.answer (deserialize : List UInt8 → Option (V .fieldElement))
    (M : CommitmentModel (V .fieldElement) (V .scExistenceProof) (V .scAbsenceProof))
    (entries : List (Entry (V .fieldElement))) :
    (q : Query) → Decode (Option (V q.kind.nativeType))
  | part p scId => (decodeScId deserialize scId).map (M.part p · entries)
  | existence scId => (decodeScId deserialize scId).map (M.existence · entries)
  | absence scId => (decodeScId deserialize scId).map (M.absence · entries)
  | commitment => .ok (M.commitment entries)

/-! ## Objects for a list of values -/

/-- The loop that makes an object of each value, unless there is no memory for one
of them. -/
theorem mapM_returnObject_exec (E : Env V) (k : Kind) (objs : List (V k.nativeType)) (w : World V) :
    ∃ w', ((objs.mapM (returnObject E k)).exec w = (.error .abort, w') ∨
        ∃ rs, (objs.mapM (returnObject E k)).exec w = (.ok rs, w') ∧
          valuesOf w' k rs = some objs) ∧ KeepsValues w w' := by
  induction objs generalizing w with
  | nil => exact ⟨w, .inr ⟨[], rfl, rfl⟩, fun _ _ _ h => h⟩
  | cons obj objs ih =>
      rw [List.mapM_cons]
      obtain ⟨w₁, hcases, hkeeps⟩ := returnJobject_exec E.malloc k obj w
      rcases hcases with ⟨-, hrun⟩ | ⟨r, hrun, hvalue⟩
      · exact ⟨w₁, .inl (Program.exec_bind_error hrun), hkeeps⟩
      · have hfirst : (returnObject E k obj).exec w = (.ok r, w₁) := hrun
        rw [Program.exec_bind_ok hfirst]
        obtain ⟨w₂, hrest, hkeeps'⟩ := ih w₁
        refine ⟨w₂, ?_, KeepsValues.trans hkeeps hkeeps'⟩
        rcases hrest with hrest | ⟨rs, hrest, hvalues⟩
        · exact .inl (Program.exec_bind_error hrest)
        · refine .inr ⟨r :: rs, Program.exec_bind_ok hrest, ?_⟩
          simp only [valuesOf, List.mapM_cons, Option.bind_eq_bind, Option.bind_eq_some_iff]
          exact ⟨obj, hkeeps' _ _ _ hvalue, objs, hvalues, rfl⟩

theorem newNullObject_exec (k : Kind) (w : World V) :
    ∃ r w', (newNullObject k : JavaCall V Ref).exec w = (.ok r, w') ∧ KeepsValues w w' := by
  refine ⟨_, _, rfl, ?_⟩
  intro k' r' v hv
  obtain ⟨a, hp, ha, hb⟩ := valueOf_eq_some.mp hv
  obtain ⟨i, rfl, hpointer⟩ := World.pointer_some hp
  exact valueOf_eq_some.mpr ⟨a, Store.pointer_addObject.mpr (.inl hpointer), ha, hb⟩

/-! ## One call -/

/-- The object stands for the contents. -/
def Holds (contentsOf : V .commitmentTree → Contents M) (w : World V) (this : Ref)
    (c : Contents M) : Prop :=
  ∃ v, valueOf w .commitmentTree this = some v ∧ contentsOf v = c

/-- What comes of an addition, by what its arguments say. -/
def Added (contentsOf : V .commitmentTree → Contents M) (w : World V) (this : Ref)
    (c : Contents M) (result : Except Halt Bool × World V) :
    Decode (Entry (V .fieldElement)) → Prop
  | .ok x => result.1 = .ok (M.accepts c.entries x) ∧ Holds contentsOf result.2 this (c.offer x)
  | .error .jniFalse => result = (.ok false, w)
  | .error (.panic _) => ∃ thrown, result = (.error (.exception thrown), w)

/-- What comes of a query, by its answer. Where there is an object to return, there
may be no memory for it. -/
def Told (E : Env V) (contentsOf : V .commitmentTree → Contents M) (w : World V) (this : Ref)
    (c : Contents M) {k : Kind} (result : Except Halt Ref × World V) :
    Decode (Option (V k.nativeType)) → Prop
  | .ok none => result.1 = .ok none ∧ Holds contentsOf result.2 this c
  | .ok (some x) => Holds contentsOf result.2 this c ∧
      (OutOfMemory E.malloc w ∧ result.1 = .error .abort ∨
        ∃ r, result.1 = .ok r ∧ valueOf result.2 k r = some x)
  | .error _ => ∃ thrown, result = (.error (.exception thrown), w)

/-- The same for the leaves of the certificates. -/
def ToldLeaves (contentsOf : V .commitmentTree → Contents M) (w : World V) (this : Ref)
    (c : Contents M) (result : Except Halt (Option (List Ref)) × World V) :
    Decode (Option (List (V .fieldElement))) → Prop
  | .ok none => result.1 = .ok none ∧ Holds contentsOf result.2 this c
  | .ok (some leaves) => Holds contentsOf result.2 this c ∧
      (result.1 = .error .abort ∨
        ∃ rs, result.1 = .ok (some rs) ∧ valuesOf result.2 .fieldElement rs = some leaves)
  | .error _ => ∃ thrown, result = (.error (.exception thrown), w)

section Calls

variable {w : World V} {this : Ref} {v : V .commitmentTree}

/-- A write into a box there is leaves as much memory as there was. -/
theorem modifying_exec_memory {k : Kind} {v v' : V k.nativeType} {α : Type}
    {f : Program (V k.nativeType) Panic α} {x : α} (hv : valueOf w k this = some v)
    (hf : f.exec v = (.ok x, v')) (malloc : ℕ → ℕ) :
    ∃ w', (modifying k this f).exec w = (.ok x, w') ∧ valueOf w' k this = some v' ∧
      (OutOfMemory malloc w' → OutOfMemory malloc w) := by
  obtain ⟨a, hp, ha, hb⟩ := valueOf_eq_some.mp hv
  refine ⟨{ w with store := w.store.write a ⟨k.nativeType, v'⟩ }, ?_, ?_, ?_⟩
  · unfold modifying
    rw [Program.exec_bind_ok (getField_exec hp), Program.exec_bind_ok (readRawPointer_exec ha hb),
      hf]
    rfl
  · exact valueOf_eq_some.mpr ⟨a, hp, ha, Function.update_self _ _ _⟩
  · intro hfull
    refine hfull.imp_right fun htaken => ?_
    by_cases hsame : malloc w.ticks = a
    · rw [hsame, hb]
      rfl
    · have hother : (w.store.write a ⟨k.nativeType, v'⟩).heap (malloc w.ticks)
          = w.store.heap (malloc w.ticks) := Function.update_of_ne hsame _ _
      rw [← hother]
      exact htaken

theorem decodeScId_panics {F : Type} {deserialize : List UInt8 → Option F}
    {bytes : Option (List UInt8)} {e : Refusal}
    (h : decodeScId deserialize bytes = .error e) : ∃ p, e = .panic p := by
  rcases e with p | -
  · exact ⟨p, rfl⟩
  · rcases hparse : parseJbyteArrayToVec bytes fieldSize with p | bs
    · simp [decodeScId, readFieldElement, hparse, orPanic, Except.mapError, bind, Except.bind] at h
    · rcases hfe : deserialize bs with _ | fe
      · simp [decodeScId, readFieldElement, hparse, orPanic, Except.mapError, bind, Except.bind,
          deserializeOr, hfe] at h
      · simp [decodeScId, readFieldElement, hparse, orPanic, Except.mapError, bind, Except.bind,
          deserializeOr, hfe] at h

theorem readScId_exec {bytes : Option (List UInt8)} {scId : V .fieldElement}
    (h : decodeScId E.deserializeFieldElement bytes = .ok scId) :
    (CommitmentTree.readScId E bytes).exec w = (.ok scId, w) := by
  unfold CommitmentTree.readScId
  unfold decodeScId at h
  rw [h]
  rfl

theorem readScId_exec_error {bytes : Option (List UInt8)} {e : Refusal}
    (h : decodeScId E.deserializeFieldElement bytes = .error e) :
    ∃ thrown, (CommitmentTree.readScId E bytes).exec w = (.error (.exception thrown), w) := by
  obtain ⟨p, rfl⟩ := decodeScId_panics h
  unfold CommitmentTree.readScId
  unfold decodeScId at h
  rw [h]
  obtain ⟨thrown, hthrow⟩ := native_error (V := V) (α := V .fieldElement) p
  exact ⟨thrown, by rw [hthrow]; rfl⟩

theorem nativeAdd_added {Args Dec : Type} {decode : Args → Decode Dec}
    {add : Dec → Program (V .commitmentTree) Panic Bool} {entry : Dec → Entry (V .fieldElement)}
    (hadd : ∀ data, Offers contentsOf (add data) (entry data))
    (hv : valueOf w .commitmentTree this = some v) (args : Args) :
    Added contentsOf w this (contentsOf v)
      ((CommitmentTree.nativeAdd decode add this args).exec w) ((decode args).map entry) := by
  unfold CommitmentTree.nativeAdd
  rcases decode args with (p | -) | data
  · obtain ⟨thrown, hthrow⟩ := native_error (V := V) (α := Option Dec) p
    refine ⟨thrown, ?_⟩
    simp only [CommitmentTree.decoding]
    rw [hthrow]
    rfl
  · rfl
  · obtain ⟨v', hrun, hcontents⟩ := hadd data v
    obtain ⟨w', hexec, hv'⟩ := modifying_exec hv hrun
    have hdecoded : (CommitmentTree.decoding (.ok data) : JavaCall V (Option Dec)).exec w
        = (.ok (some data), w) := rfl
    rw [Program.exec_bind_ok hdecoded]
    show Added _ _ _ _ ((modifying .commitmentTree this (add data)).exec w) _
    rw [hexec]
    exact ⟨rfl, v', hv', hcontents⟩

/-- The guard lets a tree with a value pass. -/
theorem guarded_exec {α : Type} (hv : valueOf w .commitmentTree this = some v)
    (x : JavaCall V α) :
    (checkNotFreed .commitmentTree this CommitmentTree.wasFreed >>= fun _ => x).exec w
      = x.exec w :=
  Program.exec_bind_ok (checkNotFreed_exec _ hv)

theorem nativeAddCertLeaf_added (hlib : FollowsCommitmentModel E.toNativeLib M contentsOf)
    (hv : valueOf w .commitmentTree this = some v) (scId leaf : Option (List UInt8)) :
    Added contentsOf w this (contentsOf v)
      ((CommitmentTree.nativeAddCertLeaf E this scId leaf).exec w)
      (decodeCertLeaf E.deserializeFieldElement scId leaf) := by
  obtain ⟨a, hp, -, -⟩ := valueOf_eq_some.mp hv
  unfold CommitmentTree.nativeAddCertLeaf decodeCertLeaf
  rw [Program.exec_bind_ok (receiver_exec hp)]
  rcases hid : decodeScId E.deserializeFieldElement scId with e | id
  · obtain ⟨p, rfl⟩ := decodeScId_panics hid
    obtain ⟨thrown, hthrow⟩ := readScId_exec_error (w := w) hid
    exact ⟨thrown, Program.exec_bind_error hthrow⟩
  · rw [Program.exec_bind_ok (readScId_exec hid)]
    rcases hleaf : decodeScId E.deserializeFieldElement leaf with e | fe
    · obtain ⟨p, rfl⟩ := decodeScId_panics hleaf
      obtain ⟨thrown, hthrow⟩ := readScId_exec_error (w := w) hleaf
      exact ⟨thrown, Program.exec_bind_error hthrow⟩
    · obtain ⟨v', hrun, hcontents⟩ := hlib.addCertLeaf id fe v
      obtain ⟨w', hexec, hv'⟩ := modifying_exec hv hrun
      rw [Program.exec_bind_ok (readScId_exec hleaf), hexec]
      exact ⟨rfl, v', hv', hcontents⟩

/-- Each addition does to a tree what its arguments say. -/
theorem addition_exec (hlib : FollowsCommitmentModel E.toNativeLib M contentsOf)
    (hv : valueOf w .commitmentTree this = some v) (a : Addition) :
    Added contentsOf w this (contentsOf v) ((a.call E this).exec w)
      (a.decode E.deserializeFieldElement) := by
  cases a with
  | scCr args =>
      show Added _ _ _ _ ((CommitmentTree.addScCr E this args).exec w) _
      unfold CommitmentTree.addScCr
      rw [guarded_exec hv]
      exact nativeAdd_added hlib.addScc hv args
  | fwt args =>
      show Added _ _ _ _ ((CommitmentTree.addFwt E this args).exec w) _
      unfold CommitmentTree.addFwt
      rw [guarded_exec hv]
      exact nativeAdd_added hlib.addFwt hv args
  | btr args =>
      show Added _ _ _ _ ((CommitmentTree.addBtr E this args).exec w) _
      unfold CommitmentTree.addBtr
      rw [guarded_exec hv]
      exact nativeAdd_added hlib.addBwtr hv args
  | cert args =>
      show Added _ _ _ _ ((CommitmentTree.addCert E this args).exec w) _
      unfold CommitmentTree.addCert
      rw [guarded_exec hv]
      exact nativeAdd_added hlib.addCert hv args
  | csw args =>
      show Added _ _ _ _ ((CommitmentTree.addCsw E this args).exec w) _
      unfold CommitmentTree.addCsw
      rw [guarded_exec hv]
      exact nativeAdd_added hlib.addCsw hv args
  | nativeCertLeaf scId leaf => exact nativeAddCertLeaf_added hlib hv scId leaf
  | certLeaf scId leaf =>
      show Added _ _ _ _ ((CommitmentTree.addCertLeaf E this scId leaf).exec w) _
      unfold CommitmentTree.addCertLeaf
      rw [guarded_exec hv]
      exact nativeAddCertLeaf_added hlib hv scId leaf

theorem returnOption_told {w₁ : World V} (hv : valueOf w₁ .commitmentTree this = some v)
    (hmemory : OutOfMemory E.malloc w₁ → OutOfMemory E.malloc w) {k : Kind}
    (obj : Option (V k.nativeType)) :
    Told E contentsOf w this (contentsOf v) ((returnOption E k obj).exec w₁) (.ok obj) := by
  rcases obj with _ | x
  · exact ⟨rfl, v, hv, rfl⟩
  · show Told _ _ _ _ _ ((returnObject E k x).exec w₁) _
    obtain ⟨w₂, hcases, hkeeps⟩ := returnJobject_exec E.malloc k x w₁
    rcases hcases with ⟨hfull, hrun⟩ | ⟨r, hrun, hvalue⟩
    · rw [returnObject, hrun]
      exact ⟨⟨v, hkeeps _ _ _ hv, rfl⟩, .inl ⟨hmemory hfull, rfl⟩⟩
    · rw [returnObject, hrun]
      exact ⟨⟨v, hkeeps _ _ _ hv, rfl⟩, .inr ⟨r, rfl, hvalue⟩⟩

theorem queryTree_told {k : Kind}
    {get : V .fieldElement → Program (V .commitmentTree) Panic (Option (V k.nativeType))}
    {answer : V .fieldElement → List (Entry (V .fieldElement)) → Option (V k.nativeType)}
    (hget : ∀ scId, Tells contentsOf (get scId) (answer scId))
    (hv : valueOf w .commitmentTree this = some v) (scId : Option (List UInt8)) :
    Told E contentsOf w this (contentsOf v) ((CommitmentTree.queryTree E k get this scId).exec w)
      ((decodeScId E.deserializeFieldElement scId).map (answer · (contentsOf v).entries)) := by
  unfold CommitmentTree.queryTree
  rw [guarded_exec hv]
  rcases hid : decodeScId E.deserializeFieldElement scId with e | id
  · obtain ⟨thrown, hthrow⟩ := readScId_exec_error (w := w) hid
    exact ⟨thrown, Program.exec_bind_error hthrow⟩
  · obtain ⟨v', hrun, hcontents⟩ := hget id v
    obtain ⟨w', hexec, hv', hmemory⟩ := modifying_exec_memory hv hrun E.malloc
    rw [Program.exec_bind_ok (readScId_exec hid), Program.exec_bind_ok hexec, ← hcontents]
    exact returnOption_told hv' hmemory _

/-- Each query is answered for what the tree contains, and keeps it. -/
theorem query_told (hlib : FollowsCommitmentModel E.toNativeLib M contentsOf)
    (hv : valueOf w .commitmentTree this = some v) (q : Query) :
    Told E contentsOf w this (contentsOf v) ((q.call E this).exec w)
      (q.answer E.deserializeFieldElement M (contentsOf v).entries) := by
  cases q with
  | part p scId =>
      cases p with
      | scc => exact queryTree_told hlib.getScc hv scId
      | fwt => exact queryTree_told hlib.getFwtCommitment hv scId
      | bwtr => exact queryTree_told hlib.getBwtrCommitment hv scId
      | cert => exact queryTree_told hlib.getCertCommitment hv scId
      | csw => exact queryTree_told hlib.getCswCommitment hv scId
      | sc => exact queryTree_told hlib.getScCommitment hv scId
  | existence scId => exact queryTree_told hlib.getScExistenceProof hv scId
  | absence scId => exact queryTree_told hlib.getScAbsenceProof hv scId
  | commitment =>
      obtain ⟨v', hrun, hcontents⟩ := hlib.getCommitment v
      obtain ⟨w', hexec, hv', hmemory⟩ := modifying_exec_memory hv hrun E.malloc
      show Told _ _ _ _ _ ((CommitmentTree.getCommitment E this).exec w) _
      unfold CommitmentTree.getCommitment
      rw [guarded_exec hv, Program.exec_bind_ok hexec, ← hcontents]
      exact returnOption_told hv' hmemory _

theorem getCrtLeaves_told (hlib : FollowsCommitmentModel E.toNativeLib M contentsOf)
    (hv : valueOf w .commitmentTree this = some v) (scId : Option (List UInt8)) :
    ToldLeaves contentsOf w this (contentsOf v) ((CommitmentTree.getCrtLeaves E this scId).exec w)
      ((decodeScId E.deserializeFieldElement scId).map
        (M.certLeaves · (contentsOf v).entries)) := by
  unfold CommitmentTree.getCrtLeaves
  rw [guarded_exec hv]
  rcases hid : decodeScId E.deserializeFieldElement scId with e | id
  · obtain ⟨thrown, hthrow⟩ := readScId_exec_error (w := w) hid
    exact ⟨thrown, Program.exec_bind_error hthrow⟩
  · obtain ⟨v', hrun, hcontents⟩ := hlib.getCertLeaves id v
    obtain ⟨w₁, hexec, hv'⟩ := modifying_exec hv hrun
    rw [Program.exec_bind_ok (readScId_exec hid), Program.exec_bind_ok hexec, ← hcontents]
    show ToldLeaves _ _ _ _ _ (.ok (M.certLeaves id (contentsOf v').entries))
    rcases M.certLeaves id (contentsOf v').entries with _ | leaves
    · exact ⟨rfl, v', hv', rfl⟩
    · obtain ⟨first, w₂, hnull, hkeeps⟩ := newNullObject_exec .fieldElement w₁
      obtain ⟨w₃, hloop, hkeeps'⟩ := mapM_returnObject_exec E .fieldElement leaves w₂
      have hrest : (CommitmentTree.returnLeaves E leaves).exec w₁
          = (leaves.mapM (returnObject E .fieldElement)).exec w₂ := Program.exec_bind_ok hnull
      show ToldLeaves _ _ _ _ ((some <$> CommitmentTree.returnLeaves E leaves).exec w₁) _
      rw [Program.exec_map, hrest]
      have hkept : valueOf w₃ .commitmentTree this = some v' := hkeeps' _ _ _ (hkeeps _ _ _ hv')
      rcases hloop with hloop | ⟨rs, hloop, hvalues⟩
      · rw [hloop]
        exact ⟨⟨v', hkept, rfl⟩, .inl rfl⟩
      · rw [hloop]
        exact ⟨⟨v', hkept, rfl⟩, .inr ⟨rs, rfl, hvalues⟩⟩

end Calls

/-! ## A tree through a run -/

/-- The entry that an operation offers to a tree, if its arguments decode. -/
def Op.offered {F : Type} (deserialize : List UInt8 → Option F) (this : Ref) (op : Op) :
    Option (Entry F) :=
  (op.addition this).bind fun a => (a.decode deserialize).toOption

/-- What an operation makes of the contents of a tree. -/
def contentsSpec (E : Env V) (this : Ref) (_ : World V) (op : Op) (c : Contents M) : Contents M :=
  (op.offered E.deserializeFieldElement this).elim c c.offer

/-- What a run makes of them does not depend on what else is in the world. -/
theorem specFrom_contents (this : Ref) (ops : List Op) (w : World V) (c : Contents M) :
    specFrom E (contentsSpec E this) w ops c
      = c.offerAll (ops.filterMap (Op.offered E.deserializeFieldElement this)) := by
  induction ops generalizing w c with
  | nil => rfl
  | cons op ops ih =>
      show specFrom E (contentsSpec E this) _ ops (contentsSpec E this w op c) = _
      rw [ih, contentsSpec]
      rcases hop : op.offered E.deserializeFieldElement this with _ | x
      · rw [List.filterMap_cons_none hop]
        rfl
      · rw [List.filterMap_cons_some hop]
        rfl

section Steps

variable {this : Ref}

/-- The operations that write to a tree. -/
theorem op_of_writes {op : Op} (h : (Kind.commitmentTree, this) ∈ op.writes) :
    (∃ a : Addition, op = a.op this) ∨ (∃ q : Query, op = q.op this) ∨
      ∃ scId, op = .treeGetCrtLeaves this scId := by
  cases op with
  | treeAddScCr tree args =>
      obtain rfl : this = tree := by simpa [Op.writes] using h
      exact .inl ⟨.scCr args, rfl⟩
  | treeAddFwt tree args =>
      obtain rfl : this = tree := by simpa [Op.writes] using h
      exact .inl ⟨.fwt args, rfl⟩
  | treeAddBtr tree args =>
      obtain rfl : this = tree := by simpa [Op.writes] using h
      exact .inl ⟨.btr args, rfl⟩
  | treeAddCert tree args =>
      obtain rfl : this = tree := by simpa [Op.writes] using h
      exact .inl ⟨.cert args, rfl⟩
  | treeAddCsw tree args =>
      obtain rfl : this = tree := by simpa [Op.writes] using h
      exact .inl ⟨.csw args, rfl⟩
  | treeNativeAddCertLeaf tree scId leaf =>
      obtain rfl : this = tree := by simpa [Op.writes] using h
      exact .inl ⟨.nativeCertLeaf scId leaf, rfl⟩
  | treeAddCertLeaf tree scId leaf =>
      obtain rfl : this = tree := by simpa [Op.writes] using h
      exact .inl ⟨.certLeaf scId leaf, rfl⟩
  | treeGetScCrCommitment tree scId =>
      obtain rfl : this = tree := by simpa [Op.writes] using h
      exact .inr (.inl ⟨.part .scc scId, rfl⟩)
  | treeGetFwtCommitment tree scId =>
      obtain rfl : this = tree := by simpa [Op.writes] using h
      exact .inr (.inl ⟨.part .fwt scId, rfl⟩)
  | treeGetBtrCommitment tree scId =>
      obtain rfl : this = tree := by simpa [Op.writes] using h
      exact .inr (.inl ⟨.part .bwtr scId, rfl⟩)
  | treeGetCertCommitment tree scId =>
      obtain rfl : this = tree := by simpa [Op.writes] using h
      exact .inr (.inl ⟨.part .cert scId, rfl⟩)
  | treeGetCswCommitment tree scId =>
      obtain rfl : this = tree := by simpa [Op.writes] using h
      exact .inr (.inl ⟨.part .csw scId, rfl⟩)
  | treeGetScCommitment tree scId =>
      obtain rfl : this = tree := by simpa [Op.writes] using h
      exact .inr (.inl ⟨.part .sc scId, rfl⟩)
  | treeGetScExistenceProof tree scId =>
      obtain rfl : this = tree := by simpa [Op.writes] using h
      exact .inr (.inl ⟨.existence scId, rfl⟩)
  | treeGetScAbsenceProof tree scId =>
      obtain rfl : this = tree := by simpa [Op.writes] using h
      exact .inr (.inl ⟨.absence scId, rfl⟩)
  | treeGetCommitment tree =>
      obtain rfl : this = tree := by simpa [Op.writes] using h
      exact .inr (.inl ⟨.commitment, rfl⟩)
  | treeGetCrtLeaves tree scId =>
      obtain rfl : this = tree := by simpa [Op.writes] using h
      exact .inr (.inr ⟨scId, rfl⟩)
  | _ => simp [Op.writes] at h

theorem step_addition (a : Addition) : step E (a.op this) = discard (a.call E this) := by
  cases a with
  | _ => rfl

theorem step_query (q : Query) : step E (q.op this) = discard (q.call E this) := by
  cases q with
  | part p scId =>
      cases p with
      | _ => rfl
  | _ => rfl

theorem addition_op (a : Addition) : (a.op this).addition this = some a := by
  cases a with
  | _ => exact if_pos rfl

theorem addition_query (q : Query) (tree : Ref) : (q.op tree).addition this = none := by
  cases q with
  | part p scId =>
      cases p with
      | _ => rfl
  | _ => rfl

/-- An operation that adds to a tree writes to it. -/
theorem addition_eq_none {op : Op} (h : (Kind.commitmentTree, this) ∉ op.writes) :
    op.addition this = none := by
  rcases hop : op.addition this with _ | a
  · rfl
  · refine absurd ?_ h
    cases op with
    | treeAddScCr tree args | treeAddFwt tree args | treeAddBtr tree args | treeAddCert tree args
    | treeAddCsw tree args | treeNativeAddCertLeaf tree args _ | treeAddCertLeaf tree args _ =>
        rcases eq_or_ne tree this with rfl | hne
        · exact List.mem_singleton.mpr rfl
        · rw [Op.addition, if_neg hne] at hop
          cases hop
    | _ => cases hop

/-- The operations that write to a tree do to its contents what they offer. -/
theorem commitmentTree_tracks (hlib : FollowsCommitmentModel E.toNativeLib M contentsOf)
    (this : Ref) :
    Tracks E .commitmentTree this (fun v c => contentsOf v = c) (contentsSpec E this) where
  idle := by
    intro w op c hop
    rw [contentsSpec, Op.offered, addition_eq_none hop]
    rfl
  step := by
    intro w op v c hw hop hv hc
    subst hc
    rcases op_of_writes hop with ⟨a, rfl⟩ | ⟨q, rfl⟩ | ⟨scId, rfl⟩
    · have hadded := addition_exec hlib hv a
      rw [contentsSpec, Op.offered, addition_op, step_addition, discard_world]
      rcases hdecode : a.decode E.deserializeFieldElement with (p | -) | x
      · rw [hdecode] at hadded
        obtain ⟨thrown, hrun⟩ := hadded
        rw [hrun, Option.bind_some, hdecode]
        exact ⟨v, hv, rfl⟩
      · rw [hdecode] at hadded
        have hrun : (a.call E this).exec w = (.ok false, w) := hadded
        rw [hrun, Option.bind_some, hdecode]
        exact ⟨v, hv, rfl⟩
      · rw [hdecode] at hadded
        obtain ⟨-, v', hv', hcontents⟩ := hadded
        rw [Option.bind_some, hdecode]
        exact ⟨v', hv', hcontents⟩
    · have htold := query_told hlib hv q
      rw [contentsSpec, Op.offered, addition_query, step_query, discard_world]
      rcases hanswer : q.answer E.deserializeFieldElement M (contentsOf v).entries with e | _ | x
      · rw [hanswer] at htold
        obtain ⟨thrown, hrun⟩ := htold
        rw [hrun]
        exact ⟨v, hv, rfl⟩
      · rw [hanswer] at htold
        exact htold.2
      · rw [hanswer] at htold
        exact htold.1
    · have htold := getCrtLeaves_told hlib hv scId
      show ∃ v', valueOf ((discard (CommitmentTree.getCrtLeaves E this scId)).exec w).2 _ _ = _ ∧ _
      rw [discard_world]
      rcases hanswer : (decodeScId E.deserializeFieldElement scId).map
        (M.certLeaves · (contentsOf v).entries) with e | _ | leaves
      · rw [hanswer] at htold
        obtain ⟨thrown, hrun⟩ := htold
        rw [hrun]
        exact ⟨v, hv, rfl⟩
      · rw [hanswer] at htold
        exact htold.2
      · rw [hanswer] at htold
        exact htold.1

end Steps

/-- The tree is live, it stands for the contents, and all its methods do and answer
what the contents say. -/
structure CommitmentConforms (E : Env V) (contentsOf : V .commitmentTree → Contents M)
    (w : World V) (this : Ref) (c : Contents M) : Prop where
  stands : Holds contentsOf w this c
  addition : ∀ a : Addition, Added contentsOf w this c ((a.call E this).exec w)
    (a.decode E.deserializeFieldElement)
  query : ∀ q : Query, Told E contentsOf w this c ((q.call E this).exec w)
    (q.answer E.deserializeFieldElement M c.entries)
  leaves : ∀ scId : Option (List UInt8), ToldLeaves contentsOf w this c
    ((CommitmentTree.getCrtLeaves E this scId).exec w)
    ((decodeScId E.deserializeFieldElement scId).map (M.certLeaves · c.entries))

theorem commitmentConforms (hlib : FollowsCommitmentModel E.toNativeLib M contentsOf)
    {w : World V} {this : Ref} {c : Contents M} (h : Holds contentsOf w this c) :
    CommitmentConforms E contentsOf w this c := by
  obtain ⟨v, hv, rfl⟩ := h
  exact {
    stands := ⟨v, hv, rfl⟩
    addition := addition_exec hlib hv
    query := query_told hlib hv
    leaves := getCrtLeaves_told hlib hv }

/-! ## A library that works as contents do -/

/-- The sidechain an entry is for. -/
def Entry.scId {F : Type} : Entry F → F
  | scc data => data.scId
  | fwt data => data.scId
  | bwtr data => data.scId
  | cert data => data.scId
  | certLeaf scId _ => scId
  | csw data => data.scId

/-- Three entries are taken, and a commitment is a number of entries. -/
def countModel : CommitmentModel UInt8 UInt8 UInt8 where
  accepts entries _ := decide (entries.length < 3)
  part _ scId entries :=
    if scId ∈ entries.map Entry.scId then some (.ofNat ((entries.map Entry.scId).count scId))
    else none
  certLeaves scId entries := some (entries.filterMap fun
    | .certLeaf scId' leaf => if scId' = scId then some leaf else none
    | _ => none)
  existence scId entries :=
    if scId ∈ entries.map Entry.scId then some (.ofNat entries.length) else none
  absence scId entries :=
    if scId ∈ entries.map Entry.scId then none else some (.ofNat entries.length)
  commitment entries := some (.ofNat entries.length)

/-- Field elements and proofs are bytes, and trees are contents. -/
abbrev CommitmentValue : NativeType → Type
  | .fieldElement | .scExistenceProof | .scAbsenceProof => UInt8
  | .commitmentTree => Contents countModel
  | _ => Unit

instance (t : NativeType) : Inhabited (CommitmentValue t) :=
  match t with
  | .fieldElement | .scExistenceProof | .scAbsenceProof => ⟨(0 : UInt8)⟩
  | .commitmentTree => ⟨(Contents.empty : Contents countModel)⟩
  | .g2 | .scalar | .schnorrSig | .vrfProof | .fieldHash | .gingerMHT | .gingerMHTPath => ⟨()⟩

def offering (x : Entry UInt8) : Program (Contents countModel) Panic Bool :=
  Program.perform fun c => (countModel.accepts c.entries x, c.offer x)

def telling {α : Type} (answer : List (Entry UInt8) → α) : Program (Contents countModel) Panic α :=
  Program.look fun c => answer c.entries

def commitmentLib : NativeLib CommitmentValue :=
  { defaultLib CommitmentValue with
    deserializeFieldElement := fun bytes => bytes.head?
    createCommitmentTree := (Contents.empty : Contents countModel)
    addScc := fun data => offering (.scc data)
    addFwt := fun data => offering (.fwt data)
    addBwtr := fun data => offering (.bwtr data)
    addCert := fun data => offering (.cert data)
    addCertLeaf := fun scId leaf => offering (.certLeaf scId leaf)
    addCsw := fun data => offering (.csw data)
    getCertLeaves := fun scId => telling (countModel.certLeaves scId)
    getScc := fun scId => telling (countModel.part .scc scId)
    getFwtCommitment := fun scId => telling (countModel.part .fwt scId)
    getBwtrCommitment := fun scId => telling (countModel.part .bwtr scId)
    getCertCommitment := fun scId => telling (countModel.part .cert scId)
    getCswCommitment := fun scId => telling (countModel.part .csw scId)
    getScCommitment := fun scId => telling (countModel.part .sc scId)
    getCommitment := telling countModel.commitment
    getScExistenceProof := fun scId => telling (countModel.existence scId)
    getScAbsenceProof := fun scId => telling (countModel.absence scId)
    verifyScCommitment := fun _ (proof root : UInt8) => .ok (decide (proof = root))
    verifyScAbsence := fun _ (proof root : UInt8) => .ok (decide (proof = root)) }

def commitmentEnv : Env CommitmentValue := { commitmentLib with malloc := fun n => n + 1 }

theorem commitmentEnv_follows :
    FollowsCommitmentModel commitmentEnv.toNativeLib countModel (fun c => c) where
  create := rfl
  addScc := fun _ _ => ⟨_, rfl, rfl⟩
  addFwt := fun _ _ => ⟨_, rfl, rfl⟩
  addBwtr := fun _ _ => ⟨_, rfl, rfl⟩
  addCert := fun _ _ => ⟨_, rfl, rfl⟩
  addCertLeaf := fun _ _ _ => ⟨_, rfl, rfl⟩
  addCsw := fun _ _ => ⟨_, rfl, rfl⟩
  getScc := fun _ _ => ⟨_, rfl, rfl⟩
  getFwtCommitment := fun _ _ => ⟨_, rfl, rfl⟩
  getBwtrCommitment := fun _ _ => ⟨_, rfl, rfl⟩
  getCertCommitment := fun _ _ => ⟨_, rfl, rfl⟩
  getCswCommitment := fun _ _ => ⟨_, rfl, rfl⟩
  getScCommitment := fun _ _ => ⟨_, rfl, rfl⟩
  getCertLeaves := fun _ _ => ⟨_, rfl, rfl⟩
  getScExistenceProof := fun _ _ => ⟨_, rfl, rfl⟩
  getScAbsenceProof := fun _ _ => ⟨_, rfl, rfl⟩
  getCommitment := fun _ => ⟨_, rfl, rfl⟩
  verifyScCommitment := by
    intro c scId commitment proof root _ hproof hroot
    by_cases hmem : scId ∈ c.entries.map Entry.scId
    · have hlength : countModel.existence scId c.entries = some (.ofNat c.entries.length) :=
        if_pos hmem
      obtain rfl : UInt8.ofNat c.entries.length = proof :=
        Option.some.inj (hlength.symm.trans hproof)
      obtain rfl : UInt8.ofNat c.entries.length = root := Option.some.inj hroot
      exact congrArg Except.ok (decide_eq_true rfl)
    · have hnone : countModel.existence scId c.entries = none := if_neg hmem
      rw [hnone] at hproof
      cases hproof
  verifyScAbsence := by
    intro c scId proof root hproof hroot
    by_cases hmem : scId ∈ c.entries.map Entry.scId
    · have hnone : countModel.absence scId c.entries = none := if_pos hmem
      rw [hnone] at hproof
      cases hproof
    · have hlength : countModel.absence scId c.entries = some (.ofNat c.entries.length) :=
        if_neg hmem
      obtain rfl : UInt8.ofNat c.entries.length = proof :=
        Option.some.inj (hlength.symm.trans hproof)
      obtain rfl : UInt8.ofNat c.entries.length = root := Option.some.inj hroot
      exact congrArg Except.ok (decide_eq_true rfl)

/-- A tree is what it was offered, through every run: until it is closed, it contains
the entries of the calls whose arguments decoded, of those the ones that it took, and
nothing that was done to other objects or asked of the tree makes a difference. -/
theorem commitment_tree_refines (hlib : FollowsCommitmentModel E.toNativeLib M contentsOf)
    (before ops : List Op) {tree : Ref}
    (hinit : ((CommitmentTree.init E).exec (run E before)).1 = .ok tree) :
    CommitmentConforms E contentsOf (run E (before ++ .treeInit :: ops)) tree
        (Contents.empty.offerAll (ops.filterMap (Op.offered E.deserializeFieldElement tree))) ∨
      ClosedDuring E (run E (before ++ [.treeInit])) ops (.commitmentTree, tree) := by
  have hmade := exec_of_outcome E .treeInit rfl hinit
  obtain ⟨hv, -⟩ := returnObject_returned E hmade
  have hw := run_owned E (before ++ [.treeInit])
  rw [run_cons, ← run_concat]
  rcases (commitmentTree_tracks hlib tree).run ops hw hv hlib.create with
    ⟨v, hv', hcontents⟩ | hclosed
  · rw [specFrom_contents] at hcontents
    exact .inl (commitmentConforms hlib ⟨v, hv', hcontents⟩)
  · exact .inr hclosed

/-- An identifier. -/
def scIdOf (n : UInt8) : Option (List UInt8) := some (n :: List.replicate 31 0)

/-- A leaf that is taken, a query, an identifier that is too short, and another leaf. -/
def twoCertLeaves : List Op :=
  [.treeAddCertLeaf (some 0) (scIdOf 7) (scIdOf 1), .treeGetCommitment (some 0),
    .treeAddCertLeaf (some 0) (some []) (scIdOf 1),
    .treeNativeAddCertLeaf (some 0) (scIdOf 7) (scIdOf 2)]

/-- What the tree contains then. -/
def twoContents : Contents countModel :=
  Contents.empty.offerAll [.certLeaf 7 1, .certLeaf 7 2]

theorem commitment_tree_refines_two :
    CommitmentConforms commitmentEnv (fun c => c)
      (run commitmentEnv (.treeInit :: twoCertLeaves)) (some 0) twoContents := by
  have hinit : ((CommitmentTree.init commitmentEnv).exec (run commitmentEnv [])).1
      = .ok (some 0) := rfl
  rcases commitment_tree_refines commitmentEnv_follows [] twoCertLeaves hinit with
    hconforms | hclosed
  · exact hconforms
  · refine absurd hclosed (not_closedDuring commitmentEnv ?_)
    intro op hop w
    simp only [twoCertLeaves, List.mem_cons, List.not_mem_nil, or_false] at hop
    rcases hop with rfl | rfl | rfl | rfl
    all_goals simp [Op.closes]

/-! ## What a tree gave out -/

/-- At some time of the run a tree with these contents was asked, and gave out the
object, which was not closed since. -/
def GaveOut (E : Env V) (contentsOf : V .commitmentTree → Contents M) (ops : List Op)
    (c : Contents M) (q : Query) (r : Ref) : Prop :=
  ∃ before tree after, ops = before ++ q.op tree :: after ∧
    Holds contentsOf (run E before) tree c ∧
    ((q.call E tree).exec (run E before)).1 = .ok r ∧ r ≠ none ∧
    ¬ ClosedDuring E (run E (before ++ [q.op tree])) after (q.kind, r)

/-- An answer is there as long as no operation closes it. -/
theorem gaveOut_of_answer (before : List Op) (tree : Ref) (q : Query) (after : List Op) {r : Ref}
    {c : Contents M} (hholds : Holds contentsOf (run E before) tree c)
    (hrun : ((q.call E tree).exec (run E before)).1 = .ok r) (hsome : r ≠ none)
    (hafter : ∀ op ∈ after, ∀ w : World V, (q.kind, r) ∉ op.closes w) :
    GaveOut E contentsOf (before ++ q.op tree :: after) c q r :=
  ⟨before, tree, after, rfl, hholds, hrun, hsome, not_closedDuring E hafter⟩

/-- The object has the answer for a value, at the end too. -/
theorem gaveOut_value (hlib : FollowsCommitmentModel E.toNativeLib M contentsOf)
    {ops : List Op} {c : Contents M} {q : Query} {r : Ref}
    (h : GaveOut E contentsOf ops c q r) :
    ∃ x, q.answer E.deserializeFieldElement M c.entries = .ok (some x) ∧
      valueOf (run E ops) q.kind r = some x := by
  obtain ⟨before, tree, after, rfl, ⟨v, hv, rfl⟩, hrun, hsome, hopen⟩ := h
  have htold := query_told hlib hv q
  rcases hanswer : q.answer E.deserializeFieldElement M (contentsOf v).entries with e | _ | x
  · rw [hanswer] at htold
    obtain ⟨thrown, hthrow⟩ := htold
    rw [hthrow] at hrun
    cases hrun
  · rw [hanswer] at htold
    rw [htold.1] at hrun
    cases hrun
    exact absurd rfl hsome
  · refine ⟨x, rfl, ?_⟩
    rw [hanswer] at htold
    obtain ⟨-, ⟨-, habort⟩ | ⟨r', hr', hvalue⟩⟩ := htold
    · rw [habort] at hrun
      cases hrun
    · obtain rfl : r' = r := Except.ok.inj (hr'.symm.trans hrun)
      have hkind : mutableClass q.kind = false := by
        cases q with
        | _ => rfl
      exact run_value_of_call E (step_query q) hkind hr' hvalue hopen

theorem decoded_of_answer {α β : Type} {d : Decode α} {f : α → Option β} {x : β}
    (h : d.map f = .ok (some x)) : ∃ a, d = .ok a ∧ f a = some x := by
  rcases d with e | a
  · cases h
  · exact ⟨a, rfl, Except.ok.inj h⟩

/-- The three objects that trees with the same contents gave out have values that
verify. -/
theorem existence_values (hlib : FollowsCommitmentModel E.toNativeLib M contentsOf)
    {ops : List Op} {c : Contents M} {scId : Option (List UInt8)} {commitment proof root : Ref}
    (hcommitment : GaveOut E contentsOf ops c (.part .sc scId) commitment)
    (hproof : GaveOut E contentsOf ops c (.existence scId) proof)
    (hroot : GaveOut E contentsOf ops c .commitment root) :
    ∃ (s : V .fieldElement) (p : V .scExistenceProof) (t : V .fieldElement),
      valueOf (run E ops) .fieldElement commitment = some s ∧
      valueOf (run E ops) .scExistenceProof proof = some p ∧
      valueOf (run E ops) .fieldElement root = some t ∧ E.verifyScCommitment s p t = .ok true := by
  obtain ⟨s, hs, hsValue⟩ := gaveOut_value hlib hcommitment
  obtain ⟨p, hp, hpValue⟩ := gaveOut_value hlib hproof
  obtain ⟨t, ht, htValue⟩ := gaveOut_value hlib hroot
  obtain ⟨id, hid, hs⟩ := decoded_of_answer hs
  obtain ⟨id', hid', hp⟩ := decoded_of_answer hp
  obtain rfl : id = id' := Except.ok.inj (hid.symm.trans hid')
  have hverifies := hlib.verifyScCommitment c id s p t hs hp (Except.ok.inj ht)
  exact ⟨s, p, t, hsValue, hpValue, htValue, hverifies⟩

theorem verifyScCommitment_exec {w : World V} {commitment proof root : Ref} {s t : V .fieldElement}
    {p : V .scExistenceProof} (hs : valueOf w .fieldElement commitment = some s)
    (hp : valueOf w .scExistenceProof proof = some p)
    (ht : valueOf w .fieldElement root = some t) {answer : Bool}
    (hanswer : E.verifyScCommitment s p t = .ok answer) :
    ((CommitmentTree.verifyScCommitment E commitment proof root).exec w).1 = .ok answer := by
  unfold CommitmentTree.verifyScCommitment
  rw [Program.exec_bind_ok (reading_exec hs), Program.exec_bind_ok (reading_exec hp),
    Program.exec_bind_ok (reading_exec ht), hanswer, native_exec]

/-- An existence proof verifies for the commitment of its sidechain, against the
commitment of everything, whenever trees with the same contents gave out the three,
in any order, and as long as none of them is closed. -/
theorem existence_verifies (hlib : FollowsCommitmentModel E.toNativeLib M contentsOf)
    (ops : List Op) {c : Contents M} {scId : Option (List UInt8)} {commitment proof root : Ref}
    (hcommitment : GaveOut E contentsOf ops c (.part .sc scId) commitment)
    (hproof : GaveOut E contentsOf ops c (.existence scId) proof)
    (hroot : GaveOut E contentsOf ops c .commitment root) :
    ((CommitmentTree.verifyScCommitment E commitment proof root).exec (run E ops)).1
      = .ok true := by
  obtain ⟨s, p, t, hs, hp, ht, hverifies⟩ := existence_values hlib hcommitment hproof hroot
  exact verifyScCommitment_exec hs hp ht hverifies

/-- The beginning of the next runs. -/
def filled : List Op := .treeInit :: twoCertLeaves

theorem filled_holds :
    Holds (M := countModel) (fun c => c) (run commitmentEnv filled) (some 0) twoContents :=
  ⟨_, rfl, rfl⟩

/-- The tree is closed when it has given out its three objects. -/
theorem existence_verifies_two :
    ((CommitmentTree.verifyScCommitment commitmentEnv (some 1) (some 0) (some 2)).exec
      (run commitmentEnv (filled ++ [.treeGetScCommitment (some 0) (scIdOf 7),
        .treeGetScExistenceProof (some 0) (scIdOf 7), .treeGetCommitment (some 0),
        .free .commitmentTree (some 0)]))).1 = .ok true := by
  have hcommitment := gaveOut_of_answer (E := commitmentEnv) filled (some 0)
    (.part .sc (scIdOf 7)) [.treeGetScExistenceProof (some 0) (scIdOf 7),
      .treeGetCommitment (some 0), .free .commitmentTree (some 0)] (r := some 1) filled_holds rfl
    (by decide) (by simp [Op.closes, Query.kind])
  have hasked : Holds (M := countModel) (fun c => c) (run commitmentEnv (filled ++
    [.treeGetScCommitment (some 0) (scIdOf 7)])) (some 0) twoContents := ⟨_, rfl, rfl⟩
  have hproof := gaveOut_of_answer (E := commitmentEnv) _ (some 0) (.existence (scIdOf 7))
    [.treeGetCommitment (some 0), .free .commitmentTree (some 0)] (r := some 0) hasked rfl
    (by decide) (by simp [Op.closes, Query.kind])
  have hproved : Holds (M := countModel) (fun c => c) (run commitmentEnv (filled ++
    [.treeGetScCommitment (some 0) (scIdOf 7), .treeGetScExistenceProof (some 0) (scIdOf 7)]))
    (some 0) twoContents := ⟨_, rfl, rfl⟩
  have hroot := gaveOut_of_answer (E := commitmentEnv) _ (some 0) .commitment
    [.free .commitmentTree (some 0)] (r := some 2) hproved rfl (by decide)
    (by simp [Op.closes, Query.kind])
  exact existence_verifies commitmentEnv_follows _ hcommitment hproof hroot

/-- So does an absence proof, for the identifier. -/
theorem absence_verifies (hlib : FollowsCommitmentModel E.toNativeLib M contentsOf)
    (ops : List Op) {c : Contents M} {scId : Option (List UInt8)} {proof root : Ref}
    (hproof : GaveOut E contentsOf ops c (.absence scId) proof)
    (hroot : GaveOut E contentsOf ops c .commitment root) :
    ((CommitmentTree.verifyScAbsence E scId proof root).exec (run E ops)).1 = .ok true := by
  obtain ⟨p, hp, hpValue⟩ := gaveOut_value hlib hproof
  obtain ⟨t, ht, htValue⟩ := gaveOut_value hlib hroot
  obtain ⟨id, hid, hp⟩ := decoded_of_answer hp
  have hverifies := hlib.verifyScAbsence c id p t hp (Except.ok.inj ht)
  have hreadP : (reading .scAbsenceProof proof).exec (run E ops) = (.ok p, run E ops) :=
    reading_exec hpValue
  have hreadT : (reading .fieldElement root).exec (run E ops) = (.ok t, run E ops) :=
    reading_exec htValue
  unfold CommitmentTree.verifyScAbsence
  rw [Program.exec_bind_ok (readScId_exec hid), Program.exec_bind_ok hreadP,
    Program.exec_bind_ok hreadT, hverifies, native_exec]

/-- Another sidechain. -/
theorem absence_verifies_two :
    ((CommitmentTree.verifyScAbsence commitmentEnv (scIdOf 9) (some 0) (some 1)).exec
      (run commitmentEnv (filled ++ [.treeGetScAbsenceProof (some 0) (scIdOf 9),
        .treeGetCommitment (some 0), .free .commitmentTree (some 0)]))).1 = .ok true := by
  have hproof := gaveOut_of_answer (E := commitmentEnv) filled (some 0) (.absence (scIdOf 9))
    [.treeGetCommitment (some 0), .free .commitmentTree (some 0)] (r := some 0) filled_holds rfl
    (by decide) (by simp [Op.closes, Query.kind])
  have hasked : Holds (M := countModel) (fun c => c) (run commitmentEnv (filled ++
    [.treeGetScAbsenceProof (some 0) (scIdOf 9)])) (some 0) twoContents := ⟨_, rfl, rfl⟩
  have hroot := gaveOut_of_answer (E := commitmentEnv) _ (some 0) .commitment
    [.free .commitmentTree (some 0)] (r := some 1) hasked rfl (by decide)
    (by simp [Op.closes, Query.kind])
  exact absence_verifies commitmentEnv_follows _ hproof hroot

end ZendooSc.Handles
