/-
ZendooSc.Handles.MerkleRuns — Merkle trees and their paths over whole runs.

`LeafTree` is what an `InMemoryOptimizedMerkleTree` stands for: the leaves it was
given since its creation or its last reset, no more than its height allows, and
whether it was finalized. A `MerklePath` stands for a path of `Lib.MerkleTree`. The
two types of ginger-lib are outside of this repository; `FollowsMerkleModel` is
what is taken from them.

`merkle_tree_refines` follows a tree through a run in which everything else may
happen too, and says what its methods answer. `membership_verifies`: a path that a
tree gave out verifies at any later time, for its leaf, against the root that a
tree of the same leaves gave out, whichever came first. `membership_sound` is the
converse, for a path of any origin: if it verifies against the root of a tree, the
element is the leaf of the tree at the index of the path.
-/
import ZendooSc.Handles.PoseidonRefinement
import ZendooSc.Handles.Returns
import ZendooSc.Lib.MerkleTree

namespace ZendooSc.Handles

open Lib

/-! ## What the classes stand for -/

/-- The leaves of a tree, and whether it was finalized. -/
structure LeafTree (F : Type) where
  height : ℕ
  leaves : List F
  finalized : Bool
  bounded : leaves.length ≤ 2 ^ height

namespace LeafTree

variable {F : Type}

def fresh (height : ℕ) : LeafTree F := ⟨height, [], false, Nat.zero_le _⟩

/-- There is room for a leaf, and the tree was not finalized. -/
def accepts (t : LeafTree F) : Bool := !t.finalized && decide (t.leaves.length < 2 ^ t.height)

theorem accepts_length {t : LeafTree F} (h : t.accepts = true) :
    t.leaves.length < 2 ^ t.height := by
  simp only [accepts, Bool.and_eq_true, decide_eq_true_eq] at h
  exact h.2

def append (t : LeafTree F) (x : F) : LeafTree F :=
  if h : t.accepts = true then
    { t with
      leaves := t.leaves ++ [x]
      bounded := by
        rw [List.length_append]
        exact accepts_length h }
  else t

def finalize (t : LeafTree F) : LeafTree F := { t with finalized := true }

def reset (t : LeafTree F) : LeafTree F := fresh t.height

/-- The `i`-th leaf. Those after the last one are empty. -/
def leaf (t : LeafTree F) (emptyLeaf : F) (i : ℕ) : F := t.leaves.getD i emptyLeaf

end LeafTree

/-- The hash of two children, and the empty leaf. -/
structure MerkleModel (F : Type) where
  hash : F × F → F
  emptyLeaf : F

namespace MerkleModel

variable {F : Type} (M : MerkleModel F)

def root (t : LeafTree F) : F := merkleRoot M.hash t.height (t.leaf M.emptyLeaf)

def path (t : LeafTree F) (i : ℕ) : List (PathStep F) :=
  authPath M.hash t.height (t.leaf M.emptyLeaf) i

end MerkleModel

variable {V : NativeType → Type}

/-- `GingerMHT` and `GingerMHTPath` of the library work as trees of leaves and as
paths. `treeOf` and `pathOf` are what their values stand for. -/
structure FollowsMerkleModel (L : NativeLib V) (M : MerkleModel (V .fieldElement))
    (treeOf : V .gingerMHT → LeafTree (V .fieldElement))
    (pathOf : V .gingerMHTPath → List (PathStep (V .fieldElement))) : Prop where
  init : ∀ height processingStep v,
    L.newGingerMHT height processingStep = pure v → treeOf v = .fresh height.toNat
  append : ∀ x v, ∃ result v', (L.appendLeafToGingerMHT x).exec v = (.ok result, v') ∧
    treeOf v' = (treeOf v).append x ∧ isOk result = (treeOf v).accepts
  finalize : ∀ v v', L.finalizeGingerMHT v = pure v' → treeOf v' = (treeOf v).finalize
  finalizeInPlace : ∀ v, ∃ result v', L.finalizeGingerMHTInPlace.exec v = (.ok result, v') ∧
    treeOf v' = (treeOf v).finalize
  reset : ∀ v, ∃ v', L.resetGingerMHT.exec v = (.ok (), v') ∧ treeOf v' = (treeOf v).reset
  root : ∀ v, L.getGingerMHTRoot v =
    .ok (if (treeOf v).finalized then some (M.root (treeOf v)) else none)
  path : ∀ v (i : UInt64), (treeOf v).finalized = true → i.toNat < 2 ^ (treeOf v).height →
    ∃ q, L.getGingerMHTPath v i = .ok (some q) ∧ pathOf q = M.path (treeOf v) i.toNat ∧
      L.isValidPath q = true
  pathNone : ∀ v i, (treeOf v).finalized = false → L.getGingerMHTPath v i = .ok none
  verify : ∀ q height leaf root, L.verifyGingerMerklePath q height leaf root = pure true ↔
    (pathOf q).length = height.toNat ∧ climb M.hash leaf (pathOf q) = root
  verifyWithoutLengthCheck : ∀ q leaf root,
    L.verifyGingerMerklePathWithoutLengthCheck q leaf root = .ok true ↔
      climb M.hash leaf (pathOf q) = root
  apply : ∀ q leaf, L.getRootFromPath q leaf = .ok (climb M.hash leaf (pathOf q))
  leftmost : ∀ q, L.isPathLeftmost q = .ok ((pathOf q).all fun step => !step.1)
  rightmost : ∀ q, L.isPathRightmost q = .ok ((pathOf q).all fun step => step.1)
  rightLeavesEmpty : ∀ q,
    L.areRightLeavesEmpty q = .ok true ↔ rightEmpty M.hash M.emptyLeaf (pathOf q)
  leafIndex : ∀ q, L.getLeafIndexFromPath q = .ok (UInt64.ofNat (pathIndex (pathOf q)))

variable {E : Env V} {M : MerkleModel (V .fieldElement)}
  {treeOf : V .gingerMHT → LeafTree (V .fieldElement)}
  {pathOf : V .gingerMHTPath → List (PathStep (V .fieldElement))}

/-! ## A tree through a run -/

/-- What an operation makes of a tree. One on another object, or with an argument
without a value, does nothing. -/
def treeSpec (this : Ref) (w : World V) (op : Op) (t : LeafTree (V .fieldElement)) :
    LeafTree (V .fieldElement) :=
  match op with
  | .merkleAppend tree input =>
      if tree = this then (valueOf w .fieldElement input).elim t t.append else t
  | .merkleFinalizeInPlace tree => if tree = this then t.finalize else t
  | .merkleReset tree => if tree = this then t.reset else t
  | _ => t

section Methods

variable (hlib : FollowsMerkleModel E.toNativeLib M treeOf pathOf) {w : World V} {this : Ref}
  {v : V .gingerMHT}

include hlib

theorem append_exec (hv : valueOf w .inMemoryOptimizedMerkleTree this = some v) {input : Ref}
    {x : V .fieldElement} (hx : valueOf w .fieldElement input = some x) :
    ∃ w' v', (InMemoryOptimizedMerkleTree.append E this input).exec w
        = (.ok (treeOf v).accepts, w') ∧
      valueOf w' .inMemoryOptimizedMerkleTree this = some v' ∧
      treeOf v' = (treeOf v).append x := by
  obtain ⟨result, v', hrun, htree, hresult⟩ := hlib.append x v
  obtain ⟨w', hexec, hv'⟩ := modifying_exec hv hrun
  refine ⟨w', v', ?_, hv', htree⟩
  unfold InMemoryOptimizedMerkleTree.append
  rw [Program.exec_bind_ok (checkNotFreed_exec _ hv), Program.exec_bind_ok (reading_exec hx),
    Program.exec_map, hexec, ← hresult]
  rfl

theorem finalizeTreeInPlace_exec (hv : valueOf w .inMemoryOptimizedMerkleTree this = some v) :
    ∃ answer w' v', (InMemoryOptimizedMerkleTree.finalizeTreeInPlace E this).exec w
        = (.ok answer, w') ∧
      valueOf w' .inMemoryOptimizedMerkleTree this = some v' ∧ treeOf v' = (treeOf v).finalize := by
  obtain ⟨result, v', hrun, htree⟩ := hlib.finalizeInPlace v
  obtain ⟨w', hexec, hv'⟩ := modifying_exec hv hrun
  refine ⟨isOk result, w', v', ?_, hv', htree⟩
  unfold InMemoryOptimizedMerkleTree.finalizeTreeInPlace
  rw [Program.exec_bind_ok (checkNotFreed_exec _ hv), Program.exec_map, hexec]
  rfl

theorem merkleReset_exec (hv : valueOf w .inMemoryOptimizedMerkleTree this = some v) :
    ∃ w' v', (InMemoryOptimizedMerkleTree.reset E this).exec w = (.ok (), w') ∧
      valueOf w' .inMemoryOptimizedMerkleTree this = some v' ∧ treeOf v' = (treeOf v).reset := by
  obtain ⟨v', hrun, htree⟩ := hlib.reset v
  obtain ⟨w', hexec, hv'⟩ := modifying_exec hv hrun
  refine ⟨w', v', ?_, hv', htree⟩
  unfold InMemoryOptimizedMerkleTree.reset
  rw [Program.exec_bind_ok (checkNotFreed_exec _ hv), hexec]

/-- The three operations that write to a tree do to it what they do to the leaves. -/
theorem merkleTree_tracks (this : Ref) :
    Tracks E .inMemoryOptimizedMerkleTree this (fun v t => treeOf v = t) (treeSpec this) where
  idle := by
    intro w op t hop
    cases op with
    | merkleAppend tree input => exact if_neg (ne_of_not_writes hop)
    | merkleFinalizeInPlace tree => exact if_neg (ne_of_not_writes hop)
    | merkleReset tree => exact if_neg (ne_of_not_writes hop)
    | _ => rfl
  step := by
    intro w op v t hw hop hv ht
    subst ht
    cases op with
    | merkleAppend tree input =>
        obtain rfl : tree = this := eq_of_writes hop
        rw [treeSpec, if_pos rfl]
        show ∃ v', valueOf ((discard (InMemoryOptimizedMerkleTree.append E tree input)).exec w).2
          _ _ = _ ∧ _
        rw [discard_world]
        rcases hx : valueOf w .fieldElement input with _ | x
        · obtain ⟨e, hthrow⟩ := reading_exec_none hw hx
          refine ⟨v, ?_, rfl⟩
          unfold InMemoryOptimizedMerkleTree.append
          rw [Program.exec_bind_ok (checkNotFreed_exec _ hv), Program.exec_bind_error hthrow]
          exact hv
        · obtain ⟨w', v', hrun, hv', htree⟩ := append_exec hlib hv hx
          refine ⟨v', ?_, htree⟩
          rw [hrun]
          exact hv'
    | merkleFinalizeInPlace tree =>
        obtain rfl : tree = this := eq_of_writes hop
        rw [treeSpec, if_pos rfl]
        obtain ⟨answer, w', v', hrun, hv', htree⟩ := finalizeTreeInPlace_exec hlib hv
        refine ⟨v', ?_, htree⟩
        show valueOf ((discard (InMemoryOptimizedMerkleTree.finalizeTreeInPlace E tree)).exec w).2
          _ _ = _
        rw [discard_world, hrun]
        exact hv'
    | merkleReset tree =>
        obtain rfl : tree = this := eq_of_writes hop
        rw [treeSpec, if_pos rfl]
        obtain ⟨w', v', hrun, hv', htree⟩ := merkleReset_exec hlib hv
        refine ⟨v', ?_, htree⟩
        show valueOf ((InMemoryOptimizedMerkleTree.reset E tree).exec w).2 _ _ = _
        rw [hrun]
        exact hv'
    | _ => simp [Op.writes] at hop

/-! ## What a tree answers -/

theorem finalizeTree_returned
    (hv : valueOf w .inMemoryOptimizedMerkleTree this = some v) {copy : Ref} {w' : World V}
    (h : (InMemoryOptimizedMerkleTree.finalizeTree E this).exec w = (.ok copy, w'))
    (hcopy : copy ≠ none) :
    ∃ v', valueOf w' .inMemoryOptimizedMerkleTree copy = some v' ∧
      treeOf v' = (treeOf v).finalize ∧ KeepsValues w w' := by
  unfold InMemoryOptimizedMerkleTree.finalizeTree at h
  rw [Program.exec_bind_ok (checkNotFreed_exec _ hv), Program.exec_bind_ok (reading_exec hv)] at h
  obtain ⟨v', hfinal, hv', hkeeps⟩ := returnResult_returned E h hcopy
  exact ⟨v', hv', hlib.finalize v v' hfinal, hkeeps⟩

theorem root_exec (hv : valueOf w .inMemoryOptimizedMerkleTree this = some v) :
    (InMemoryOptimizedMerkleTree.root E this).exec w = (returnOption E .fieldElement
      (if (treeOf v).finalized then some (M.root (treeOf v)) else none)).exec w := by
  unfold InMemoryOptimizedMerkleTree.root
  rw [Program.exec_bind_ok (checkNotFreed_exec _ hv), Program.exec_bind_ok (reading_exec hv),
    hlib.root, Program.exec_bind_ok (native_exec _ w)]

theorem getMerklePath_exec (hv : valueOf w .inMemoryOptimizedMerkleTree this = some v)
    {index : Int64} (hindex : index.toUInt64.toNat < 2 ^ (treeOf v).height)
    (hfinalized : (treeOf v).finalized = true) :
    ∃ q, (InMemoryOptimizedMerkleTree.getMerklePath E this index).exec w
        = (returnObject E .merklePath q).exec w ∧
      pathOf q = M.path (treeOf v) index.toUInt64.toNat ∧ E.isValidPath q = true := by
  obtain ⟨q, hget, hpath, hvalid⟩ := hlib.path v index.toUInt64 hfinalized hindex
  refine ⟨q, ?_, hpath, hvalid⟩
  unfold InMemoryOptimizedMerkleTree.getMerklePath
  rw [Program.exec_bind_ok (checkNotFreed_exec _ hv), Program.exec_bind_ok (reading_exec hv),
    hget, Program.exec_bind_ok (native_exec _ w)]
  rfl

theorem getMerklePath_exec_none (hv : valueOf w .inMemoryOptimizedMerkleTree this = some v)
    (index : Int64) (hfinalized : (treeOf v).finalized = false) :
    (InMemoryOptimizedMerkleTree.getMerklePath E this index).exec w = (.ok none, w) := by
  unfold InMemoryOptimizedMerkleTree.getMerklePath
  rw [Program.exec_bind_ok (checkNotFreed_exec _ hv), Program.exec_bind_ok (reading_exec hv),
    hlib.pathNone v _ hfinalized, Program.exec_bind_ok (native_exec _ w)]
  rfl

theorem root_returned {w' : World V} {r : Ref}
    (hv : valueOf w .inMemoryOptimizedMerkleTree this = some v)
    (h : (InMemoryOptimizedMerkleTree.root E this).exec w = (.ok r, w')) (hr : r ≠ none) :
    valueOf w' .fieldElement r = some (M.root (treeOf v)) ∧ KeepsValues w w' := by
  rw [root_exec hlib hv] at h
  obtain ⟨x, hx, hvalue, hkeeps⟩ := returnOption_returned E h hr
  rcases hfinalized : (treeOf v).finalized with _ | _
  · rw [hfinalized] at hx
    cases hx
  · rw [hfinalized] at hx
    cases hx
    exact ⟨hvalue, hkeeps⟩

theorem getMerklePath_returned {w' : World V} {r : Ref} {index : Int64}
    (hv : valueOf w .inMemoryOptimizedMerkleTree this = some v)
    (hindex : index.toUInt64.toNat < 2 ^ (treeOf v).height)
    (h : (InMemoryOptimizedMerkleTree.getMerklePath E this index).exec w = (.ok r, w'))
    (hr : r ≠ none) :
    ∃ q, valueOf w' .merklePath r = some q ∧ pathOf q = M.path (treeOf v) index.toUInt64.toNat ∧
      E.isValidPath q = true ∧ KeepsValues w w' := by
  rcases hfinalized : (treeOf v).finalized with _ | _
  · rw [getMerklePath_exec_none hlib hv index hfinalized] at h
    cases h
    exact absurd rfl hr
  · obtain ⟨q, hexec, hpath, hvalid⟩ := getMerklePath_exec hlib hv hindex hfinalized
    rw [hexec] at h
    obtain ⟨hvalue, hkeeps⟩ := returnObject_returned E h
    exact ⟨q, hvalue, hpath, hvalid, hkeeps⟩

end Methods

/-- The tree is live, its box stands for these leaves, and its methods answer for
them. Where there is an object to return, there may be no memory for it. -/
structure TreeConforms (E : Env V) (M : MerkleModel (V .fieldElement))
    (treeOf : V .gingerMHT → LeafTree (V .fieldElement))
    (pathOf : V .gingerMHTPath → List (PathStep (V .fieldElement))) (w : World V) (this : Ref)
    (t : LeafTree (V .fieldElement)) : Prop where
  stands : ∃ v, valueOf w .inMemoryOptimizedMerkleTree this = some v ∧ treeOf v = t
  append : ∀ input x, valueOf w .fieldElement input = some x →
    ((InMemoryOptimizedMerkleTree.append E this input).exec w).1 = .ok t.accepts
  finalize : ∀ copy w', (InMemoryOptimizedMerkleTree.finalizeTree E this).exec w = (.ok copy, w') →
    copy ≠ none → (∃ v', valueOf w' .inMemoryOptimizedMerkleTree copy = some v' ∧
      treeOf v' = t.finalize) ∧ KeepsValues w w'
  root : (t.finalized = true ∧ OutOfMemory E.malloc w ∧
      ((InMemoryOptimizedMerkleTree.root E this).exec w).1 = .error .abort) ∨
    ∃ r w', (InMemoryOptimizedMerkleTree.root E this).exec w = (.ok r, w') ∧
      RefersTo w' r (if t.finalized then some (M.root t) else none)
  path : ∀ index : Int64, t.finalized = true → index.toUInt64.toNat < 2 ^ t.height →
    (OutOfMemory E.malloc w ∧
      ((InMemoryOptimizedMerkleTree.getMerklePath E this index).exec w).1 = .error .abort) ∨
    ∃ r w' q, (InMemoryOptimizedMerkleTree.getMerklePath E this index).exec w = (.ok r, w') ∧
      valueOf w' .merklePath r = some q ∧ pathOf q = M.path t index.toUInt64.toNat
  pathNone : ∀ index : Int64, t.finalized = false →
    (InMemoryOptimizedMerkleTree.getMerklePath E this index).exec w = (.ok none, w)

theorem treeConforms (hlib : FollowsMerkleModel E.toNativeLib M treeOf pathOf) {w : World V}
    {this : Ref} {v : V .gingerMHT}
    (hv : valueOf w .inMemoryOptimizedMerkleTree this = some v) :
    TreeConforms E M treeOf pathOf w this (treeOf v) where
  stands := ⟨v, hv, rfl⟩
  append := by
    intro input x hx
    obtain ⟨w', v', hrun, -, -⟩ := append_exec hlib hv hx
    rw [hrun]
  finalize := by
    intro copy w' hrun hcopy
    obtain ⟨v', hv', htree, hkeeps⟩ := finalizeTree_returned hlib hv hrun hcopy
    exact ⟨⟨v', hv', htree⟩, hkeeps⟩
  root := by
    rw [root_exec hlib hv]
    rcases hfinalized : (treeOf v).finalized with _ | _
    · exact .inr ⟨none, w, rfl, rfl⟩
    · rcases returnObject_exec E .fieldElement (M.root (treeOf v)) w with hfull | hrun
      · exact .inl ⟨rfl, hfull⟩
      · exact .inr hrun
  path := by
    intro index hfinalized hindex
    obtain ⟨q, hexec, hpath, -⟩ := getMerklePath_exec hlib hv hindex hfinalized
    rw [hexec]
    rcases returnObject_exec E .merklePath q w with hfull | ⟨r, w', hrun, hvalue⟩
    · exact .inl hfull
    · exact .inr ⟨r, w', q, hrun, hvalue, hpath⟩
  pathNone := fun index hfinalized => getMerklePath_exec_none hlib hv index hfinalized

/-- A tree is the leaves it was given, through every run: until it is closed, it
holds those that were appended since it was made or last reset, up to its
capacity and to its finalization, and answers for them. -/
theorem merkle_tree_refines (hlib : FollowsMerkleModel E.toNativeLib M treeOf pathOf)
    (before ops : List Op) {height : Int32} {processingStep : Int64} {tree : Ref}
    (hinit : ((InMemoryOptimizedMerkleTree.init E height processingStep).exec (run E before)).1
      = .ok tree) (hsome : tree ≠ none) :
    TreeConforms E M treeOf pathOf (run E (before ++ .merkleInit height processingStep :: ops)) tree
        (specFrom E (treeSpec tree) (run E (before ++ [.merkleInit height processingStep])) ops
          (.fresh height.toInt64.toUInt64.toNat)) ∨
      ClosedDuring E (run E (before ++ [.merkleInit height processingStep])) ops
        (.inMemoryOptimizedMerkleTree, tree) := by
  have hmade := exec_of_outcome E (.merkleInit height processingStep) rfl hinit
  obtain ⟨v, hnew, hv, -⟩ := returnResult_returned E hmade hsome
  have hw := run_owned E (before ++ [.merkleInit height processingStep])
  rw [run_cons, ← run_concat]
  rcases (merkleTree_tracks hlib tree).run ops hw hv (hlib.init _ _ v hnew) with
    ⟨v', hv', htree⟩ | hclosed
  · left
    rw [← htree]
    exact treeConforms hlib hv'
  · exact .inr hclosed

/-! ## What a path answers -/

section Paths

variable {w : World V} {this leaf root : Ref} {q : V .gingerMHTPath} {x y : V .fieldElement}

theorem verifyMethod_exec (hq : valueOf w .merklePath this = some q)
    (hx : valueOf w .fieldElement leaf = some x) (hy : valueOf w .fieldElement root = some y)
    (check : V .gingerMHTPath → V .fieldElement → V .fieldElement → Call Bool) :
    (MerklePath.verifyMethod E this leaf root check).exec w
      = (if E.isValidPath q then returnBool (check q x y) else pure false : JavaCall V Bool).exec
          w := by
  unfold MerklePath.verifyMethod
  rw [Program.exec_bind_ok (checkNotFreed_exec _ hq), Program.exec_bind_ok (reading_exec hx),
    Program.exec_bind_ok (reading_exec hy), Program.exec_bind_ok (reading_exec hq)]

theorem apply_exec {z : V .fieldElement} (hq : valueOf w .merklePath this = some q)
    (hx : valueOf w .fieldElement leaf = some x) (hroot : E.getRootFromPath q x = .ok z) :
    (MerklePath.apply E this leaf).exec w = (returnObject E .fieldElement z).exec w := by
  unfold MerklePath.apply
  rw [Program.exec_bind_ok (checkNotFreed_exec _ hq), Program.exec_bind_ok (reading_exec hq),
    Program.exec_bind_ok (reading_exec hx), hroot, Program.exec_bind_ok (native_exec z w)]

/-- A method that verified has found the three values, and a valid path. -/
theorem verifyMethod_returned (hw : Owned w)
    {check : V .gingerMHTPath → V .fieldElement → V .fieldElement → Call Bool}
    (h : ((MerklePath.verifyMethod E this leaf root check).exec w).1 = .ok true) :
    ∃ q x y, valueOf w .merklePath this = some q ∧ valueOf w .fieldElement leaf = some x ∧
      valueOf w .fieldElement root = some y ∧ check q x y = pure true := by
  rcases hrun : (MerklePath.verifyMethod E this leaf root check).exec w with ⟨result, w'⟩
  rw [hrun] at h
  obtain rfl : result = .ok true := h
  unfold MerklePath.verifyMethod at hrun
  obtain ⟨_, hrun⟩ := (looks_checkNotFreed _ _ _).returned hw hrun
  obtain ⟨x, hx, hrun⟩ := reading_returned hw hrun
  obtain ⟨y, hy, hrun⟩ := reading_returned hw hrun
  obtain ⟨q, hq, hrun⟩ := reading_returned hw hrun
  refine ⟨q, x, y, hq, hx, hy, ?_⟩
  by_cases hvalid : E.isValidPath q = true
  · rw [if_pos hvalid] at hrun
    obtain ⟨outcome, houtcome, hrest⟩ := native_returned hrun
    rcases outcome with e | answer
    · cases hrest
    · cases hrest
      exact houtcome
  · rw [if_neg hvalid] at hrun
    cases hrun

theorem query_exec {α : Type} {f : V .gingerMHTPath → Except Panic α} {answer : α}
    (hq : valueOf w .merklePath this = some q) (hanswer : f q = .ok answer) :
    (MerklePath.query this f).exec w = (.ok answer, w) := by
  unfold MerklePath.query
  rw [Program.exec_bind_ok (checkNotFreed_exec _ hq), Program.exec_bind_ok (reading_exec hq),
    hanswer, native_exec]

end Paths

/-! ## A library that works as trees do -/

/-- Field elements are numbers, trees are leaves and paths are paths. -/
abbrev MerkleValue : NativeType → Type
  | .fieldElement => ℕ
  | .gingerMHT => LeafTree ℕ
  | .gingerMHTPath => List (PathStep ℕ)
  | _ => Unit

instance (t : NativeType) : Inhabited (MerkleValue t) :=
  match t with
  | .fieldElement => ⟨0⟩
  | .gingerMHT => ⟨.fresh 0⟩
  | .gingerMHTPath => ⟨([] : List (PathStep ℕ))⟩
  | .g2 | .scalar | .schnorrSig | .vrfProof | .fieldHash | .commitmentTree
  | .scExistenceProof | .scAbsenceProof => ⟨()⟩

/-- Two digits for the hash of two numbers. -/
def digitModel : MerkleModel ℕ := ⟨fun x => 10 * x.1 + x.2, 0⟩

def merkleLib : NativeLib MerkleValue :=
  { defaultLib MerkleValue with
    fieldElementFrom := fun value => value.toNat
    newGingerMHT := fun height _ => pure (LeafTree.fresh height.toNat)
    appendLeafToGingerMHT := fun x => Program.perform fun t : LeafTree ℕ =>
      (if t.accepts then .ok () else .error (.library "no room"), t.append x)
    finalizeGingerMHT := fun t => pure (LeafTree.finalize t)
    finalizeGingerMHTInPlace := Program.perform fun t : LeafTree ℕ => (.ok (), t.finalize)
    getGingerMHTRoot := fun t =>
      .ok (if LeafTree.finalized t then some (digitModel.root t) else none)
    getGingerMHTPath := fun t i =>
      .ok (if LeafTree.finalized t then some (digitModel.path t i.toNat) else none)
    resetGingerMHT := Program.update LeafTree.reset
    verifyGingerMerklePath := fun (q : List (PathStep ℕ)) height leaf root =>
      pure (decide (q.length = height.toNat ∧ climb digitModel.hash leaf q = root))
    verifyGingerMerklePathWithoutLengthCheck := fun (q : List (PathStep ℕ)) leaf root =>
      .ok (decide (climb digitModel.hash leaf q = root))
    getRootFromPath := fun (q : List (PathStep ℕ)) leaf => .ok (climb digitModel.hash leaf q)
    isPathLeftmost := fun (q : List (PathStep ℕ)) => .ok (q.all fun step => !step.1)
    isPathRightmost := fun (q : List (PathStep ℕ)) => .ok (q.all fun step => step.1)
    areRightLeavesEmpty := fun (q : List (PathStep ℕ)) =>
      .ok (decide (rightEmpty digitModel.hash digitModel.emptyLeaf q))
    getLeafIndexFromPath := fun (q : List (PathStep ℕ)) => .ok (UInt64.ofNat (pathIndex q)) }

def merkleEnv : Env MerkleValue := { merkleLib with malloc := fun n => n + 1 }

theorem merkleEnv_follows : FollowsMerkleModel merkleEnv.toNativeLib digitModel id id where
  init := by
    intro height processingStep v h
    exact (pure_injective h).symm
  append := by
    intro x v
    refine ⟨_, _, rfl, rfl, ?_⟩
    show isOk (if LeafTree.accepts v then .ok () else .error (.library "no room")) = _
    rcases haccepts : LeafTree.accepts v with _ | _
    · exact haccepts.symm
    · exact haccepts.symm
  finalize := by
    intro v v' h
    exact (pure_injective h).symm
  finalizeInPlace := fun _ => ⟨_, _, rfl, rfl⟩
  reset := fun _ => ⟨_, rfl, rfl⟩
  root := fun _ => rfl
  path := by
    intro v i hfinalized _
    have hfinal : LeafTree.finalized v = true := hfinalized
    refine ⟨digitModel.path v i.toNat, ?_, rfl, rfl⟩
    show Except.ok (if LeafTree.finalized v then some (digitModel.path v i.toNat) else none) = _
    rw [if_pos hfinal]
  pathNone := by
    intro v i hfinalized
    have hfinal : LeafTree.finalized v = false := hfinalized
    show Except.ok (if LeafTree.finalized v then some (digitModel.path v i.toNat) else none) = _
    rw [hfinal]
    rfl
  verify := by
    intro q height leaf root
    show (pure (decide _) : Call Bool) = pure true ↔ _
    constructor
    · intro h
      exact of_decide_eq_true (pure_injective h)
    · intro h
      exact congrArg pure (decide_eq_true h)
  verifyWithoutLengthCheck := by
    intro q leaf root
    show Except.ok (decide _) = Except.ok true ↔ _
    rw [Except.ok.injEq, decide_eq_true_iff]
    rfl
  apply := fun _ _ => rfl
  leftmost := fun _ => rfl
  rightmost := fun _ => rfl
  rightLeavesEmpty := by
    intro q
    show Except.ok (decide _) = Except.ok true ↔ _
    rw [Except.ok.injEq, decide_eq_true_iff]
    rfl
  leafIndex := fun _ => rfl

/-- Two elements. -/
def twoElements : List Op := [.fieldElementFromLong 5, .fieldElementFromLong 6]

/-- A tree of two leaves. A third one is refused. -/
def twoLeaves : List Op :=
  [.merkleAppend (some 0) (some 0), .merkleAppend (some 0) (some 1),
    .merkleAppend (some 0) (some 0), .merkleFinalizeInPlace (some 0)]

def twoTree : LeafTree ℕ := ⟨1, [5, 6], true, by decide⟩

theorem merkle_tree_refines_two :
    TreeConforms merkleEnv digitModel id id (run merkleEnv (twoElements ++ .merkleInit 1 1 ::
      twoLeaves)) (some 0) twoTree := by
  have hinit : ((InMemoryOptimizedMerkleTree.init merkleEnv 1 1).exec
      (run merkleEnv twoElements)).1 = .ok (some 0) := rfl
  rcases merkle_tree_refines merkleEnv_follows twoElements twoLeaves hinit (by decide) with
    hconforms | hclosed
  · exact hconforms
  · refine absurd hclosed (not_closedDuring merkleEnv ?_)
    intro op hop w
    simp only [twoLeaves, List.mem_cons, List.not_mem_nil, or_false] at hop
    rcases hop with rfl | rfl | rfl | rfl
    all_goals simp [Op.closes]

/-! ## Membership -/

/-- What a tree gives out. -/
inductive TreeQuery where
  | root
  | path (index : Int64)

namespace TreeQuery

def kind : TreeQuery → Kind
  | root => .fieldElement
  | path _ => .merklePath

def op (tree : Ref) : TreeQuery → Op
  | root => .merkleRoot tree
  | path index => .merkleGetPath tree index

def call (E : Env V) (tree : Ref) : TreeQuery → JavaCall V Ref
  | root => InMemoryOptimizedMerkleTree.root E tree
  | path index => InMemoryOptimizedMerkleTree.getMerklePath E tree index

end TreeQuery

/-- At some time of the run a tree with these leaves gave out the object, which was
not closed since. -/
def TreeGaveOut (E : Env V) (treeOf : V .gingerMHT → LeafTree (V .fieldElement)) (ops : List Op)
    (t : LeafTree (V .fieldElement)) (q : TreeQuery) (r : Ref) : Prop :=
  ∃ before tree after v, ops = before ++ q.op tree :: after ∧
    valueOf (run E before) .inMemoryOptimizedMerkleTree tree = some v ∧ treeOf v = t ∧
    ((q.call E tree).exec (run E before)).1 = .ok r ∧ r ≠ none ∧
    ¬ ClosedDuring E (run E (before ++ [q.op tree])) after (q.kind, r)

/-- The root of the tree, at the end of the run. -/
theorem root_value (hlib : FollowsMerkleModel E.toNativeLib M treeOf pathOf) {ops : List Op}
    {t : LeafTree (V .fieldElement)} {root : Ref}
    (h : TreeGaveOut E treeOf ops t .root root) :
    valueOf (run E ops) .fieldElement root = some (M.root t) := by
  obtain ⟨before, tree, after, v, rfl, hv, rfl, hrun, hsome, hopen⟩ := h
  obtain ⟨hvalue, -⟩ := root_returned hlib hv (Prod.ext hrun rfl) hsome
  exact run_value_of_call E rfl rfl hrun hvalue hopen

/-- The path of a leaf, at the end of the run. -/
theorem path_value (hlib : FollowsMerkleModel E.toNativeLib M treeOf pathOf) {ops : List Op}
    {t : LeafTree (V .fieldElement)} {index : Int64} {path : Ref}
    (hindex : index.toUInt64.toNat < 2 ^ t.height)
    (h : TreeGaveOut E treeOf ops t (.path index) path) :
    ∃ q, valueOf (run E ops) .merklePath path = some q ∧
      pathOf q = M.path t index.toUInt64.toNat ∧ E.isValidPath q = true := by
  obtain ⟨before, tree, after, v, rfl, hv, rfl, hrun, hsome, hopen⟩ := h
  obtain ⟨q, hvalue, hpath, hvalid, -⟩ :=
    getMerklePath_returned hlib hv hindex (Prod.ext hrun rfl) hsome
  exact ⟨q, run_value_of_call E rfl rfl hrun hvalue hopen, hpath, hvalid⟩

/-- A path that a tree gave out verifies for its leaf against the root that a tree
with the same leaves gave out, earlier or later, and gives that root for the leaf,
as long as neither is closed. -/
theorem membership_verifies (hlib : FollowsMerkleModel E.toNativeLib M treeOf pathOf)
    (ops : List Op) {t : LeafTree (V .fieldElement)} {index : Int64} {height : Int32}
    {root path leaf : Ref} (hroot : TreeGaveOut E treeOf ops t .root root)
    (hpath : TreeGaveOut E treeOf ops t (.path index) path)
    (hindex : index.toUInt64.toNat < 2 ^ t.height)
    (hheight : height.toInt64.toUInt64.toNat = t.height)
    (hleaf : valueOf (run E ops) .fieldElement leaf =
      some (t.leaf M.emptyLeaf index.toUInt64.toNat)) :
    ((MerklePath.verify E path height leaf root).exec (run E ops)).1 = .ok true ∧
      ((MerklePath.verifyWithoutLengthCheck E path leaf root).exec (run E ops)).1 = .ok true ∧
      (OutOfMemory E.malloc (run E ops) ∧
          ((MerklePath.apply E path leaf).exec (run E ops)).1 = .error .abort ∨
        ∃ r w', (MerklePath.apply E path leaf).exec (run E ops) = (.ok r, w') ∧
          valueOf w' .fieldElement r = some (M.root t)) := by
  have hy := root_value hlib hroot
  obtain ⟨q, hq, hqPath, hvalid⟩ := path_value hlib hindex hpath
  have hclimb : climb M.hash (t.leaf M.emptyLeaf index.toUInt64.toNat) (pathOf q) = M.root t := by
    rw [hqPath]
    exact climb_authPath M.hash _ _ hindex
  have hlength : (pathOf q).length = height.toInt64.toUInt64.toNat := by
    rw [hqPath, hheight]
    exact length_authPath M.hash _ _ _
  refine ⟨?_, ?_, ?_⟩
  · unfold MerklePath.verify
    rw [verifyMethod_exec hq hleaf hy, if_pos hvalid,
      (hlib.verify q _ _ _).mpr ⟨hlength, hclimb⟩]
    rfl
  · unfold MerklePath.verifyWithoutLengthCheck
    rw [verifyMethod_exec hq hleaf hy, if_pos hvalid,
      (hlib.verifyWithoutLengthCheck q _ _).mpr hclimb]
    rfl
  · rw [apply_exec hq hleaf (hlib.apply q _), hclimb]
    exact returnObject_exec E .fieldElement (M.root t) _

theorem twoTree_conforms (ops : List Op)
    (h : valueOf (run merkleEnv ops) .inMemoryOptimizedMerkleTree (some 0) = some twoTree) :
    TreeConforms merkleEnv digitModel id id (run merkleEnv ops) (some 0) twoTree :=
  treeConforms merkleEnv_follows h

/-- The path is taken before the root, and the tree closed before both are used. -/
def pathThenRoot : List Op :=
  twoElements ++ .merkleInit 1 1 :: twoLeaves ++ .merkleGetPath (some 0) 1 ::
    [.merkleRoot (some 0), .free .inMemoryOptimizedMerkleTree (some 0)]

set_option maxRecDepth 1024 in
theorem membership_verifies_two :
    ((MerklePath.verify merkleEnv (some 0) 1 (some 1) (some 2)).exec
        (run merkleEnv pathThenRoot)).1 = .ok true ∧
      ∃ r w', (MerklePath.apply merkleEnv (some 0) (some 1)).exec (run merkleEnv pathThenRoot) =
          (.ok r, w') ∧
        valueOf w' .fieldElement r =
          valueOf (run merkleEnv pathThenRoot) .fieldElement (some 2) := by
  have hpath : TreeGaveOut merkleEnv id pathThenRoot twoTree (.path 1) (some 0) := by
    refine ⟨twoElements ++ .merkleInit 1 1 :: twoLeaves, some 0, _, twoTree, rfl, rfl, rfl, rfl,
      by decide, not_closedDuring merkleEnv ?_⟩
    intro op hop w
    simp only [List.mem_cons, List.not_mem_nil, or_false] at hop
    rcases hop with rfl | rfl
    all_goals simp [Op.closes, TreeQuery.kind]
  have hroot : TreeGaveOut merkleEnv id pathThenRoot twoTree .root (some 2) := by
    refine ⟨twoElements ++ .merkleInit 1 1 :: twoLeaves ++ [.merkleGetPath (some 0) 1], some 0,
      [.free .inMemoryOptimizedMerkleTree (some 0)], twoTree, rfl, rfl, rfl, rfl, by decide,
      not_closedDuring merkleEnv ?_⟩
    intro op hop w
    rw [List.mem_singleton.mp hop]
    simp [Op.closes, TreeQuery.kind]
  have hindex : (1 : Int64).toUInt64.toNat < 2 ^ twoTree.height := by decide
  have hheight : (1 : Int32).toInt64.toUInt64.toNat = twoTree.height := by decide
  have hleaf : valueOf (run merkleEnv pathThenRoot) .fieldElement (some 1) = some 6 := rfl
  obtain ⟨hverifies, -, ⟨-, habort⟩ | ⟨r, w', hrun, hvalue⟩⟩ :=
    membership_verifies merkleEnv_follows pathThenRoot hroot hpath hindex hheight hleaf
  · cases habort
  · exact ⟨hverifies, r, w', hrun, hvalue⟩

/-- A path that verifies against the root of a tree, whatever its origin, is for
the leaf at its index, unless two different pairs that are hashed on the way up,
one of the path and one of the tree, have the same hash. -/
theorem membership_sound (hlib : FollowsMerkleModel E.toNativeLib M treeOf pathOf)
    (before after : List Op) {tree root path leaf : Ref}
    {t : LeafTree (V .fieldElement)} {height : Int32}
    (ht : TreeConforms E M treeOf pathOf (run E before) tree t)
    (hroot : ((InMemoryOptimizedMerkleTree.root E tree).exec (run E before)).1 = .ok root)
    (hsome : root ≠ none) (hheight : height.toInt64.toUInt64.toNat = t.height)
    (hverified : ((MerklePath.verify E path height leaf root).exec
      (run E (before ++ .merkleRoot tree :: after))).1 = .ok true) :
    ∃ q x, valueOf (run E (before ++ .merkleRoot tree :: after)) .merklePath path = some q ∧
      valueOf (run E (before ++ .merkleRoot tree :: after)) .fieldElement leaf = some x ∧
      ((∀ a ∈ climbPairs M.hash x (pathOf q),
          ∀ b ∈ climbPairs M.hash (t.leaf M.emptyLeaf (pathIndex (pathOf q)))
            (M.path t (pathIndex (pathOf q))), M.hash a = M.hash b → a = b) →
        pathIndex (pathOf q) < 2 ^ t.height ∧ x = t.leaf M.emptyLeaf (pathIndex (pathOf q)) ∧
          pathOf q = M.path t (pathIndex (pathOf q))) := by
  obtain ⟨v, hv, rfl⟩ := ht.stands
  have hrooted := exec_of_outcome E (.merkleRoot tree) rfl hroot
  obtain ⟨hrootValue, -⟩ := root_returned hlib hv hrooted hsome
  have hlast : run E (before ++ .merkleRoot tree :: after) =
      runFrom E (run E (before ++ [.merkleRoot tree])) after := by
    rw [run_cons, run_concat]
  have hend := run_owned E (before ++ .merkleRoot tree :: after)
  obtain ⟨q, x, y, hq, hx, hy, hcheck⟩ := verifyMethod_returned hend hverified
  refine ⟨q, x, hq, hx, ?_⟩
  intro hfree
  -- the root is the one that the tree gave out
  rw [hlast] at hy
  have hw := run_owned E (before ++ [.merkleRoot tree])
  have hkind : mutableClass .fieldElement = false := rfl
  have hsame : y = M.root (treeOf v) := runFrom_value_eq E after hw hkind hrootValue hy
  obtain ⟨hlength, hclimb⟩ := (hlib.verify q _ _ _).mp hcheck
  rw [hheight] at hlength
  rw [hsame, MerkleModel.root, ← hlength] at hclimb
  rw [MerkleModel.path, ← hlength] at hfree
  obtain ⟨hleaf, hpath⟩ := climb_sound M.hash (pathOf q) x _ hclimb hfree
  rw [MerkleModel.path, ← hlength]
  exact ⟨pathIndex_lt _, hleaf, hpath⟩

/-- The path of the second leaf. -/
theorem membership_sound_two :
    ∃ q, valueOf (run merkleEnv (twoElements ++ .merkleInit 1 1 :: twoLeaves ++
        .merkleRoot (some 0) :: [.merkleGetPath (some 0) 1])) .merklePath (some 0) = some q ∧
      6 = twoTree.leaf 0 (pathIndex q) := by
  have hroot : ((InMemoryOptimizedMerkleTree.root merkleEnv (some 0)).exec (run merkleEnv
      (twoElements ++ .merkleInit 1 1 :: twoLeaves))).1 = .ok (some 2) := rfl
  have hheight : (1 : Int32).toInt64.toUInt64.toNat = twoTree.height := by decide
  have hverified : ((MerklePath.verify merkleEnv (some 0) 1 (some 1) (some 2)).exec (run merkleEnv
      (twoElements ++ .merkleInit 1 1 :: twoLeaves ++
        .merkleRoot (some 0) :: [.merkleGetPath (some 0) 1]))).1 = .ok true := rfl
  obtain ⟨q, x, hq, hx, hsound⟩ := membership_sound merkleEnv_follows
    (twoElements ++ .merkleInit 1 1 :: twoLeaves) [.merkleGetPath (some 0) 1]
    (twoTree_conforms _ rfl) hroot (by decide) hheight hverified
  have hpath : ([(true, 5)] : List (PathStep ℕ)) = q := Option.some.inj hq
  have hleaf : (6 : ℕ) = x := Option.some.inj hx
  subst hpath hleaf
  obtain ⟨-, hmember, -⟩ := hsound (by decide)
  exact ⟨_, hq, hmember⟩

/-- The position of a path, for as long as it is not closed. -/
theorem path_position (hlib : FollowsMerkleModel E.toNativeLib M treeOf pathOf)
    (before after : List Op) {tree path : Ref} {t : LeafTree (V .fieldElement)}
    {index : Int64} (ht : TreeConforms E M treeOf pathOf (run E before) tree t)
    (hpath : ((InMemoryOptimizedMerkleTree.getMerklePath E tree index).exec (run E before)).1
      = .ok path) (hsome : path ≠ none) (hindex : index.toUInt64.toNat < 2 ^ t.height) :
    (((MerklePath.leafIndex E path).exec (run E (before ++ .merkleGetPath tree index ::
          after))).1 = .ok index.toUInt64 ∧
      ((MerklePath.isLeftmost E path).exec (run E (before ++ .merkleGetPath tree index ::
          after))).1 = .ok (decide (index.toUInt64.toNat = 0)) ∧
      ((MerklePath.isRightmost E path).exec (run E (before ++ .merkleGetPath tree index ::
          after))).1 = .ok (decide (index.toUInt64.toNat + 1 = 2 ^ t.height)) ∧
      (t.leaves.length ≤ index.toUInt64.toNat + 1 →
        ((MerklePath.areRightLeavesEmpty E path).exec (run E (before ++
          .merkleGetPath tree index :: after))).1 = .ok true)) ∨
      ClosedDuring E (run E (before ++ [.merkleGetPath tree index])) after (.merklePath, path) := by
  obtain ⟨v, hv, rfl⟩ := ht.stands
  have hfound := exec_of_outcome E (.merkleGetPath tree index) rfl hpath
  obtain ⟨q, hq, hqPath, -, -⟩ := getMerklePath_returned hlib hv hindex hfound hsome
  have hnumber : pathIndex (pathOf q) = index.toUInt64.toNat := by
    rw [hqPath]
    exact pathIndex_authPath M.hash _ _ hindex
  have hlength : (pathOf q).length = (treeOf v).height := by
    rw [hqPath]
    exact length_authPath M.hash _ _ _
  rw [run_cons, ← run_concat]
  have hw := run_owned E (before ++ [.merkleGetPath tree index])
  have hkind : mutableClass .merklePath = false := rfl
  rcases runFrom_value E after hw hkind hq with hq' | ⟨hclosed, -⟩
  · left
    have hleft : (pathOf q).all (fun step => !step.1) = decide (index.toUInt64.toNat = 0) := by
      rw [Bool.eq_iff_iff, all_left_iff, hnumber, decide_eq_true_iff]
    have hright : (pathOf q).all (fun step => step.1)
        = decide (index.toUInt64.toNat + 1 = 2 ^ (treeOf v).height) := by
      rw [Bool.eq_iff_iff, all_right_iff, hnumber, hlength, decide_eq_true_iff]
    have hleafIndex := hlib.leafIndex q
    rw [hnumber, UInt64.ofNat_toNat] at hleafIndex
    refine ⟨?_, ?_, ?_, ?_⟩
    · unfold MerklePath.leafIndex
      rw [query_exec hq' hleafIndex]
    · unfold MerklePath.isLeftmost
      rw [query_exec hq' (hlib.leftmost q), hleft]
    · unfold MerklePath.isRightmost
      rw [query_exec hq' (hlib.rightmost q), hright]
    · intro hlast
      have hempty : rightEmpty M.hash M.emptyLeaf (pathOf q) := by
        rw [hqPath]
        refine rightEmpty_authPath M.hash _ ?_
        intro j hj
        rw [LeafTree.leaf, List.getD_eq_getElem?_getD, List.getElem?_eq_none (by omega),
          Option.getD_none]
      unfold MerklePath.areRightLeavesEmpty
      rw [query_exec hq' ((hlib.rightLeavesEmpty q).mpr hempty)]
  · exact .inr hclosed

theorem path_position_two :
    ((MerklePath.leafIndex merkleEnv (some 0)).exec (run merkleEnv (twoElements ++
      .merkleInit 1 1 :: twoLeaves ++ .merkleGetPath (some 0) 1 ::
        [.free .inMemoryOptimizedMerkleTree (some 0)]))).1 = .ok 1 := by
  have hpath : ((InMemoryOptimizedMerkleTree.getMerklePath merkleEnv (some 0) 1).exec
      (run merkleEnv (twoElements ++ .merkleInit 1 1 :: twoLeaves))).1 = .ok (some 0) := rfl
  have hindex : (1 : Int64).toUInt64.toNat < 2 ^ twoTree.height := by decide
  rcases path_position merkleEnv_follows (twoElements ++ .merkleInit 1 1 :: twoLeaves)
    [.free .inMemoryOptimizedMerkleTree (some 0)] (twoTree_conforms _ rfl) hpath (by decide)
    hindex with ⟨hposition, -⟩ | hclosed
  · exact hposition
  · refine absurd hclosed (not_closedDuring merkleEnv ?_)
    intro op hop w
    rw [List.mem_singleton.mp hop]
    simp [Op.closes]

end ZendooSc.Handles
