/-
ZendooSc.Lib.PrimeChain — large primes, by Lucas's test link by link.

A link is a number `p` with a base and the prime factors of `p - 1`. The number
is prime if the base to the power `p - 1` is 1 modulo `p`, and to the power
`(p - 1) / q` is not, for each factor `q`. In a chain every link may use the
numbers of the links before it as factors, so a chain starts from small primes
and ends with a large one (`IsChain.prime`).

Being a chain is decided by computation. A power is taken with one squaring for
each bit of the exponent (`powMod`).
-/
import Mathlib.NumberTheory.LucasPrimality
import ZendooSc.Lib.Bits

namespace ZendooSc.Lib

/-! ## Powers -/

/-- One squaring for each bit of the exponent, the highest bit first. -/
def squareLoop (p base : ℕ) : List Bool → ℕ → ℕ
  | [], acc => acc
  | b :: bs, acc => squareLoop p base bs (acc * acc * base ^ b.toNat % p)

def powMod (p base n : ℕ) : ℕ := squareLoop p base (bitsBE (n.log2 + 1) n) 1

/-- The loop squares what it has once for each bit, and adds the bits to the
exponent. -/
theorem squareLoop_eq (p base : ℕ) (bs : List Bool) (acc : ℕ) :
    (squareLoop p base bs acc : ZMod p) = (acc : ZMod p) ^ 2 ^ bs.length * base ^ natBE bs := by
  induction bs generalizing acc with
  | nil => simp [squareLoop]
  | cons b bs ih =>
    have hstep : ((acc * acc * base ^ b.toNat % p : ℕ) : ZMod p)
        = (acc : ZMod p) ^ 2 * base ^ b.toNat := by
      rw [ZMod.natCast_mod]
      push_cast
      ring
    rw [squareLoop, ih, hstep, natBE_cons, List.length_cons]
    ring

theorem powMod_eq (p base n : ℕ) : (powMod p base n : ZMod p) = (base : ZMod p) ^ n := by
  have h := squareLoop_eq p base (bitsBE (n.log2 + 1) n) 1
  rw [natBE_bitsBE_of_lt Nat.lt_log2_self, Nat.cast_one, one_pow, one_mul] at h
  exact h

/-- `base ^ n` is 1 modulo `p`. -/
def PowIsOne (p base n : ℕ) : Prop := powMod p base n % p = 1 % p

instance (p base n : ℕ) : Decidable (PowIsOne p base n) :=
  inferInstanceAs (Decidable (powMod p base n % p = 1 % p))

theorem powIsOne_iff (p base n : ℕ) : PowIsOne p base n ↔ (base : ZMod p) ^ n = 1 := by
  rw [PowIsOne, ← ZMod.natCast_eq_natCast_iff', powMod_eq, Nat.cast_one]

/-! ## Links and chains -/

structure Link where
  p : ℕ
  base : ℕ
  factors : List ℕ

/-- The link passes Lucas's test, with factors that are known. -/
def Link.Valid (known : List ℕ) (l : Link) : Prop :=
  l.factors.prod = l.p - 1 ∧ (∀ q ∈ l.factors, q ∈ known) ∧ PowIsOne l.p l.base (l.p - 1) ∧
    ∀ q ∈ l.factors, ¬ PowIsOne l.p l.base ((l.p - 1) / q)

instance (known : List ℕ) (l : Link) : Decidable (l.Valid known) :=
  inferInstanceAs (Decidable (_ ∧ _))

/-- Every link is valid, given the numbers known before it. -/
def IsChain : List ℕ → List Link → Prop
  | _, [] => True
  | known, l :: ls => l.Valid known ∧ IsChain (l.p :: known) ls

instance decidableIsChain : ∀ (known : List ℕ) (ls : List Link), Decidable (IsChain known ls)
  | _, [] => inferInstanceAs (Decidable True)
  | known, l :: ls =>
      have := decidableIsChain (l.p :: known) ls
      inferInstanceAs (Decidable (_ ∧ _))

theorem Link.Valid.prime {known : List ℕ} {l : Link} (h : l.Valid known)
    (hknown : ∀ q ∈ known, q.Prime) : l.p.Prime := by
  obtain ⟨hprod, hfactors, hone, hne⟩ := h
  refine lucas_primality l.p l.base ((powIsOne_iff _ _ _).mp hone) ?_
  intro q hq hdvd
  -- a prime that divides `p - 1` is one of the factors
  rw [← hprod] at hdvd
  obtain ⟨f, hf, hqf⟩ := (Nat.Prime.prime hq).dvd_prod_iff.mp hdvd
  obtain rfl : q = f := (Nat.prime_dvd_prime_iff_eq hq (hknown f (hfactors f hf))).mp hqf
  exact fun hpow => hne q hf ((powIsOne_iff _ _ _).mpr hpow)

/-- The numbers of a chain that starts from primes are prime. -/
theorem IsChain.prime {known : List ℕ} {ls : List Link} (h : IsChain known ls)
    (hknown : ∀ q ∈ known, q.Prime) : ∀ q ∈ ls.map Link.p, q.Prime := by
  induction ls generalizing known with
  | nil =>
    intro q hq
    cases hq
  | cons l ls ih =>
    have hl : l.p.Prime := h.1.prime hknown
    have hnext : ∀ q ∈ l.p :: known, q.Prime := by
      simpa using And.intro hl hknown
    simpa using And.intro hl (ih h.2 hnext)

end ZendooSc.Lib
