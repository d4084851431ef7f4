import Mathlib.Data.List.Prime
import Mathlib.NumberTheory.LucasPrimality

/-!
# Prime certificates

A number is prime if some residue has the order of the whole group: its power with the exponent `n - 1` is one, and
none of the powers with the exponents `(n - 1) / q` is, for the primes `q` of `n - 1`. A certificate names the residue
and the primes, and a chain of certificates proves the primes of each one by those before it.
-/

namespace Primes

/-! ### Powers modulo a number -/

/-- The power of `a` with the exponent `n`, of at most `bits` bits, by repeated squaring. -/
def powMod (m a : Nat) : Nat → Nat → Nat
  | 0, _ => 1 % m
  | bits + 1, n =>
      let half := powMod m a bits (n / 2)
      half * half % m * a ^ (n % 2) % m

theorem powMod_eq (m a : Nat) {bits n : Nat} (hn : n < 2 ^ bits) : powMod m a bits n = a ^ n % m := by
  induction bits generalizing n with
  | zero =>
      obtain rfl : n = 0 := by simpa using hn
      rfl
  | succ bits ih =>
      have hhalf : n / 2 < 2 ^ bits := by
        rw [pow_succ] at hn
        omega
      have hpow : a ^ n = a ^ (n / 2) * a ^ (n / 2) * a ^ (n % 2) := by
        rw [← pow_add, ← pow_add, ← two_mul, Nat.div_add_mod]
      rw [powMod, ih hhalf, ← Nat.mul_mod, Nat.mod_mul_mod, ← hpow]

theorem natCast_pow_eq_one_iff {m : Nat} (hm : 1 < m) (a n : Nat) : (a : ZMod m) ^ n = 1 ↔ a ^ n % m = 1 := by
  rw [← Nat.cast_pow, ← Nat.cast_one, ZMod.natCast_eq_natCast_iff', Nat.mod_eq_of_lt hm]

/-! ### Certificates -/

structure Certificate where
  number : Nat
  root : Nat
  /-- The primes of `number - 1`. -/
  factors : List Nat
  /-- A power of the product of the primes that `number - 1` divides. -/
  power : Nat

namespace Certificate

/-- The power of the root, for exponents below the number. -/
def rootPow (c : Certificate) (n : Nat) : Nat := powMod c.number c.root (c.number.log2 + 1) n

/-- Lucas's test. -/
def Passes (c : Certificate) : Prop :=
  1 < c.number ∧ c.number - 1 ∣ c.factors.prod ^ c.power ∧ c.rootPow (c.number - 1) = 1 ∧
    ∀ q ∈ c.factors, c.rootPow ((c.number - 1) / q) ≠ 1

instance (c : Certificate) : Decidable c.Passes :=
  inferInstanceAs (Decidable (_ ∧ _ ∧ _ ∧ ∀ q ∈ c.factors, c.rootPow ((c.number - 1) / q) ≠ 1))

theorem rootPow_eq_one_iff {c : Certificate} (hnumber : 1 < c.number) {n : Nat} (hn : n ≤ c.number - 1) :
    c.rootPow n = 1 ↔ (c.root : ZMod c.number) ^ n = 1 := by
  have hlog : c.number < 2 ^ (c.number.log2 + 1) := Nat.lt_log2_self
  rw [rootPow, powMod_eq _ _ (by omega : n < 2 ^ (c.number.log2 + 1)), natCast_pow_eq_one_iff hnumber]

/-- **A certificate that passes** proves its number prime, if its factors are. -/
theorem prime_number {c : Certificate} (h : c.Passes) (hprimes : ∀ q ∈ c.factors, q.Prime) : c.number.Prime := by
  obtain ⟨hnumber, hcover, hone, hne⟩ := h
  refine lucas_primality c.number c.root ((rootPow_eq_one_iff hnumber le_rfl).mp hone) ?_
  intro q hq hdvd
  obtain ⟨f, hf, hqf⟩ := (Prime.dvd_prod_iff hq.prime).mp (hq.dvd_of_dvd_pow (hdvd.trans hcover))
  obtain rfl : q = f := (Nat.prime_dvd_prime_iff_eq hq (hprimes f hf)).mp hqf
  exact mt (rootPow_eq_one_iff hnumber (Nat.div_le_self _ _)).mpr (hne q hf)

end Certificate

/-! ### Chains -/

/-- Every certificate passes, with factors among the known numbers and those of the certificates before it. -/
def Chain : List Nat → List Certificate → Prop
  | _, [] => True
  | known, c :: cs => c.factors ⊆ known ∧ c.Passes ∧ Chain (c.number :: known) cs

instance decidableChain : ∀ (known : List Nat) (cs : List Certificate), Decidable (Chain known cs)
  | _, [] => inferInstanceAs (Decidable True)
  | known, c :: cs =>
      have := decidableChain (c.number :: known) cs
      inferInstanceAs (Decidable (c.factors ⊆ known ∧ c.Passes ∧ Chain (c.number :: known) cs))

/-- **The numbers of a chain** are prime, if the known ones are. -/
theorem prime_of_chain {known : List Nat} {cs : List Certificate} (hknown : ∀ q ∈ known, q.Prime) (h : Chain known cs) :
    ∀ c ∈ cs, c.number.Prime := by
  induction cs generalizing known with
  | nil => exact List.forall_mem_nil _
  | cons c cs ih =>
      obtain ⟨hfactors, hpasses, hchain⟩ := h
      have hnumber := Certificate.prime_number hpasses fun q hq => hknown q (hfactors hq)
      exact List.forall_mem_cons.mpr ⟨hnumber, ih (List.forall_mem_cons.mpr ⟨hnumber, hknown⟩) hchain⟩

end Primes
