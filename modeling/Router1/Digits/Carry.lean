import Mathlib.Data.Int.ModEq
import Mathlib.Data.List.GetD
import Mathlib.Tactic.Linarith
import Mathlib.Tactic.LinearCombination
import Mathlib.Tactic.Ring

/-!
# Digits and carries

A number as a list of digits in a radix, the lowest one first. A digit may have any value, so that the sums of the
digits of two numbers are the digits of their sum; one pass over the digits, which hands a carry on, brings them into
the range of the radix. Carries and digits are those of a division that rounds down, so the pass is the same for a
borrow.
-/

namespace Digits

variable {r : ℤ}

def value (r : ℤ) : List ℤ → ℤ
  | [] => 0
  | d :: ds => d + r * value r ds

/-- The digits after the pass. -/
def carries (r : ℤ) (carry : ℤ) : List ℤ → List ℤ
  | [] => []
  | d :: ds => (carry + d) % r :: carries r ((carry + d) / r) ds

/-- The carry after the last digit. -/
def carryOut (r : ℤ) (carry : ℤ) : List ℤ → ℤ
  | [] => carry
  | d :: ds => carryOut r ((carry + d) / r) ds

/-- Every digit is in the range of the radix. -/
def Proper (r : ℤ) (ds : List ℤ) : Prop := ∀ d ∈ ds, 0 ≤ d ∧ d < r

@[simp] theorem value_nil : value r [] = 0 := rfl

@[simp] theorem value_cons (d : ℤ) (ds : List ℤ) : value r (d :: ds) = d + r * value r ds := rfl

@[simp] theorem length_carries (carry : ℤ) (ds : List ℤ) : (carries r carry ds).length = ds.length := by
  induction ds generalizing carry with
  | nil => rfl
  | cons d ds ih => rw [carries, List.length_cons, List.length_cons, ih]

theorem value_append (ds es : List ℤ) : value r (ds ++ es) = value r ds + r ^ ds.length * value r es := by
  induction ds with
  | nil => simp
  | cons d ds ih =>
      rw [List.cons_append, value_cons, value_cons, ih, List.length_cons]
      ring

theorem value_map_mul (c : ℤ) (ds : List ℤ) : value r (ds.map (c * ·)) = c * value r ds := by
  induction ds with
  | nil => simp
  | cons d ds ih =>
      rw [List.map_cons, value_cons, value_cons, ih]
      ring

theorem value_zipWith_add (c : ℤ) {ds es : List ℤ} (h : ds.length = es.length) :
    value r (List.zipWith (fun d e => c * d + e) ds es) = c * value r ds + value r es := by
  induction ds generalizing es with
  | nil =>
      rw [List.eq_nil_of_length_eq_zero h.symm]
      simp
  | cons d ds ih =>
      cases es with
      | nil => simp at h
      | cons e es =>
          rw [List.zipWith_cons_cons, value_cons, value_cons, value_cons, ih (by simpa using h)]
          ring

/-- **A pass keeps the number**, what it carries out included. -/
theorem value_carries (carry : ℤ) (ds : List ℤ) :
    value r (carries r carry ds) + r ^ ds.length * carryOut r carry ds = carry + value r ds := by
  induction ds generalizing carry with
  | nil => simp [carries, carryOut]
  | cons d ds ih =>
      have hdigit := Int.emod_add_mul_ediv (carry + d) r
      rw [carries, carryOut, value_cons, value_cons, List.length_cons]
      linear_combination hdigit + r * ih ((carry + d) / r)

theorem proper_carries (hr : 0 < r) (carry : ℤ) (ds : List ℤ) : Proper r (carries r carry ds) := by
  induction ds generalizing carry with
  | nil => simp [carries, Proper]
  | cons d ds ih =>
      rw [carries, Proper, List.forall_mem_cons]
      exact ⟨⟨Int.emod_nonneg _ hr.ne', Int.emod_lt_of_pos _ hr⟩, ih _⟩

theorem Proper.value_nonneg (hr : 0 < r) {ds : List ℤ} (h : Proper r ds) : 0 ≤ value r ds := by
  induction ds with
  | nil => simp
  | cons d ds ih =>
      obtain ⟨hd, hds⟩ := List.forall_mem_cons.mp h
      have := mul_nonneg hr.le (ih hds)
      rw [value_cons]
      omega

theorem Proper.value_lt (hr : 0 < r) {ds : List ℤ} (h : Proper r ds) : value r ds < r ^ ds.length := by
  induction ds with
  | nil => simp
  | cons d ds ih =>
      obtain ⟨hd, hds⟩ := List.forall_mem_cons.mp h
      have hmul : r * (value r ds + 1) ≤ r * r ^ ds.length := mul_le_mul_of_nonneg_left (ih hds) hr.le
      rw [value_cons, List.length_cons, pow_succ']
      linarith [hd.2]

/-- **A pass writes the number** modulo what the digits can hold, and carries the rest out. -/
theorem value_carries_emod (hr : 0 < r) (carry : ℤ) (ds : List ℤ) :
    value r (carries r carry ds) = (carry + value r ds) % r ^ ds.length := by
  have hproper := proper_carries hr carry ds
  have hlt := hproper.value_lt hr
  rw [length_carries] at hlt
  rw [← value_carries, Int.add_mul_emod_self_left, Int.emod_eq_of_lt (hproper.value_nonneg hr) hlt]

theorem carryOut_eq_ediv (hr : 0 < r) (carry : ℤ) (ds : List ℤ) :
    carryOut r carry ds = (carry + value r ds) / r ^ ds.length := by
  have hproper := proper_carries hr carry ds
  have hlt := hproper.value_lt hr
  rw [length_carries] at hlt
  rw [← value_carries, Int.add_mul_ediv_left _ _ (pow_pos hr _).ne', Int.ediv_eq_zero_of_lt (hproper.value_nonneg hr) hlt,
    zero_add]

theorem carries_append (carry : ℤ) (ds es : List ℤ) :
    carries r carry (ds ++ es) = carries r carry ds ++ carries r (carryOut r carry ds) es := by
  induction ds generalizing carry with
  | nil => rfl
  | cons d ds ih => rw [List.cons_append, carries, carries, carryOut, ih, List.cons_append]

/-! ### The top digit

A number with fewer bits than its digits can hold: the digits below the top one, and the top one cut at `m`. -/

theorem value_concat_ediv (hr : 0 < r) {m : ℤ} {ds : List ℤ} (h : Proper r ds) (top : ℤ) :
    value r (ds ++ [top]) / (r ^ ds.length * m) = top / m := by
  rw [value_append, value_cons, value_nil, mul_zero, add_zero, ← Int.ediv_ediv_of_nonneg (pow_pos hr _).le,
    Int.add_mul_ediv_left _ _ (pow_pos hr _).ne', Int.ediv_eq_zero_of_lt (h.value_nonneg hr) (h.value_lt hr), zero_add]

theorem value_concat_emod (hr : 0 < r) {m : ℤ} {ds : List ℤ} (h : Proper r ds) (top : ℤ) :
    value r (ds ++ [top % m]) = value r (ds ++ [top]) % (r ^ ds.length * m) := by
  have hdiv := value_concat_ediv hr h top (m := m)
  have hsplit := Int.emod_add_mul_ediv (value r (ds ++ [top])) (r ^ ds.length * m)
  have hlow : ∀ t, value r (ds ++ [t]) = value r ds + r ^ ds.length * t := by
    intro t
    rw [value_append, value_cons, value_nil, mul_zero, add_zero]
  rw [hdiv] at hsplit
  linear_combination hlow (top % m) - hsplit - hlow top + r ^ ds.length * Int.emod_add_mul_ediv top m

/-! ### Windows -/

theorem Proper.take {ds : List ℤ} (h : Proper r ds) (n : Nat) : Proper r (ds.take n) :=
  fun d hd => h d (List.mem_of_mem_take hd)

theorem value_window (hr : 0 < r) {ds : List ℤ} (h : Proper r ds) {n : Nat} (hn : n < ds.length) (c : ℤ) :
    value r ds / (r ^ n * c) = (ds.getD n 0 + r * value r (ds.drop (n + 1))) / c := by
  have hsplit : value r ds = value r (ds.take n) + r ^ n * (ds.getD n 0 + r * value r (ds.drop (n + 1))) := by
    have happend := value_append (r := r) (ds.take n) (ds.drop n)
    rw [List.take_append_drop, List.length_take, min_eq_left hn.le, List.drop_eq_getElem_cons hn, value_cons] at happend
    rw [happend, List.getD_eq_getElem _ _ hn]
  have hlow := (h.take n).value_lt hr
  rw [List.length_take, min_eq_left hn.le] at hlow
  rw [hsplit, ← Int.ediv_ediv_of_nonneg (pow_pos hr _).le, Int.add_mul_ediv_left _ _ (pow_pos hr _).ne',
    Int.ediv_eq_zero_of_lt ((h.take n).value_nonneg hr) hlow, zero_add]

/-- **The digits of a number** are its remainders. -/
theorem value_range (hr : 0 < r) (x : ℤ) (n : Nat) : value r ((List.range n).map fun i => x / r ^ i % r) = x % r ^ n := by
  induction n with
  | zero => rw [List.range_zero, List.map_nil, value_nil, pow_zero, Int.emod_one]
  | succ n ih =>
      have hdiv : x / r ^ n / r = x / r ^ (n + 1) := by
        rw [pow_succ, Int.ediv_ediv_of_nonneg (pow_pos hr _).le]
      have hlow := Int.emod_add_mul_ediv x (r ^ n)
      have hdigit := Int.emod_add_mul_ediv (x / r ^ n) r
      have hhigh := Int.emod_add_mul_ediv x (r ^ (n + 1))
      rw [hdiv] at hdigit
      rw [List.range_succ, List.map_append, value_append, ih, List.length_map, List.length_range, List.map_singleton,
        value_cons, value_nil, mul_zero, add_zero]
      linear_combination hlow + r ^ n * hdigit - hhigh

end Digits
