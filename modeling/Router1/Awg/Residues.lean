import Router1.Awg.Curve25519
import Router1.Digits.Carry
import Router1.Java.Words
import Mathlib.Data.List.GetD
import Mathlib.Data.ZMod.Basic

/-!
# What the limbs stand for

Every operation of `Curve25519` on ten limbs of 26 bits is the one of the residues modulo `2^255 - 19`, and leaves
the limbs of the least residue: no sum of the source leaves the range of its `int` or `long`, and what a loop drops
at its end is zero.
-/

namespace Awg.Curve25519

open Digits Java

/-- The modulus. -/
def p : ℕ := 2 ^ 255 - 19

theorem p_eq : (p : ℤ) = 2 ^ 255 - 19 := by norm_num [p]

/-- The signed numbers of the words. -/
def ints {w : Nat} (x : List (BitVec w)) : List ℤ := x.map BitVec.toInt

/-- The number that the limbs are the digits of. -/
def number {w : Nat} (x : List (BitVec w)) : ℤ := value (2 ^ 26) (ints x)

/-- `n` limbs of 26 bits. -/
structure Limbs (n : Nat) (x : List JavaInt) : Prop where
  length_eq : x.length = n
  proper : Proper (2 ^ 26) (ints x)

/-- `x` are the limbs of the least residue of `a`. -/
structure Holds (x : List JavaInt) (a : ZMod p) : Prop extends Limbs 10 x where
  number_lt : number x < p
  number_eq : (number x : ZMod p) = a

/-! ### Words -/

theorem toInt_and_limb (x : JavaInt) : (x &&& 0x03FFFFFF).toInt = x.toInt % 2 ^ 26 :=
  toInt_and_mask (k := 26) (by omega) x

theorem toInt_and_top (x : JavaInt) : (x &&& 0x001FFFFF).toInt = x.toInt % 2 ^ 21 := toInt_and_mask (k := 21) (by omega) x

theorem toInt_and_one (x : JavaInt) : (x &&& 0x01).toInt = x.toInt % 2 := toInt_and_mask (k := 1) (by omega) x

theorem toInt_truncate_limb (v : JavaLong) : (v.setWidth 32 &&& 0x03FFFFFF).toInt = v.toInt % 2 ^ 26 := by
  have hwide : 26 ≤ 64 := by omega
  have hnarrow : 26 ≤ 32 := by omega
  rw [toInt_and_limb, ← toNat_emod hnarrow, BitVec.toNat_setWidth, ← toNat_emod hwide]
  push_cast
  exact Int.emod_emod_of_dvd _ (by norm_num)

theorem toInt_add_word {x y : JavaInt} (hlow : -2 ^ 31 ≤ x.toInt + y.toInt) (hhigh : x.toInt + y.toInt < 2 ^ 31) :
    (x + y).toInt = x.toInt + y.toInt := by
  rw [BitVec.toInt_add, Int.bmod_eq_of_le_mul_two (by omega) (by omega)]

theorem toInt_sub_word {x y : JavaInt} (hlow : -2 ^ 31 ≤ x.toInt - y.toInt) (hhigh : x.toInt - y.toInt < 2 ^ 31) :
    (x - y).toInt = x.toInt - y.toInt := by
  rw [BitVec.toInt_sub, Int.bmod_eq_of_le_mul_two (by omega) (by omega)]

theorem toInt_mul_word {x y : JavaInt} {c : ℤ} (hy : y.toInt = c) (hlow : -2 ^ 31 ≤ c * x.toInt)
    (hhigh : c * x.toInt < 2 ^ 31) : (x * y).toInt = c * x.toInt := by
  rw [BitVec.toInt_mul, hy, mul_comm, Int.bmod_eq_of_le_mul_two (by omega) (by omega)]

/-! ### The top limb -/

theorem exists_concat {x : List JavaInt} {n : Nat} (h : x.length = n + 1) :
    ∃ low top, x = low ++ [top] ∧ low.length = n := by
  have hne : x ≠ [] := List.ne_nil_of_length_pos (by omega)
  refine ⟨x.dropLast, x.getLast hne, (List.dropLast_concat_getLast hne).symm, ?_⟩
  rw [List.length_dropLast, h, Nat.add_sub_cancel]

theorem ints_append {w : Nat} (x y : List (BitVec w)) : ints (x ++ y) = ints x ++ ints y := List.map_append

theorem length_ints {w : Nat} (x : List (BitVec w)) : (ints x).length = x.length := List.length_map _

theorem number_nonneg {n : Nat} {x : List JavaInt} (h : Limbs n x) : 0 ≤ number x := h.proper.value_nonneg (by norm_num)

theorem number_lt_pow {n : Nat} {x : List JavaInt} (h : Limbs n x) : number x < (2 ^ 26) ^ n := by
  have hlt := h.proper.value_lt (by norm_num)
  rwa [length_ints, h.length_eq] at hlt

/-- The bits above the 255th one are those of the top limb above the 21st one. -/
theorem top_ediv {x : List JavaInt} (h : Limbs 10 x) : (x.getD 9 0).toInt / 2 ^ 21 = number x / 2 ^ 255 := by
  obtain ⟨low, top, rfl, hlow⟩ := exists_concat h.length_eq
  have hproper : Proper (2 ^ 26) (ints low) := by
    intro d hd
    apply h.proper d
    rw [ints_append]
    exact List.mem_append_left _ hd
  have hdiv := value_concat_ediv (m := 2 ^ 21) (by norm_num) hproper top.toInt
  rw [length_ints, hlow] at hdiv
  rw [List.getD_append_right _ _ _ _ hlow.le, hlow, number, ints_append,
    ← show ((2 : ℤ) ^ 26) ^ 9 * 2 ^ 21 = 2 ^ 255 by norm_num]
  exact hdiv.symm

theorem maskTop_spec {x : List JavaInt} (h : Limbs 10 x) :
    Limbs 10 (maskTop x) ∧ number (maskTop x) = number x % 2 ^ 255 := by
  obtain ⟨low, top, rfl, hlow⟩ := exists_concat h.length_eq
  have hmask : maskTop (low ++ [top]) = low ++ [top &&& 0x001FFFFF] := by
    have hmodify := List.modifyTailIdx_add (List.modifyHead (· &&& (0x001FFFFF : JavaInt))) 0 low [top]
    rwa [hlow] at hmodify
  have hproper : Proper (2 ^ 26) (ints low) ∧ 0 ≤ top.toInt ∧ top.toInt < 2 ^ 26 := by
    have := h.proper
    rw [Proper, ints_append, List.forall_mem_append] at this
    exact ⟨this.1, this.2 _ List.mem_cons_self⟩
  have hmod := value_concat_emod (m := 2 ^ 21) (by norm_num) hproper.1 top.toInt
  rw [length_ints, hlow, show ((2 : ℤ) ^ 26) ^ 9 * 2 ^ 21 = 2 ^ 255 by norm_num] at hmod
  have hints : ints (low ++ [top &&& 0x001FFFFF]) = ints low ++ [top.toInt % 2 ^ 21] := by
    rw [ints_append, ints, ints, List.map_singleton, toInt_and_top]
  rw [hmask]
  refine ⟨⟨by simpa using h.length_eq, ?_⟩, ?_⟩
  · rw [hints, Proper, List.forall_mem_append, List.forall_mem_singleton]
    exact ⟨hproper.1, by omega, by omega⟩
  · rw [number, hints, hmod, number, ints_append]
    rfl

/-! ### Passes -/

theorem proper_cons {x : JavaInt} {xs : List JavaInt} :
    Proper (2 ^ 26) (ints (x :: xs)) ↔ (0 ≤ x.toInt ∧ x.toInt < 2 ^ 26) ∧ Proper (2 ^ 26) (ints xs) :=
  List.forall_mem_cons

theorem limbs_of_carries {n : Nat} {x : List JavaInt} {carry : ℤ} {ds : List ℤ} (h : ints x = carries (2 ^ 26) carry ds)
    (hlength : ds.length = n) : Limbs n x ∧ number x = (carry + value (2 ^ 26) ds) % (2 ^ 26) ^ n := by
  refine ⟨⟨?_, ?_⟩, ?_⟩
  · rw [← length_ints, h, length_carries, hlength]
  · rw [h]
    exact proper_carries (by norm_num) _ _
  · rw [number, h, value_carries_emod (by norm_num), hlength]

theorem ints_propagate (carry : JavaInt) {x : List JavaInt} (hx : Proper (2 ^ 26) (ints x)) (hlow : 0 ≤ carry.toInt)
    (hhigh : carry.toInt < 2 ^ 30) : ints (propagate carry x) = carries (2 ^ 26) carry.toInt (ints x) := by
  induction x generalizing carry with
  | nil => rfl
  | cons x xs ih =>
      obtain ⟨hd, hxs⟩ := proper_cons.mp hx
      have hsum : (carry + x).toInt = carry.toInt + x.toInt := toInt_add_word (by omega) (by omega)
      have hcarry : ((carry + x).sshiftRight 26).toInt = (carry.toInt + x.toInt) / 2 ^ 26 := by
        rw [toInt_sshiftRight, hsum]
      have hrest := ih ((carry + x).sshiftRight 26) hxs (by omega) (by omega)
      rw [hcarry] at hrest
      show (carry + x &&& 0x03FFFFFF).toInt :: ints (propagate ((carry + x).sshiftRight 26) xs) = _
      rw [toInt_and_limb, hsum, hrest]
      rfl

theorem propagate_spec (carry : JavaInt) {n : Nat} {x : List JavaInt} (hx : Limbs n x) (hlow : 0 ≤ carry.toInt)
    (hhigh : carry.toInt < 2 ^ 30) :
    Limbs n (propagate carry x) ∧ number (propagate carry x) = (carry.toInt + number x) % (2 ^ 26) ^ n :=
  limbs_of_carries (ints_propagate carry hx.proper hlow hhigh) (by rw [length_ints, hx.length_eq])

/-! ### The trial subtraction -/

theorem zipWith_left {α : Type} {xs ys : List α} (h : xs.length = ys.length) :
    List.zipWith (fun x _ => x) xs ys = xs := by
  induction xs generalizing ys with
  | nil => rfl
  | cons x xs ih =>
      cases ys with
      | nil => simp at h
      | cons y ys => rw [List.zipWith_cons_cons, ih (by simpa using h)]

theorem zipWith_right {α : Type} {xs ys : List α} (h : xs.length = ys.length) :
    List.zipWith (fun _ y => y) xs ys = ys := by
  rw [List.zipWith_comm]
  exact zipWith_left h.symm

theorem length_maskTop (x : List JavaInt) : (maskTop x).length = x.length := List.length_modify _ _ _

/-- `reduceQuick` takes the sum with 19 exactly if it has the bit 255. -/
theorem reduceQuick_eq {x : List JavaInt} (hx : Limbs 10 x) :
    reduceQuick x = if number (propagate 19 x) / 2 ^ 255 % 2 = 1 then maskTop (propagate 19 x) else x := by
  have ht := (propagate_spec 19 hx (by decide) (by decide)).1
  have hlength : x.length = (maskTop (propagate 19 x)).length := by rw [length_maskTop, hx.length_eq, ht.length_eq]
  have hbit : ((((propagate 19 x).getD 9 0).sshiftRight 21) &&& 0x01).toInt = number (propagate 19 x) / 2 ^ 255 % 2 := by
    rw [toInt_and_one, toInt_sshiftRight, top_ediv ht]
  have hmask := neg_bit (x := (((propagate 19 x).getD 9 0).sshiftRight 21) &&& 0x01) (by omega) (by omega)
  rw [hbit] at hmask
  rw [reduceQuick]
  simp only [hmask]
  split
  · simp only [select_allOnes]
    exact zipWith_right hlength
  · simp only [select_zero]
    exact zipWith_left hlength

theorem number_propagate_19 {x : List JavaInt} (hx : Limbs 10 x) (hlt : number x < 2 ^ 256) :
    number (propagate 19 x) = 19 + number x := by
  have hnonneg := number_nonneg hx
  rw [(propagate_spec 19 hx (by decide) (by decide)).2, show (19 : JavaInt).toInt = 19 by rfl]
  exact Int.emod_eq_of_lt (by omega) (by omega)

/-- **The trial subtraction** reduces every number that one subtraction reduces, up to the last 19 ones below
`2^256`. -/
theorem reduceQuick_spec {x : List JavaInt} (hx : Limbs 10 x) (hlt : number x < 2 ^ 256 - 19) :
    Limbs 10 (reduceQuick x) ∧ number (reduceQuick x) = if number x < p then number x else number x - p := by
  have hnonneg := number_nonneg hx
  have hsum := number_propagate_19 hx (by omega)
  obtain ⟨hmask, hmasked⟩ := maskTop_spec (propagate_spec 19 hx (by decide) (by decide)).1
  rw [reduceQuick_eq hx, hsum, p_eq]
  split
  · rw [if_neg (by omega)]
    refine ⟨hmask, ?_⟩
    rw [hmasked, hsum]
    omega
  · rw [if_pos (by omega)]
    exact ⟨hx, rfl⟩

theorem cast_sub_p_mul (n q : ℤ) : ((n - p * q : ℤ) : ZMod p) = n := by
  rw [Int.cast_sub, Int.cast_mul, Int.cast_natCast, ZMod.natCast_self, zero_mul, sub_zero]

theorem holds_reduceQuick {x : List JavaInt} (hx : Limbs 10 x) (hlt : number x < 2 * p) :
    Holds (reduceQuick x) (number x) := by
  rw [p_eq] at hlt
  obtain ⟨hlimbs, hvalue⟩ := reduceQuick_spec hx (by omega)
  refine { toLimbs := hlimbs, number_lt := ?_, number_eq := ?_ }
  · rw [hvalue, p_eq]
    split <;> omega
  · rw [hvalue]
    split
    · rfl
    · simp

/-! ### Sums and differences -/

theorem ints_cons {w : Nat} (x : BitVec w) (xs : List (BitVec w)) : ints (x :: xs) = x.toInt :: ints xs := rfl

theorem ints_addLoop {carry : JavaInt} {x y : List JavaInt} (hx : Proper (2 ^ 26) (ints x))
    (hy : Proper (2 ^ 26) (ints y))
    (hlow : 0 ≤ carry.toInt) (hhigh : carry.toInt < 2 ^ 28) :
    ints (addLoop carry x y) =
      carries (2 ^ 26) (carry.toInt / 2 ^ 26) (List.zipWith (fun d e => 1 * d + e) (ints x) (ints y)) := by
  induction x generalizing carry y with
  | nil => rfl
  | cons x xs ih =>
      cases y with
      | nil => rfl
      | cons y ys =>
          obtain ⟨hd, hxs⟩ := proper_cons.mp hx
          obtain ⟨he, hys⟩ := proper_cons.mp hy
          have hshift : (carry.sshiftRight 26).toInt = carry.toInt / 2 ^ 26 := toInt_sshiftRight carry 26
          have hfirst : (carry.sshiftRight 26 + x).toInt = carry.toInt / 2 ^ 26 + x.toInt := by
            rw [toInt_add_word (by omega) (by omega), hshift]
          have hsum : (carry.sshiftRight 26 + x + y).toInt = carry.toInt / 2 ^ 26 + (1 * x.toInt + y.toInt) := by
            rw [toInt_add_word (by omega) (by omega), hfirst]
            omega
          rw [addLoop, ints_cons, ints_cons, ints_cons, List.zipWith_cons_cons, carries, toInt_and_limb,
            ih hxs hys (by omega) (by omega), hsum]

theorem holds_add {x y : List JavaInt} {a b : ZMod p} (hx : Holds x a) (hy : Holds y b) : Holds (add x y) (a + b) := by
  have hlength : (ints x).length = (ints y).length := by rw [length_ints, length_ints, hx.length_eq, hy.length_eq]
  have hten : (List.zipWith (fun d e : ℤ => 1 * d + e) (ints x) (ints y)).length = 10 := by
    rw [List.length_zipWith, hlength, min_self, length_ints, hy.length_eq]
  obtain ⟨sum, hadd, hints⟩ : ∃ sum, add x y = reduceQuick sum ∧
      ints sum = carries (2 ^ 26) 0 (List.zipWith (fun d e => 1 * d + e) (ints x) (ints y)) := by
    rcases x with _ | ⟨x, xs⟩
    · simp [ints] at hten
    rcases y with _ | ⟨y, ys⟩
    · simp [ints] at hten
    obtain ⟨hd, hxs⟩ := proper_cons.mp hx.proper
    obtain ⟨he, hys⟩ := proper_cons.mp hy.proper
    have hsum : (x + y).toInt = 0 + (1 * x.toInt + y.toInt) := by
      rw [toInt_add_word (by omega) (by omega)]
      omega
    refine ⟨_, rfl, ?_⟩
    rw [ints_cons, ints_cons, ints_cons, List.zipWith_cons_cons, carries, toInt_and_limb,
      ints_addLoop hxs hys (by omega) (by omega), hsum]
  obtain ⟨hlimbs, hvalue⟩ := limbs_of_carries hints hten
  have hnumber : number sum = number x + number y := by
    have hxlt := hx.number_lt
    have hylt := hy.number_lt
    have hxnonneg := number_nonneg hx.toLimbs
    have hynonneg := number_nonneg hy.toLimbs
    rw [p_eq] at hxlt hylt
    rw [hvalue, value_zipWith_add 1 hlength, zero_add, one_mul]
    exact Int.emod_eq_of_lt (add_nonneg hxnonneg hynonneg) (by show number x + number y < _; omega)
  have hholds := holds_reduceQuick hlimbs (by rw [hnumber]; linarith [hx.number_lt, hy.number_lt])
  rwa [hnumber, Int.cast_add, hx.number_eq, hy.number_eq, ← hadd] at hholds

theorem ints_subLoop (borrow : JavaInt) {x y : List JavaInt} (hx : Proper (2 ^ 26) (ints x))
    (hy : Proper (2 ^ 26) (ints y)) (hlow : -2 ^ 26 ≤ borrow.toInt) (hhigh : borrow.toInt < 2 ^ 26) :
    ints (subLoop borrow x y).1 =
        carries (2 ^ 26) (borrow.toInt / 2 ^ 26) (List.zipWith (fun d e => -1 * d + e) (ints y) (ints x)) ∧
      (subLoop borrow x y).2.toInt / 2 ^ 26 =
        carryOut (2 ^ 26) (borrow.toInt / 2 ^ 26) (List.zipWith (fun d e => -1 * d + e) (ints y) (ints x)) := by
  induction x generalizing borrow y with
  | nil => simp [subLoop, ints, carries, carryOut]
  | cons x xs ih =>
      cases y with
      | nil => simp [subLoop, ints, carries, carryOut]
      | cons y ys =>
          obtain ⟨hd, hxs⟩ := proper_cons.mp hx
          obtain ⟨he, hys⟩ := proper_cons.mp hy
          have hbit : (borrow.sshiftRight 26 &&& 0x01).toInt = borrow.toInt / 2 ^ 26 % 2 := by
            rw [toInt_and_one, toInt_sshiftRight]
          have hfirst : (x - y).toInt = x.toInt - y.toInt := toInt_sub_word (by omega) (by omega)
          have hdifference : (x - y - (borrow.sshiftRight 26 &&& 0x01)).toInt =
              borrow.toInt / 2 ^ 26 + (-1 * y.toInt + x.toInt) := by
            rw [toInt_sub_word (by omega) (by omega), hfirst, hbit]
            omega
          obtain ⟨hrest, hout⟩ := ih (x - y - (borrow.sshiftRight 26 &&& 0x01)) hxs hys (by omega) (by omega)
          rw [hdifference] at hrest hout
          rw [subLoop]
          refine ⟨?_, hout⟩
          rw [ints_cons, ints_cons, ints_cons, List.zipWith_cons_cons, carries, toInt_and_limb, hrest, hdifference]

theorem ints_borrowLoop {borrow : JavaInt} {x : List JavaInt} (hx : Proper (2 ^ 26) (ints x))
    (hlow : -2 ^ 26 ≤ borrow.toInt) (hhigh : borrow.toInt < 2 ^ 26) :
    ints (borrowLoop borrow x) = carries (2 ^ 26) (borrow.toInt / 2 ^ 26) (ints x) := by
  induction x generalizing borrow with
  | nil => rfl
  | cons x xs ih =>
      obtain ⟨hd, hxs⟩ := proper_cons.mp hx
      have hbit : (borrow.sshiftRight 26 &&& 0x01).toInt = borrow.toInt / 2 ^ 26 % 2 := by
        rw [toInt_and_one, toInt_sshiftRight]
      have hdifference : (x - (borrow.sshiftRight 26 &&& 0x01)).toInt = borrow.toInt / 2 ^ 26 + x.toInt := by
        rw [toInt_sub_word (by omega) (by omega), hbit]
        omega
      rw [borrowLoop, ints_cons, ints_cons, carries, toInt_and_limb, ih hxs (by omega) (by omega), hdifference]

/-- After a borrow 19 is subtracted, and what is left above the bit 255 is cut off. -/
theorem subFold_spec (borrow : JavaInt) {x : List JavaInt} (hx : Limbs 10 x)
    (hborrow : borrow.toInt / 2 ^ 26 = 0 ∨ borrow.toInt / 2 ^ 26 = -1) :
    Limbs 10 (subFold borrow x) ∧
      number (subFold borrow x) = (19 * (borrow.toInt / 2 ^ 26) + number x) % (2 ^ 26) ^ 10 % 2 ^ 255 := by
  rcases x with _ | ⟨x, xs⟩
  · simpa using hx.length_eq
  obtain ⟨hd, hxs⟩ := proper_cons.mp hx.proper
  have hbit : (borrow.sshiftRight 26 &&& 0x01).toInt = borrow.toInt / 2 ^ 26 % 2 := by
    rw [toInt_and_one, toInt_sshiftRight]
  have hmask := neg_bit (x := borrow.sshiftRight 26 &&& 0x01) (by omega) (by omega)
  have h19 : (-(borrow.sshiftRight 26 &&& 0x01) &&& 19).toInt = -(19 * (borrow.toInt / 2 ^ 26)) := by
    rw [hmask, hbit]
    obtain hzero | hone := hborrow
    · rw [hzero]
      rfl
    · rw [hone]
      rfl
  have hdifference : (x - (-(borrow.sshiftRight 26 &&& 0x01) &&& 19)).toInt = 19 * (borrow.toInt / 2 ^ 26) + x.toInt := by
    rw [toInt_sub_word (by omega) (by omega), h19]
    omega
  have hints : ints ((x - (-(borrow.sshiftRight 26 &&& 0x01) &&& 19) &&& 0x03FFFFFF) ::
      borrowLoop (x - (-(borrow.sshiftRight 26 &&& 0x01) &&& 19)) xs) =
      carries (2 ^ 26) (19 * (borrow.toInt / 2 ^ 26)) (ints (x :: xs)) := by
    rw [ints_cons, ints_cons, carries, toInt_and_limb, ints_borrowLoop hxs (by omega) (by omega), hdifference]
  obtain ⟨hlimbs, hvalue⟩ := limbs_of_carries hints (by rw [length_ints, hx.length_eq])
  obtain ⟨hmasked, hnumber⟩ := maskTop_spec hlimbs
  refine ⟨hmasked, ?_⟩
  rw [subFold, hnumber, hvalue]
  rfl

theorem holds_sub {x y : List JavaInt} {a b : ZMod p} (hx : Holds x a) (hy : Holds y b) : Holds (sub x y) (a - b) := by
  have hlength : (ints y).length = (ints x).length := by rw [length_ints, length_ints, hx.length_eq, hy.length_eq]
  have hten : (List.zipWith (fun d e : ℤ => -1 * d + e) (ints y) (ints x)).length = 10 := by
    rw [List.length_zipWith, hlength, min_self, length_ints, hx.length_eq]
  obtain ⟨hints, hout⟩ := ints_subLoop 0 hx.proper hy.proper (by decide) (by decide)
  rw [show (0 : JavaInt).toInt / 2 ^ 26 = 0 by rfl] at hints hout
  obtain ⟨hlimbs, hvalue⟩ := limbs_of_carries hints hten
  rw [carryOut_eq_ediv (by norm_num), hten] at hout
  have hdifference :
      0 + value (2 ^ 26) (List.zipWith (fun d e => -1 * d + e) (ints y) (ints x)) = number x - number y := by
    rw [value_zipWith_add (-1) hlength, number, number]
    ring
  rw [hdifference] at hvalue hout
  have hxlt := hx.number_lt
  have hylt := hy.number_lt
  have hxnonneg := number_nonneg hx.toLimbs
  have hynonneg := number_nonneg hy.toLimbs
  rw [p_eq] at hxlt hylt
  obtain ⟨hresult, hnumber⟩ := subFold_spec (subLoop 0 x y).2 hlimbs (by omega)
  rw [hvalue, hout] at hnumber
  by_cases hborrow : number x < number y
  · have heq : number (sub x y) = number x - number y + p := by
      rw [sub, hnumber, p_eq]
      omega
    refine { toLimbs := hresult, number_lt := ?_, number_eq := ?_ }
    · rw [heq]
      omega
    · rw [heq]
      push_cast
      rw [ZMod.natCast_self, add_zero, hx.number_eq, hy.number_eq]
  · have heq : number (sub x y) = number x - number y := by
      rw [sub, hnumber]
      omega
    refine { toLimbs := hresult, number_lt := ?_, number_eq := ?_ }
    · rw [heq, p_eq]
      omega
    · rw [heq, Int.cast_sub, hx.number_eq, hy.number_eq]

/-! ### The reduction -/

/-- The limbs of the high order half, shifted to the bit 255. -/
def shifted (limb : ℤ) (high : List JavaInt) : List ℤ := carries (2 ^ 26) limb ((ints high).map (32 * ·))

/-- The digits that the first loop of `reduce` brings into range. -/
def foldedDigits (limb : ℤ) (high low : List JavaInt) : List ℤ :=
  List.zipWith (fun d e => 19 * d + e) (shifted limb high) (ints low)

theorem toInt_shiftLeft_five {x : JavaInt} (hlow : 0 ≤ x.toInt) (hhigh : x.toInt < 2 ^ 26) :
    (x <<< 5).toInt = 32 * x.toInt := by
  have hmul : x <<< 5 = x * 32 := BitVec.shiftLeft_eq_mul_twoPow x 5
  have h32 : (32 : JavaInt).toInt = 32 := rfl
  rw [hmul, toInt_mul_word h32 (by omega) (by omega)]

theorem ints_foldLoop (limb carry : JavaInt) {low high : List JavaInt} (hlow : Proper (2 ^ 26) (ints low))
    (hhigh : Proper (2 ^ 26) (ints high)) (hlimb : 0 ≤ limb.toInt ∧ limb.toInt < 32)
    (hcarry : 0 ≤ carry.toInt ∧ carry.toInt < 20) :
    ints (foldLoop limb carry low high).1 = carries (2 ^ 26) carry.toInt (foldedDigits limb.toInt high low) ∧
      (foldLoop limb carry low high).2.toInt = carryOut (2 ^ 26) carry.toInt (foldedDigits limb.toInt high low) := by
  induction low generalizing limb carry high with
  | nil =>
      rw [foldedDigits, show ints ([] : List JavaInt) = [] by rfl, List.zipWith_nil_right]
      exact ⟨rfl, rfl⟩
  | cons x low ih =>
      cases high with
      | nil => exact ⟨rfl, rfl⟩
      | cons y high =>
          obtain ⟨hx, hlow⟩ := proper_cons.mp hlow
          obtain ⟨hy, hhigh⟩ := proper_cons.mp hhigh
          have hshift : (y <<< 5).toInt = 32 * y.toInt := toInt_shiftLeft_five hy.1 hy.2
          have hwide : (limb + y <<< 5).toInt = limb.toInt + 32 * y.toInt := by
            rw [toInt_add_word (by omega) (by omega), hshift]
          have hdigit : (limb + y <<< 5 &&& 0x03FFFFFF).toInt = (limb.toInt + 32 * y.toInt) % 2 ^ 26 := by
            rw [toInt_and_limb, hwide]
          have h19 : (19 : JavaInt).toInt = 19 := rfl
          have hproduct : ((limb + y <<< 5 &&& 0x03FFFFFF) * 19).toInt = 19 * ((limb.toInt + 32 * y.toInt) % 2 ^ 26) := by
            rw [toInt_mul_word h19 (by omega) (by omega), hdigit]
          have hsum : ((limb + y <<< 5 &&& 0x03FFFFFF) * 19 + x).toInt =
              19 * ((limb.toInt + 32 * y.toInt) % 2 ^ 26) + x.toInt := by
            rw [toInt_add_word (by omega) (by omega), hproduct]
          have htotal : (carry + ((limb + y <<< 5 &&& 0x03FFFFFF) * 19 + x)).toInt =
              carry.toInt + (19 * ((limb.toInt + 32 * y.toInt) % 2 ^ 26) + x.toInt) := by
            rw [toInt_add_word (by omega) (by omega), hsum]
          have hnextLimb : ((limb + y <<< 5).sshiftRight 26).toInt = (limb.toInt + 32 * y.toInt) / 2 ^ 26 := by
            rw [toInt_sshiftRight, hwide]
          have hnextCarry : ((carry + ((limb + y <<< 5 &&& 0x03FFFFFF) * 19 + x)).sshiftRight 26).toInt =
              (carry.toInt + (19 * ((limb.toInt + 32 * y.toInt) % 2 ^ 26) + x.toInt)) / 2 ^ 26 := by
            rw [toInt_sshiftRight, htotal]
          obtain ⟨hrest, hout⟩ := ih ((limb + y <<< 5).sshiftRight 26)
            ((carry + ((limb + y <<< 5 &&& 0x03FFFFFF) * 19 + x)).sshiftRight 26) hlow hhigh
            ⟨by omega, by omega⟩ ⟨by omega, by omega⟩
          rw [hnextLimb, hnextCarry] at hrest hout
          rw [foldLoop]
          refine ⟨?_, hout⟩
          rw [ints_cons, toInt_and_limb, hrest, htotal]
          rfl

theorem value_shifted {limb : ℤ} {high : List JavaInt} :
    value (2 ^ 26) (shifted limb high) = (limb + 32 * number high) % (2 ^ 26) ^ high.length := by
  rw [shifted, value_carries_emod (by norm_num), value_map_mul, List.length_map, length_ints, number]

theorem reduce_folded (limb : JavaInt) {size : Nat} {low high : List JavaInt} (hlow : Limbs 10 low)
    (hhigh : Limbs size high) (hsize : size ≤ 10) (hlimb : 0 ≤ limb.toInt ∧ limb.toInt < 32)
    (hshort : limb.toInt + 32 * number high < (2 ^ 26) ^ size)
    (hlt : 19 * (limb.toInt + 32 * number high) + number low < 2 ^ 260) :
    Limbs 10 ((foldLoop limb 0 low high).1 ++ propagate (foldLoop limb 0 low high).2 (low.drop size)) ∧
      number ((foldLoop limb 0 low high).1 ++ propagate (foldLoop limb 0 low high).2 (low.drop size)) =
        19 * (limb.toInt + 32 * number high) + number low := by
  have hshifted : (shifted limb.toInt high).length = (ints (low.take size)).length := by
    rw [shifted, length_carries, List.length_map, length_ints, length_ints, hhigh.length_eq, List.length_take,
      hlow.length_eq, min_eq_left hsize]
  have hsplit : ints low = ints (low.take size) ++ ints (low.drop size) := by
    rw [← ints_append, List.take_append_drop]
  have hdigits : foldedDigits limb.toInt high low =
      List.zipWith (fun d e => 19 * d + e) (shifted limb.toInt high) (ints (low.take size)) := by
    have happend : List.zipWith (fun d e : ℤ => 19 * d + e) (shifted limb.toInt high ++ [])
        (ints (low.take size) ++ ints (low.drop size)) = _ := List.zipWith_append hshifted
    rwa [List.append_nil, ← hsplit, List.zipWith_nil_left, List.append_nil] at happend
  obtain ⟨hints, hout⟩ := ints_foldLoop limb 0 hlow.proper hhigh.proper hlimb (by decide)
  rw [show (0 : JavaInt).toInt = 0 by rfl] at hints hout
  have hdropProper : Proper (2 ^ 26) (ints (low.drop size)) := by
    intro d hd
    exact hlow.proper d (by rw [hsplit]; exact List.mem_append_right _ hd)
  have hlength : (foldedDigits limb.toInt high low).length = size := by
    rw [hdigits, List.length_zipWith, hshifted, min_self, length_ints, List.length_take, hlow.length_eq,
      min_eq_left hsize]
  have hhighNonneg := number_nonneg hhigh
  have hvalue : value (2 ^ 26) (foldedDigits limb.toInt high low) =
      19 * (limb.toInt + 32 * number high) + value (2 ^ 26) (ints (low.take size)) := by
    rw [hdigits, value_zipWith_add 19 hshifted, value_shifted, hhigh.length_eq,
      Int.emod_eq_of_lt (by omega) hshort]
  have htakeProper : Proper (2 ^ 26) (ints (low.take size)) := by
    intro d hd
    exact hlow.proper d (by rw [hsplit]; exact List.mem_append_left _ hd)
  have htake := htakeProper.value_lt (by norm_num)
  rw [← hshifted, shifted, length_carries, List.length_map, length_ints, hhigh.length_eq] at htake
  have htakeNonneg := htakeProper.value_nonneg (by norm_num)
  -- the carry into the rest of the low order half
  have hcarry : 0 ≤ (foldLoop limb 0 low high).2.toInt ∧ (foldLoop limb 0 low high).2.toInt < 20 := by
    rw [hout, carryOut_eq_ediv (by norm_num), hlength, zero_add, hvalue]
    exact ⟨Int.ediv_nonneg (by omega) (by positivity), Int.ediv_lt_of_lt_mul (by positivity) (by linarith)⟩
  have hall : ints ((foldLoop limb 0 low high).1 ++ propagate (foldLoop limb 0 low high).2 (low.drop size)) =
      carries (2 ^ 26) 0 (foldedDigits limb.toInt high low ++ ints (low.drop size)) := by
    rw [ints_append, ints_propagate _ hdropProper hcarry.1 (by omega), carries_append, hints, hout]
  obtain ⟨hlimbs, hnumber⟩ := limbs_of_carries (n := 10) hall (by
    rw [List.length_append, hlength, length_ints, List.length_drop, hlow.length_eq]
    omega)
  have hsum : value (2 ^ 26) (foldedDigits limb.toInt high low ++ ints (low.drop size)) =
      19 * (limb.toInt + 32 * number high) + number low := by
    rw [value_append, hvalue, hlength, number, number, hsplit, value_append, ← hshifted, shifted, length_carries,
      List.length_map, length_ints, hhigh.length_eq]
    ring
  have hlowNonneg := number_nonneg hlow
  refine ⟨hlimbs, ?_⟩
  rw [hnumber, hsum, zero_add]
  exact Int.emod_eq_of_lt (by omega) (by omega)

theorem holds_fold_top {x : List JavaInt} (hx : Limbs 10 x) :
    Holds (reduceQuick (propagate (((x.getD 9 0).sshiftRight 21) * 19) (maskTop x))) (number x) := by
  have hlt := number_lt_pow hx
  have hnonneg := number_nonneg hx
  have htop : ((x.getD 9 0).sshiftRight 21).toInt = number x / 2 ^ 255 := by rw [toInt_sshiftRight, top_ediv hx]
  have h19 : (19 : JavaInt).toInt = 19 := rfl
  have hcarry : (((x.getD 9 0).sshiftRight 21) * 19).toInt = 19 * (number x / 2 ^ 255) := by
    rw [toInt_mul_word h19 (by omega) (by omega), htop]
  obtain ⟨hmasked, hmaskedNumber⟩ := maskTop_spec hx
  obtain ⟨hlimbs, hnumber⟩ := propagate_spec (((x.getD 9 0).sshiftRight 21) * 19) hmasked (by omega) (by omega)
  rw [hcarry, hmaskedNumber] at hnumber
  have hsmall : number (propagate (((x.getD 9 0).sshiftRight 21) * 19) (maskTop x)) =
      number x - p * (number x / 2 ^ 255) := by
    rw [hnumber, p_eq]
    omega
  have hholds := holds_reduceQuick hlimbs (by rw [hsmall, p_eq]; omega)
  rwa [hsmall, cast_sub_p_mul] at hholds

/-- **The reduction.** A number whose part above the bit 255 has as many limbs as the loop reads is reduced. -/
theorem holds_reduce {size : Nat} {x : List JavaInt} (hx : Limbs (10 + size) x) (hsize : size ≤ 10)
    (hhigh : number x / 2 ^ 255 < (2 ^ 26) ^ size) (hlt : 19 * (number x / 2 ^ 255) + number x % 2 ^ 255 < 2 ^ 260) :
    Holds (reduce x size) (number x) := by
  obtain ⟨lows, highs, rfl, hlows⟩ : ∃ lows highs, x = lows ++ highs ∧ lows.length = 10 :=
    ⟨x.take 10, x.drop 10, (List.take_append_drop 10 x).symm, by rw [List.length_take, hx.length_eq]; omega⟩
  have hlength := hx.length_eq
  have hproper := hx.proper
  rw [List.length_append] at hlength
  rw [Proper, ints_append, List.forall_mem_append] at hproper
  have hlow : Limbs 10 lows := ⟨hlows, hproper.1⟩
  have hhighs : Limbs size highs := ⟨by omega, hproper.2⟩
  have hsplit : number (lows ++ highs) = number lows + 2 ^ 260 * number highs := by
    rw [number, ints_append, value_append, length_ints, hlows, number, number, ← pow_mul]
  have hbound := number_lt_pow hlow
  have hnonneg := number_nonneg hlow
  have hhighNonneg := number_nonneg hhighs
  have hlimb : ((lows.getD 9 0).sshiftRight 21).toInt = number lows / 2 ^ 255 := by rw [toInt_sshiftRight, top_ediv hlow]
  obtain ⟨hmasked, hmaskedNumber⟩ := maskTop_spec hlow
  obtain ⟨hfolded, hnumber⟩ := reduce_folded ((lows.getD 9 0).sshiftRight 21) hmasked hhighs hsize
    ⟨by omega, by omega⟩ (by omega) (by omega)
  have hfold : number ((foldLoop ((lows.getD 9 0).sshiftRight 21) 0 (maskTop lows) highs).1 ++
      propagate (foldLoop ((lows.getD 9 0).sshiftRight 21) 0 (maskTop lows) highs).2 ((maskTop lows).drop size)) =
      number (lows ++ highs) - p * (number (lows ++ highs) / 2 ^ 255) := by
    rw [hnumber, hmaskedNumber, hlimb, p_eq]
    omega
  have hget : (lows ++ highs).getD 9 0 = lows.getD 9 0 := List.getD_append _ _ _ _ (by omega)
  have htake : (lows ++ highs).take 10 = lows := by rw [← hlows, List.take_left]
  have hdrop : ((lows ++ highs).drop 10).take size = highs := by
    rw [← hlows, List.drop_left, List.take_of_length_le hhighs.length_eq.le]
  have hholds := holds_fold_top hfolded
  rw [hfold, cast_sub_p_mul] at hholds
  simpa only [reduce, hget, htake, hdrop] using hholds

/-! ### Products -/

theorem toInt_add_long {x y : JavaLong} (hlow : -2 ^ 63 ≤ x.toInt + y.toInt) (hhigh : x.toInt + y.toInt < 2 ^ 63) :
    (x + y).toInt = x.toInt + y.toInt := by
  rw [BitVec.toInt_add, Int.bmod_eq_of_le_mul_two (by omega) (by omega)]

theorem toInt_mul_long {x y : JavaLong} (hlow : -2 ^ 63 ≤ x.toInt * y.toInt) (hhigh : x.toInt * y.toInt < 2 ^ 63) :
    (x * y).toInt = x.toInt * y.toInt := by
  rw [BitVec.toInt_mul, Int.bmod_eq_of_le_mul_two (by omega) (by omega)]

theorem toInt_extend (x : JavaInt) : (x.signExtend 64).toInt = x.toInt := BitVec.toInt_signExtend_of_le (by omega)

theorem toInt_product {v : JavaLong} {y : JavaInt} (hv : 0 ≤ v.toInt ∧ v.toInt < 2 ^ 26)
    (hy : 0 ≤ y.toInt ∧ y.toInt < 2 ^ 26) :
    (v * y.signExtend 64).toInt = v.toInt * y.toInt ∧ 0 ≤ v.toInt * y.toInt ∧ v.toInt * y.toInt < 2 ^ 52 := by
  have hnonneg := mul_nonneg hv.1 hy.1
  have hlt : v.toInt * y.toInt < 2 ^ 26 * 2 ^ 26 := mul_lt_mul'' hv.2 hy.2 hv.1 hy.1
  refine ⟨?_, hnonneg, by omega⟩
  rw [toInt_mul_long (by rw [toInt_extend]; omega) (by rw [toInt_extend]; omega), toInt_extend]

/-- Columns that are sums of at most `n` products of limbs. -/
def Columns (n : ℤ) (t : List JavaLong) : Prop := ∀ c ∈ t, 0 ≤ c.toInt ∧ c.toInt ≤ n * 2 ^ 52

theorem number_cons {w : Nat} (x : BitVec w) (xs : List (BitVec w)) :
    number (x :: xs) = x.toInt + 2 ^ 26 * number xs := rfl

theorem number_append {w : Nat} (x y : List (BitVec w)) :
    number (x ++ y) = number x + (2 ^ 26) ^ x.length * number y := by
  rw [number, ints_append, value_append, length_ints, number, number]

theorem length_mulRow {v : JavaLong} {t1 : List JavaLong} {y : List JavaInt} (h : t1.length ≤ y.length) :
    (mulRow v t1 y).length = y.length := by
  induction t1 generalizing y with
  | nil => cases y <;> simp [mulRow]
  | cons t t1 ih =>
      cases y with
      | nil => simp at h
      | cons y ys => rw [mulRow, List.length_cons, List.length_cons, ih (by simpa using h)]

/-- A row without columns before it. -/
theorem mulRow_nil (v : JavaLong) (y : List JavaInt) : mulRow v [] y = y.map fun y => v * y.signExtend 64 := by
  cases y <;> rfl

theorem mulRow_spec {v : JavaLong} {n : ℤ} (t1 : List JavaLong) {y : List JavaInt} (hv : 0 ≤ v.toInt ∧ v.toInt < 2 ^ 26)
    (hy : Proper (2 ^ 26) (ints y)) (ht : Columns n t1) (hn : 0 ≤ n ∧ n ≤ 10) (hlength : t1.length ≤ y.length) :
    Columns (n + 1) (mulRow v t1 y) ∧ number (mulRow v t1 y) = number t1 + v.toInt * number y := by
  induction y generalizing t1 with
  | nil =>
      rw [List.eq_nil_of_length_eq_zero (Nat.le_zero.mp hlength)]
      simp [mulRow, Columns, number, ints]
  | cons y ys ih =>
      obtain ⟨hd, hys⟩ := proper_cons.mp hy
      obtain ⟨hproduct, hnonneg, hlt⟩ := toInt_product hv hd
      cases t1 with
      | nil =>
          obtain ⟨hcolumns, hnumber⟩ := ih [] hys (by simp [Columns]) (by simp)
          rw [mulRow_nil] at hcolumns hnumber ⊢
          rw [List.map_cons]
          refine ⟨List.forall_mem_cons.mpr ⟨by omega, hcolumns⟩, ?_⟩
          rw [number_cons, hnumber, hproduct, number_cons]
          simp only [number, ints, List.map_nil, value_nil]
          ring
      | cons t t1 =>
          obtain ⟨htd, htt⟩ := List.forall_mem_cons.mp ht
          obtain ⟨hcolumns, hnumber⟩ := ih t1 hys htt (by simpa using hlength)
          have hsum : (t + v * y.signExtend 64).toInt = t.toInt + v.toInt * y.toInt := by
            rw [toInt_add_long (by omega) (by omega), hproduct]
          rw [mulRow]
          refine ⟨List.forall_mem_cons.mpr ⟨by omega, hcolumns⟩, ?_⟩
          rw [number_cons, hnumber, hsum, number_cons, number_cons]
          ring

theorem mulRows_spec {x y : List JavaInt} {i : Nat} {n : ℤ} (t1 : List JavaLong) (hx : Proper (2 ^ 26) (ints x))
    (hy : Limbs 10 y) (ht : Columns n t1) (hn : 0 ≤ n) (hsmall : n + x.length ≤ 10) (hlength : t1.length = i + 9) :
    Columns (n + x.length) (mulRows y i t1 x) ∧ (mulRows y i t1 x).length = i + 9 + x.length ∧
      number (mulRows y i t1 x) = number t1 + (2 ^ 26) ^ i * (number x * number y) := by
  induction x generalizing i n t1 with
  | nil => simp [mulRows, ht, hlength, number, ints]
  | cons x xs ih =>
      obtain ⟨hd, hxs⟩ := proper_cons.mp hx
      rw [List.length_cons] at hsmall ⊢
      push_cast at hsmall ⊢
      have htake : (t1.take i).length = i := by rw [List.length_take, hlength]; omega
      have hdrop : (t1.drop i).length = 9 := by rw [List.length_drop, hlength]; omega
      have hsplit : number t1 = number (t1.take i) + (2 ^ 26) ^ i * number (t1.drop i) := by
        have happend := number_append (t1.take i) (t1.drop i)
        rwa [List.take_append_drop, htake] at happend
      have hextend : 0 ≤ (x.signExtend 64).toInt ∧ (x.signExtend 64).toInt < 2 ^ 26 := by rwa [toInt_extend]
      obtain ⟨hcolumns, hnumber⟩ := mulRow_spec (t1.drop i) hextend hy.proper
        (fun c hc => ht c (List.mem_of_mem_drop hc)) ⟨hn, by omega⟩ (by rw [hdrop, hy.length_eq]; omega)
      have hnext : Columns (n + 1) (t1.take i ++ mulRow (x.signExtend 64) (t1.drop i) y) := by
        rw [Columns, List.forall_mem_append]
        refine ⟨fun c hc => ?_, hcolumns⟩
        have := ht c (List.mem_of_mem_take hc)
        omega
      have hnextLength : (t1.take i ++ mulRow (x.signExtend 64) (t1.drop i) y).length = i + 1 + 9 := by
        rw [List.length_append, htake, length_mulRow (by rw [hdrop, hy.length_eq]; omega), hy.length_eq]
      obtain ⟨hresult, hresultLength, hresultNumber⟩ := ih _ hxs hnext (by omega) (by omega) hnextLength
      rw [mulRows]
      refine ⟨?_, by omega, ?_⟩
      · rwa [add_assoc, add_comm (1 : ℤ)] at hresult
      · rw [hresultNumber, number_append, htake, hnumber, hsplit, toInt_extend, number_cons]
        ring

theorem ints_mulLoop {v : JavaLong} {t1 : List JavaLong} (ht : Columns 10 t1) (hlow : 0 ≤ v.toInt)
    (hhigh : v.toInt < 11 * 2 ^ 52) : ints (mulLoop v t1) = carries (2 ^ 26) (v.toInt / 2 ^ 26) (ints t1) := by
  induction t1 generalizing v with
  | nil => rfl
  | cons t t1 ih =>
      obtain ⟨hd, ht⟩ := List.forall_mem_cons.mp ht
      have hshift : (v.sshiftRight 26).toInt = v.toInt / 2 ^ 26 := toInt_sshiftRight v 26
      have hsum : (v.sshiftRight 26 + t).toInt = v.toInt / 2 ^ 26 + t.toInt := by
        rw [toInt_add_long (by omega) (by omega), hshift]
      rw [mulLoop, ints_cons, ints_cons, carries, toInt_truncate_limb, ih ht (by omega) (by omega), hsum]

theorem holds_mul {x y : List JavaInt} {a b : ZMod p} (hx : Holds x a) (hy : Holds y b) : Holds (mul x y) (a * b) := by
  have hxlength := hx.length_eq
  have hxproper := hx.proper
  obtain ⟨hcolumns, hlength, hnumber⟩ : Columns 10 (mulColumns x y) ∧ (mulColumns x y).length = 19 ∧
      number (mulColumns x y) = number x * number y := by
    rcases x with _ | ⟨x, xs⟩
    · simp at hxlength
    obtain ⟨hd, hxs⟩ := proper_cons.mp hxproper
    rw [List.length_cons] at hxlength
    have hextend : 0 ≤ (x.signExtend 64).toInt ∧ (x.signExtend 64).toInt < 2 ^ 26 := by rwa [toInt_extend]
    obtain ⟨hfirst, hfirstNumber⟩ := mulRow_spec (n := 0) [] hextend hy.proper (by simp [Columns]) (by omega) (by simp)
    have hrows := mulRows_spec (i := 1) (mulRow (x.signExtend 64) [] y) hxs hy.toLimbs hfirst (by omega) (by omega)
      (by rw [length_mulRow (by simp), hy.length_eq])
    rw [mulColumns, ← mulRow_nil]
    refine ⟨?_, by omega, ?_⟩
    · have hten : (0 : ℤ) + 1 + xs.length = 10 := by omega
      rw [← hten]
      exact hrows.1
    · rw [hrows.2.2, hfirstNumber, toInt_extend, number_cons]
      simp only [number, ints, List.map_nil, value_nil]
      ring
  -- the columns and the one that is never written
  have hall : Columns 10 (mulColumns x y ++ [0]) := by
    rw [Columns, List.forall_mem_append, List.forall_mem_singleton]
    exact ⟨hcolumns, by decide⟩
  obtain ⟨limbs, hmul, hints⟩ : ∃ limbs, mul x y = reduce limbs 10 ∧
      ints limbs = carries (2 ^ 26) 0 (ints (mulColumns x y ++ [0])) := by
    rw [mul]
    cases hcolumn : mulColumns x y ++ [0] with
    | nil => simp at hcolumn
    | cons v t1 =>
        rw [hcolumn] at hall
        obtain ⟨hv, ht1⟩ := List.forall_mem_cons.mp hall
        refine ⟨_, rfl, ?_⟩
        rw [ints_cons, ints_cons, carries, toInt_truncate_limb, ints_mulLoop ht1 (by omega) (by omega), zero_add]
  obtain ⟨hlimbs, hvalue⟩ := limbs_of_carries (n := 10 + 10) hints (by
    rw [length_ints, List.length_append, hlength]
    rfl)
  have hxnonneg := number_nonneg hx.toLimbs
  have hynonneg := number_nonneg hy.toLimbs
  have hnonneg := mul_nonneg hxnonneg hynonneg
  have hlt : number x * number y < 2 ^ 510 := by
    have hxlt := hx.number_lt
    have hylt := hy.number_lt
    rw [p_eq] at hxlt hylt
    calc number x * number y < 2 ^ 255 * 2 ^ 255 := mul_lt_mul'' (by omega) (by omega) hxnonneg hynonneg
      _ = 2 ^ 510 := by rw [← pow_add]
  have hproduct : number limbs = number x * number y := by
    have hsum : value (2 ^ 26) (ints (mulColumns x y ++ [0])) = number x * number y := by
      have happend := number_append (mulColumns x y) [0]
      rw [hnumber, number_cons, show (0 : JavaLong).toInt = 0 by rfl] at happend
      simpa [number, ints] using happend
    rw [hvalue, hsum, zero_add]
    exact Int.emod_eq_of_lt hnonneg (by omega)
  have hholds := holds_reduce hlimbs le_rfl (by rw [hproduct]; omega) (by rw [hproduct]; omega)
  rwa [hproduct, Int.cast_mul, hx.number_eq, hy.number_eq, ← hmul] at hholds

theorem holds_square {x : List JavaInt} {a : ZMod p} (hx : Holds x a) : Holds (square x) (a ^ 2) := by
  rw [sq]
  exact holds_mul hx hx

theorem ints_mulA24Loop (carry : JavaLong) {x : List JavaInt} (hx : Proper (2 ^ 26) (ints x)) (hlow : 0 ≤ carry.toInt)
    (hhigh : carry.toInt < 2 ^ 60) :
    ints (mulA24Loop carry x) = carries (2 ^ 26) carry.toInt ((ints x).map (121665 * ·) ++ [0]) := by
  induction x generalizing carry with
  | nil =>
      rw [mulA24Loop, ints_cons, toInt_truncate_limb]
      simp [ints, carries]
  | cons x xs ih =>
      obtain ⟨hd, hxs⟩ := proper_cons.mp hx
      have ha24 : (121665 : JavaLong).toInt = 121665 := rfl
      have hproduct : (121665 * x.signExtend 64 : JavaLong).toInt = 121665 * x.toInt := by
        rw [(toInt_product (by rw [ha24]; omega) hd).1, ha24]
      have hsum : (carry + 121665 * x.signExtend 64).toInt = carry.toInt + 121665 * x.toInt := by
        rw [toInt_add_long (by omega) (by omega), hproduct]
      have hcarry : ((carry + 121665 * x.signExtend 64).sshiftRight 26).toInt =
          (carry.toInt + 121665 * x.toInt) / 2 ^ 26 := by
        rw [toInt_sshiftRight, hsum]
      have hrest := ih ((carry + 121665 * x.signExtend 64).sshiftRight 26) hxs (by omega) (by omega)
      rw [hcarry] at hrest
      rw [mulA24Loop, ints_cons, ints_cons, List.map_cons, List.cons_append, carries, toInt_truncate_limb, hrest, hsum]

theorem holds_mulA24 {x : List JavaInt} {a : ZMod p} (hx : Holds x a) : Holds (mulA24 x) (121665 * a) := by
  have hints := ints_mulA24Loop 0 hx.proper (by decide) (by decide)
  rw [show (0 : JavaLong).toInt = 0 by rfl] at hints
  obtain ⟨hlimbs, hvalue⟩ := limbs_of_carries (n := 10 + 1) hints (by
    rw [List.length_append, List.length_map, length_ints, hx.length_eq]
    rfl)
  have hnonneg := number_nonneg hx.toLimbs
  have hlt := hx.number_lt
  rw [p_eq] at hlt
  have hproduct : number (mulA24Loop 0 x) = 121665 * number x := by
    rw [hvalue, value_append, value_map_mul, value_cons, value_nil, mul_zero, add_zero, mul_zero, add_zero, zero_add]
    exact Int.emod_eq_of_lt (by show 0 ≤ 121665 * number x; omega) (by show 121665 * number x < _; omega)
  have hholds := holds_reduce hlimbs (by omega) (by rw [hproduct]; omega) (by rw [hproduct]; omega)
  rw [hproduct, Int.cast_mul, hx.number_eq] at hholds
  exact_mod_cast hholds

/-! ### Powers -/

variable {x : List JavaInt} {a : ZMod p}

theorem Holds.of_eq {b : ZMod p} (h : Holds x a) (heq : a = b) : Holds x b := heq ▸ h

theorem holds_squareTimes (n : Nat) (hx : Holds x a) : Holds (squareTimes n x) (a ^ 2 ^ n) := by
  induction n generalizing x a with
  | zero => exact hx.of_eq (by rw [pow_zero, pow_one])
  | succ n ih => exact (ih (holds_square hx)).of_eq (by rw [← pow_mul, ← pow_succ'])

/-- The exponent of the result after `n` rounds that multiply the exponent `f` of `A` by `m` and add it to that of
the result. -/
def gathered (m : Nat) : Nat → Nat → Nat → Nat
  | 0, e, _ => e
  | n + 1, e, f => gathered m n (e + f * m) (f * m)

theorem holds_patternLoop {n e f : Nat} {s : List JavaInt × List JavaInt} (hresult : Holds s.1 (a ^ e))
    (hA : Holds s.2 (a ^ f)) : Holds (patternLoop n s).1 (a ^ gathered (2 ^ 10) n e f) := by
  induction n generalizing s e f with
  | zero => exact hresult
  | succ n ih =>
      have hnext : Holds (squareTimes 10 s.2) (a ^ (f * 2 ^ 10)) :=
        (holds_squareTimes 10 hA).of_eq (pow_mul a f _).symm
      exact ih ((holds_mul hresult hnext).of_eq (pow_add a e _).symm) hnext

theorem holds_fillLoop {n e f : Nat} {s : List JavaInt × List JavaInt} (hresult : Holds s.1 (a ^ e))
    (hA : Holds s.2 (a ^ f)) : Holds (fillLoop n s).1 (a ^ gathered 2 n e f) := by
  induction n generalizing s e f with
  | zero => exact hresult
  | succ n ih =>
      have hnext : Holds (square s.2) (a ^ (f * 2)) := (holds_square hA).of_eq (pow_mul a f 2).symm
      exact ih ((holds_mul hresult hnext).of_eq (pow_add a e _).symm) hnext

theorem holds_fill {e : Nat} (hx : Holds x (a ^ e)) :
    Holds (fillLoop 8 (mul x (square x), square x)).1 (a ^ gathered 2 8 (e + e * 2) (e * 2)) := by
  have hsquare : Holds (square x) (a ^ (e * 2)) := (holds_square hx).of_eq (pow_mul a e 2).symm
  have hmul : Holds (mul x (square x)) (a ^ (e + e * 2)) := (holds_mul hx hsquare).of_eq (pow_add a e _).symm
  exact holds_fillLoop (s := (mul x (square x), square x)) hmul hsquare

/-- The pattern `0000000001` 25 times. -/
def pattern : Nat := gathered (2 ^ 10) 23 (2 ^ 10 + 1) (2 ^ 10)

theorem gathered_pattern : gathered 2 8 (pattern + pattern * 2) (pattern * 2) = 2 ^ 250 - 1 := by
  decide +kernel

theorem holds_pow250 (hx : Holds x a) : Holds (pow250 x) (a ^ (2 ^ 250 - 1)) := by
  have hA : Holds (squareTimes 9 (square x)) (a ^ 2 ^ 10) :=
    (holds_squareTimes 9 (holds_square hx)).of_eq (pow_mul a 2 _).symm
  have hfirst : Holds (mul (squareTimes 9 (square x)) x) (a ^ (2 ^ 10 + 1)) :=
    (holds_mul hA hx).of_eq (pow_succ a _).symm
  have hpattern : Holds (patternLoop 23 (mul (squareTimes 9 (square x)) x, squareTimes 9 (square x))).1 (a ^ pattern) :=
    holds_patternLoop (s := (mul (squareTimes 9 (square x)) x, squareTimes 9 (square x))) hfirst hA
  have hfill := holds_fill hpattern
  rw [gathered_pattern] at hfill
  exact hfill

/-- **The reciprocal** is the power with the exponent `p - 2`. -/
theorem holds_recip (hx : Holds x a) : Holds (recip x) (a ^ (p - 2)) := by
  have hthird := holds_mul (holds_square (holds_square (holds_pow250 hx))) hx
  have hfifth := holds_mul (holds_square (holds_square hthird)) hx
  refine (holds_mul (holds_square hfifth) hx).of_eq ?_
  simp only [← pow_mul, ← pow_succ]
  rfl

/-! ### Conditional swaps -/

/-- A bit as an `int`. -/
def bit (b : Bool) : JavaInt := if b then 1 else 0

theorem bit_xor (b c : Bool) : bit b ^^^ bit c = bit (b ^^ c) := by cases b <;> cases c <;> rfl

theorem cswap_bit (b : Bool) {x y : List JavaInt} (h : x.length = y.length) :
    cswap (bit b) x y = if b then (y, x) else (x, y) := by
  cases b with
  | false =>
      have hleft : (fun x y : JavaInt => x ^^^ (-bit false &&& (x ^^^ y))) = fun x _ => x := by
        funext x y
        show x ^^^ (0#32 &&& (x ^^^ y)) = x
        rw [BitVec.zero_and, BitVec.xor_zero]
      have hright : (fun x y : JavaInt => y ^^^ (-bit false &&& (x ^^^ y))) = fun _ y => y := by
        funext x y
        show y ^^^ (0#32 &&& (x ^^^ y)) = y
        rw [BitVec.zero_and, BitVec.xor_zero]
      simp only [cswap, hleft, hright, zipWith_left h, zipWith_right h, Bool.false_eq_true, if_false]
  | true =>
      have hleft : (fun x y : JavaInt => x ^^^ (-bit true &&& (x ^^^ y))) = fun _ y => y := by
        funext x y
        show x ^^^ (BitVec.allOnes 32 &&& (x ^^^ y)) = y
        rw [BitVec.allOnes_and, ← BitVec.xor_assoc, BitVec.xor_self, BitVec.zero_xor]
      have hright : (fun x y : JavaInt => y ^^^ (-bit true &&& (x ^^^ y))) = fun x _ => x := by
        funext x y
        show y ^^^ (BitVec.allOnes 32 &&& (x ^^^ y)) = x
        rw [BitVec.allOnes_and, BitVec.xor_comm x y, ← BitVec.xor_assoc, BitVec.xor_self, BitVec.zero_xor]
      simp only [cswap, hleft, hright, zipWith_left h, zipWith_right h, if_true]

end Awg.Curve25519
