import Mathlib.Algebra.Order.Ring.Int
import Mathlib.Tactic.NormNum
import Mathlib.Tactic.Ring

/-!
# The numbers of machine words

What the operators of `int` and `long` do to the signed number of a word: a mask of low bits is a remainder, the
shift `>>` a division that rounds down, and a sum or product is the one of the numbers as long as it is in the range
of the word.
-/

namespace Java

variable {w : Nat}

theorem toNat_emod {k : Nat} (hk : k ≤ w) (x : BitVec w) : (x.toNat : ℤ) % 2 ^ k = x.toInt % 2 ^ k := by
  have hdvd : (2 : ℤ) ^ k ∣ 2 ^ w := pow_dvd_pow 2 hk
  rw [BitVec.toInt_eq_toNat_cond]
  split
  · rfl
  · push_cast
    rw [Int.sub_emod, Int.emod_eq_zero_of_dvd hdvd, sub_zero, Int.emod_emod]

/-- **A mask of low bits is a remainder.** -/
theorem toInt_and_mask {k : Nat} (hk : k < w) (x : BitVec w) :
    (x &&& BitVec.ofNat w (2 ^ k - 1)).toInt = x.toInt % 2 ^ k := by
  have hmask : (2 ^ k - 1) % 2 ^ w = 2 ^ k - 1 := by
    apply Nat.mod_eq_of_lt
    have hpow := Nat.pow_lt_pow_right (a := 2) (by omega) hk
    have hpos := Nat.two_pow_pos k
    omega
  have hand : (x &&& BitVec.ofNat w (2 ^ k - 1)).toNat = x.toNat % 2 ^ k := by
    rw [BitVec.toNat_and, BitVec.toNat_ofNat, hmask, Nat.and_two_pow_sub_one_eq_mod]
  have hsmall : 2 * (x.toNat % 2 ^ k) < 2 ^ w := by
    have hlt := Nat.mod_lt x.toNat (Nat.two_pow_pos k)
    have hpow : 2 * 2 ^ k ≤ 2 ^ w := by
      rw [← Nat.pow_succ']
      exact Nat.pow_le_pow_right (by omega) hk
    omega
  rw [BitVec.toInt_eq_toNat_of_lt (by rw [hand]; exact hsmall), hand, ← toNat_emod hk.le]
  push_cast
  rfl

/-- **The shift `>>` is a division that rounds down.** -/
theorem toInt_sshiftRight (x : BitVec w) (n : Nat) : (x.sshiftRight n).toInt = x.toInt / 2 ^ n := by
  rw [BitVec.toInt_sshiftRight, Int.shiftRight_eq_div_pow]
  push_cast
  rfl

/-- The words of 0 and 1 are the masks that clear and keep. -/
theorem neg_bit {x : BitVec w} (hw : 1 < w) (h : x.toInt = 0 ∨ x.toInt = 1) :
    -x = if x.toInt = 1 then BitVec.allOnes w else 0 := by
  obtain hzero | hone := h
  · rw [if_neg (by omega), BitVec.toInt_inj.mp (hzero.trans (BitVec.toInt_zero).symm), BitVec.neg_zero]
    rfl
  · rw [if_pos hone, BitVec.toInt_inj.mp (hone.trans (BitVec.toInt_one hw).symm), BitVec.neg_one_eq_allOnes]

theorem select_allOnes (x y : BitVec w) : x &&& ~~~BitVec.allOnes w ||| y &&& BitVec.allOnes w = y := by
  rw [BitVec.not_allOnes, BitVec.and_zero, BitVec.zero_or, BitVec.and_allOnes]

theorem select_zero (x y : BitVec w) : x &&& ~~~0 ||| y &&& 0 = x := by
  show x &&& ~~~0#w ||| y &&& 0#w = x
  rw [BitVec.not_zero, BitVec.and_zero, BitVec.or_zero, BitVec.and_allOnes]

end Java
