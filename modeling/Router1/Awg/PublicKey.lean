import Mathlib.FieldTheory.Finite.Basic
import Mathlib.Tactic.NormNum.Prime
import Router1.Awg.ScalarMult
import Router1.Primes.Certificate

/-!
# Public keys

The modulus is a prime, so the residues are a field and the evaluation is the multiplication of points of the curve
`y² = x³ + 486662 x² + x`: the public key of a private key is the first coordinate of the multiple of the base point.
-/

namespace Awg.Curve25519

open Digits Java Montgomery Primes

/-! ### The modulus -/

/-- Certificates for `p` and for the large primes of the numbers before it. -/
def certificates : List Certificate :=
  [{ number := 2773320623, root := 5, factors := [2, 2437, 569003], power := 1 },
    { number := 72106336199, root := 7, factors := [2, 13, 2773320623], power := 1 },
    { number := 8574133, root := 2, factors := [2, 3, 7, 103, 991], power := 2 },
    { number := 1919519569386763, root := 2, factors := [2, 3, 7, 19, 47, 127, 8574133], power := 2 },
    { number := 31757755568855353, root := 10, factors := [2, 3, 31, 107, 223, 4153, 430751], power := 3 },
    { number := 75445702479781427272750846543864801, root := 7
      factors := [2, 3, 5, 75707, 72106336199, 1919519569386763], power := 5 },
    { number := 74058212732561358302231226437062788676166966415465897661863160754340907, root := 2
      factors := [2, 3, 353, 57467, 132049, 1923133, 31757755568855353, 75445702479781427272750846543864801]
      power := 1 },
    { number := p, root := 2
      factors := [2, 3, 65147, 74058212732561358302231226437062788676166966415465897661863160754340907], power := 2 }]

/-- The primes of the certificates that need none themselves. -/
def smallPrimes : List Nat :=
  [2, 3, 5, 7, 13, 19, 31, 47, 103, 107, 127, 223, 353, 991, 2437, 4153, 57467, 65147, 75707, 132049, 430751, 569003,
    1923133]

theorem prime_smallPrimes : ∀ q ∈ smallPrimes, q.Prime := by
  simp only [smallPrimes, List.forall_mem_cons]
  norm_num

/-- **The modulus is a prime.** -/
theorem prime_p : Nat.Prime p := by
  have hchain : Chain smallPrimes certificates := by decide +kernel
  exact prime_of_chain prime_smallPrimes hchain _ (List.getLast_mem (List.cons_ne_nil _ _))

instance : Fact p.Prime := ⟨prime_p⟩

theorem pow_p_sub_two (z : ZMod p) : z ^ (p - 2) = z⁻¹ := by
  by_cases hz : z = 0
  · have hpos : p - 2 ≠ 0 := by norm_num [p]
    rw [hz, zero_pow hpos, inv_zero]
  · apply eq_inv_of_mul_eq_one_left
    rw [← pow_succ, show p - 2 + 1 = p - 1 by norm_num [p], ZMod.pow_card_sub_one_eq_one hz]

/-! ### The scalar -/

/-- The number of the clamped private key. -/
def scalar (key : List JavaByte) : Nat := (bytesNumber (clamp key)).toNat

theorem proper_bytes (bytes : List JavaByte) : Proper 256 (bytes.map fun byte => (byte.toNat : ℤ)) := by
  intro d hd
  obtain ⟨byte, -, rfl⟩ := List.mem_map.mp hd
  have hlt := byte.isLt
  omega

theorem bytesNumber_nonneg (bytes : List JavaByte) : 0 ≤ bytesNumber bytes :=
  (proper_bytes bytes).value_nonneg (by norm_num)

theorem length_clamp (key : List JavaByte) : (clamp key).length = key.length := by
  rw [clamp, List.length_modify, List.length_modify]

theorem getD_bytes (bytes : List JavaByte) (i : Nat) :
    (bytes.map fun byte => (byte.toNat : ℤ)).getD i 0 = (bytes.getD i 0).toNat :=
  List.getD_map bytes 0 fun byte => (byte.toNat : ℤ)

theorem keyBit_eq {key : List JavaByte} (hlength : key.length = 32) {t : Nat} (ht : t < 256) :
    ((keyBit key t).toNat : ℤ) = bytesNumber (clamp key) / 2 ^ t % 2 := by
  have hplace : (256 : ℤ) ^ (t / 8) * 2 ^ (t % 8) = 2 ^ t := by
    rw [show (256 : ℤ) = 2 ^ 8 by norm_num, ← pow_mul, ← pow_add, Nat.div_add_mod]
  have hwindow := value_window (by norm_num) (proper_bytes (clamp key))
    (by rw [List.length_map, length_clamp]; omega : t / 8 < _) (2 ^ (t % 8))
  rw [hplace, getD_bytes] at hwindow
  have hbit : ((keyBit key t).toNat : ℤ) = ((clamp key).getD (t / 8) 0).toNat / 2 ^ (t % 8) % 2 := by
    rw [keyBit, BitVec.getLsbD, Nat.toNat_testBit]
    push_cast
    rfl
  rw [hbit, bytesNumber, hwindow]
  have hsmall : t % 8 < 8 := Nat.mod_lt t (by norm_num)
  have hradix : (256 : ℤ) = 2 ^ (t % 8) * (2 * 2 ^ (7 - t % 8)) := by
    rw [← pow_succ', ← pow_add, show t % 8 + (7 - t % 8 + 1) = 8 by omega]
    norm_num
  rw [hradix, mul_assoc, Int.add_mul_ediv_left _ _ (by positivity), mul_assoc, Int.add_mul_emod_self_left]

theorem foldl_bits {key : List JavaByte} (hlength : key.length = 32) {n : Nat} (hn : n ≤ 256) (m : Nat) :
    (((bitsBelow key n).foldl (fun m bit => 2 * m + bit.toNat) m : Nat) : ℤ) =
      m * 2 ^ n + bytesNumber (clamp key) % 2 ^ n := by
  induction n generalizing m with
  | zero => simp [bitsBelow]
  | succ n ih =>
      have hlow := Int.emod_add_mul_ediv (bytesNumber (clamp key)) (2 ^ n)
      have hhigh := Int.emod_add_mul_ediv (bytesNumber (clamp key)) (2 ^ (n + 1))
      have hdigit := Int.emod_add_mul_ediv (bytesNumber (clamp key) / 2 ^ n) 2
      rw [Int.ediv_ediv_of_nonneg (by positivity), ← pow_succ] at hdigit
      have hbit := keyBit_eq hlength (by omega : n < 256)
      rw [foldl_bitsBelow, ih (by omega)]
      push_cast
      linear_combination hlow + 2 ^ n * hbit + 2 ^ n * hdigit - hhigh

theorem clamp_top_lt : ∀ byte : JavaByte, (byte &&& 0x7F ||| 0x40).toNat < 128 := by decide

/-- **The bits that the loop reads are those of the scalar.** -/
theorem ofBits_bitsBelow {key : List JavaByte} (hlength : key.length = 32) : ofBits (bitsBelow key 255) = scalar key := by
  have hnonneg := bytesNumber_nonneg (clamp key)
  have hlt : bytesNumber (clamp key) / (256 ^ 31 * 128) = 0 := by
    rw [bytesNumber, value_window (by norm_num) (proper_bytes (clamp key))
      (by rw [List.length_map, length_clamp]; omega : 31 < _), getD_bytes, clamp_top hlength, List.drop_eq_nil_of_le
      (by rw [List.length_map, length_clamp, hlength]), value_nil, mul_zero, add_zero]
    have hbyte := clamp_top_lt (key.getD 31 0)
    exact Int.ediv_eq_zero_of_lt (by positivity) (by exact_mod_cast hbyte)
  have hfold := foldl_bits hlength (by omega : 255 ≤ 256) 0
  rw [Nat.cast_zero, zero_mul, zero_add] at hfold
  have hmod : bytesNumber (clamp key) % 2 ^ 255 = bytesNumber (clamp key) := by omega
  rw [hmod] at hfold
  have hcast : (ofBits (bitsBelow key 255) : ℤ) = (scalar key : ℤ) := by
    rw [scalar, Int.toNat_of_nonneg hnonneg]
    exact hfold
  exact_mod_cast hcast

/-! ### The base point -/

/-- The second coordinate of the base point. -/
def baseY : ZMod p := 14781619447589544791020593568409986887264606134616475288964881837755586237401

theorem cast_ne_zero {n : Nat} (hpos : 0 < n) (hlt : n < p) : (n : ZMod p) ≠ 0 := by
  intro hzero
  have hdvd := (ZMod.natCast_eq_zero_iff n p).mp hzero
  have hle := Nat.le_of_dvd hpos hdvd
  omega

theorem two_ne_zero_mod : (2 : ZMod p) ≠ 0 := cast_ne_zero (n := 2) (by norm_num) (by norm_num [p])

theorem baseY_sq : baseY ^ 2 = 39420360 := by
  have hcast : ((14781619447589544791020593568409986887264606134616475288964881837755586237401 ^ 2 : Nat) : ZMod p) =
      ((39420360 : Nat) : ZMod p) := by
    rw [ZMod.natCast_eq_natCast_iff']
    norm_num [p]
  rw [baseY]
  exact_mod_cast hcast

theorem nonsingular_base : (curve (486662 : ZMod p)).Nonsingular 9 baseY := by
  rw [WeierstrassCurve.Affine.nonsingular_iff, WeierstrassCurve.Affine.equation_iff]
  simp only [curve, zero_mul, add_zero, sub_zero]
  refine ⟨by rw [baseY_sq]; norm_num, Or.inr ?_⟩
  intro hself
  have hzero : 2 ^ 2 * baseY ^ 2 = 0 := by linear_combination (2 * baseY) * hself
  rw [baseY_sq] at hzero
  have hnumber : ((157681440 : Nat) : ZMod p) = 0 := by
    rw [← hzero]
    norm_num
  exact cast_ne_zero (by norm_num) (by norm_num [p]) hnumber

def basePoint : (curve (486662 : ZMod p)).Point := .some 9 baseY nonsingular_base

/-- **Public keys.** The bytes of a public key are those of the first coordinate of the multiple of the base point, by
the number of the clamped private key. -/
theorem publicKey_of_privateKey (privateKey : Key) :
    bytesNumber privateKey.generatePublicKey.bytes = (affineX (scalar privateKey.bytes • basePoint)).val := by
  have hnine : Holds (unpack none) (9 : ZMod p) := (holds_small (by decide) (by decide)).of_eq (Int.cast_ofNat 9)
  have hladder : Represents (ofBits (bitsBelow privateKey.bytes 255) • basePoint)
      (ladder 121665 9 (bitsBelow privateKey.bytes 255)).1 :=
    represents_ladder two_ne_zero_mod (by norm_num) (cast_ne_zero (n := 9) (by norm_num) (by norm_num [p])) _
  rw [ofBits_bitsBelow privateKey.length_bytes] at hladder
  have heval := bytesNumber_eval hnine privateKey.length_bytes
  rw [pow_p_sub_two, ← div_eq_mul_inv] at heval
  rw [affineX_eq_div hladder]
  exact heval

end Awg.Curve25519
