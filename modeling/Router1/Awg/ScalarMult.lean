import Router1.Awg.Residues
import Router1.Montgomery.Points

/-!
# The evaluation of the curve

`evalCurve` is the Montgomery ladder over the bits of the clamped private key, and `eval` writes the bytes of the first
coordinate of the multiple.
-/

namespace Awg.Curve25519

open Digits Java Montgomery

/-! ### Rounds -/

/-- The arrays hold the pair of the ladder, swapped if a swap is pending. -/
structure Runs (state : Ladder) (s : XZ (ZMod p) × XZ (ZMod p)) (pending : Bool) : Prop where
  swap_eq : state.swap = bit pending
  x_2 : Holds state.x_2 (stored pending s).1.x
  z_2 : Holds state.z_2 (stored pending s).1.z
  x_3 : Holds state.x_3 (stored pending s).2.x
  z_3 : Holds state.z_3 (stored pending s).2.z

variable {state : Ladder} {s : XZ (ZMod p) × XZ (ZMod p)} {pending : Bool}

theorem cswaps_eq (h : Runs state s pending) (b : Bool) : state.cswaps (bit b) =
    if b then { state with x_2 := state.x_3, x_3 := state.x_2, z_2 := state.z_3, z_3 := state.z_2 } else state := by
  have hx : state.x_2.length = state.x_3.length := by rw [h.x_2.length_eq, h.x_3.length_eq]
  have hz : state.z_2.length = state.z_3.length := by rw [h.z_2.length_eq, h.z_3.length_eq]
  rw [Ladder.cswaps, cswap_bit b hx, cswap_bit b hz]
  cases b <;> rfl

theorem cswaps_holds (h : Runs state s pending) (b : Bool) :
    Holds (state.cswaps (bit b)).x_2 (stored b (stored pending s)).1.x ∧
      Holds (state.cswaps (bit b)).z_2 (stored b (stored pending s)).1.z ∧
      Holds (state.cswaps (bit b)).x_3 (stored b (stored pending s)).2.x ∧
      Holds (state.cswaps (bit b)).z_3 (stored b (stored pending s)).2.z := by
  rw [cswaps_eq h b]
  cases b with
  | false => exact ⟨h.x_2, h.z_2, h.x_3, h.z_3⟩
  | true => exact ⟨h.x_3, h.z_3, h.x_2, h.z_2⟩

/-- **One round is one step of the ladder.** -/
theorem runs_round {x_1 : List JavaInt} {u : ZMod p} (hx_1 : Holds x_1 u) (h : Runs state s pending) (select : Bool) :
    Runs (state.round x_1 (bit select)) (step 121665 u s select) select := by
  obtain ⟨hx_2, hz_2, hx_3, hz_3⟩ := cswaps_holds h (pending ^^ select)
  rw [stored_xor] at hx_2 hz_2 hx_3 hz_3
  have hstep := stored_step 121665 u s select
  rw [Prod.ext_iff] at hstep
  have ha := holds_add hx_2 hz_2
  have haa := holds_square ha
  have hb := holds_sub hx_2 hz_2
  have hbb := holds_square hb
  have he := holds_sub haa hbb
  have hc := holds_add hx_3 hz_3
  have hd := holds_sub hx_3 hz_3
  have hda := holds_mul hd ha
  have hcb := holds_mul hc hb
  rw [Ladder.round, h.swap_eq, bit_xor]
  refine { swap_eq := rfl, x_2 := ?_, z_2 := ?_, x_3 := ?_, z_3 := ?_ }
  · rw [← hstep.1]
    exact holds_mul haa hbb
  · rw [← hstep.1]
    exact holds_mul (holds_add (holds_mulA24 he) haa) he
  · rw [← hstep.2]
    exact holds_square (holds_add hda hcb)
  · rw [← hstep.2]
    exact holds_mul (holds_square (holds_sub hda hcb)) hx_1

/-! ### The bits of the private key -/

/-- The private key with the bits that the evaluation sets and clears. -/
def clamp (key : List JavaByte) : List JavaByte :=
  (key.modify 0 (· &&& 0xF8)).modify 31 fun byte => byte &&& 0x7F ||| 0x40

/-- The number that the bytes are the digits of, the lowest one first. -/
def bytesNumber (bytes : List JavaByte) : ℤ := value 256 (bytes.map fun byte => (byte.toNat : ℤ))

/-- The bit `t` of the clamped private key. -/
def keyBit (key : List JavaByte) (t : Nat) : Bool := ((clamp key).getD (t / 8) 0).getLsbD (t % 8)

/-- The bits below `n`, the highest one first. -/
def bitsBelow (key : List JavaByte) : Nat → List Bool
  | 0 => []
  | n + 1 => keyBit key n :: bitsBelow key n

theorem and_one_eq_bit (x : JavaInt) : x &&& 0x01 = bit (x.getLsbD 0) := by
  apply BitVec.eq_of_toNat_eq
  have hand : (x &&& 0x01).toNat = x.toNat % 2 := by
    rw [BitVec.toNat_and]
    exact Nat.and_two_pow_sub_one_eq_mod x.toNat 1
  rw [hand, BitVec.getLsbD, Nat.testBit_zero]
  obtain heven | hodd := Nat.mod_two_eq_zero_or_one x.toNat
  · rw [heven]
    rfl
  · rw [hodd]
    rfl

theorem select_eq_bit {svalue : JavaInt} {j : Nat} (hj : j < 32) :
    svalue.sshiftRight j &&& 0x01 = bit (svalue.getLsbD j) := by
  rw [and_one_eq_bit, BitVec.getLsbD_sshiftRight]
  simp [hj]

theorem getD_modify_self {α : Type} {l : List α} {i : Nat} (hi : i < l.length) (f : α → α) (d : α) :
    (l.modify i f).getD i d = f (l.getD i d) := by
  rw [List.getD_eq_getElem _ _ (by rwa [List.length_modify]), List.getElem_modify_eq, List.getD_eq_getElem _ _ hi]

theorem getD_modify_of_ne {α : Type} {l : List α} {i j : Nat} (hne : i ≠ j) (f : α → α) (d : α) :
    (l.modify i f).getD j d = l.getD j d := by
  rw [List.getD_eq_getElem?_getD, List.getD_eq_getElem?_getD, List.getElem?_modify_ne _ _ hne]

theorem clamp_top {key : List JavaByte} (h : key.length = 32) :
    (clamp key).getD 31 0 = key.getD 31 0 &&& 0x7F ||| 0x40 := by
  rw [clamp, getD_modify_self (by rw [List.length_modify]; omega), getD_modify_of_ne (by omega)]

theorem clamp_bottom {key : List JavaByte} (h : key.length = 32) : (clamp key).getD 0 0 = key.getD 0 0 &&& 0xF8 := by
  rw [clamp, getD_modify_of_ne (by omega), getD_modify_self (by omega)]

theorem clamp_middle {key : List JavaByte} {i : Nat} (hlow : 0 < i) (hhigh : i < 31) :
    (clamp key).getD i 0 = key.getD i 0 := by
  rw [clamp, getD_modify_of_ne (by omega), getD_modify_of_ne (by omega)]

theorem top_bit (byte : JavaByte) {j : Nat} (hj : j ≤ 6) :
    (byte.signExtend 32 ||| 0x40 : JavaInt).getLsbD j = (byte &&& 0x7F ||| 0x40).getLsbD j := by
  interval_cases j <;> simp [BitVec.getElem_signExtend]

theorem bottom_bit (byte : JavaByte) {j : Nat} (hj : j ≤ 7) :
    (byte.signExtend 32 &&& 0xF8 : JavaInt).getLsbD j = (byte &&& 0xF8).getLsbD j := by
  interval_cases j <;> simp [BitVec.getElem_signExtend]

theorem middle_bit (byte : JavaByte) {j : Nat} (hj : j ≤ 7) :
    (byte.signExtend 32 : JavaInt).getLsbD j = byte.getLsbD j := by
  interval_cases j <;> simp [BitVec.getElem_signExtend]

theorem keyBit_byte (key : List JavaByte) {i j : Nat} (hj : j ≤ 7) :
    keyBit key (8 * i + j) = ((clamp key).getD i 0).getLsbD j := by
  rw [keyBit, show (8 * i + j) / 8 = i by omega, show (8 * i + j) % 8 = j by omega]

theorem foldl_bitsBelow {α : Type*} (f : α → Bool → α) (key : List JavaByte) (n : Nat) (a : α) :
    (bitsBelow key (n + 1)).foldl f a = (bitsBelow key n).foldl f (f a (keyBit key n)) := rfl

theorem runs_select {x_1 : List JavaInt} {u : ZMod p} (hx_1 : Holds x_1 u) {key : List JavaByte} {n j : Nat}
    {svalue : JavaInt} (hj : j ≤ 7) (hvalue : svalue.getLsbD j = keyBit key n) (h : Runs state s pending) :
    Runs (state.round x_1 (svalue.sshiftRight j &&& 0x01)) (step 121665 u s (keyBit key n)) (keyBit key n) := by
  rw [select_eq_bit (by omega), hvalue]
  exact runs_round hx_1 h _

/-- **The loop** runs the ladder over the bits from the one it starts with down. -/
theorem runs_evalLoop {x_1 : List JavaInt} {u : ZMod p} (hx_1 : Holds x_1 u) {key : List JavaByte} {sposn sbit : Nat}
    {svalue : JavaInt} (hsbit : sbit ≤ 7) (hsposn : sposn ≤ 31) (hlength : key.length = 32)
    (hvalue : ∀ j ≤ sbit, svalue.getLsbD j = keyBit key (8 * sposn + j)) (h : Runs state s pending) :
    ∃ last, Runs (evalLoop x_1 key sposn sbit svalue state)
      ((bitsBelow key (8 * sposn + sbit + 1)).foldl (step 121665 u) s) last := by
  fun_induction evalLoop x_1 key sposn sbit svalue state generalizing s pending with
  | case1 =>
      rename_i sposn sbit svalue state next hpos ih
      have hround := runs_select hx_1 hsbit (hvalue sbit le_rfl) h
      obtain ⟨last, hlast⟩ := ih (by omega) hsposn (fun j hj => hvalue j (by omega)) hround
      rw [show 8 * sposn + (sbit - 1) + 1 = 8 * sposn + sbit by omega] at hlast
      refine ⟨last, ?_⟩
      rw [foldl_bitsBelow]
      exact hlast
  | case2 =>
      rename_i sbit svalue state next hneg
      have hround := runs_select hx_1 hsbit (hvalue sbit le_rfl) h
      have hplace : 8 * 0 + sbit = 0 := by omega
      refine ⟨keyBit key (8 * 0 + sbit), ?_⟩
      rw [foldl_bitsBelow]
      rw [hplace] at hround ⊢
      exact hround
  | case3 =>
      rename_i sbit svalue state next hneg hpos ih
      have hround := runs_select hx_1 hsbit (hvalue sbit le_rfl) h
      have hzero : sbit = 0 := by omega
      have hbits : ∀ j ≤ 7, ((key.getD (1 - 1) 0).signExtend 32 &&& 0xF8 : JavaInt).getLsbD j =
          keyBit key (8 * (1 - 1) + j) := by
        intro j hj
        rw [keyBit_byte key hj, clamp_bottom hlength, bottom_bit _ hj]
      obtain ⟨last, hlast⟩ := ih (by omega) (by omega) hbits hround
      refine ⟨last, ?_⟩
      rw [foldl_bitsBelow, show 8 * 1 + sbit = 8 * (1 - 1) + 7 + 1 by omega]
      rw [show 8 * 1 + sbit = 8 * (1 - 1) + 7 + 1 by omega] at hlast
      exact hlast
  | case4 =>
      rename_i sposn sbit svalue state next hneg hpos hone ih
      have hround := runs_select hx_1 hsbit (hvalue sbit le_rfl) h
      have hbits : ∀ j ≤ 7, ((key.getD (sposn - 1) 0).signExtend 32 : JavaInt).getLsbD j =
          keyBit key (8 * (sposn - 1) + j) := by
        intro j hj
        rw [keyBit_byte key hj, clamp_middle (by omega) (by omega), middle_bit _ hj]
      obtain ⟨last, hlast⟩ := ih (by omega) (by omega) hbits hround
      have hplace : 8 * sposn + sbit = 8 * (sposn - 1) + 7 + 1 := by omega
      refine ⟨last, ?_⟩
      rw [foldl_bitsBelow, hplace]
      rw [hplace] at hlast
      exact hlast

theorem stored_stored (b : Bool) (s : XZ (ZMod p) × XZ (ZMod p)) : stored b (stored b s) = s := by cases b <;> rfl

/-- **`evalCurve` is the ladder** over the 255 bits of the clamped private key. -/
theorem evalCurve_spec {x_1 : List JavaInt} {u : ZMod p} (hx_1 : Holds x_1 u) {key : List JavaByte}
    (hlength : key.length = 32) (h : Runs state ({ x := 1, z := 0 }, { x := u, z := 1 }) false) :
    Holds (evalCurve x_1 key state).x_2 (ladder 121665 u (bitsBelow key 255)).1.x ∧
      Holds (evalCurve x_1 key state).z_2 (ladder 121665 u (bitsBelow key 255)).1.z := by
  have hbits : ∀ j ≤ 6, ((key.getD 31 0).signExtend 32 ||| 0x40 : JavaInt).getLsbD j = keyBit key (8 * 31 + j) := by
    intro j hj
    rw [keyBit_byte key (by omega), clamp_top hlength, top_bit _ hj]
  obtain ⟨last, hlast⟩ := runs_evalLoop hx_1 (by omega) (by omega) hlength hbits h
  obtain ⟨hx_2, hz_2, -, -⟩ := cswaps_holds hlast last
  rw [stored_stored] at hx_2 hz_2
  rw [evalCurve, hlast.swap_eq]
  exact ⟨hx_2, hz_2⟩

/-! ### Bytes -/

theorem getD_ints (x : List JavaInt) (n : Nat) : (ints x).getD n 0 = (x.getD n 0).toInt :=
  List.getD_map x 0 BitVec.toInt

theorem limb_getD {n : Nat} {x : List JavaInt} (hx : Limbs n x) (i : Nat) :
    0 ≤ (x.getD i 0).toInt ∧ (x.getD i 0).toInt < 2 ^ 26 := by
  rw [← getD_ints]
  by_cases hi : i < (ints x).length
  · rw [List.getD_eq_getElem _ _ hi]
    exact hx.proper _ (List.getElem_mem hi)
  · rw [List.getD_eq_default _ _ (by omega)]
    norm_num

theorem toNat_of_nonneg {x : JavaInt} (h : 0 ≤ x.toInt) : (x.toNat : ℤ) = x.toInt := by
  have hcond := BitVec.toInt_eq_toNat_cond x
  have hlt := x.isLt
  split at hcond <;> omega

theorem toNat_toByte (x : JavaInt) : ((x.setWidth 8 : JavaByte).toNat : ℤ) = x.toInt % 256 := by
  have hsmall : 8 ≤ 32 := by omega
  have hmod := toNat_emod hsmall x
  rw [BitVec.toNat_setWidth]
  push_cast
  exact hmod

theorem toNat_join {x y : JavaInt} {k : Nat} (hx : 0 ≤ x.toInt ∧ x.toInt < 2 ^ k) (hy : 0 ≤ y.toInt) :
    (((x ||| y <<< k).setWidth 8 : JavaByte).toNat : ℤ) = (x.toInt + 2 ^ k * y.toInt) % 256 := by
  have hxNat := toNat_of_nonneg hx.1
  have hyNat := toNat_of_nonneg hy
  have hlt : x.toNat < 2 ^ k := by
    have := hx.2
    rw [← hxNat] at this
    exact_mod_cast this
  have hor : (x.toNat ||| y.toNat <<< k % 2 ^ 32) % 2 ^ 8 = (x.toNat + 2 ^ k * y.toNat) % 2 ^ 8 := by
    rw [Nat.or_mod_two_pow, Nat.mod_mod_of_dvd _ (pow_dvd_pow 2 (by omega)), ← Nat.or_mod_two_pow, Nat.or_comm,
      ← Nat.shiftLeft_add_eq_or_of_lt hlt, Nat.shiftLeft_eq, mul_comm, add_comm]
  rw [BitVec.toNat_setWidth, BitVec.toNat_or, BitVec.toNat_shiftLeft, hor, ← hxNat, ← hyNat]
  push_cast
  rfl

theorem shift_window (d v : ℤ) {b : Nat} (hb : b ≤ 26) : (d + 2 ^ 26 * v) / 2 ^ b = d / 2 ^ b + 2 ^ (26 - b) * v := by
  have hradix : (2 : ℤ) ^ 26 = 2 ^ b * 2 ^ (26 - b) := by rw [← pow_add, Nat.add_sub_cancel' hb]
  rw [hradix, mul_assoc, Int.add_mul_ediv_left _ _ (by positivity)]

theorem toNat_packByte {x : List JavaInt} (hx : Limbs 10 x) {i : Nat} (hi : i < 32) :
    ((packByte x i).toNat : ℤ) = number x / 256 ^ i % 256 := by
  have hlength : (ints x).length = 10 := by rw [length_ints, hx.length_eq]
  have hword : i * 8 / 26 < (ints x).length := by omega
  have hwindow := value_window (by norm_num) hx.proper hword (2 ^ (i * 8 % 26))
  have hplace : ((2 : ℤ) ^ 26) ^ (i * 8 / 26) * 2 ^ (i * 8 % 26) = 256 ^ i := by
    rw [← pow_mul, ← pow_add, show 26 * (i * 8 / 26) + i * 8 % 26 = 8 * i by omega, pow_mul]
    norm_num
  have hlimb := limb_getD hx (i * 8 / 26)
  rw [hplace, getD_ints, shift_window _ _ (by omega)] at hwindow
  by_cases hbit : i * 8 % 26 ≤ 26 - 8
  · have hbyte : (2 : ℤ) ^ (26 - i * 8 % 26) = 256 * 2 ^ (18 - i * 8 % 26) := by
      rw [show (256 : ℤ) = 2 ^ 8 by norm_num, ← pow_add, show 8 + (18 - i * 8 % 26) = 26 - i * 8 % 26 by omega]
    rw [packByte, if_pos hbit, toNat_toByte, toInt_sshiftRight, number, hwindow, hbyte, mul_assoc,
      Int.add_mul_emod_self_left]
  · have hnext : i * 8 / 26 + 1 < (ints x).length := by omega
    have hdrop : value (2 ^ 26) ((ints x).drop (i * 8 / 26 + 1)) =
        (x.getD (i * 8 / 26 + 1) 0).toInt + 2 ^ 26 * value (2 ^ 26) ((ints x).drop (i * 8 / 26 + 1 + 1)) := by
      rw [List.drop_eq_getElem_cons hnext, value_cons, ← getD_ints, List.getD_eq_getElem _ _ hnext]
    have hshift : 0 ≤ ((x.getD (i * 8 / 26) 0).sshiftRight (i * 8 % 26)).toInt ∧
        ((x.getD (i * 8 / 26) 0).sshiftRight (i * 8 % 26)).toInt < 2 ^ (26 - i * 8 % 26) := by
      have hradix : (2 : ℤ) ^ (26 - i * 8 % 26) * 2 ^ (i * 8 % 26) = 2 ^ 26 := by
        rw [← pow_add, Nat.sub_add_cancel (by omega)]
      rw [toInt_sshiftRight]
      exact ⟨Int.ediv_nonneg hlimb.1 (by positivity), Int.ediv_lt_of_lt_mul (by positivity) (hradix ▸ hlimb.2)⟩
    have h256 : (2 : ℤ) ^ (26 - i * 8 % 26) * (2 ^ 26 * value (2 ^ 26) ((ints x).drop (i * 8 / 26 + 1 + 1))) =
        256 * (2 ^ (26 - i * 8 % 26) * (2 ^ 18 * value (2 ^ 26) ((ints x).drop (i * 8 / 26 + 1 + 1)))) := by ring
    rw [packByte, if_neg hbit, toNat_join hshift (limb_getD hx _).1, toInt_sshiftRight, number, hwindow, hdrop, mul_add,
      ← add_assoc, h256, Int.add_mul_emod_self_left]

instance : NeZero p := ⟨by norm_num [p]⟩

/-- **The bytes of the result** are the digits of the number. -/
theorem bytesNumber_pack {x : List JavaInt} {a : ZMod p} (hx : Holds x a) :
    bytesNumber ((List.range 32).map (packByte x)) = a.val := by
  have hmap : ((List.range 32).map (packByte x)).map (fun byte => (byte.toNat : ℤ)) =
      (List.range 32).map fun i => number x / 256 ^ i % 256 := by
    rw [List.map_map]
    apply List.map_congr_left
    intro i hi
    exact toNat_packByte hx.toLimbs (List.mem_range.mp hi)
  have hnonneg := number_nonneg hx.toLimbs
  have hlt := hx.number_lt
  rw [p_eq] at hlt
  have hval : (a.val : ℤ) = number x := by
    rw [← hx.number_eq, ZMod.val_intCast, Int.emod_eq_of_lt hnonneg hx.number_lt]
  rw [bytesNumber, hmap, value_range (by norm_num), hval]
  exact Int.emod_eq_of_lt hnonneg (by omega)

/-! ### The evaluation -/

theorem holds_small {c : JavaInt} (hlow : 0 ≤ c.toInt) (hhigh : c.toInt < 2 ^ 26) :
    Holds (small c) (c.toInt : ZMod p) := by
  have hints : ints (small c) = c.toInt :: List.replicate 9 0 := rfl
  have hnumber : number (small c) = c.toInt := by
    rw [number, hints]
    simp [List.replicate]
  refine { length_eq := rfl, proper := ?_, number_lt := ?_, number_eq := by rw [hnumber] }
  · rw [hints, Proper, List.forall_mem_cons]
    refine ⟨⟨hlow, hhigh⟩, fun d hd => ?_⟩
    rw [List.eq_of_mem_replicate hd]
    norm_num
  · rw [hnumber, p_eq]
    omega

/-- **The evaluation** from the limbs of a first coordinate: the fraction of the ladder, with the power of the
denominator that is its reciprocal. -/
theorem bytesNumber_eval {publicKey : Option (List JavaByte)} {u : ZMod p} (hu : Holds (unpack publicKey) u)
    {key : List JavaByte} (hlength : key.length = 32) :
    bytesNumber (eval key publicKey) =
      ((ladder 121665 u (bitsBelow key 255)).1.x * (ladder 121665 u (bitsBelow key 255)).1.z ^ (p - 2)).val := by
  have hone : Holds (small 1) (1 : ZMod p) := (holds_small (by decide) (by decide)).of_eq Int.cast_one
  have hzero : Holds (small 0) (0 : ZMod p) := (holds_small (by decide) (by decide)).of_eq Int.cast_zero
  have hstart : Runs { x_2 := small 1, z_2 := small 0, x_3 := unpack publicKey, z_3 := small 1, swap := 0 }
      ({ x := 1, z := 0 }, { x := u, z := 1 }) false :=
    { swap_eq := rfl, x_2 := hone, z_2 := hzero, x_3 := hu, z_3 := hone }
  obtain ⟨hx, hz⟩ := evalCurve_spec hu hlength hstart
  exact bytesNumber_pack (holds_mul hx (holds_recip hz))

end Awg.Curve25519
