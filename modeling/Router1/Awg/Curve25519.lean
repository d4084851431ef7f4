import Router1.Awg.Key

/-!
# The curve of the keys

`Curve25519` of the tunnel library, which makes the public key of a private one. A number modulo `2^255 - 19` is an
array of ten limbs of 26 bits. The temporaries of the source are written before they are read in every operation, so
the model hands the limbs of each operation to the next one. A result array that is also an operand is written only
at places that have been read.
-/

namespace Awg

/-- A `long`. -/
abbrev JavaLong := BitVec 64

namespace Curve25519

/-- The loop `carry += x[index]; … = carry & 0x03FFFFFF; carry >>= 26`. -/
def propagate (carry : JavaInt) : List JavaInt → List JavaInt
  | [] => []
  | x :: xs =>
      let carry := carry + x
      (carry &&& 0x03FFFFFF) :: propagate (carry.sshiftRight 26) xs

/-- `cswap`, with the first array of the result. -/
def cswap (select : JavaInt) (x y : List JavaInt) : List JavaInt × List JavaInt :=
  let select := -select
  (List.zipWith (fun x y => x ^^^ (select &&& (x ^^^ y))) x y,
    List.zipWith (fun x y => y ^^^ (select &&& (x ^^^ y))) x y)

/-- `x[9] &= 0x001FFFFF`. -/
def maskTop (x : List JavaInt) : List JavaInt := x.modify 9 (· &&& 0x001FFFFF)

def reduceQuick (x : List JavaInt) : List JavaInt :=
  let t2 := propagate 19 x
  let mask := -(((t2.getD 9 0).sshiftRight 21) &&& 0x01)
  let nmask := ~~~mask
  List.zipWith (fun x t2 => (x &&& nmask) ||| (t2 &&& mask)) x (maskTop t2)

/-- The first loop of `sub`, with the last `borrow`. -/
def subLoop (borrow : JavaInt) : List JavaInt → List JavaInt → List JavaInt × JavaInt
  | x :: xs, y :: ys =>
      let borrow := x - y - ((borrow.sshiftRight 26) &&& 0x01)
      let rest := subLoop borrow xs ys
      ((borrow &&& 0x03FFFFFF) :: rest.1, rest.2)
  | _, _ => ([], borrow)

/-- The second loop of `sub`. -/
def borrowLoop (borrow : JavaInt) : List JavaInt → List JavaInt
  | [] => []
  | x :: xs =>
      let borrow := x - ((borrow.sshiftRight 26) &&& 0x01)
      (borrow &&& 0x03FFFFFF) :: borrowLoop borrow xs

/-- What follows the first loop of `sub`. -/
def subFold (borrow : JavaInt) : List JavaInt → List JavaInt
  | [] => []
  | x :: xs =>
      let borrow := x - (-((borrow.sshiftRight 26) &&& 0x01) &&& 19)
      maskTop ((borrow &&& 0x03FFFFFF) :: borrowLoop borrow xs)

def sub (x y : List JavaInt) : List JavaInt :=
  let difference := subLoop 0 x y
  subFold difference.2 difference.1

/-- The loop of `add`. -/
def addLoop (carry : JavaInt) : List JavaInt → List JavaInt → List JavaInt
  | x :: xs, y :: ys =>
      let carry := carry.sshiftRight 26 + x + y
      (carry &&& 0x03FFFFFF) :: addLoop carry xs ys
  | _, _ => []

def add : List JavaInt → List JavaInt → List JavaInt
  | x :: xs, y :: ys =>
      let carry := x + y
      reduceQuick ((carry &&& 0x03FFFFFF) :: addLoop carry xs ys)
  | _, _ => []

/-- The loop of `reduce` over the `size` limbs of the high order half, with the carry after it. -/
def foldLoop (limb carry : JavaInt) : List JavaInt → List JavaInt → List JavaInt × JavaInt
  | x :: low, high :: highs =>
      let limb := limb + (high <<< 5)
      let carry := carry + ((limb &&& 0x03FFFFFF) * 19 + x)
      let rest := foldLoop (limb.sshiftRight 26) (carry.sshiftRight 26) low highs
      ((carry &&& 0x03FFFFFF) :: rest.1, rest.2)
  | _, _ => ([], carry)

/-- `reduce`: the array has ten limbs in its low order half and `size` limbs above them. -/
def reduce (x : List JavaInt) (size : Nat) : List JavaInt :=
  let limb := (x.getD 9 0).sshiftRight 21
  let low := maskTop (x.take 10)
  let folded := foldLoop limb 0 low ((x.drop 10).take size)
  let x := folded.1 ++ propagate folded.2 (low.drop size)
  let carry := ((x.getD 9 0).sshiftRight 21) * 19
  reduceQuick (propagate carry (maskTop x))

/-- The row of `mul` for the limb `v`: `t1[i + j] += v * y[j]` for all limbs of `y` but the last one, and
`t1[i + 9] = v * y[9]`, a column that no row before has. -/
def mulRow (v : JavaLong) : List JavaLong → List JavaInt → List JavaLong
  | t :: t1, y :: ys => (t + v * y.signExtend 64) :: mulRow v t1 ys
  | _, ys => ys.map fun y => v * y.signExtend 64

/-- The rows of `mul` after the first one, for the limbs from `x[i]` on. -/
def mulRows (y : List JavaInt) (i : Nat) (t1 : List JavaLong) : List JavaInt → List JavaLong
  | [] => t1
  | x :: xs => mulRows y (i + 1) (t1.take i ++ mulRow (x.signExtend 64) (t1.drop i) y) xs

/-- The columns `t1[0] … t1[18]` of `mul`. -/
def mulColumns : List JavaInt → List JavaInt → List JavaLong
  | [], _ => []
  | x :: xs, y => mulRows y 1 (y.map fun y => x.signExtend 64 * y.signExtend 64) xs

/-- The loop of `mul` that propagates the carries. -/
def mulLoop (v : JavaLong) : List JavaLong → List JavaInt
  | [] => []
  | t :: t1 =>
      let v := v.sshiftRight 26 + t
      (v.setWidth 32 &&& 0x03FFFFFF) :: mulLoop v t1

/-- `mul`. No row writes the last one of the 20 columns, which is 0 from the allocation on. -/
def mul (x y : List JavaInt) : List JavaInt :=
  match mulColumns x y ++ [0] with
  | [] => []
  | v :: t1 => reduce ((v.setWidth 32 &&& 0x03FFFFFF) :: mulLoop v t1) 10

def square (x : List JavaInt) : List JavaInt := mul x x

/-- The loop of `mulA24` and the limb after it. -/
def mulA24Loop (carry : JavaLong) : List JavaInt → List JavaInt
  | [] => [carry.setWidth 32 &&& 0x03FFFFFF]
  | x :: xs =>
      let carry := carry + 121665 * x.signExtend 64
      (carry.setWidth 32 &&& 0x03FFFFFF) :: mulA24Loop (carry.sshiftRight 26) xs

def mulA24 (x : List JavaInt) : List JavaInt := reduce (mulA24Loop 0 x) 1

/-- `square(A, A)`, as often as the loop does it. -/
def squareTimes : Nat → List JavaInt → List JavaInt
  | 0, x => x
  | n + 1, x => squareTimes n (square x)

/-- The loop of `pow250` that builds the pattern: `result` and `A`. -/
def patternLoop : Nat → List JavaInt × List JavaInt → List JavaInt × List JavaInt
  | 0, s => s
  | n + 1, (result, a) =>
      let a := squareTimes 10 a
      patternLoop n (mul result a, a)

/-- The loop of `pow250` that fills the gaps. -/
def fillLoop : Nat → List JavaInt × List JavaInt → List JavaInt × List JavaInt
  | 0, s => s
  | n + 1, (result, a) =>
      let a := square a
      fillLoop n (mul result a, a)

def pow250 (x : List JavaInt) : List JavaInt :=
  let a := squareTimes 9 (square x)
  let result := (patternLoop 23 (mul a x, a)).1
  let a := square result
  (fillLoop 8 (mul result a, a)).1

def recip (x : List JavaInt) : List JavaInt :=
  let result := pow250 x
  let result := mul (square (square result)) x
  let result := mul (square (square result)) x
  mul (square result) x

/-- The variables of the loop of `evalCurve`. -/
structure Ladder where
  x_2 : List JavaInt
  z_2 : List JavaInt
  x_3 : List JavaInt
  z_3 : List JavaInt
  swap : JavaInt

namespace Ladder

/-- The two conditional swaps. -/
def cswaps (state : Ladder) (swap : JavaInt) : Ladder :=
  let x := cswap swap state.x_2 state.x_3
  let z := cswap swap state.z_2 state.z_3
  { state with x_2 := x.1, x_3 := x.2, z_2 := z.1, z_3 := z.2 }

/-- One round of the loop, for the bit `select`. -/
def round (x_1 : List JavaInt) (state : Ladder) (select : JavaInt) : Ladder :=
  let state := state.cswaps (state.swap ^^^ select)
  let a := add state.x_2 state.z_2
  let aa := square a
  let b := sub state.x_2 state.z_2
  let bb := square b
  let e := sub aa bb
  let c := add state.x_3 state.z_3
  let d := sub state.x_3 state.z_3
  let da := mul d a
  let cb := mul c b
  { x_2 := mul aa bb
    z_2 := mul (add (mulA24 e) aa) e
    x_3 := square (add da cb)
    z_3 := mul (square (sub da cb)) x_1
    swap := select }

end Ladder

/-- The loop of `evalCurve`, from the bit `sbit` of `svalue` on; `svalue` is the byte `s[sposn]`. -/
def evalLoop (x_1 : List JavaInt) (s : List JavaByte) (sposn sbit : Nat) (svalue : JavaInt) (state : Ladder) : Ladder :=
  let state := state.round x_1 ((svalue.sshiftRight sbit) &&& 0x01)
  if 0 < sbit then
    evalLoop x_1 s sposn (sbit - 1) svalue state
  else if sposn = 0 then
    state
  else if sposn = 1 then
    evalLoop x_1 s (sposn - 1) 7 ((s.getD (sposn - 1) 0).signExtend 32 &&& 0xF8) state
  else
    evalLoop x_1 s (sposn - 1) 7 ((s.getD (sposn - 1) 0).signExtend 32) state
termination_by (sposn, sbit)

def evalCurve (x_1 : List JavaInt) (s : List JavaByte) (state : Ladder) : Ladder :=
  let state := evalLoop x_1 s 31 6 ((s.getD 31 0).signExtend 32 ||| 0x40) state
  state.cswaps state.swap

/-- The number 1 or 0 in the first limb. -/
def small (x : JavaInt) : List JavaInt := x :: List.replicate 9 0

/-- One round of the loop that unpacks the public key. -/
def unpackByte (x_1 : List JavaInt) (index : Nat) (byte : JavaByte) : List JavaInt :=
  let bit := index * 8 % 26
  let word := index * 8 / 26
  let value := byte.setWidth 32
  if bit ≤ 26 - 8 then
    x_1.modify word (· ||| (value <<< bit))
  else
    ((x_1.modify word (· ||| (value <<< bit))).modify word (· &&& 0x03FFFFFF)).modify (word + 1)
      (· ||| (value.sshiftRight (26 - bit)))

/-- The loop that unpacks the public key, from the byte `index` on. -/
def unpackLoop (x_1 : List JavaInt) (index : Nat) : List JavaByte → List JavaInt
  | [] => x_1
  | byte :: bytes => unpackLoop (unpackByte x_1 index byte) (index + 1) bytes

/-- The first number of the evaluation: the public key, or the base point. -/
def unpack : Option (List JavaByte) → List JavaInt
  | some publicKey => reduceQuick (reduceQuick (unpackLoop (small 0) 0 publicKey))
  | none => small 9

def packByte (x : List JavaInt) (index : Nat) : JavaByte :=
  let bit := index * 8 % 26
  let word := index * 8 / 26
  if bit ≤ 26 - 8 then
    ((x.getD word 0).sshiftRight bit).setWidth 8
  else
    (((x.getD word 0).sshiftRight bit) ||| ((x.getD (word + 1) 0) <<< (26 - bit))).setWidth 8

/-- `eval`, with the 32 bytes that it writes. -/
def eval (privateKey : List JavaByte) (publicKey : Option (List JavaByte)) : List JavaByte :=
  let x_1 := unpack publicKey
  let state := evalCurve x_1 privateKey { x_2 := small 1, z_2 := small 0, x_3 := x_1, z_3 := small 1, swap := 0 }
  let x_2 := mul state.x_2 (recip state.z_2)
  (List.range 32).map (packByte x_2)

end Curve25519

def Key.generatePublicKey (privateKey : Key) : Key :=
  { bytes := Curve25519.eval privateKey.bytes none
    length_bytes := by rw [Curve25519.eval, List.length_map, List.length_range] }

end Awg
