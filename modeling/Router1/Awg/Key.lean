import Mathlib.Tactic.IntervalCases
import Router1.Dart.Value

/-!
# Keys as text

`Key` of the tunnel library: 32 bytes, written in base 64 or in base 16. The source decodes and encodes
without branches and without tables, by sums of masked differences of an `int`, so the model computes with
32 bits and every step is the one of the source. A text is its code units, since the masks see all 16 bits of
a `char`: a difference is shifted right by 8, which makes a mask of it only if the unit is below 256.
-/

namespace Awg

open Dart

/-- An `int`. -/
abbrev JavaInt := BitVec 32

/-- A `byte`. -/
abbrev JavaByte := BitVec 8

/-- The value of a character of the source in an expression. -/
def code (c : Char) : JavaInt := BitVec.ofNat 32 c.toNat

/-- A `char` in an expression. -/
def widen (unit : UInt16) : JavaInt := unit.toBitVec.setWidth 32

/-- The cast to `char`. -/
def toUnit (value : JavaInt) : UInt16 := ⟨value.setWidth 16⟩

structure Key where
  bytes : List JavaByte
  length_bytes : bytes.length = 32
  deriving DecidableEq

namespace Key

inductive Format where
  | base64
  | binary
  | hex
  deriving DecidableEq, Repr

def Format.length : Format → Nat
  | base64 => 44
  | binary => 32
  | hex => 64

end Key

inductive KeyFormatException.Type where
  | contents
  | length
  deriving DecidableEq, Repr

structure KeyFormatException where
  format : Key.Format
  type : KeyFormatException.Type
  deriving DecidableEq, Repr

namespace Key

/-! ### Base 64 -/

/-- What one character contributes to `decodeBase64`: its six bits, or -1. -/
def sextet (unit : UInt16) : JavaInt :=
  let c := widen unit
  (-1)
    + ((((code 'A' - 1) - c) &&& (c - (code 'Z' + 1))) >>> 8 &&& (c - 64))
    + ((((code 'a' - 1) - c) &&& (c - (code 'z' + 1))) >>> 8 &&& (c - 70))
    + ((((code '0' - 1) - c) &&& (c - (code '9' + 1))) >>> 8 &&& (c + 5))
    + ((((code '+' - 1) - c) &&& (c - (code '+' + 1))) >>> 8 &&& 63)
    + ((((code '/' - 1) - c) &&& (c - (code '/' + 1))) >>> 8 &&& 64)

/-- `decodeBase64`, with the four characters of the chunk. -/
def decodeBase64 (c0 c1 c2 c3 : UInt16) : JavaInt :=
  sextet c0 <<< 18 ||| sextet c1 <<< 12 ||| sextet c2 <<< 6 ||| sextet c3

/-- The character that `encodeBase64` writes for one element of its `input`. -/
def symbol (input : JavaByte) : UInt16 :=
  let x : JavaInt := input.signExtend 32
  toUnit (x + code 'A'
    + ((25 - x) >>> 8 &&& 6)
    - ((51 - x) >>> 8 &&& 75)
    - ((61 - x) >>> 8 &&& 15)
    + ((62 - x) >>> 8 &&& 3))

/-- The `input` of `encodeBase64`. -/
def sextets (b0 b1 b2 : JavaByte) : JavaByte × JavaByte × JavaByte × JavaByte :=
  let s0 : JavaInt := b0.signExtend 32
  let s1 : JavaInt := b1.signExtend 32
  let s2 : JavaInt := b2.signExtend 32
  ((s0 >>> 2 &&& 63).setWidth 8,
    ((s0 <<< 4 ||| (s1 &&& 0xff) >>> 4) &&& 63).setWidth 8,
    ((s1 <<< 2 ||| (s2 &&& 0xff) >>> 6) &&& 63).setWidth 8,
    (s2 &&& 63).setWidth 8)

/-- `encodeBase64`, with the three bytes of the chunk. -/
def encodeBase64 (b0 b1 b2 : JavaByte) : UInt16 × UInt16 × UInt16 × UInt16 :=
  let (s0, s1, s2, s3) := sextets b0 b1 b2
  (symbol s0, symbol s1, symbol s2, symbol s3)

def chunkBytes (val : JavaInt) : JavaByte × JavaByte × JavaByte :=
  ((val >>> 16 &&& 0xff).setWidth 8, (val >>> 8 &&& 0xff).setWidth 8, (val &&& 0xff).setWidth 8)

/-- The loop of `fromBase64` and what follows it: the values of the chunks. The last chunk has an `A` in the
place of its last character. -/
def decodeChunks : Nat → Units → List JavaInt
  | 0, c0 :: c1 :: c2 :: _ => [decodeBase64 c0 c1 c2 (toUnit (code 'A'))]
  | n + 1, c0 :: c1 :: c2 :: c3 :: rest => decodeBase64 c0 c1 c2 c3 :: decodeChunks n rest
  | _, _ => []

/-- The bytes of the values; the last one has two. -/
def valueBytes : List JavaInt → List JavaByte
  | [] => []
  | [val] => [(chunkBytes val).1, (chunkBytes val).2.1]
  | val :: vals => (chunkBytes val).1 :: (chunkBytes val).2.1 :: (chunkBytes val).2.2 :: valueBytes vals

/-- `ret` at the end of `fromBase64`. -/
def defects : List JavaInt → JavaInt
  | [] => 0
  | [val] => val >>> 31 ||| (val &&& 0xff)
  | val :: vals => val >>> 31 ||| defects vals

/-- The loop of `toBase64` and what follows it. The last chunk has two bytes and a zero. -/
def encodeChunks : Nat → List JavaByte → Units
  | 0, b0 :: b1 :: _ =>
      let (c0, c1, c2, c3) := encodeBase64 b0 b1 0
      [c0, c1, c2, c3]
  | n + 1, b0 :: b1 :: b2 :: rest =>
      let (c0, c1, c2, c3) := encodeBase64 b0 b1 b2
      c0 :: c1 :: c2 :: c3 :: encodeChunks n rest
  | _, _ => []

def toBase64 (key : Key) : Units := (encodeChunks 10 key.bytes).set 43 (toUnit (code '='))

section Chunks

/-- Six bits in an `int`, at the place of a character of a chunk. -/
def pack (s0 s1 s2 s3 : JavaByte) : JavaInt :=
  s0.setWidth 32 <<< 18 ||| s1.setWidth 32 <<< 12 ||| s2.setWidth 32 <<< 6 ||| s3.setWidth 32

variable {c c0 c1 c2 c3 : UInt16} {s s0 s1 s2 s3 : JavaByte}

/-- What a character below 256 stands for, checked for all of them. -/
theorem sextet_table : ∀ n < 256, sextet (UInt16.ofNat n) = -1 ∨
    (sextet (UInt16.ofNat n)).toNat < 64 ∧ symbol ((sextet (UInt16.ofNat n)).setWidth 8) = UInt16.ofNat n := by
  decide +kernel

/-- The characters of a text in base 64 are visible, and no commas. -/
def IsUnit (unit : UInt16) : Prop := 43 ≤ unit.toNat ∧ unit.toNat ≤ 122 ∧ unit.toNat ≠ 44

instance : DecidablePred IsUnit := fun _ => inferInstanceAs (Decidable (_ ∧ _ ∧ _))

theorem IsUnit.small (h : IsUnit c) : c.toNat < 256 := by
  have hle := h.2.1
  omega

theorem symbol_table : ∀ n < 64, sextet (symbol (BitVec.ofNat 8 n)) = BitVec.ofNat 32 n ∧
    IsUnit (symbol (BitVec.ofNat 8 n)) := by
  decide +kernel

theorem sextet_symbol (h : s.toNat < 64) : sextet (symbol s) = s.setWidth 32 := by
  have htable := (symbol_table s.toNat h).1
  rw [BitVec.ofNat_toNat, BitVec.setWidth_eq] at htable
  rw [htable]
  apply BitVec.eq_of_toNat_eq
  simp

theorem isUnit_symbol (h : s.toNat < 64) : IsUnit (symbol s) := by
  have htable := (symbol_table s.toNat h).2
  rwa [BitVec.ofNat_toNat, BitVec.setWidth_eq] at htable

theorem sextet_cases (h : c.toNat < 256) :
    sextet c = -1 ∨ ∃ s : JavaByte, s.toNat < 64 ∧ sextet c = s.setWidth 32 ∧ symbol s = c := by
  have htable := sextet_table c.toNat h
  rw [UInt16.ofNat_toNat] at htable
  rcases htable with hbad | ⟨hsmall, hsymbol⟩
  · exact .inl hbad
  · have hwide : ((sextet c).setWidth 8).toNat = (sextet c).toNat := by
      rw [BitVec.toNat_setWidth]
      exact Nat.mod_eq_of_lt (by omega)
    refine .inr ⟨(sextet c).setWidth 8, by rw [hwide]; exact hsmall, ?_, hsymbol⟩
    apply BitVec.eq_of_toNat_eq
    rw [BitVec.toNat_setWidth, hwide]
    exact (Nat.mod_eq_of_lt (by omega)).symm

theorem getElem_of_lt (h : s.toNat < 64) : s[6] = false ∧ s[7] = false := by
  constructor
  · rw [← BitVec.getLsbD_eq_getElem (by omega), BitVec.getLsbD, Nat.testBit_lt_two_pow]
    omega
  · rw [← BitVec.getLsbD_eq_getElem (by omega), BitVec.getLsbD, Nat.testBit_lt_two_pow]
    omega

theorem toNat_sextets_lt (b0 b1 b2 : JavaByte) :
    (sextets b0 b1 b2).1.toNat < 64 ∧ (sextets b0 b1 b2).2.1.toNat < 64 ∧
      (sextets b0 b1 b2).2.2.1.toNat < 64 ∧ (sextets b0 b1 b2).2.2.2.toNat < 64 := by
  have hmask (x : JavaInt) : ((x &&& 63).setWidth 8).toNat < 64 := by
    rw [BitVec.toNat_setWidth, BitVec.toNat_and]
    exact Nat.lt_of_le_of_lt (Nat.mod_le _ _) (Nat.lt_succ_of_le Nat.and_le_right)
  exact ⟨hmask _, hmask _, hmask _, hmask _⟩

theorem chunkBytes_pack_sextets (b0 b1 b2 : JavaByte) :
    chunkBytes (pack (sextets b0 b1 b2).1 (sextets b0 b1 b2).2.1 (sextets b0 b1 b2).2.2.1
      (sextets b0 b1 b2).2.2.2) = (b0, b1, b2) := by
  simp only [sextets, chunkBytes, pack, Prod.mk.injEq]
  refine ⟨?_, ?_, ?_⟩
  · ext i hi
    interval_cases i <;> simp [BitVec.getElem_signExtend]
  · ext i hi
    interval_cases i <;> simp [BitVec.getElem_signExtend]
  · ext i hi
    interval_cases i <;> simp [BitVec.getElem_signExtend]

theorem sextets_chunkBytes_pack (h0 : s0.toNat < 64) (h1 : s1.toNat < 64) (h2 : s2.toNat < 64)
    (h3 : s3.toNat < 64) :
    sextets (chunkBytes (pack s0 s1 s2 s3)).1 (chunkBytes (pack s0 s1 s2 s3)).2.1
      (chunkBytes (pack s0 s1 s2 s3)).2.2 = (s0, s1, s2, s3) := by
  have hfree0 := getElem_of_lt h0
  have hfree1 := getElem_of_lt h1
  have hfree2 := getElem_of_lt h2
  have hfree3 := getElem_of_lt h3
  simp only [sextets, chunkBytes, pack, Prod.mk.injEq]
  refine ⟨?_, ?_, ?_, ?_⟩
  · ext i hi
    interval_cases i <;> simp [BitVec.getElem_signExtend, hfree0, hfree1]
  · ext i hi
    interval_cases i <;> simp [BitVec.getElem_signExtend, hfree1, hfree2]
  · ext i hi
    interval_cases i <;> simp [BitVec.getElem_signExtend, hfree2, hfree3]
  · ext i hi
    interval_cases i <;> simp [BitVec.getElem_signExtend, hfree3]

theorem ushiftRight_eq_zero_iff (x : JavaInt) : x >>> 31 = 0 ↔ x[31] = false := by
  constructor
  · intro h
    have hbit := congrArg (fun y : JavaInt => y[0]) h
    simpa using hbit
  · intro h
    ext i hi
    by_cases hfirst : i = 0
    · subst hfirst
      simpa using h
    · rw [BitVec.getElem_ushiftRight, BitVec.getLsbD_of_ge x (31 + i) (by omega)]
      simp

/-- Every character of an accepted chunk stands for six bits. -/
theorem pack_of_decodeBase64 (h0 : c0.toNat < 256) (h1 : c1.toNat < 256) (h2 : c2.toNat < 256)
    (h3 : c3.toNat < 256) (hgood : decodeBase64 c0 c1 c2 c3 >>> 31 = 0) :
    ∃ s0 s1 s2 s3 : JavaByte, s0.toNat < 64 ∧ s1.toNat < 64 ∧ s2.toNat < 64 ∧ s3.toNat < 64 ∧
      c0 = symbol s0 ∧ c1 = symbol s1 ∧ c2 = symbol s2 ∧ c3 = symbol s3 ∧
        decodeBase64 c0 c1 c2 c3 = pack s0 s1 s2 s3 := by
  rw [ushiftRight_eq_zero_iff, decodeBase64] at hgood
  simp only [BitVec.getElem_or, Bool.or_eq_false_iff] at hgood
  obtain ⟨⟨⟨hgood0, hgood1⟩, hgood2⟩, hgood3⟩ := hgood
  obtain hbad | ⟨s0, hs0, heq0, rfl⟩ := sextet_cases h0
  · simp [hbad] at hgood0
  obtain hbad | ⟨s1, hs1, heq1, rfl⟩ := sextet_cases h1
  · simp [hbad] at hgood1
  obtain hbad | ⟨s2, hs2, heq2, rfl⟩ := sextet_cases h2
  · simp [hbad] at hgood2
  obtain hbad | ⟨s3, hs3, heq3, rfl⟩ := sextet_cases h3
  · simp [hbad] at hgood3
  refine ⟨s0, s1, s2, s3, hs0, hs1, hs2, hs3, rfl, rfl, rfl, rfl, ?_⟩
  rw [decodeBase64, heq0, heq1, heq2, heq3, pack]

theorem decodeBase64_symbol (h0 : s0.toNat < 64) (h1 : s1.toNat < 64) (h2 : s2.toNat < 64)
    (h3 : s3.toNat < 64) :
    decodeBase64 (symbol s0) (symbol s1) (symbol s2) (symbol s3) = pack s0 s1 s2 s3 := by
  rw [decodeBase64, sextet_symbol h0, sextet_symbol h1, sextet_symbol h2, sextet_symbol h3, pack]

theorem pack_nonneg (s0 s1 s2 s3 : JavaByte) : pack s0 s1 s2 s3 >>> 31 = 0 := by
  rw [ushiftRight_eq_zero_iff, pack]
  simp

/-- **One chunk.** Four characters are decoded to three bytes exactly if the bytes are encoded by them. -/
theorem decodeBase64_iff (b0 b1 b2 : JavaByte) (h0 : c0.toNat < 256) (h1 : c1.toNat < 256) (h2 : c2.toNat < 256)
    (h3 : c3.toNat < 256) :
    decodeBase64 c0 c1 c2 c3 >>> 31 = 0 ∧ chunkBytes (decodeBase64 c0 c1 c2 c3) = (b0, b1, b2) ↔
      encodeBase64 b0 b1 b2 = (c0, c1, c2, c3) := by
  constructor
  · rintro ⟨hgood, hbytes⟩
    obtain ⟨s0, s1, s2, s3, hs0, hs1, hs2, hs3, rfl, rfl, rfl, rfl, hval⟩ :=
      pack_of_decodeBase64 h0 h1 h2 h3 hgood
    have hsextets := sextets_chunkBytes_pack hs0 hs1 hs2 hs3
    rw [← hval, hbytes] at hsextets
    rw [encodeBase64, hsextets]
  · intro henc
    obtain ⟨hs0, hs1, hs2, hs3⟩ := toNat_sextets_lt b0 b1 b2
    simp only [encodeBase64, Prod.mk.injEq] at henc
    obtain ⟨rfl, rfl, rfl, rfl⟩ := henc
    rw [decodeBase64_symbol hs0 hs1 hs2 hs3]
    exact ⟨pack_nonneg _ _ _ _, chunkBytes_pack_sextets b0 b1 b2⟩

end Chunks

section Texts

theorem length_valueBytes (vals : List JavaInt) (h : vals ≠ []) :
    (valueBytes vals).length = 3 * vals.length - 1 := by
  fun_induction valueBytes vals with
  | case1 => exact absurd rfl h
  | case2 val => rfl
  | case3 val vals hvals ih =>
      have hne : vals ≠ [] := fun hnil => hvals (by rw [hnil])
      have hpos := List.length_pos_of_ne_nil hne
      simp only [List.length_cons, ih hne]
      omega

theorem exists_chunk {input : Units} (h : 4 ≤ input.length) :
    ∃ c0 c1 c2 c3 rest, input = c0 :: c1 :: c2 :: c3 :: rest := by
  rcases input with _ | ⟨c0, _ | ⟨c1, _ | ⟨c2, _ | ⟨c3, rest⟩⟩⟩⟩
  · cases h
  · simp at h
  · simp at h
  · simp at h
  · exact ⟨c0, c1, c2, c3, rest, rfl⟩

theorem length_decodeChunks {n : Nat} {input : Units} (h : input.length = 4 * n + 4) :
    (decodeChunks n input).length = n + 1 := by
  induction n generalizing input with
  | zero =>
      obtain ⟨c0, c1, c2, c3, rest, rfl⟩ := exists_chunk h.ge
      rfl
  | succ n ih =>
      obtain ⟨c0, c1, c2, c3, rest, rfl⟩ := exists_chunk (by omega : 4 ≤ input.length)
      simp only [List.length_cons] at h
      rw [decodeChunks, List.length_cons, ih (by omega)]

theorem length_encodeChunks {n : Nat} {bytes : List JavaByte} (h : bytes.length = 3 * n + 2) :
    (encodeChunks n bytes).length = 4 * n + 4 := by
  induction n generalizing bytes with
  | zero =>
      obtain ⟨b0, b1, rfl⟩ := List.length_eq_two.mp h
      rfl
  | succ n ih =>
      rcases bytes with _ | ⟨b0, _ | ⟨b1, _ | ⟨b2, bytes⟩⟩⟩
      · simp at h
      · simp at h
      · simp at h
      simp only [List.length_cons] at h
      simp only [encodeChunks, List.length_cons]
      rw [ih (by omega)]
      omega

theorem length_valueBytes_decodeChunks {input : Units} (h : input.length = 44) :
    (valueBytes (decodeChunks 10 input)).length = 32 := by
  have hlength : (decodeChunks 10 input).length = 11 := length_decodeChunks h
  have hne : decodeChunks 10 input ≠ [] := List.ne_nil_of_length_pos (by omega)
  rw [length_valueBytes _ hne, hlength]

theorem valueBytes_cons {val : JavaInt} {vals : List JavaInt} (h : vals ≠ []) :
    valueBytes (val :: vals) =
      (chunkBytes val).1 :: (chunkBytes val).2.1 :: (chunkBytes val).2.2 :: valueBytes vals := by
  rcases vals with _ | ⟨next, vals⟩
  · exact absurd rfl h
  · rfl

theorem defects_cons {val : JavaInt} {vals : List JavaInt} (h : vals ≠ []) :
    defects (val :: vals) = val >>> 31 ||| defects vals := by
  rcases vals with _ | ⟨next, vals⟩
  · exact absurd rfl h
  · rfl

theorem or_eq_zero_iff (x y : JavaInt) : x ||| y = 0 ↔ x = 0 ∧ y = 0 := by
  simp only [← BitVec.toNat_inj, BitVec.toNat_or]
  exact Nat.or_eq_zero_iff

theorem lowByte_eq_zero_iff (val : JavaInt) : val &&& 0xff = 0 ↔ (chunkBytes val).2.2 = 0 := by
  have hlow : (chunkBytes val).2.2.toNat = (val &&& 0xff).toNat := by
    have hle : (val &&& 0xff).toNat ≤ 255 := by
      rw [BitVec.toNat_and]
      exact Nat.and_le_right
    rw [chunkBytes, BitVec.toNat_setWidth]
    exact Nat.mod_eq_of_lt (Nat.lt_succ_of_le hle)
  rw [← BitVec.toNat_inj, ← BitVec.toNat_inj, hlow]
  rfl

theorem encodeBase64_zero (b0 b1 : JavaByte) : (encodeBase64 b0 b1 0).2.2.2 = toUnit (code 'A') := by
  simp only [encodeBase64, sextets]
  decide

theorem lastChunk_iff {c0 c1 c2 : UInt16} (b0 b1 : JavaByte) (h0 : c0.toNat < 256) (h1 : c1.toNat < 256)
    (h2 : c2.toNat < 256) (val : JavaInt) (hval : val = decodeBase64 c0 c1 c2 (toUnit (code 'A'))) :
    val >>> 31 ||| (val &&& 0xff) = 0 ∧ [(chunkBytes val).1, (chunkBytes val).2.1] = [b0, b1] ↔
      (encodeBase64 b0 b1 0).1 = c0 ∧ (encodeBase64 b0 b1 0).2.1 = c1 ∧ (encodeBase64 b0 b1 0).2.2.1 = c2 := by
  have hchunk := decodeBase64_iff b0 b1 0 h0 h1 h2 (by decide : (toUnit (code 'A')).toNat < 256)
  rw [← hval] at hchunk
  have hlast := encodeBase64_zero b0 b1
  rw [or_eq_zero_iff, lowByte_eq_zero_iff]
  constructor
  · rintro ⟨⟨hgood, hzero⟩, hbytes⟩
    rw [List.cons.injEq, List.cons.injEq] at hbytes
    have henc := hchunk.mp ⟨hgood, by rw [← hbytes.1, ← hbytes.2.1, ← hzero]⟩
    rw [henc]
    exact ⟨rfl, rfl, rfl⟩
  · rintro ⟨rfl, rfl, rfl⟩
    obtain ⟨hgood, hbytes⟩ := hchunk.mpr (by rw [← hlast])
    rw [hbytes]
    exact ⟨⟨hgood, rfl⟩, rfl⟩

/-- **The chunks of a text.** What the decoder reads of a text is what the encoder writes, apart from the last
character, which both set by hand. -/
theorem decodeChunks_iff {n : Nat} {input : Units} {bytes : List JavaByte} (hlength : input.length = 4 * n + 4)
    (hsmall : ∀ c ∈ input, c.toNat < 256) (hbytes : bytes.length = 3 * n + 2) :
    defects (decodeChunks n input) = 0 ∧ valueBytes (decodeChunks n input) = bytes ↔
      (encodeChunks n bytes).dropLast = input.dropLast := by
  induction n generalizing input bytes with
  | zero =>
      obtain ⟨c0, c1, c2, c3, rest, rfl⟩ := exists_chunk hlength.ge
      obtain rfl : rest = [] := List.eq_nil_of_length_eq_zero (by simpa using hlength)
      obtain ⟨b0, b1, rfl⟩ := List.length_eq_two.mp hbytes
      have hlast := lastChunk_iff b0 b1 (hsmall c0 (by simp)) (hsmall c1 (by simp))
        (hsmall c2 (by simp)) _ rfl
      simpa [decodeChunks, defects, valueBytes, encodeChunks] using hlast
  | succ n ih =>
      obtain ⟨c0, c1, c2, c3, rest, rfl⟩ := exists_chunk (by omega : 4 ≤ input.length)
      rcases bytes with _ | ⟨b0, _ | ⟨b1, _ | ⟨b2, bytes⟩⟩⟩
      · simp at hbytes
      · simp at hbytes
      · simp at hbytes
      simp only [List.length_cons] at hlength hbytes
      simp only [List.forall_mem_cons] at hsmall
      obtain ⟨h0, h1, h2, h3, hsmall⟩ := hsmall
      have hrest := ih (by omega : rest.length = 4 * n + 4) hsmall (by omega : bytes.length = 3 * n + 2)
      have hchunk := decodeBase64_iff b0 b1 b2 h0 h1 h2 h3
      have hvals : decodeChunks n rest ≠ [] :=
        List.ne_nil_of_length_pos (by rw [length_decodeChunks (by omega : rest.length = 4 * n + 4)]; omega)
      have hunits : encodeChunks n bytes ≠ [] :=
        List.ne_nil_of_length_pos (by rw [length_encodeChunks (by omega : bytes.length = 3 * n + 2)]; omega)
      have htail : rest ≠ [] := List.ne_nil_of_length_pos (by omega)
      rw [decodeChunks, defects_cons hvals, valueBytes_cons hvals, or_eq_zero_iff, encodeChunks]
      simp only [List.dropLast_cons_of_ne_nil, ne_eq, reduceCtorEq, not_false_eq_true, hunits, htail,
        List.cons.injEq, ← hrest]
      constructor
      · rintro ⟨⟨hgood, hdefects⟩, hb0, hb1, hb2, hvalues⟩
        have henc := hchunk.mp ⟨hgood, by rw [← hb0, ← hb1, ← hb2]⟩
        rw [henc]
        exact ⟨rfl, rfl, rfl, rfl, hdefects, hvalues⟩
      · rintro ⟨rfl, rfl, rfl, rfl, hdefects, hvalues⟩
        obtain ⟨hgood, hbytes⟩ := hchunk.mpr rfl
        rw [hbytes]
        exact ⟨⟨hgood, hdefects⟩, rfl, rfl, rfl, hvalues⟩

def fromBase64 (str : Units) : Except KeyFormatException Key :=
  if hformat : str.length ≠ Format.base64.length ∨ str[43]? ≠ some (toUnit (code '=')) then
    .error ⟨.base64, .length⟩
  else if defects (decodeChunks 10 str) ≠ 0 then
    .error ⟨.base64, .contents⟩
  else
    .ok ⟨valueBytes (decodeChunks 10 str),
      length_valueBytes_decodeChunks (not_not.mp (not_or.mp hformat).1)⟩

theorem length_toBase64 (key : Key) : (toBase64 key).length = 44 := by
  rw [toBase64, List.length_set, length_encodeChunks (n := 10) key.length_bytes]

theorem fromBase64_ok_iff (str : Units) (key : Key) :
    fromBase64 str = .ok key ↔ (str.length = 44 ∧ str[43]? = some (toUnit (code '='))) ∧
      defects (decodeChunks 10 str) = 0 ∧ valueBytes (decodeChunks 10 str) = key.bytes := by
  obtain ⟨bytes, hbytes⟩ := key
  rw [fromBase64]
  split
  case isTrue hformat =>
    constructor
    · intro h
      cases h
    · rintro ⟨hlength, -⟩
      rcases hformat with h | h
      · exact absurd hlength.1 h
      · exact absurd hlength.2 h
  case isFalse hformat =>
    have hlength := not_or.mp hformat
    rw [not_not, not_not] at hlength
    by_cases hdefects : defects (decodeChunks 10 str) = 0
    · rw [if_neg (not_not.mpr hdefects), Except.ok.injEq, Key.mk.injEq]
      exact ⟨fun h => ⟨hlength, hdefects, h⟩, fun h => h.2.2⟩
    · rw [if_pos hdefects]
      constructor
      · intro h
        cases h
      · intro h
        exact absurd h.2.1 hdefects

/-- A list with a given last element is known by the elements before it. -/
theorem eq_set_last_iff {units str : Units} {n : Nat} {c : UInt16} (hunits : units.length = n + 1)
    (hstr : str.length = n + 1) :
    str[n]? = some c ∧ units.dropLast = str.dropLast ↔ str = units.set n c := by
  obtain rfl | ⟨front, last, rfl⟩ := List.eq_nil_or_concat' units
  · cases hunits
  obtain rfl | ⟨front', last', rfl⟩ := List.eq_nil_or_concat' str
  · cases hstr
  have hfront : front.length = n := by simpa using hunits
  have hfront' : front'.length = n := by simpa using hstr
  subst hfront
  rw [List.set_append_right _ _ (Nat.le_refl _), List.getElem?_append_right (Nat.le_of_eq hfront'), hfront',
    List.dropLast_concat, List.dropLast_concat, Nat.sub_self]
  constructor
  · rintro ⟨hlast, rfl⟩
    rw [Option.some.inj hlast]
    rfl
  · intro h
    obtain ⟨hfronts, hlasts⟩ := List.append_inj h hfront'
    rw [hlasts]
    exact ⟨rfl, hfronts.symm⟩

/-- **Base 64.** A text without characters above 255 is read as a key exactly if it is the text of the key: no
key has two texts, every key is read again from its text, and no other text is read. -/
theorem fromBase64_iff {str : Units} (hsmall : ∀ c ∈ str, c.toNat < 256) (key : Key) :
    fromBase64 str = .ok key ↔ str = toBase64 key := by
  have hencoded : (encodeChunks 10 key.bytes).length = 43 + 1 := length_encodeChunks key.length_bytes
  rw [fromBase64_ok_iff]
  constructor
  · rintro ⟨⟨hlength, hpad⟩, hvalues⟩
    have hchunks := (decodeChunks_iff hlength hsmall key.length_bytes).mp hvalues
    exact (eq_set_last_iff hencoded hlength).mp ⟨hpad, hchunks⟩
  · intro h
    have hlength : str.length = 44 := by rw [h, length_toBase64]
    obtain ⟨hpad, hchunks⟩ := (eq_set_last_iff hencoded hlength).mpr h
    exact ⟨⟨hlength, hpad⟩, (decodeChunks_iff hlength hsmall key.length_bytes).mpr hchunks⟩

theorem isUnit_encodeBase64 (b0 b1 b2 : JavaByte) :
    IsUnit (encodeBase64 b0 b1 b2).1 ∧ IsUnit (encodeBase64 b0 b1 b2).2.1 ∧
      IsUnit (encodeBase64 b0 b1 b2).2.2.1 ∧ IsUnit (encodeBase64 b0 b1 b2).2.2.2 := by
  obtain ⟨hs0, hs1, hs2, hs3⟩ := toNat_sextets_lt b0 b1 b2
  exact ⟨isUnit_symbol hs0, isUnit_symbol hs1, isUnit_symbol hs2, isUnit_symbol hs3⟩

theorem isUnit_of_mem_encodeChunks {n : Nat} {bytes : List JavaByte} {c : UInt16}
    (h : c ∈ encodeChunks n bytes) : IsUnit c := by
  fun_induction encodeChunks n bytes with
  | case1 b0 b1 rest c0 c1 c2 c3 hchunk =>
      have hunits := isUnit_encodeBase64 b0 b1 0
      rw [hchunk] at hunits
      simp only [List.mem_cons, List.not_mem_nil, or_false] at h
      rcases h with rfl | rfl | rfl | rfl
      · exact hunits.1
      · exact hunits.2.1
      · exact hunits.2.2.1
      · exact hunits.2.2.2
  | case2 n b0 b1 b2 rest c0 c1 c2 c3 hchunk ih =>
      have hunits := isUnit_encodeBase64 b0 b1 b2
      rw [hchunk] at hunits
      simp only [List.mem_cons] at h
      rcases h with rfl | rfl | rfl | rfl | h
      · exact hunits.1
      · exact hunits.2.1
      · exact hunits.2.2.1
      · exact hunits.2.2.2
      · exact ih h
  | case3 => cases h

theorem isUnit_of_mem_toBase64 {key : Key} {c : UInt16} (h : c ∈ toBase64 key) : IsUnit c := by
  rcases List.mem_or_eq_of_mem_set h with h | rfl
  · exact isUnit_of_mem_encodeChunks h
  · decide

theorem fromBase64_toBase64 (key : Key) : fromBase64 (toBase64 key) = .ok key :=
  (fromBase64_iff (fun _ h => (isUnit_of_mem_toBase64 h).small) key).mpr rfl

/-- A Cyrillic letter whose mask is that of a Latin one. -/
example : sextet 0x430 = 0 := by decide

end Texts

/-! ### Base 16 -/

/-- The character that `toHex` writes for four bits. -/
def hexDigit (x : JavaInt) : UInt16 := toUnit (87 + x + ((x - 10).sshiftRight 8 &&& ~~~38))

/-- The loop of `toHex`. -/
def hexDigits (bytes : List JavaByte) : Units :=
  bytes.flatMap fun b =>
    [hexDigit ((b.signExtend 32).sshiftRight 4 &&& 0xf), hexDigit (b.signExtend 32 &&& 0xf)]

def toHex (key : Key) : Units := hexDigits key.bytes

/-- What `fromHex` computes of one character: what it adds to `ret`, and `cVal`. -/
def hexValue (unit : UInt16) : JavaInt × JavaInt :=
  let c := widen unit
  let cNum := c ^^^ 48
  let cNum0 := (cNum - 10) >>> 8 &&& 0xff
  let cAlpha := (c &&& ~~~32) - 55
  let cAlpha0 := ((cAlpha - 10) ^^^ (cAlpha - 16)) >>> 8 &&& 0xff
  (((cNum0 ||| cAlpha0) - 1) >>> 8, (cNum0 &&& cNum) ||| (cAlpha0 &&& cAlpha))

/-- The loop of `fromHex`: `ret` and the bytes. -/
def hexPairs : Units → JavaInt × List JavaByte
  | c0 :: c1 :: rest =>
      let (ret, bytes) := hexPairs rest
      ((hexValue c0).1 ||| (hexValue c1).1 ||| ret,
        ((hexValue c0).2 * 16 ||| (hexValue c1).2).setWidth 8 :: bytes)
  | _ => (0, [])

/-- A capital among the sixteen digits, written small. -/
def lowerHex (unit : UInt16) : UInt16 := if 65 ≤ unit ∧ unit ≤ 70 then unit + 32 else unit

theorem length_hexPairs {n : Nat} {str : Units} (h : str.length = 2 * n) : (hexPairs str).2.length = n := by
  induction n generalizing str with
  | zero =>
      rw [List.eq_nil_of_length_eq_zero h]
      rfl
  | succ n ih =>
      rcases str with _ | ⟨c0, _ | ⟨c1, rest⟩⟩
      · cases h
      · simp only [List.length_cons, List.length_nil] at h
        omega
      · simp only [List.length_cons] at h
        rw [hexPairs, List.length_cons, ih (by omega)]

def fromHex (str : Units) : Except KeyFormatException Key :=
  if hformat : str.length ≠ Format.hex.length then .error ⟨.hex, .length⟩
  else if (hexPairs str).1 ≠ 0 then .error ⟨.hex, .contents⟩
  else .ok ⟨(hexPairs str).2, length_hexPairs (not_not.mp hformat)⟩

section Hex

variable {c c0 c1 : UInt16}

theorem hexValue_table : ∀ n < 256,
    (hexValue (UInt16.ofNat n)).1 ≠ 0 ∧
      (∀ m < 16, lowerHex (UInt16.ofNat n) ≠ hexDigit (BitVec.ofNat 32 m)) ∨
    (hexValue (UInt16.ofNat n)).1 = 0 ∧
      ∃ m < 16, (hexValue (UInt16.ofNat n)).2 = BitVec.ofNat 32 m ∧
        lowerHex (UInt16.ofNat n) = hexDigit (BitVec.ofNat 32 m) := by
  decide +kernel

theorem hexDigit_table : ∀ m < 16, ∀ l < 16,
    hexDigit (BitVec.ofNat 32 m) = hexDigit (BitVec.ofNat 32 l) → m = l := by
  decide +kernel

theorem nibbles_table : ∀ m < 16, ∀ l < 16,
    (BitVec.ofNat 32 m * 16 ||| BitVec.ofNat 32 l).setWidth 8 = BitVec.ofNat 8 (16 * m + l) ∧
    ((BitVec.ofNat 8 (16 * m + l)).signExtend 32).sshiftRight 4 &&& 0xf = BitVec.ofNat 32 m ∧
    (BitVec.ofNat 8 (16 * m + l)).signExtend 32 &&& 0xf = BitVec.ofNat 32 l := by
  decide +kernel

theorem exists_nibbles (b : JavaByte) : ∃ m < 16, ∃ l < 16, b = BitVec.ofNat 8 (16 * m + l) := by
  refine ⟨b.toNat / 16, by omega, b.toNat % 16, by omega, ?_⟩
  rw [Nat.div_add_mod, BitVec.ofNat_toNat, BitVec.setWidth_eq]

theorem hexValue_iff {m : Nat} (hsmall : c.toNat < 256) (hm : m < 16) :
    (hexValue c).1 = 0 ∧ (hexValue c).2 = BitVec.ofNat 32 m ↔ lowerHex c = hexDigit (BitVec.ofNat 32 m) := by
  have htable := hexValue_table c.toNat hsmall
  rw [UInt16.ofNat_toNat] at htable
  constructor
  · rintro ⟨hgood, hvalue⟩
    rcases htable with ⟨hbad, -⟩ | ⟨-, l, -, hl, hdigit⟩
    · exact absurd hgood hbad
    · rw [hdigit, ← hl, hvalue]
  · intro h
    rcases htable with ⟨-, hother⟩ | ⟨hgood, l, hlt, hl, hdigit⟩
    · exact absurd h (hother m hm)
    · rw [hdigit] at h
      rw [hexDigit_table l hlt m hm h] at hl
      exact ⟨hgood, hl⟩

theorem hexValue_cases (hsmall : c.toNat < 256) (hgood : (hexValue c).1 = 0) :
    ∃ m < 16, (hexValue c).2 = BitVec.ofNat 32 m := by
  have htable := hexValue_table c.toNat hsmall
  rw [UInt16.ofNat_toNat] at htable
  rcases htable with ⟨hbad, -⟩ | ⟨-, m, hm, hvalue, -⟩
  · exact absurd hgood hbad
  · exact ⟨m, hm, hvalue⟩

theorem hexPair_iff (b : JavaByte) (h0 : c0.toNat < 256) (h1 : c1.toNat < 256) :
    ((hexValue c0).1 = 0 ∧ (hexValue c1).1 = 0) ∧
        ((hexValue c0).2 * 16 ||| (hexValue c1).2).setWidth 8 = b ↔
      lowerHex c0 = hexDigit ((b.signExtend 32).sshiftRight 4 &&& 0xf) ∧
        lowerHex c1 = hexDigit (b.signExtend 32 &&& 0xf) := by
  constructor
  · rintro ⟨⟨hgood0, hgood1⟩, rfl⟩
    obtain ⟨m, hm, hvalue0⟩ := hexValue_cases h0 hgood0
    obtain ⟨l, hl, hvalue1⟩ := hexValue_cases h1 hgood1
    obtain ⟨hbyte, hhigh, hlow⟩ := nibbles_table m hm l hl
    rw [hvalue0, hvalue1, hbyte, hhigh, hlow]
    exact ⟨(hexValue_iff h0 hm).mp ⟨hgood0, hvalue0⟩, (hexValue_iff h1 hl).mp ⟨hgood1, hvalue1⟩⟩
  · rintro ⟨hdigit0, hdigit1⟩
    obtain ⟨m, hm, l, hl, rfl⟩ := exists_nibbles b
    obtain ⟨hbyte, hhigh, hlow⟩ := nibbles_table m hm l hl
    rw [hhigh] at hdigit0
    rw [hlow] at hdigit1
    obtain ⟨hgood0, hvalue0⟩ := (hexValue_iff h0 hm).mpr hdigit0
    obtain ⟨hgood1, hvalue1⟩ := (hexValue_iff h1 hl).mpr hdigit1
    rw [hvalue0, hvalue1, hbyte]
    exact ⟨⟨hgood0, hgood1⟩, rfl⟩

theorem hexDigits_cons (b : JavaByte) (bytes : List JavaByte) :
    hexDigits (b :: bytes) = hexDigit ((b.signExtend 32).sshiftRight 4 &&& 0xf) ::
      hexDigit (b.signExtend 32 &&& 0xf) :: hexDigits bytes := rfl

theorem length_hexDigits (bytes : List JavaByte) : (hexDigits bytes).length = 2 * bytes.length := by
  induction bytes with
  | nil => rfl
  | cons b bytes ih =>
      rw [hexDigits_cons, List.length_cons, List.length_cons, ih, List.length_cons]
      omega

theorem hexPairs_iff {str : Units} {bytes : List JavaByte} (hlength : str.length = 2 * bytes.length)
    (hsmall : ∀ c ∈ str, c.toNat < 256) :
    (hexPairs str).1 = 0 ∧ (hexPairs str).2 = bytes ↔ str.map lowerHex = hexDigits bytes := by
  induction bytes generalizing str with
  | nil =>
      rw [List.eq_nil_of_length_eq_zero hlength]
      exact ⟨fun _ => rfl, fun _ => ⟨rfl, rfl⟩⟩
  | cons b bytes ih =>
      rcases str with _ | ⟨c0, _ | ⟨c1, rest⟩⟩
      · cases hlength
      · simp only [List.length_cons, List.length_nil] at hlength
        omega
      simp only [List.length_cons] at hlength
      simp only [List.forall_mem_cons] at hsmall
      obtain ⟨h0, h1, hsmall⟩ := hsmall
      have hrest := ih (by omega : rest.length = 2 * bytes.length) hsmall
      have hpair := hexPair_iff b h0 h1
      simp only [hexPairs, hexDigits_cons, List.map_cons, List.cons.injEq, or_eq_zero_iff, ← hrest]
      constructor
      · rintro ⟨⟨hgood, hgoods⟩, hbyte, hbytes⟩
        obtain ⟨hdigit0, hdigit1⟩ := hpair.mp ⟨hgood, hbyte⟩
        exact ⟨hdigit0, hdigit1, hgoods, hbytes⟩
      · rintro ⟨hdigit0, hdigit1, hgoods, hbytes⟩
        obtain ⟨hgood, hbyte⟩ := hpair.mpr ⟨hdigit0, hdigit1⟩
        exact ⟨⟨hgood, hgoods⟩, hbyte, hbytes⟩

theorem fromHex_ok_iff (str : Units) (key : Key) :
    fromHex str = .ok key ↔ str.length = 64 ∧ (hexPairs str).1 = 0 ∧ (hexPairs str).2 = key.bytes := by
  obtain ⟨bytes, hbytes⟩ := key
  rw [fromHex]
  split
  case isTrue hformat =>
    constructor
    · intro h
      cases h
    · rintro ⟨hlength, -⟩
      exact absurd hlength hformat
  case isFalse hformat =>
    by_cases hdefects : (hexPairs str).1 = 0
    · rw [if_neg (not_not.mpr hdefects), Except.ok.injEq, Key.mk.injEq]
      exact ⟨fun h => ⟨not_not.mp hformat, hdefects, h⟩, fun h => h.2.2⟩
    · rw [if_pos hdefects]
      constructor
      · intro h
        cases h
      · intro h
        exact absurd h.2.1 hdefects

/-- **Base 16.** A text without characters above 255 is read as a key exactly if it is the text of the key up to
the case of its letters. -/
theorem fromHex_iff {str : Units} (hsmall : ∀ c ∈ str, c.toNat < 256) (key : Key) :
    fromHex str = .ok key ↔ str.map lowerHex = toHex key := by
  rw [fromHex_ok_iff, toHex]
  constructor
  · rintro ⟨hlength, hpairs⟩
    have htwice : str.length = 2 * key.bytes.length := by rw [hlength, key.length_bytes]
    exact (hexPairs_iff htwice hsmall).mp hpairs
  · intro h
    have hlength := congrArg List.length h
    rw [List.length_map, length_hexDigits] at hlength
    exact ⟨by rw [hlength, key.length_bytes], (hexPairs_iff hlength hsmall).mpr h⟩

theorem digits_table : ∀ m < 16, lowerHex (hexDigit (BitVec.ofNat 32 m)) = hexDigit (BitVec.ofNat 32 m) ∧
    IsUnit (hexDigit (BitVec.ofNat 32 m)) := by
  decide +kernel

theorem lowerHex_of_mem_hexDigits {bytes : List JavaByte} (h : c ∈ hexDigits bytes) :
    lowerHex c = c ∧ IsUnit c := by
  obtain ⟨b, -, hc⟩ := List.mem_flatMap.mp h
  obtain ⟨m, hm, l, hl, rfl⟩ := exists_nibbles b
  obtain ⟨-, hhigh, hlow⟩ := nibbles_table m hm l hl
  rw [hhigh, hlow] at hc
  simp only [List.mem_cons, List.not_mem_nil, or_false] at hc
  rcases hc with rfl | rfl
  · exact digits_table m hm
  · exact digits_table l hl

theorem fromHex_toHex (key : Key) : fromHex (toHex key) = .ok key := by
  rw [toHex, fromHex_iff fun c h => (lowerHex_of_mem_hexDigits h).2.small]
  exact (List.map_congr_left fun c h => (lowerHex_of_mem_hexDigits h).1).trans (List.map_id _)

theorem toHex_injective {key key' : Key} (h : toHex key = toHex key') : key = key' := by
  have hread := fromHex_toHex key
  rw [h, fromHex_toHex] at hread
  exact (Except.ok.inj hread).symm

end Hex

/-- **Keys and their texts.** Among the texts without characters above 255 a key is read from its base 64 text and
from no other, and from its base 16 text in any mixture of cases and from no other. -/
theorem read_iff_written {str : Units} (hsmall : ∀ c ∈ str, c.toNat < 256) (key : Key) :
    (fromBase64 str = .ok key ↔ str = toBase64 key) ∧
      (fromHex str = .ok key ↔ str.map lowerHex = toHex key) :=
  ⟨fromBase64_iff hsmall key, fromHex_iff hsmall key⟩

def zero : Key := ⟨List.replicate 32 0, List.length_replicate⟩

theorem read_zero : fromBase64 (toBase64 zero) = .ok zero ∧ (toBase64 zero).length = 44 :=
  ⟨(read_iff_written (fun _ h => (isUnit_of_mem_toBase64 h).small) zero).1.mpr rfl, length_toBase64 zero⟩

/-- Above 255 other texts are read as well: a Cyrillic letter stands for the sextet 0. -/
example : fromBase64 (0x430 :: (toBase64 zero).drop 1) = .ok zero := rfl

end Key

end Awg
