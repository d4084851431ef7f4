import Mathlib.Tactic.Ring
import Router1.Dart.Lines

/-!
# Addresses, blocks and the halves they lie in

The value of an address in any of its spellings, and the addresses that a block such as `10.0.0.0/8` covers.
A block of length zero covers its whole family and one of length one a half of it. Two coverages that differ
only in whole halves are therefore compared half by half.
-/

namespace Cidr

open Dart

def width : InternetAddressType → Nat
  | .ipv4 => 32
  | .ipv6 => 128

structure Address where
  family : InternetAddressType
  value : Nat
  value_lt : value < 2 ^ width family
  deriving DecidableEq

/-- The addresses of a family with one top bit. -/
structure Half where
  family : InternetAddressType
  upper : Bool
  deriving DecidableEq, Repr

def Address.half (a : Address) : Half := ⟨a.family, decide (2 ^ (width a.family - 1) ≤ a.value)⟩

structure Block where
  address : Address
  length : Nat
  length_le : length ≤ width address.family
  deriving DecidableEq

/-- The first bits of the address are those of the block. -/
def Block.Covers (b : Block) (a : Address) : Prop :=
  a.family = b.address.family ∧
    a.value / 2 ^ (width b.address.family - b.length) =
      b.address.value / 2 ^ (width b.address.family - b.length)

/-! ### Spellings of addresses -/

def positional (base : Nat) (digits : List Nat) : Nat :=
  digits.foldl (fun value digit => base * value + digit) 0

def hexDigitValue (c : Char) : Nat :=
  if isDigit c then c.toNat - '0'.toNat
  else if 'a'.toNat ≤ c.toNat then c.toNat - 'a'.toNat + 10
  else c.toNat - 'A'.toNat + 10

def hexValue (cs : List Char) : Nat := positional 16 (cs.map hexDigitValue)

def octetsOf (cs : List Char) : List Nat := (splitChars '.' cs).map digitsValue

/-- Bytes, two by two. -/
def pairs : List Nat → List Nat
  | a :: b :: rest => (256 * a + b) :: pairs rest
  | _ => []

/-- The 16-bit groups of an address; a dotted tail gives two. -/
def groupValues : List (List Char) → List Nat
  | [] => []
  | [last] => if isHexGroup last then [hexValue last] else pairs (octetsOf last)
  | group :: rest => hexValue group :: groupValues rest

/-- All groups of an address, with zeros for those that `::` leaves out. -/
def ipv6Values (cs : List Char) : List Nat :=
  match splitElision cs with
  | none => groupValues (groupsOf cs)
  | some (before, after) =>
      let front := groupValues (groupsOf before)
      let back := groupValues (groupsOf after)
      front ++ List.replicate (8 - (front.length + back.length)) 0 ++ back

theorem positional_lt {base : Nat} {digits : List Nat} (h : ∀ d ∈ digits, d < base) :
    positional base digits < base ^ digits.length := by
  induction digits using List.reverseRecOn with
  | nil => exact Nat.one_pos
  | append_singleton digits d ih =>
      have hfront : positional base digits < base ^ digits.length :=
        ih fun other hother => h other (List.mem_append_left _ hother)
      have hlast : d < base := h d (by simp)
      have hvalue : positional base (digits ++ [d]) = base * positional base digits + d := by
        simp [positional]
      rw [hvalue, List.length_append, List.length_singleton, pow_succ]
      calc base * positional base digits + d
          < base * positional base digits + base := by omega
        _ = base * (positional base digits + 1) := by ring
        _ ≤ base * base ^ digits.length := Nat.mul_le_mul_left _ hfront
        _ = base ^ digits.length * base := Nat.mul_comm _ _

theorem hexDigitValue_lt {c : Char} (h : isHexDigit c = true) : hexDigitValue c < 16 := by
  have h0 : '0'.toNat = 48 := rfl
  have h9 : '9'.toNat = 57 := rfl
  have ha : 'a'.toNat = 97 := rfl
  have hf : 'f'.toNat = 102 := rfl
  have hA : 'A'.toNat = 65 := rfl
  have hF : 'F'.toNat = 70 := rfl
  simp only [isHexDigit, isDigit, Bool.or_eq_true, Bool.and_eq_true, decide_eq_true_eq] at h
  simp only [hexDigitValue, isDigit, Bool.and_eq_true, decide_eq_true_eq]
  split
  · omega
  · split <;> omega

theorem hexValue_lt {cs : List Char} (h : isHexGroup cs = true) : hexValue cs < 65536 := by
  simp only [isHexGroup, Bool.and_eq_true, List.all_eq_true, decide_eq_true_eq] at h
  obtain ⟨⟨-, hlength⟩, hdigits⟩ := h
  have hlt : hexValue cs < 16 ^ (cs.map hexDigitValue).length := by
    apply positional_lt
    intro d hd
    obtain ⟨c, hc, rfl⟩ := List.mem_map.mp hd
    exact hexDigitValue_lt (hdigits c hc)
  rw [List.length_map] at hlt
  exact lt_of_lt_of_le hlt (Nat.pow_le_pow_right (by omega) hlength)

theorem octetsOf_spec {cs : List Char} (h : isIpv4Chars cs = true) :
    (octetsOf cs).length = 4 ∧ ∀ o ∈ octetsOf cs, o < 256 := by
  simp only [isIpv4Chars, Bool.and_eq_true, beq_iff_eq, List.all_eq_true] at h
  refine ⟨by rw [octetsOf, List.length_map, h.1], fun o ho => ?_⟩
  obtain ⟨octet, hoctet, rfl⟩ := List.mem_map.mp ho
  have hbyte := h.2 octet hoctet
  simp only [isOctet, Bool.and_eq_true, decide_eq_true_eq] at hbyte
  omega

theorem pairs_spec {octets : List Nat} (hlength : octets.length = 4) (hoctets : ∀ o ∈ octets, o < 256) :
    (pairs octets).length = 2 ∧ ∀ v ∈ pairs octets, v < 65536 := by
  match octets, hlength with
  | [a, b, c, d], _ =>
      refine ⟨rfl, fun v hv => ?_⟩
      have ha := hoctets a (by simp)
      have hb := hoctets b (by simp)
      have hc := hoctets c (by simp)
      have hd := hoctets d (by simp)
      simp only [pairs, List.mem_cons, List.not_mem_nil, or_false] at hv
      omega

theorem groupValues_spec {groups : List (List Char)} {n : Nat} (h : groupCount groups = some n) :
    (groupValues groups).length = n ∧ ∀ v ∈ groupValues groups, v < 65536 := by
  induction groups using groupValues.induct generalizing n with
  | case1 =>
      cases h
      exact ⟨rfl, nofun⟩
  | case2 last hhex =>
      rw [groupCount, if_pos hhex] at h
      cases h
      rw [groupValues, if_pos hhex]
      refine ⟨rfl, fun v hv => ?_⟩
      rw [List.mem_singleton.mp hv]
      exact hexValue_lt hhex
  | case3 last hhex =>
      rw [groupCount, if_neg hhex] at h
      rw [groupValues, if_neg hhex]
      split at h
      · next hdotted =>
          cases h
          obtain ⟨hlength, hoctets⟩ := octetsOf_spec hdotted
          exact pairs_spec hlength hoctets
      · cases h
  | case4 group rest hrest ih =>
      rw [groupCount] at h
      · split at h
        · next hhex =>
            obtain ⟨m, hm, rfl⟩ := Option.map_eq_some_iff.mp h
            obtain ⟨hlength, hvalues⟩ := ih hm
            rw [groupValues]
            · refine ⟨by rw [List.length_cons, hlength], fun v hv => ?_⟩
              obtain rfl | hv := List.mem_cons.mp hv
              · exact hexValue_lt hhex
              · exact hvalues v hv
            · exact hrest
        · cases h
      · exact hrest

theorem ipv6Values_spec {cs : List Char} (h : isIpv6Chars cs = true) :
    (ipv6Values cs).length = 8 ∧ ∀ v ∈ ipv6Values cs, v < 65536 := by
  rw [isIpv6Chars] at h
  rw [ipv6Values]
  rcases helision : splitElision cs with _ | ⟨before, after⟩
  · simp only [helision] at h
    exact groupValues_spec (beq_iff_eq.mp h)
  · simp only [helision] at h
    dsimp only
    split at h
    · next m n hm hn =>
        rw [Bool.and_eq_true, decide_eq_true_eq] at h
        obtain ⟨hfront, hfrontValues⟩ := groupValues_spec hm
        obtain ⟨hback, hbackValues⟩ := groupValues_spec hn
        refine ⟨by simp only [List.length_append, List.length_replicate]; omega, fun v hv => ?_⟩
        simp only [List.mem_append, List.mem_replicate] at hv
        obtain (hv | hv) | hv := hv
        · exact hfrontValues v hv
        · omega
        · exact hbackValues v hv
    · cases h

/-- The address of a text, in the spellings that `InternetAddress.tryParse` takes. -/
def Address.ofChars (cs : List Char) : Option Address :=
  if h : isIpv4Chars cs = true then
    some ⟨.ipv4, positional 256 (octetsOf cs), by
      obtain ⟨hlength, hoctets⟩ := octetsOf_spec h
      exact lt_of_lt_of_le (positional_lt hoctets) (by rw [hlength]; decide)⟩
  else if h : isIpv6Chars cs = true then
    some ⟨.ipv6, positional 65536 (ipv6Values cs), by
      obtain ⟨hlength, hvalues⟩ := ipv6Values_spec h
      exact lt_of_lt_of_le (positional_lt hvalues) (by rw [hlength]; decide)⟩
  else none

example : (Address.ofChars "2a0a:f280::1.2.3.4".toList).map Address.value =
    some 0x2a0af280000000000000000001020304 := by decide +kernel

/-- A length in decimal, without leading zeros. -/
def isDecimal (cs : List Char) : Bool :=
  !cs.isEmpty && cs.all isDigit && (cs.length == 1 || cs.head? != some '0')

def Block.ofChars (cs : List Char) : Option Block :=
  match splitChars '/' cs with
  | [address, length] =>
      match Address.ofChars address with
      | none => none
      | some a =>
          if isDecimal length then
            if h : digitsValue length ≤ width a.family then some ⟨a, digitsValue length, h⟩ else none
          else none
  | _ => none

example : (Block.ofChars "fe80::/10".toList).map Block.length = some 10 := by decide +kernel

/-! ### The characters of a block -/

section

variable {c : Char} {cs address length : List Char} {a : Address} {b : Block}

def isBlockChar (c : Char) : Bool := isHexDigit c || c == ':' || c == '.' || c == '/'

theorem toNat_of_isBlockChar (h : isBlockChar c = true) :
    (46 ≤ c.toNat ∧ c.toNat ≤ 58) ∨ (65 ≤ c.toNat ∧ c.toNat ≤ 70) ∨ (97 ≤ c.toNat ∧ c.toNat ≤ 102) := by
  simp only [isBlockChar, isHexDigit, isDigit, Bool.or_eq_true, Bool.and_eq_true, decide_eq_true_eq,
    beq_iff_eq] at h
  obtain ((hhex | rfl) | rfl) | rfl := h
  · have h0 : '0'.toNat = 48 := rfl
    have h9 : '9'.toNat = 57 := rfl
    have ha : 'a'.toNat = 97 := rfl
    have hf : 'f'.toNat = 102 := rfl
    have hA : 'A'.toNat = 65 := rfl
    have hF : 'F'.toNat = 70 := rfl
    omega
  · decide
  · decide
  · decide

/-- The characters of an address, which ends where the slash of a block stands. -/
def isAddressChar (c : Char) : Bool := isHexDigit c || c == ':' || c == '.'

theorem isBlockChar_of_isAddressChar (h : isAddressChar c = true) : isBlockChar c = true := by
  rw [isBlockChar, Bool.or_eq_true]
  exact .inl h

theorem isAddressChar_of_isDigit (h : isDigit c = true) : isAddressChar c = true := by
  simp [isAddressChar, isHexDigit, h]

theorem isAddressChar_of_ipv4 (h : isIpv4Chars cs = true) (hc : c ∈ cs) : isAddressChar c = true := by
  simp only [isIpv4Chars, Bool.and_eq_true, List.all_eq_true] at h
  by_cases hdot : c = '.'
  · rw [hdot]
    rfl
  · obtain ⟨octet, hoctet, hc⟩ := (mem_iff_splitChars hdot).mp hc
    have hbyte := h.2 octet hoctet
    simp only [isOctet, Bool.and_eq_true, List.all_eq_true] at hbyte
    exact isAddressChar_of_isDigit (hbyte.1.1.2 c hc)

theorem isAddressChar_of_hexGroup (h : isHexGroup cs = true) (hc : c ∈ cs) : isAddressChar c = true := by
  simp only [isHexGroup, Bool.and_eq_true, List.all_eq_true] at h
  simp [isAddressChar, h.2 c hc]

theorem isAddressChar_of_groupCount {groups : List (List Char)} {n : Nat} (h : groupCount groups = some n)
    (hcs : cs ∈ groups) (hc : c ∈ cs) : isAddressChar c = true := by
  induction groups using groupValues.induct generalizing n with
  | case1 => cases hcs
  | case2 last hhex =>
      rw [List.mem_singleton.mp hcs] at hc
      exact isAddressChar_of_hexGroup hhex hc
  | case3 last hhex =>
      rw [List.mem_singleton.mp hcs] at hc
      rw [groupCount, if_neg hhex] at h
      split at h
      · next hdotted => exact isAddressChar_of_ipv4 hdotted hc
      · cases h
  | case4 group rest hrest ih =>
      rw [groupCount] at h
      · split at h
        · next hhex =>
            obtain ⟨m, hm, -⟩ := Option.map_eq_some_iff.mp h
            obtain rfl | hcs := List.mem_cons.mp hcs
            · exact isAddressChar_of_hexGroup hhex hc
            · exact ih hm hcs
        · cases h
      · exact hrest

theorem isAddressChar_of_groupsOf {n : Nat} (h : groupCount (groupsOf cs) = some n) (hc : c ∈ cs) :
    isAddressChar c = true := by
  by_cases hcolon : c = ':'
  · rw [hcolon]
    rfl
  · obtain ⟨group, hgroup, hcgroup⟩ := (mem_iff_splitChars hcolon).mp hc
    rw [groupsOf, if_neg (by simpa using List.ne_nil_of_mem hc)] at h
    exact isAddressChar_of_groupCount h hgroup hcgroup

theorem eq_of_splitElision {before after : List Char} (h : splitElision cs = some (before, after)) :
    cs = before ++ ':' :: ':' :: after := by
  induction cs using splitElision.induct generalizing before with
  | case1 cs =>
      rw [splitElision] at h
      cases h
      rfl
  | case2 c cs hcolons ih =>
      rw [splitElision] at h
      · obtain ⟨⟨front, back⟩, hhalves, hpair⟩ := Option.map_eq_some_iff.mp h
        cases hpair
        rw [ih hhalves, List.cons_append]
      · exact hcolons
  | case3 => cases h

theorem isAddressChar_of_ipv6 (h : isIpv6Chars cs = true) (hc : c ∈ cs) : isAddressChar c = true := by
  rw [isIpv6Chars] at h
  split at h
  · exact isAddressChar_of_groupsOf (beq_iff_eq.mp h) hc
  · next before after helision =>
      rw [eq_of_splitElision helision] at hc
      split at h
      · next m n hm hn =>
          simp only [List.mem_append, List.mem_cons] at hc
          obtain hc | rfl | rfl | hc := hc
          · exact isAddressChar_of_groupsOf hm hc
          · rfl
          · rfl
          · exact isAddressChar_of_groupsOf hn hc
      · cases h

theorem isBlockChar_of_address (h : Address.ofChars cs = some a) (hc : c ∈ cs) :
    isBlockChar c = true := by
  rw [Address.ofChars] at h
  split at h
  · next hipv4 => exact isBlockChar_of_isAddressChar (isAddressChar_of_ipv4 hipv4 hc)
  · split at h
    · next hipv6 => exact isBlockChar_of_isAddressChar (isAddressChar_of_ipv6 hipv6 hc)
    · cases h

theorem Block.exists_of_ofChars (h : Block.ofChars cs = some b) :
    ∃ address length, cs = address ++ '/' :: length ∧ '/' ∉ address ∧ '/' ∉ length ∧
      Address.ofChars address = some b.address ∧ isDecimal length = true ∧
      digitsValue length = b.length := by
  rw [Block.ofChars] at h
  split at h
  · next address length hpieces =>
      obtain ⟨hcs, haddress, hlength⟩ := eq_of_splitChars_pair hpieces
      refine ⟨address, length, hcs, haddress, hlength, ?_⟩
      split at h
      · cases h
      · next a ha =>
          split at h
          · next hdecimal =>
              split at h
              · cases h
                exact ⟨ha, hdecimal, rfl⟩
              · cases h
          · cases h
  · cases h

theorem isBlockChar_of_block (h : Block.ofChars cs = some b) (hc : c ∈ cs) : isBlockChar c = true := by
  obtain ⟨address, length, rfl, -, -, haddress, hdecimal, -⟩ := Block.exists_of_ofChars h
  simp only [isDecimal, Bool.and_eq_true, List.all_eq_true] at hdecimal
  obtain hc | hc := List.mem_append.mp hc
  · exact isBlockChar_of_address haddress hc
  · obtain rfl | hc := List.mem_cons.mp hc
    · rfl
    · exact isBlockChar_of_isAddressChar (isAddressChar_of_isDigit (hdecimal.1.2 c hc))

theorem Block.ofChars_half (haddress : Address.ofChars address = some a) (hslash : '/' ∉ address) :
    Block.ofChars (address ++ ['/', '1']) = some ⟨a, 1, by cases a.family <;> decide⟩ := by
  have hpieces : splitChars '/' (address ++ ['/', '1']) = [address, ['1']] := by
    rw [splitChars_append, splitChars_of_not_mem hslash]
    rfl
  have hone : digitsValue ['1'] ≤ width a.family := by cases a.family <;> decide
  rw [Block.ofChars, hpieces]
  dsimp only
  rw [haddress]
  dsimp only
  rw [if_pos (by decide), dif_pos hone]
  rfl

theorem eq_of_isDecimal_zero {rest : List Char} (h : isDecimal ('0' :: rest) = true) : rest = [] := by
  simp only [isDecimal, Bool.and_eq_true, Bool.or_eq_true] at h
  simpa using h.2

end

/-! ### Coverage -/

section

variable {a c : Address} {b : Block}

theorem two_pow_width (family : InternetAddressType) : 2 ^ width family = 2 * 2 ^ (width family - 1) := by
  cases family <;> decide

theorem Block.covers_of_length_zero (h : b.length = 0) : b.Covers a ↔ a.family = b.address.family := by
  rw [Block.Covers, h, Nat.sub_zero]
  refine and_iff_left_of_imp fun hfamily => ?_
  rw [Nat.div_eq_of_lt b.address.value_lt, ← hfamily, Nat.div_eq_of_lt a.value_lt]

theorem div_eq_div_iff_le {m n q : Nat} (hm : m < 2 * q) (hn : n < 2 * q) :
    m / q = n / q ↔ (q ≤ m ↔ q ≤ n) := by
  have hquotient : ∀ k, k < 2 * q → k / q = if q ≤ k then 1 else 0 := by
    intro k hk
    split
    · next hle => exact Nat.div_eq_of_lt_le (by omega) (by omega)
    · next hle => exact Nat.div_eq_of_lt (by omega)
  rw [hquotient m hm, hquotient n hn]
  split <;> split <;> simp [*]

theorem Address.half_eq_iff :
    a.half = c.half ↔
      a.family = c.family ∧
        a.value / 2 ^ (width c.family - 1) = c.value / 2 ^ (width c.family - 1) := by
  rw [Address.half, Address.half, Half.mk.injEq]
  refine and_congr_right fun hfamily => ?_
  have ha := a.value_lt
  have hc := c.value_lt
  rw [hfamily, two_pow_width] at ha
  rw [two_pow_width] at hc
  rw [hfamily, decide_eq_decide, div_eq_div_iff_le ha hc]

theorem Block.covers_of_length_one (h : b.length = 1) : b.Covers a ↔ a.half = b.address.half := by
  rw [Block.Covers, h, Address.half_eq_iff]

end

/-- Two predicates that agree up to whole parts are equal if and only if each part where they differ is
covered anyway. -/
theorem forall_iff_iff_part {α β : Type} {part : α → β} {kept before after : α → Prop}
    {whole replaced : β → Prop} (hbefore : ∀ a, before a ↔ kept a ∨ whole (part a))
    (hafter : ∀ a, after a ↔ kept a ∨ replaced (part a)) :
    (∀ a, before a ↔ after a) ↔
      ∀ p, (∀ a, part a = p → kept a) ∨ (whole p ↔ replaced p) := by
  constructor
  · intro hsame p
    by_cases hkept : ∀ a, part a = p → kept a
    · exact .inl hkept
    · right
      push Not at hkept
      obtain ⟨a, rfl, hfree⟩ := hkept
      have hwhole : before a ↔ whole (part a) := (hbefore a).trans (or_iff_right hfree)
      have hreplaced : after a ↔ replaced (part a) := (hafter a).trans (or_iff_right hfree)
      rw [← hwhole, ← hreplaced, hsame a]
  · intro hparts a
    rw [hbefore, hafter]
    obtain hkept | hiff := hparts (part a)
    · exact iff_of_true (.inl (hkept a rfl)) (.inl (hkept a rfl))
    · rw [hiff]

end Cidr
