import Router1.Awg.Platform
import Router1.Dart.Cidr

/-!
# A platform for ASCII texts

What Java does with ASCII characters, dotted addresses and host names: the parameters of the config classes have
values with the properties that are asked of them.
-/

namespace Awg

open Dart Text

namespace Ascii

def space (c : Char) : Bool := c == ' ' || (9 ≤ c.toNat && c.toNat ≤ 13)

def word (c : Char) : Bool := c.isAlphanum || c == '_'

def dot (c : Char) : Bool := !(c == '\n' || c == '\r' || c.toNat == 0x85 || c.toNat == 0x2028 || c.toNat == 0x2029)

def digit (c : Char) : Option Nat := if isDigit c then some (c.toNat - '0'.toNat) else none

def Address := { cs : List Char // isIpv4Chars cs = true }

instance : DecidableEq Address := inferInstanceAs (DecidableEq { cs : List Char // isIpv4Chars cs = true })

def parseNumericAddress (cs : List Char) : Option Address :=
  if h : isIpv4Chars cs = true then some ⟨cs, h⟩ else none

def isHostChar (c : Char) : Bool := c.isAlphanum || c == '-' || c == '.'

/-- A host and a port. -/
def authority (cs : List Char) : Option Uri :=
  match cs.dropWhile isHostChar with
  | ':' :: port =>
      if cs.takeWhile isHostChar ≠ [] ∧ port ≠ [] ∧ port.all isDigit then
        some ⟨cs.takeWhile isHostChar, digitsValue port⟩
      else none
  | [] => some ⟨cs.takeWhile isHostChar, -1⟩
  | _ => none

def uri (cs : List Char) : Option Uri :=
  if "awg://".toList.isPrefixOf cs then authority (cs.drop 6) else none

theorem visible_table : ∀ n < 127, 32 < n → space (Char.ofNat n) = false ∧ dot (Char.ofNat n) = true := by
  decide +kernel

theorem host_table : ∀ n < 128, isHostChar (Char.ofNat n) = true →
    32 < n ∧ n < 127 ∧ n ≠ 44 ∧ n ≠ 35 ∧ n ≠ 47 ∧ n ≠ 63 ∧ n ≠ 58 := by
  decide +kernel

variable {c : Char} {cs : List Char}

theorem visible (h : Visible c) : space c = false ∧ dot c = true := by
  have htable := visible_table c.toNat h.2 h.1
  rwa [Char.ofNat_toNat] at htable

theorem toNat_lt_of_isAlphanum (h : c.isAlphanum = true) : c.toNat < 128 := by
  delta Char.isAlphanum Char.isAlpha Char.isUpper Char.isLower Char.isDigit at h
  simp only [Bool.or_eq_true, Bool.and_eq_true, decide_eq_true_eq, UInt32.le_iff_toNat_le, ge_iff_le] at h
  change ((65 ≤ c.toNat ∧ c.toNat ≤ 90) ∨ (97 ≤ c.toNat ∧ c.toNat ≤ 122)) ∨
    (48 ≤ c.toNat ∧ c.toNat ≤ 57) at h
  omega

theorem toNat_lt_of_isHostChar (h : isHostChar c = true) : c.toNat < 128 := by
  rw [isHostChar, Bool.or_eq_true, Bool.or_eq_true, beq_iff_eq, beq_iff_eq] at h
  rcases h with (h | rfl) | rfl
  · exact toNat_lt_of_isAlphanum h
  · decide
  · decide

theorem ne_of_toNat {d : Char} (h : c.toNat ≠ d.toNat) : c ≠ d := by
  rintro rfl
  exact h rfl

theorem hostChar (h : isHostChar c = true) : Addressed c ∧ c ≠ ':' := by
  have htable := host_table c.toNat (toNat_lt_of_isHostChar h)
  rw [Char.ofNat_toNat] at htable
  obtain ⟨hlow, hhigh, hcomma, hcomment, hslash, hquery, hcolon⟩ := htable h
  exact ⟨⟨⟨hlow, hhigh⟩, ne_of_toNat hcomma, ne_of_toNat hcomment, ne_of_toNat hslash, ne_of_toNat hquery⟩,
    ne_of_toNat hcolon⟩

theorem addressed_of_isAddressChar (h : Cidr.isAddressChar c = true) : Addressed c := by
  have hblock := Cidr.toNat_of_isBlockChar (Cidr.isBlockChar_of_isAddressChar h)
  have hslash : c ≠ '/' := by
    rintro rfl
    revert h
    decide
  exact ⟨⟨by omega, by omega⟩, ne_of_toNat (by change c.toNat ≠ 44; omega),
    ne_of_toNat (by change c.toNat ≠ 35; omega), hslash, ne_of_toNat (by change c.toNat ≠ 63; omega)⟩

theorem host_of_uri {u : Uri} (h : uri cs = some u) (hport : 0 ≤ u.port) :
    u.host ≠ [] ∧ ∀ c ∈ u.host, isHostChar c = true := by
  rw [uri] at h
  split at h
  next =>
    rw [authority] at h
    split at h
    next =>
      split at h
      next hgood =>
        cases h
        exact ⟨hgood.1, fun c hc => List.mem_takeWhile_imp hc⟩
      next => cases h
    next =>
      cases h
      exact absurd hport (Int.not_le.mpr (Int.negSucc_lt_zero 0))
    next => cases h
  next => cases h

theorem uri_host_port {host : List Char} (hne : host ≠ []) (hhost : ∀ c ∈ host, isHostChar c = true) (port : Nat) :
    uri ("awg://".toList ++ (host ++ ':' :: Nat.toDigits 10 port)) = some ⟨host, port⟩ := by
  have hcolon : isHostChar ':' = false := by decide
  have hdrop : ("awg://".toList ++ (host ++ ':' :: Nat.toDigits 10 port)).drop 6 =
      host ++ ':' :: Nat.toDigits 10 port := rfl
  rw [uri, if_pos (List.isPrefixOf_iff_prefix.mpr (List.prefix_append _ _)), hdrop, authority,
    List.dropWhile_append_of_pos hhost, List.dropWhile_cons_of_neg (by simp [hcolon]),
    List.takeWhile_append_of_pos hhost, List.takeWhile_cons_of_neg (by simp [hcolon]), List.append_nil]
  simp only
  rw [if_pos, digitsValue_toDigits]
  exact ⟨hne, List.ne_nil_of_length_pos Nat.length_toDigits_pos,
    List.all_eq_true.mpr fun c hc => isDigit_digit hc⟩

theorem space_blank : space ' ' = true := by decide

theorem dot_blank : dot ' ' = true := by decide

theorem word_blank : word ' ' = false := by decide

theorem word_iff (c : Char) : word c = true ↔ c.isAlphanum = true ∨ c = '_' := by
  rw [word, Bool.or_eq_true, beq_iff_eq]

theorem digit_of_isDigit (h : isDigit c = true) : digit c = some (c.toNat - '0'.toNat) := by
  rw [digit, if_pos h]

theorem parse_address (a : Address) : parseNumericAddress a.val = some a := by
  rw [parseNumericAddress, dif_pos a.property]
  rfl

theorem address_ne_nil (a : Address) : a.val ≠ [] := by
  intro h
  have hfalse := a.property
  rw [h] at hfalse
  revert hfalse
  decide

theorem addressed_host {u : Uri} (h : uri cs = some u) (hport : 0 ≤ u.port) :
    (∀ c ∈ u.host, Addressed c) ∧ (':' ∈ u.host → '[' ∈ u.host) := by
  have hhost := (host_of_uri h hport).2
  exact ⟨fun c hc => (hostChar (hhost c hc)).1, fun hc => absurd rfl (hostChar (hhost _ hc)).2⟩

theorem uri_again {u : Uri} (h : uri cs = some u) (hport : 0 ≤ u.port) (port : Nat) :
    uri ("awg://".toList ++ (u.host ++ ':' :: Nat.toDigits 10 port)) = some ⟨u.host, port⟩ :=
  uri_host_port (host_of_uri h hport).1 (host_of_uri h hport).2 port

end Ascii

def ascii : Platform where
  space := Ascii.space
  word := Ascii.word
  dot := Ascii.dot
  digit := Ascii.digit
  lower cs := cs.map Char.toLower
  sameLetter c d := c.toLower == d.toLower
  Address := Ascii.Address
  decEq := inferInstance
  isInet4 _ := true
  parseNumericAddress := Ascii.parseNumericAddress
  getHostAddress a := a.val
  uri := Ascii.uri
  space_blank := Ascii.space_blank
  dot_blank := Ascii.dot_blank
  word_blank := Ascii.word_blank
  space_visible _ h := (Ascii.visible h).1
  dot_visible _ h := (Ascii.visible h).2
  word_iff c _ := Ascii.word_iff c
  digit_ascii _ h := Ascii.digit_of_isDigit h
  lower_ascii _ _ := rfl
  sameLetter_self _ := beq_self_eq_true _
  parse_hostAddress := Ascii.parse_address
  hostAddress_ne_nil := Ascii.address_ne_nil
  hostAddress_addressed a _ hc := Ascii.addressed_of_isAddressChar (Cidr.isAddressChar_of_ipv4 a.property hc)
  uri_host _ _ h hport := Ascii.addressed_host h hport
  uri_port _ _ h hport port _ := Ascii.uri_again h hport port

end Awg
