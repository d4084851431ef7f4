import Router1.Awg.Attribute

/-!
# Addresses, networks and endpoints

`InetAddresses`, `InetNetwork` and `InetEndpoint`: what is read from a field of a config, and what is printed.
A printed network or endpoint is read as itself again.
-/

namespace Awg

open Dart Text

variable (P : Platform)

/-- The class that a `ParseException` names. -/
inductive ParsingClass where
  | inetAddress
  | inetNetwork
  | inetEndpoint
  | integer
  deriving DecidableEq, Repr

structure ParseException where
  parsingClass : ParsingClass
  text : List Char
  deriving DecidableEq

namespace InetAddresses

def parse (address : List Char) : Except ParseException P.Address :=
  if address.isEmpty then .error ⟨.inetAddress, address⟩
  else
    match P.parseNumericAddress address with
    | some parsed => .ok parsed
    | none => .error ⟨.inetAddress, address⟩

def isAlphanumeric (c : Char) : Bool :=
  (48 ≤ c.toNat && c.toNat ≤ 57) || (65 ≤ c.toNat && c.toNat ≤ 90) || (97 ≤ c.toNat && c.toNat ≤ 122)

/-- One label of `VALID_HOSTNAME`. -/
def isLabel (cs : List Char) : Bool :=
  cs.length ≤ 63 && cs.all (fun c => isAlphanumeric c || c == '-') &&
    cs.head?.any isAlphanumeric && cs.getLast?.any isAlphanumeric

/-- `isHostname`: labels with dots between them and perhaps one after them, at most 255 characters. -/
def isHostname (maybeHostname : List Char) : Bool :=
  maybeHostname.length ≤ 255 &&
    (let labels := splitChars '.' maybeHostname
     labels.all isLabel || (labels.getLast? == some [] && !labels.dropLast.isEmpty && labels.dropLast.all isLabel))

end InetAddresses

def maxMask (address : P.Address) : Nat := if P.isInet4 address then 32 else 128

structure InetNetwork (P : Platform) where
  address : P.Address
  mask : Nat
  mask_le : mask ≤ maxMask P address
  deriving DecidableEq

/-- The text before the last slash and the text after it. -/
def splitSlash (network : List Char) : Option (List Char × List Char) :=
  if '/' ∈ network then
    some (((network.reverse.dropWhile (· != '/')).drop 1).reverse, (network.reverse.takeWhile (· != '/')).reverse)
  else none

namespace InetNetwork

theorem mask_le_maxMask {rawMask : Int} {max : Nat} (h : rawMask ≤ max) :
    (if 0 ≤ rawMask then rawMask.toNat else max) ≤ max := by
  split
  · omega
  · exact Nat.le_refl max

/-- `parse` once the text is taken apart; a text without a mask has -1 and the empty text for it. -/
def parseParts (rawAddress maskString : List Char) (rawMask : Int) : Except ParseException (InetNetwork P) :=
  match InetAddresses.parse P rawAddress with
  | .error e => .error e
  | .ok address =>
      if h : rawMask ≤ maxMask P address then
        .ok ⟨address, if 0 ≤ rawMask then rawMask.toNat else maxMask P address, mask_le_maxMask h⟩
      else .error ⟨.inetNetwork, maskString⟩

def parse (network : List Char) : Except ParseException (InetNetwork P) :=
  match splitSlash network with
  | some (rawAddress, maskString) =>
      match parseInt P maskString with
      | none => .error ⟨.integer, maskString⟩
      | some rawMask => parseParts P rawAddress maskString rawMask
  | none => parseParts P network [] (-1)

def toString {P : Platform} (n : InetNetwork P) : List Char :=
  P.getHostAddress n.address ++ '/' :: decimal n.mask

end InetNetwork

/-- An endpoint without what `getResolved` remembers. -/
structure InetEndpoint where
  host : List Char
  isResolved : Bool
  port : Nat
  deriving DecidableEq

namespace InetEndpoint

def isForbidden (c : Char) : Bool := c == '/' || c == '?' || c == '#'

def parse (endpoint : List Char) : Except ParseException InetEndpoint :=
  if endpoint.any isForbidden then .error ⟨.inetEndpoint, endpoint⟩
  else
    match P.uri ("awg://".toList ++ endpoint) with
    | none => .error ⟨.inetEndpoint, endpoint⟩
    | some u =>
        if u.port < 0 ∨ 65535 < u.port then .error ⟨.inetEndpoint, endpoint⟩
        else
          match InetAddresses.parse P u.host with
          | .ok _ => .ok ⟨u.host, true, u.port.toNat⟩
          | .error _ => .ok ⟨u.host, false, u.port.toNat⟩

/-- `BARE_IPV6` -/
def isBareIpv6 (host : List Char) : Bool := host.contains ':' && !host.contains '[' && !host.contains ']'

def toString (e : InetEndpoint) : List Char :=
  (if e.isResolved && isBareIpv6 e.host then '[' :: (e.host ++ [']']) else e.host) ++ ':' :: decimal e.port

end InetEndpoint

section RoundTrips

variable {P}

theorem parse_hostAddress (a : P.Address) : InetAddresses.parse P (P.getHostAddress a) = .ok a := by
  rw [InetAddresses.parse, if_neg (by simpa using P.hostAddress_ne_nil a), P.parse_hostAddress]

theorem eq_of_parse_error {text : List Char} {e : ParseException}
    (h : InetAddresses.parse P text = .error e) : e = ⟨.inetAddress, text⟩ := by
  rw [InetAddresses.parse] at h
  split at h
  next =>
    cases h
    rfl
  next =>
    split at h
    next => cases h
    next =>
      cases h
      rfl

theorem splitSlash_append {x y : List Char} (hy : '/' ∉ y) : splitSlash (x ++ '/' :: y) = some (x, y) := by
  have hreverse : (x ++ '/' :: y).reverse = y.reverse ++ '/' :: x.reverse := by simp
  have hpass : ∀ c ∈ y.reverse, (c != '/') = true := by
    intro c hc
    simp only [bne_iff_ne, ne_eq]
    rintro rfl
    exact hy (List.mem_reverse.mp hc)
  rw [splitSlash, if_pos (by simp), hreverse, List.dropWhile_append_of_pos hpass,
    List.takeWhile_append_of_pos hpass]
  simp

theorem digit_ne {n : Nat} {c : Char} (hc : c ∈ decimal n) (d : Char) (hd : isDigit d = false) : c ≠ d := by
  rintro rfl
  rw [isDigit_digit hc] at hd
  cases hd

theorem digit_visible {n : Nat} {c : Char} (hc : c ∈ decimal n) : Visible c := by
  have hdigit := isDigit_digit hc
  simp only [isDigit, Bool.and_eq_true, decide_eq_true_eq] at hdigit
  have h0 : '0'.toNat = 48 := by decide
  have h9 : '9'.toNat = 57 := by decide
  rw [h0, h9] at hdigit
  exact ⟨by omega, by omega⟩

theorem isField_of_visible {value : List Char} (h : ∀ c ∈ value, Visible c ∧ c ≠ ',' ∧ c ≠ '#') :
    IsField P value where
  comma hc := (h _ hc).2.1 rfl
  stripped := stripped_of_visible fun c hc => P.space_visible c (h c hc).1
  inline c hc := (h c hc).1.inline (h c hc).2.2

/-- **A printed network.** -/
theorem InetNetwork.parse_toString (n : InetNetwork P) : parse P n.toString = .ok n := by
  obtain ⟨address, mask, hmask⟩ := n
  have hle : maxMask P address ≤ 128 := by
    rw [maxMask]
    split
    · omega
    · omega
  have hslash : '/' ∉ decimal mask := fun h => digit_ne h '/' (by decide) rfl
  rw [toString, parse, splitSlash_append hslash]
  simp only [parseInt_decimal (by omega : mask < 2147483648)]
  rw [parseParts, parse_hostAddress]
  simp only
  rw [dif_pos (by exact_mod_cast hmask)]
  congr 2

theorem InetNetwork.isField (n : InetNetwork P) : IsField P n.toString := by
  have hchars : ∀ c ∈ n.toString, Visible c ∧ c ≠ ',' ∧ c ≠ '#' := by
    intro c hc
    rw [toString, List.mem_append, List.mem_cons] at hc
    rcases hc with hc | rfl | hc
    · have haddressed := P.hostAddress_addressed n.address c hc
      exact ⟨haddressed.visible, haddressed.comma, haddressed.comment⟩
    · decide
    · exact ⟨digit_visible hc, digit_ne hc ',' (by decide), digit_ne hc '#' (by decide)⟩
  exact isField_of_visible hchars

theorem isField_hostAddress (a : P.Address) : IsField P (P.getHostAddress a) :=
  isField_of_visible fun c hc =>
    have h := P.hostAddress_addressed a c hc
    ⟨h.visible, h.comma, h.comment⟩

/-- An endpoint that was read. -/
def InetEndpoint.Ok (P : Platform) (e : InetEndpoint) : Prop := ∃ text, InetEndpoint.parse P text = .ok e

namespace InetEndpoint

variable {e : InetEndpoint}

theorem Ok.uri (h : e.Ok P) : ∃ text u, P.uri text = some u ∧ 0 ≤ u.port ∧ u.host = e.host ∧ e.port ≤ 65535 ∧
    (e.isResolved = true ↔ ∃ a, InetAddresses.parse P e.host = .ok a) := by
  obtain ⟨endpoint, h⟩ := h
  rw [parse] at h
  split at h
  next => cases h
  next =>
    split at h
    next => cases h
    next u huri =>
      split at h
      next => cases h
      next hport =>
        refine ⟨_, u, huri, by omega, ?_⟩
        split at h
        next a haddress =>
          cases h
          exact ⟨rfl, by simp only; omega, by simp [haddress]⟩
        next failure haddress =>
          cases h
          exact ⟨rfl, by simp only; omega, by simp [haddress]⟩

theorem Ok.toString_eq (h : e.Ok P) : e.toString = e.host ++ ':' :: decimal e.port := by
  obtain ⟨text, u, huri, hport, hhost, -, -⟩ := h.uri
  have hbare : isBareIpv6 e.host = false := by
    have hbrackets := (P.uri_host text u huri hport).2
    rw [hhost] at hbrackets
    rw [isBareIpv6]
    by_cases hcolon : ':' ∈ e.host
    · simp [hbrackets hcolon]
    · simp [hcolon]
  rw [toString, hbare, Bool.and_false, if_neg Bool.false_ne_true]

theorem Ok.addressed (h : e.Ok P) {c : Char} (hc : c ∈ e.host) : Addressed c := by
  obtain ⟨text, u, huri, hport, hhost, -, -⟩ := h.uri
  exact (P.uri_host text u huri hport).1 c (by rw [hhost]; exact hc)

theorem Ok.chars (h : e.Ok P) : ∀ c ∈ e.toString, Visible c ∧ isForbidden c = false ∧ c ≠ ',' := by
  intro c hc
  rw [h.toString_eq, List.mem_append, List.mem_cons] at hc
  rcases hc with hc | rfl | hc
  · have haddressed := h.addressed hc
    refine ⟨haddressed.visible, ?_, haddressed.comma⟩
    simp [isForbidden, haddressed.slash, haddressed.query, haddressed.comment]
  · decide
  · refine ⟨digit_visible hc, ?_, digit_ne hc ',' (by decide)⟩
    simp [isForbidden, digit_ne hc '/' (by decide), digit_ne hc '?' (by decide), digit_ne hc '#' (by decide)]

theorem Ok.isField (h : e.Ok P) : IsField P e.toString := by
  refine isField_of_visible fun c hc => ?_
  obtain ⟨hvisible, hallowed, hcomma⟩ := h.chars c hc
  refine ⟨hvisible, hcomma, ?_⟩
  rintro rfl
  revert hallowed
  decide

/-- **A printed endpoint.** -/
theorem Ok.parse_toString (h : e.Ok P) : parse P e.toString = .ok e := by
  obtain ⟨text, u, huri, hport, hhost, hle, hresolved⟩ := h.uri
  have hagain := P.uri_port text u huri hport e.port hle
  rw [hhost] at hagain
  have hallowed : e.toString.any isForbidden = false :=
    List.any_eq_false.mpr fun c hc => by simp [(h.chars c hc).2.1]
  rw [parse, hallowed, if_neg Bool.false_ne_true, h.toString_eq, decimal, hagain]
  simp only
  rw [if_neg (by omega)]
  obtain ⟨host, isResolved, port⟩ := e
  cases haddress : InetAddresses.parse P host with
  | ok a =>
      have htrue : isResolved = true := hresolved.mpr ⟨a, haddress⟩
      rw [htrue]
      rfl
  | error failure =>
      have hfalse : isResolved = false := by
        rw [← Bool.not_eq_true]
        intro htrue
        obtain ⟨a, ha⟩ := hresolved.mp htrue
        rw [haddress] at ha
        cases ha
      rw [hfalse]
      rfl

end InetEndpoint

end RoundTrips

end Awg
