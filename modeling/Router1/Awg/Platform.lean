import Router1.Dart.JsonText
import Router1.Text.Fields

/-!
# What the tunnel library takes from its platform

The config classes are written against regular expressions, `Character`, `InetAddress` and `URI`, which differ
between Java and Android: `\s` and `\w` know Unicode on Android and ASCII elsewhere, numeric addresses are parsed
by the system. They are parameters here, with what their documentation says about ASCII characters and about
the texts they write themselves. A text was decoded from UTF-8, so it is a list of characters.
-/

namespace Awg

open Dart Text

/-- What `String.trim` removes. -/
def blank (c : Char) : Bool := c.toNat ≤ 32

def trim (cs : List Char) : List Char := strip blank cs

/-- The ASCII characters that can be seen. -/
def Visible (c : Char) : Prop := 32 < c.toNat ∧ c.toNat < 127

instance : DecidablePred Visible := fun _ => inferInstanceAs (Decidable (_ ∧ _))

/-- The characters of an address or of a host. -/
structure Addressed (c : Char) : Prop where
  visible : Visible c
  comma : c ≠ ','
  comment : c ≠ '#'
  slash : c ≠ '/'
  query : c ≠ '?'

/-- `getHost` and `getPort` of a URI. One that has no host has no port, which is then -1. -/
structure Uri where
  host : List Char
  port : Int

structure Platform where
  /-- `\s` -/
  space : Char → Bool
  /-- `\w` -/
  word : Char → Bool
  /-- The characters that `.` stands for. -/
  dot : Char → Bool
  /-- `Character.digit` to the base ten. -/
  digit : Char → Option Nat
  /-- `toLowerCase(Locale.ENGLISH)` -/
  lower : List Char → List Char
  /-- The comparison of two characters in `equalsIgnoreCase`. -/
  sameLetter : Char → Char → Bool
  Address : Type
  decEq : DecidableEq Address
  /-- The address is an `Inet4Address`. -/
  isInet4 : Address → Bool
  parseNumericAddress : List Char → Option Address
  getHostAddress : Address → List Char
  /-- `new URI`, which may fail. -/
  uri : List Char → Option Uri
  space_blank : space ' ' = true
  dot_blank : dot ' ' = true
  word_blank : word ' ' = false
  space_visible : ∀ c, Visible c → space c = false
  dot_visible : ∀ c, Visible c → dot c = true
  word_iff : ∀ c, Visible c → (word c = true ↔ c.isAlphanum = true ∨ c = '_')
  digit_ascii : ∀ c, isDigit c = true → digit c = some (c.toNat - '0'.toNat)
  lower_ascii : ∀ cs, (∀ c ∈ cs, c.toNat < 128) → lower cs = cs.map Char.toLower
  sameLetter_self : ∀ c, sameLetter c c = true
  parse_hostAddress : ∀ a, parseNumericAddress (getHostAddress a) = some a
  hostAddress_ne_nil : ∀ a, getHostAddress a ≠ []
  hostAddress_addressed : ∀ a, ∀ c ∈ getHostAddress a, Addressed c
  uri_host : ∀ text u, uri text = some u → 0 ≤ u.port →
    (∀ c ∈ u.host, Addressed c) ∧ (':' ∈ u.host → '[' ∈ u.host)
  /-- The host of a URI and a port make a URI with this host and this port. -/
  uri_port : ∀ text u, uri text = some u → 0 ≤ u.port → ∀ port ≤ 65535,
    uri ("awg://".toList ++ (u.host ++ ':' :: Nat.toDigits 10 port)) = some ⟨u.host, port⟩

instance (P : Platform) : DecidableEq P.Address := P.decEq

end Awg
