import Mathlib.Data.List.Basic

/-!
# Text as the app's language handles it

The string operations the services use, on the characters of a `String`. `trim` removes the Unicode
white space and the byte order mark, `toLowerCase` is written for the two alphabets the app compares
in, and `InternetAddress.tryParse` only tells the family of an address, which is all the planner of
host routes asks for.
-/

namespace Dart

def isWhitespace (c : Char) : Bool :=
  let n := c.toNat
  (9 ≤ n && n ≤ 13) || n == 0x20 || n == 0x85 || n == 0xA0 || n == 0x1680 ||
    (0x2000 ≤ n && n ≤ 0x200A) || n == 0x2028 || n == 0x2029 || n == 0x202F || n == 0x205F ||
    n == 0x3000 || n == 0xFEFF

def trimChars (cs : List Char) : List Char :=
  ((cs.dropWhile isWhitespace).reverse.dropWhile isWhitespace).reverse

def trim (s : String) : String := String.ofList (trimChars s.toList)

def startsWith (s start : String) : Bool := start.toList.isPrefixOf s.toList

def endsWith (s last : String) : Bool := last.toList.isSuffixOf s.toList

def contains (s part : String) : Bool := s.toList.tails.any fun rest => part.toList.isPrefixOf rest

/-- Lower case for the Latin and the Cyrillic alphabet. -/
def lowerChar (c : Char) : Char :=
  let n := c.toNat
  if 0x41 ≤ n && n ≤ 0x5A then Char.ofNat (n + 32)
  else if 0x410 ≤ n && n ≤ 0x42F then Char.ofNat (n + 32)
  else if 0x400 ≤ n && n ≤ 0x40F then Char.ofNat (n + 80)
  else if n = 0x212A then 'k'
  else c

def toLowerCase (s : String) : String := String.ofList (s.toList.map lowerChar)

def splitChars (separator : Char) : List Char → List (List Char)
  | [] => [[]]
  | c :: cs =>
      if c = separator then [] :: splitChars separator cs
      else
        match splitChars separator cs with
        | [] => [[c]]
        | piece :: pieces => (c :: piece) :: pieces

def split (s : String) (separator : Char) : List String :=
  (splitChars separator s.toList).map String.ofList

/-- `LineSplitter`: lines end at `\n`, `\r` or `\r\n`, and a final line end opens no further line. -/
def linesOfChars : List Char → List Char → List (List Char)
  | [], [] => []
  | line, [] => [line.reverse]
  | line, '\r' :: '\n' :: cs => line.reverse :: linesOfChars [] cs
  | line, '\r' :: cs => line.reverse :: linesOfChars [] cs
  | line, '\n' :: cs => line.reverse :: linesOfChars [] cs
  | line, c :: cs => linesOfChars (c :: line) cs

def lineSplitter (s : String) : List String := (linesOfChars [] s.toList).map String.ofList

/-! ### Addresses -/

inductive InternetAddressType where
  | ipv4
  | ipv6
  deriving DecidableEq, Repr

structure InternetAddress where
  address : String
  type : InternetAddressType
  deriving DecidableEq, Repr

def isDigit (c : Char) : Bool := '0'.toNat ≤ c.toNat && c.toNat ≤ '9'.toNat

def digitsValue (cs : List Char) : Nat :=
  cs.foldl (fun value c => 10 * value + (c.toNat - '0'.toNat)) 0

/-- One decimal byte of a dotted address, without leading zeros. -/
def isOctet (cs : List Char) : Bool :=
  !cs.isEmpty && cs.length ≤ 3 && cs.all isDigit && digitsValue cs ≤ 255 &&
    (cs.length == 1 || cs.head? != some '0')

def isIpv4Chars (cs : List Char) : Bool :=
  let octets := splitChars '.' cs
  octets.length == 4 && octets.all isOctet

def isHexDigit (c : Char) : Bool :=
  isDigit c || ('a'.toNat ≤ c.toNat && c.toNat ≤ 'f'.toNat) ||
    ('A'.toNat ≤ c.toNat && c.toNat ≤ 'F'.toNat)

def isHexGroup (cs : List Char) : Bool := !cs.isEmpty && cs.length ≤ 4 && cs.all isHexDigit

/-- How many 16-bit groups a run of groups stands for; a dotted tail stands for two. -/
def groupCount : List (List Char) → Option Nat
  | [] => some 0
  | [last] => if isHexGroup last then some 1 else if isIpv4Chars last then some 2 else none
  | group :: rest => if isHexGroup group then (groupCount rest).map (· + 1) else none

/-- The parts before and after the first `::`, if there is one. -/
def splitElision : List Char → Option (List Char × List Char)
  | ':' :: ':' :: cs => some ([], cs)
  | c :: cs => (splitElision cs).map fun halves => (c :: halves.1, halves.2)
  | [] => none

def groupsOf (cs : List Char) : List (List Char) := if cs.isEmpty then [] else splitChars ':' cs

def isIpv6Chars (cs : List Char) : Bool :=
  match splitElision cs with
  | none => groupCount (groupsOf cs) == some 8
  | some (before, after) =>
      match groupCount (groupsOf before), groupCount (groupsOf after) with
      | some m, some n => m + n ≤ 7 && !before.contains '.'
      | _, _ => false

/-- `InternetAddress.tryParse(text)?.type`. An address with a zone names an interface of the phone
itself and is not one a profile can carry, so it is not accepted here. -/
def InternetAddress.tryParse (text : String) : Option InternetAddressType :=
  if isIpv4Chars text.toList then some .ipv4
  else if isIpv6Chars text.toList then some .ipv6
  else none

example : InternetAddress.tryParse "2a0a:f280::1" = some .ipv6 := by decide

example : InternetAddress.tryParse "149.154.167.99" = some .ipv4 := by decide

end Dart
