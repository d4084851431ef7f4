import Router1.Awg.Key
import Router1.Awg.Network
import Router1.Java.LinkedHashSet

/-!
# The config of a tunnel

`Config`, `Interface` and `Peer` of the tunnel library: sections of `Key = Value` lines are read into immutable
records, and the records are printed as the text of a file. All `Interface` sections of a text are read as one;
each `Peer` section is a peer of its own. A peer that cannot be read is reported before an interface that cannot.
-/

namespace Awg

open Dart Text Java

namespace BadConfigException

/-- `BadConfigException.Section` -/
inductive InSection where
  | config
  | interface
  | peer
  deriving DecidableEq, Repr

inductive Location where
  | topLevel
  | address
  | allowedIps
  | dns
  | endpoint
  | includedApplications
  | listenPort
  | mtu
  | persistentKeepalive
  | preSharedKey
  | privateKey
  | publicKey
  | junkPacketCount
  | junkPacketMinSize
  | junkPacketMaxSize
  | initPacketJunkSize
  | responsePacketJunkSize
  | cookieReplyPacketJunkSize
  | transportPacketJunkSize
  deriving DecidableEq, Repr

inductive Reason where
  | invalidKey
  | invalidNumber
  | invalidValue
  | missingAttribute
  | missingSection
  | syntaxError
  | unknownAttribute
  | unknownSection
  deriving DecidableEq, Repr

end BadConfigException

structure BadConfigException where
  inSection : BadConfigException.InSection
  location : BadConfigException.Location
  reason : BadConfigException.Reason
  text : Option (List Char)
  deriving DecidableEq

/-- A failed read of an address, a network or an endpoint, in its place. -/
def ParseException.at {α : Type} (inSection : BadConfigException.InSection)
    (location : BadConfigException.Location) : Except ParseException α → Except BadConfigException α
  | .ok value => .ok value
  | .error e => .error ⟨inSection, location, .invalidValue, some e.text⟩

def toCharArray (cs : List Char) : Units := cs.flatMap charUnits

/-- `Key.fromBase64`, with its failure in its place. -/
def parseKey (inSection : BadConfigException.InSection) (location : BadConfigException.Location)
    (text : List Char) : Except BadConfigException Key :=
  match Key.fromBase64 (toCharArray text) with
  | .ok key => .ok key
  | .error _ => .error ⟨inSection, location, .invalidKey, none⟩

def keyText (key : Key) : List Char := key.toBase64.map fun unit => Char.ofNat unit.toNat

/-- `String.valueOf` of an `int`. -/
def valueOf (value : Int) : List Char := (toString value).toList

/-- A number that is set, up to a bound. -/
abbrev Bounded (max : Nat) := { n : Nat // 0 < n ∧ n ≤ max }

/-- The checks of a number: it must not be negative nor above the bound, and 0 stands for nothing. -/
def bounded (inSection : BadConfigException.InSection) (location : BadConfigException.Location) (max : Nat)
    (value : Int) : Except BadConfigException (Option (Bounded max)) :=
  if h : 0 < value.toNat ∧ value.toNat ≤ max then .ok (some ⟨value.toNat, h⟩)
  else if value = 0 then .ok none
  else .error ⟨inSection, location, .invalidValue, some (valueOf value)⟩

/-- A number is read and checked. -/
def parseBounded (P : Platform) (inSection : BadConfigException.InSection)
    (location : BadConfigException.Location) (max : Nat) (text : List Char) :
    Except BadConfigException (Option (Bounded max)) :=
  match parseInt P text with
  | none => .error ⟨inSection, location, .invalidNumber, some text⟩
  | some value => bounded inSection location max value

/-- The loop of `parseAllowedIPs` and of `parseAddresses`. -/
def addNetworks {P : Platform} (inSection : BadConfigException.InSection) (location : BadConfigException.Location)
    (networks : LinkedHashSet (InetNetwork P)) :
    List (List Char) → Except BadConfigException (LinkedHashSet (InetNetwork P))
  | [] => .ok networks
  | text :: texts => do
      let network ← ParseException.at inSection location (InetNetwork.parse P text)
      addNetworks inSection location (networks.add network) texts

/-! ### Peers -/

structure Peer (P : Platform) where
  allowedIps : LinkedHashSet (InetNetwork P)
  endpoint : Option InetEndpoint
  persistentKeepalive : Option (Bounded 65535)
  preSharedKey : Option Key
  publicKey : Key

namespace Peer

structure Builder (P : Platform) where
  allowedIps : LinkedHashSet (InetNetwork P)
  endpoint : Option InetEndpoint
  persistentKeepalive : Option (Bounded 65535)
  preSharedKey : Option Key
  publicKey : Option Key

namespace Builder

variable {P : Platform}

def initial : Builder P where
  allowedIps := .empty
  endpoint := none
  persistentKeepalive := none
  preSharedKey := none
  publicKey := none

def build (b : Builder P) : Except BadConfigException (Peer P) :=
  match b.publicKey with
  | none => .error ⟨.peer, .publicKey, .missingAttribute, none⟩
  | some key =>
      .ok {
        allowedIps := b.allowedIps
        endpoint := b.endpoint
        persistentKeepalive := b.persistentKeepalive
        preSharedKey := b.preSharedKey
        publicKey := key }

def parseAllowedIPs (b : Builder P) (text : List Char) : Except BadConfigException (Builder P) := do
  let networks ← addNetworks .peer .allowedIps b.allowedIps (Attribute.split P text)
  return { b with allowedIps := networks }

def parseEndpoint (b : Builder P) (text : List Char) : Except BadConfigException (Builder P) := do
  let endpoint ← ParseException.at .peer .endpoint (InetEndpoint.parse P text)
  return { b with endpoint := some endpoint }

def parsePersistentKeepalive (b : Builder P) (text : List Char) : Except BadConfigException (Builder P) := do
  let value ← parseBounded P .peer .persistentKeepalive 65535 text
  return { b with persistentKeepalive := value }

def parsePreSharedKey (b : Builder P) (text : List Char) : Except BadConfigException (Builder P) := do
  let key ← parseKey .peer .preSharedKey text
  return { b with preSharedKey := some key }

def parsePublicKey (b : Builder P) (text : List Char) : Except BadConfigException (Builder P) := do
  let key ← parseKey .peer .publicKey text
  return { b with publicKey := some key }

/-- The `switch` in the loop of `Peer.parse`. -/
def setAttribute (b : Builder P) (a : Attribute) : Except BadConfigException (Builder P) :=
  match String.ofList (P.lower a.key) with
  | "allowedips" => b.parseAllowedIPs a.value
  | "endpoint" => b.parseEndpoint a.value
  | "persistentkeepalive" => b.parsePersistentKeepalive a.value
  | "presharedkey" => b.parsePreSharedKey a.value
  | "publickey" => b.parsePublicKey a.value
  | _ => .error ⟨.peer, .topLevel, .unknownAttribute, some a.key⟩

/-- One turn of the loop of `Peer.parse`. -/
def parseLine (b : Builder P) (line : List Char) : Except BadConfigException (Builder P) :=
  match Attribute.parse P line with
  | none => .error ⟨.peer, .topLevel, .syntaxError, some line⟩
  | some a => b.setAttribute a

end Builder

variable {P : Platform}

def parse (P : Platform) (lines : List (List Char)) : Except BadConfigException (Peer P) := do
  let b ← lines.foldlM Builder.parseLine (Builder.initial : Builder P)
  b.build

/-- The lines of `toAwgQuickString`. -/
def quickLines (p : Peer P) : List (List Char) :=
  (if p.allowedIps.isEmpty then []
    else [lineOf "AllowedIPs".toList (Attribute.join (p.allowedIps.elements.map InetNetwork.toString))]) ++
  p.endpoint.toList.map (fun e => lineOf "Endpoint".toList e.toString) ++
  p.persistentKeepalive.toList.map (fun n => lineOf "PersistentKeepalive".toList (decimal n.val)) ++
  p.preSharedKey.toList.map (fun key => lineOf "PreSharedKey".toList (keyText key)) ++
  [lineOf "PublicKey".toList (keyText p.publicKey)]

end Peer

/-! ### The interface -/

inductive NumberAttribute where
  | listenPort
  | mtu
  | junkPacketCount
  | junkPacketMinSize
  | junkPacketMaxSize
  | initPacketJunkSize
  | responsePacketJunkSize
  | cookieReplyPacketJunkSize
  | transportPacketJunkSize
  deriving DecidableEq, Repr

namespace NumberAttribute

/-- In the order in which they are printed. -/
def all : List NumberAttribute :=
  [listenPort, mtu, junkPacketCount, junkPacketMinSize, junkPacketMaxSize, initPacketJunkSize,
    responsePacketJunkSize, cookieReplyPacketJunkSize, transportPacketJunkSize]

def name : NumberAttribute → List Char
  | listenPort => "ListenPort".toList
  | mtu => "MTU".toList
  | junkPacketCount => "Jc".toList
  | junkPacketMinSize => "Jmin".toList
  | junkPacketMaxSize => "Jmax".toList
  | initPacketJunkSize => "S1".toList
  | responsePacketJunkSize => "S2".toList
  | cookieReplyPacketJunkSize => "S3".toList
  | transportPacketJunkSize => "S4".toList

def location : NumberAttribute → BadConfigException.Location
  | listenPort => .listenPort
  | mtu => .mtu
  | junkPacketCount => .junkPacketCount
  | junkPacketMinSize => .junkPacketMinSize
  | junkPacketMaxSize => .junkPacketMaxSize
  | initPacketJunkSize => .initPacketJunkSize
  | responsePacketJunkSize => .responsePacketJunkSize
  | cookieReplyPacketJunkSize => .cookieReplyPacketJunkSize
  | transportPacketJunkSize => .transportPacketJunkSize

/-- `MAX_UDP_PORT`, or the largest `int`. -/
def max : NumberAttribute → Nat
  | listenPort => 65535
  | _ => 2147483647

end NumberAttribute

inductive TextAttribute where
  | initPacketMagicHeader
  | responsePacketMagicHeader
  | underloadPacketMagicHeader
  | transportPacketMagicHeader
  | specialJunkI1
  | specialJunkI2
  | specialJunkI3
  | specialJunkI4
  | specialJunkI5
  deriving DecidableEq, Repr

namespace TextAttribute

/-- In the order in which they are printed. -/
def all : List TextAttribute :=
  [initPacketMagicHeader, responsePacketMagicHeader, underloadPacketMagicHeader, transportPacketMagicHeader,
    specialJunkI1, specialJunkI2, specialJunkI3, specialJunkI4, specialJunkI5]

def name : TextAttribute → List Char
  | initPacketMagicHeader => "H1".toList
  | responsePacketMagicHeader => "H2".toList
  | underloadPacketMagicHeader => "H3".toList
  | transportPacketMagicHeader => "H4".toList
  | specialJunkI1 => "I1".toList
  | specialJunkI2 => "I2".toList
  | specialJunkI3 => "I3".toList
  | specialJunkI4 => "I4".toList
  | specialJunkI5 => "I5".toList

end TextAttribute

/-- What an interface and its builder have in common. -/
structure InterfaceFields (P : Platform) where
  addresses : LinkedHashSet (InetNetwork P)
  dnsServers : LinkedHashSet P.Address
  dnsSearchDomains : LinkedHashSet (List Char)
  excludedApplications : LinkedHashSet (List Char)
  includedApplications : LinkedHashSet (List Char)
  number : (a : NumberAttribute) → Option (Bounded a.max)
  text : TextAttribute → Option (List Char)

structure Interface (P : Platform) extends InterfaceFields P where
  /-- The private key of the pair; the public key is computed from it. -/
  keyPair : Key

namespace Interface

structure Builder (P : Platform) extends InterfaceFields P where
  keyPair : Option Key

namespace Builder

variable {P : Platform}

def initial : Builder P where
  addresses := .empty
  dnsServers := .empty
  dnsSearchDomains := .empty
  excludedApplications := .empty
  includedApplications := .empty
  number _ := none
  text _ := none
  keyPair := none

def build (b : Builder P) : Except BadConfigException (Interface P) :=
  match b.keyPair with
  | none => .error ⟨.interface, .privateKey, .missingAttribute, none⟩
  | some key =>
      if !b.includedApplications.isEmpty && !b.excludedApplications.isEmpty then
        .error ⟨.interface, .includedApplications, .invalidKey, none⟩
      else .ok { b.toInterfaceFields with keyPair := key }

def parseAddresses (b : Builder P) (text : List Char) : Except BadConfigException (Builder P) := do
  let networks ← addNetworks .interface .address b.addresses (Attribute.split P text)
  return { b with addresses := networks }

/-- The loop of `parseDnsServers`. -/
def addDns (b : Builder P) : List (List Char) → Except BadConfigException (Builder P)
  | [] => .ok b
  | text :: texts =>
      match InetAddresses.parse P text with
      | .ok address => addDns { b with dnsServers := b.dnsServers.add address } texts
      | .error e =>
          if e.parsingClass ≠ .inetAddress ∨ InetAddresses.isHostname text = false then
            .error ⟨.interface, .dns, .invalidValue, some e.text⟩
          else addDns { b with dnsSearchDomains := b.dnsSearchDomains.add text } texts

def parseDnsServers (b : Builder P) (text : List Char) : Except BadConfigException (Builder P) :=
  b.addDns (Attribute.split P text)

def parseExcludedApplications (b : Builder P) (text : List Char) : Builder P :=
  { b with excludedApplications := b.excludedApplications.addAll (Attribute.split P text) }

def parseIncludedApplications (b : Builder P) (text : List Char) : Builder P :=
  { b with includedApplications := b.includedApplications.addAll (Attribute.split P text) }

/-- `parseListenPort`, `parseMtu`, `parseJunkPacketCount` and so on, with their setters. -/
def parseNumber (b : Builder P) (a : NumberAttribute) (text : List Char) :
    Except BadConfigException (Builder P) := do
  let value ← parseBounded P .interface a.location a.max text
  return { b with number := Function.update b.number a value }

/-- `parseInitPacketMagicHeader` and so on. -/
def parseText (b : Builder P) (a : TextAttribute) (text : List Char) : Builder P :=
  { b with text := Function.update b.text a (if (trim text).isEmpty then none else some (trim text)) }

def parsePrivateKey (b : Builder P) (text : List Char) : Except BadConfigException (Builder P) := do
  let key ← parseKey .interface .privateKey text
  return { b with keyPair := some key }

/-- The `switch` in the loop of `Interface.parse`. -/
def setAttribute (b : Builder P) (a : Attribute) : Except BadConfigException (Builder P) :=
  match String.ofList (P.lower a.key) with
  | "address" => b.parseAddresses a.value
  | "dns" => b.parseDnsServers a.value
  | "excludedapplications" => .ok (b.parseExcludedApplications a.value)
  | "includedapplications" => .ok (b.parseIncludedApplications a.value)
  | "listenport" => b.parseNumber .listenPort a.value
  | "mtu" => b.parseNumber .mtu a.value
  | "privatekey" => b.parsePrivateKey a.value
  | "jc" => b.parseNumber .junkPacketCount a.value
  | "jmin" => b.parseNumber .junkPacketMinSize a.value
  | "jmax" => b.parseNumber .junkPacketMaxSize a.value
  | "s1" => b.parseNumber .initPacketJunkSize a.value
  | "s2" => b.parseNumber .responsePacketJunkSize a.value
  | "s3" => b.parseNumber .cookieReplyPacketJunkSize a.value
  | "s4" => b.parseNumber .transportPacketJunkSize a.value
  | "h1" => .ok (b.parseText .initPacketMagicHeader a.value)
  | "h2" => .ok (b.parseText .responsePacketMagicHeader a.value)
  | "h3" => .ok (b.parseText .underloadPacketMagicHeader a.value)
  | "h4" => .ok (b.parseText .transportPacketMagicHeader a.value)
  | "i1" => .ok (b.parseText .specialJunkI1 a.value)
  | "i2" => .ok (b.parseText .specialJunkI2 a.value)
  | "i3" => .ok (b.parseText .specialJunkI3 a.value)
  | "i4" => .ok (b.parseText .specialJunkI4 a.value)
  | "i5" => .ok (b.parseText .specialJunkI5 a.value)
  | _ => .error ⟨.interface, .topLevel, .unknownAttribute, some a.key⟩

/-- One turn of the loop of `Interface.parse`. -/
def parseLine (b : Builder P) (line : List Char) : Except BadConfigException (Builder P) :=
  match Attribute.parse P line with
  | none => .error ⟨.interface, .topLevel, .syntaxError, some line⟩
  | some a => b.setAttribute a

end Builder

variable {P : Platform}

def parse (P : Platform) (lines : List (List Char)) : Except BadConfigException (Interface P) := do
  let b ← lines.foldlM Builder.parseLine (Builder.initial : Builder P)
  b.build

/-- The lines of `toAwgQuickString`. -/
def quickLines (i : Interface P) : List (List Char) :=
  (if i.addresses.isEmpty then []
    else [lineOf "Address".toList (Attribute.join (i.addresses.elements.map InetNetwork.toString))]) ++
  (if i.dnsServers.isEmpty then []
    else [lineOf "DNS".toList
      (Attribute.join (i.dnsServers.elements.map P.getHostAddress ++ i.dnsSearchDomains.elements))]) ++
  (if i.excludedApplications.isEmpty then []
    else [lineOf "ExcludedApplications".toList (Attribute.join i.excludedApplications.elements)]) ++
  (if i.includedApplications.isEmpty then []
    else [lineOf "IncludedApplications".toList (Attribute.join i.includedApplications.elements)]) ++
  NumberAttribute.all.flatMap (fun a => (i.number a).toList.map fun n => lineOf a.name (decimal n.val)) ++
  TextAttribute.all.flatMap (fun a => (i.text a).toList.map fun text => lineOf a.name text) ++
  [lineOf "PrivateKey".toList (keyText i.keyPair)]

end Interface

/-! ### The whole config -/

structure Config (P : Platform) where
  interfaze : Interface P
  peers : List (Peer P)

namespace Config

variable {P : Platform}

def equalsIgnoreCase (P : Platform) (s t : List Char) : Bool :=
  s.length == t.length && (s.zip t).all fun pair => P.sameLetter pair.1 pair.2

/-- The variables of the loop of `parse`. -/
structure ParseState (P : Platform) where
  peers : List (Peer P)
  interfaceLines : List (List Char)
  peerLines : List (List Char)
  inInterfaceSection : Bool
  inPeerSection : Bool
  seenInterfaceSection : Bool

namespace ParseState

def initial : ParseState P where
  peers := []
  interfaceLines := []
  peerLines := []
  inInterfaceSection := false
  inPeerSection := false
  seenInterfaceSection := false

/-- The peer whose lines were read so far. -/
def parsePeer (s : ParseState P) : Except BadConfigException (ParseState P) := do
  let peer ← Peer.parse P s.peerLines
  return { s with peers := s.peers ++ [peer], peerLines := [] }

def closeSection (s : ParseState P) : Except BadConfigException (ParseState P) :=
  if s.inPeerSection then s.parsePeer else .ok s

def openSection (s : ParseState P) (line : List Char) : Except BadConfigException (ParseState P) := do
  let s ← s.closeSection
  if equalsIgnoreCase P "[Interface]".toList line then
    return { s with inInterfaceSection := true, inPeerSection := false, seenInterfaceSection := true }
  else if equalsIgnoreCase P "[Peer]".toList line then
    return { s with inInterfaceSection := false, inPeerSection := true }
  else .error ⟨.config, .topLevel, .unknownSection, some line⟩

/-- A line without its comment and without the blanks around it. -/
def stripLine (line : List Char) : List Char := trim (line.takeWhile (· != '#'))

/-- One turn of the loop, with what is left of the line. -/
def readLine (s : ParseState P) (line : List Char) : Except BadConfigException (ParseState P) :=
  match line with
  | [] => .ok s
  | '[' :: _ => s.openSection line
  | _ =>
      if s.inInterfaceSection then .ok { s with interfaceLines := s.interfaceLines ++ [line] }
      else if s.inPeerSection then .ok { s with peerLines := s.peerLines ++ [line] }
      else .error ⟨.config, .topLevel, .unknownSection, some line⟩

/-- What follows the loop. -/
def finish (s : ParseState P) : Except BadConfigException (Config P) := do
  let s ← s.closeSection
  if s.seenInterfaceSection = false then .error ⟨.config, .topLevel, .missingSection, none⟩
  let interfaze ← Interface.parse P s.interfaceLines
  return ⟨interfaze, s.peers⟩

end ParseState

def parse (P : Platform) (text : List Char) : Except BadConfigException (Config P) := do
  let s ← ((linesOfChars [] text).map ParseState.stripLine).foldlM ParseState.readLine
    (ParseState.initial : ParseState P)
  s.finish

/-- The lines of `toAwgQuickString`. -/
def quickLines (c : Config P) : List (List Char) :=
  "[Interface]".toList :: c.interfaze.quickLines ++
    c.peers.flatMap fun peer => [] :: "[Peer]".toList :: peer.quickLines

def toAwgQuickString (c : Config P) : List Char := c.quickLines.flatMap fun line => line ++ ['\n']

end Config

end Awg
