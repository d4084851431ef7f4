import Router1.Keenetic.Rci
import Router1.Api.RouteProfile

/-!
# Reading a tunnel config

`parseConfig` collects the `key = value` lines of a config by section, without regard to letter case,
a later line of the same key replacing an earlier one, and refuses a text without the keys of the
interface, of the peer and of the endpoint.
-/

namespace Keenetic

open Dart Api

structure AwgConfigDetails where
  interfaceAddress : String
  dns : String
  endpoint : String
  allowedIps : String
  persistentKeepalive : String
  hasAwgObfuscation : Bool
  warnings : List String

structure ParsedAwgConfig where
  details : AwgConfigDetails
  privateKey : String
  peerPublicKey : String
  presharedKey : String

abbrev Section := List (String × String)

structure ParseState where
  sections : List (String × Section)
  current : String

/-- `sections.putIfAbsent(name, () => {})`. -/
def openSection (name : String) (sections : List (String × Section)) : List (String × Section) :=
  if (sections.lookup name).isSome then sections else sections ++ [(name, [])]

/-- One line of the loop, with `lower` for `toLowerCase()`. -/
def parseLine (lower : String → String) (state : ParseState) (rawLine : String) : ParseState :=
  let line := trim rawLine
  if line.isEmpty || startsWith line "#" || startsWith line ";" then state
  else if startsWith line "[" && endsWith line "]" then
    let name := lower (String.ofList (line.toList.drop 1).dropLast)
    { sections := openSection name state.sections, current := name }
  else
    let before := line.toList.takeWhile (· != '=')
    -- `indexOf('=')` is not positive when the line has no `=` or starts with it
    if before.length = line.toList.length || before.isEmpty || state.current.isEmpty then state
    else
      let key := lower (trim (String.ofList before))
      let value := trim (String.ofList (line.toList.drop (before.length + 1)))
      let sections := openSection state.current state.sections
      let fields := (sections.lookup state.current).getD []
      { state with sections := put state.current (put key value fields) sections }

def awgKeys : List String := ["jc", "jmin", "jmax", "s1", "s2", "h1", "h2", "h3", "h4"]

/-- `_parseConfig`, with `lower` for `toLowerCase()`. -/
def parseConfigWith (lower : String → String) (value : String) : Except Failure ParsedAwgConfig :=
  let sections := ((lineSplitter value).foldl (parseLine lower) ⟨[], ""⟩).sections
  match sections.lookup "interface", sections.lookup "peer" with
  | some iface, some peer =>
      let read (fields : Section) (key : String) : String := (fields.lookup key).getD ""
      if (read iface "privatekey").isEmpty || (read peer "publickey").isEmpty ||
          (read peer "endpoint").isEmpty then .error .incompleteConfig
      else
        let address := read iface "address"
        let dns := read iface "dns"
        let allowedIps := read peer "allowedips"
        let keepalive := read peer "persistentkeepalive"
        .ok {
          details := {
            interfaceAddress := address
            dns := dns
            endpoint := read peer "endpoint"
            allowedIps := allowedIps
            persistentKeepalive := keepalive
            hasAwgObfuscation := awgKeys.any fun key => (iface.lookup key).isSome
            warnings :=
              (if address.isEmpty then ["В конфиге нет Address."] else []) ++
              (if dns.isEmpty then ["В конфиге нет DNS."] else []) ++
              (if allowedIps.isEmpty then ["В конфиге нет AllowedIPs."] else []) ++
              (if contains allowedIps "::/0" && !contains address ":" then
                ["Маршрут IPv6 включен, но IPv6-адрес интерфейса не указан."] else []) ++
              (if keepalive.isEmpty then
                ["PersistentKeepalive пустой; на мобильных сетях лучше 25-30."] else []) }
          privateKey := read iface "privatekey"
          peerPublicKey := read peer "publickey"
          presharedKey := read peer "presharedkey" }
  | _, _ => .error .incompleteConfig

def parseConfig (value : String) : Except Failure ParsedAwgConfig := parseConfigWith toLowerCase value

/-- `parseAwgConfig`, with `lower` for `toLowerCase()`. -/
def parseAwgConfigWith (lower : String → String) (value : String) : Except Failure AwgConfigDetails := do
  let config ← parseConfigWith lower value
  pure config.details

def parseAwgConfig (value : String) : Except Failure AwgConfigDetails := parseAwgConfigWith toLowerCase value

/-- The pattern `^\d{1,3}(\.\d{1,3}){3}$`. -/
def looksLikeIpv4 (cs : List Char) : Bool :=
  let parts := splitChars '.' cs
  parts.length == 4 &&
    parts.all fun part => !part.isEmpty && part.length ≤ 3 && part.all isDigit

def firstIpv4 (value : String) : Option String :=
  (split value ',').findSome? fun item =>
    let raw := (splitChars '/' (trim item).toList).headD []
    if looksLikeIpv4 raw then some (String.ofList raw) else none

end Keenetic
