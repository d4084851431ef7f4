import Router1.Keenetic.Config

/-!
# Reading the interface table

How the service finds tunnels in the router's answers. An endpoint is the top-level address of an
entry or, without one, the address of its first peer.
-/

namespace Keenetic

open Dart

def frEndpoint : String := "213.176.93.13"
def nl2Endpoint : String := "201.51.23.60"
def router1Endpoints : List String := [frEndpoint, nl2Endpoint, "92.51.46.27"]

/-- `value?.toString().trim()` when there is something left of it. -/
def presentText (value : Json) : Option String :=
  match value.toText? with
  | some text => if (trim text).isEmpty then none else some (trim text)
  | none => none

def wireGuardEndpoint (interfaces : Json) (name : String) : Option String :=
  match interfaces.field name with
  | .obj fields =>
      match presentText (Json.get fields "remote-endpoint-address") with
      | some address => some address
      | none =>
          match ((Json.get fields "wireguard").field "peer").firstMap? with
          | some peer => presentText (peer.field "remote-endpoint-address")
          | none => none
  | _ => none

def hasEndpointIn (interfaces : Json) (name : String) (endpoints : List String) : Bool :=
  match wireGuardEndpoint interfaces name with
  | some endpoint => endpoints.contains endpoint
  | none => false

def findHealthyWireGuardByEndpoint (interfaces : Json) (endpoints : List String) : Option String :=
  match interfaces with
  | .obj entries =>
      (entries.find? fun entry =>
        startsWith entry.1 "Wireguard" && entry.2.isMap &&
          (entry.2.field "connected").isText "yes" && (entry.2.field "state").isText "up" &&
          hasEndpointIn interfaces entry.1 endpoints).map Prod.fst
  | _ => none

def findCompetingWireGuardInterfaces (entries : List (String × Json)) (selected : String) :
    List String :=
  (entries.filter fun entry =>
    entry.1 != selected && startsWith entry.1 "Wireguard" &&
      hasEndpointIn (.obj entries) entry.1 router1Endpoints).map Prod.fst

def findMatchingWireGuardInterface (entries : List (String × Json)) (config : ParsedAwgConfig) :
    Option String :=
  match firstIpv4 config.details.interfaceAddress with
  | some address =>
      (entries.find? fun entry =>
        startsWith entry.1 "Wireguard" && entry.2.isMap &&
          (entry.2.field "address").isText address).map Prod.fst
  | none => none

/-- The entry of an interface says that it is up. -/
def showsUp (entries : List (String × Json)) (name : String) : Bool :=
  ((Json.get entries name).field "state").isText "up"

/-! ### The state of one tunnel -/

structure TunnelStatus where
  active : Bool
  handshakeOk : Bool
  message : String

/-- `raw is num ? raw.toInt() : null`, which raises on an infinite number. -/
def handshakeSeconds : Json → Except Failure (Option Int)
  | .int value => .ok (some value)
  | .double value =>
      match value.toInt with
      | some seconds => .ok (some seconds)
      | none => .error .unsupported
  | _ => .ok none

/-- The part of `_readTunnelStatus` after the answer is decoded. -/
def tunnelStatusOf (name : String) (value : Json) : Except Failure TunnelStatus :=
  match value with
  | .obj fields => do
      let wireguard := Json.get fields "wireguard"
      let peer := ((wireguard.field "peer").firstMap?).getD (.obj [])
      let active := (Json.get fields "state").isText "up" &&
        (Json.get fields "connected").isText "yes" && (wireguard.field "status").isText "up"
      let online := (peer.field "online").isTrue
      let handshake ← handshakeSeconds (peer.field "last-handshake")
      match handshake with
      | some seconds =>
          if active && online && 0 ≤ seconds && seconds < 1800 then
            pure ⟨active, true, s!"Handshake получен через {name} {seconds}s назад."⟩
          else pure ⟨active, false, unconfirmed⟩
      | none => pure ⟨active, false, unconfirmed⟩
  | _ => .error .noTunnelStatus
where
  unconfirmed : String := s!"Туннель {name} поднят, но свежий handshake пока не подтверждён."

def readTunnelStatus (name : String) : Rci TunnelStatus := do
  let value ← getJson (.showInterface name)
  Remote.Program.ofExcept (tunnelStatusOf name value)

/-- The remaining attempts of `_waitForHandshake`. -/
def waitFrom (name : String) : Nat → TunnelStatus → Rci TunnelStatus
  | 0, status => pure status
  | attempts + 1, _ => do
      let status ← readTunnelStatus name
      if status.handshakeOk then pure status else waitFrom name attempts status

/-- `_waitForHandshake`: six attempts. -/
def waitForHandshake (name : String) : Rci TunnelStatus :=
  waitFrom name 6 ⟨false, false, "Handshake пока не получен."⟩

end Keenetic
