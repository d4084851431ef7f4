import Router1.Keenetic.History

/-!
# Routes of one call that contradict each other

One call of the selective mode adds routes for two kinds of traffic, and each kind has its interface.
The hosts among them are planned one after the other, within two limits and without planning a host
twice for one interface. Here the plan is made once more, with the kind of traffic in the place of the
interface: that tells which destinations each kind wants. A call gives no destination two interfaces if
and only if both kinds have one interface, or no destination is wanted by both.
-/

namespace Keenetic

open Dart Api Remote
open Remote.Program (Calls)

variable {profile : Option Router1RouteProfile} {lanes : Lanes} {g : FqdnGroup}
  {answers : Nat → Option (List InternetAddress)}

def Lanes.interfaceOf (lanes : Lanes) : FqdnGroup → String
  | .media => lanes.mediaInterface
  | .ai => lanes.aiInterface

/-! ### The hosts each kind takes -/

/-- The hosts taken so far, each with the kind it is taken for, and the keys they have left. -/
structure HostShare where
  taken : List (FqdnGroup × Destination)
  seen : List String

namespace HostShare

def empty : HostShare := ⟨[], []⟩

/-- The kind takes a host, unless it is no address or was taken for the same interface before. -/
def take (lanes : Lanes) (g : FqdnGroup) (share : HostShare) (host : String) : HostShare :=
  match InternetAddress.tryParse (trim host) with
  | none => share
  | some type =>
      let key := HostPlan.hostKey (trim host) (lanes.interfaceOf g) type
      if key ∈ share.seen then share
      else ⟨share.taken ++ [(g, hostDestination (trim host) type)], key :: share.seen⟩

end HostShare

namespace HostShare

def route (lanes : Lanes) (host : FqdnGroup × Destination) : Command :=
  .addRoute host.2 (lanes.interfaceOf host.1)

/-- The plan that the hosts taken so far stand for. -/
def plan (lanes : Lanes) (share : HostShare) : HostPlan := ⟨share.taken.map (route lanes), share.seen⟩

end HostShare

section Runs

variable {net : Net} {s t : Session} {access : KeeneticAccess} {selected : String}
  {R : Request → Prop} {α β : Type}

end Runs

/-! ### Every call that reads one table -/

namespace RoutingCall

variable {access : KeeneticAccess} {s : Session} {selected : String} {c : RoutingCall} {table : Json}

/-- All lines that the call sends. -/
def issued (c : RoutingCall) (access : KeeneticAccess) (s : Session) : List Command :=
  (c.run access s).2.exchanges.flatMap Exchange.commands

def tunnelAt (endpoint : String) : Json :=
  .obj [("state", .str "up"), ("connected", .str "yes"), ("remote-endpoint-address", .str endpoint)]

def twoServers : Json :=
  .obj [("interface", .obj [("Wireguard0", tunnelAt frEndpoint), ("Wireguard1", tunnelAt nl2Endpoint)])]

end RoutingCall

end Keenetic
