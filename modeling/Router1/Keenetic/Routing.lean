import Router1.Keenetic.Interfaces

/-!
# Applying a routing profile

Every batch of command lines the service sends is a pure list, built from the server profile, from
the interfaces chosen in the table and, for the host routes, from the answers of the phone's own name
lookups. `applyRoutingProfile` sends the batches in the order of the source: what an earlier profile
may have left behind is cleared, then the new entries are added.
-/

namespace Keenetic

open Dart Api

inductive RouterRoutingProfile where
  | selective
  | fullTunnel
  deriving DecidableEq, Repr

def hostMask : String := "255.255.255.255"

def hostDestination (address : String) : InternetAddressType → Destination
  | .ipv4 => .ipv4 address hostMask
  | .ipv6 => .ipv6 (address ++ "/128")

/-! ### Clearing -/

/-- One of the lists of a profile, empty without a profile. -/
def listOf {α : Type} (profile : Option Router1RouteProfile) (list : Router1RouteProfile → List α) :
    List α :=
  match profile with
  | some p => list p
  | none => []

def profileIpv4Routes (profile : Option Router1RouteProfile) : List Ipv4Route :=
  listOf profile (·.telegramIpv4Routes) ++ listOf profile (·.mediaIpv4Routes) ++
    listOf profile (·.aiIpv4Routes)

def profileIpv6Routes (profile : Option Router1RouteProfile) : List String :=
  listOf profile (·.telegramIpv6Routes)

def mediaHosts (profile : Option Router1RouteProfile) : List String :=
  listOf profile fun p => p.mediaResolvedHosts.flatMap Prod.snd

def aiHosts (profile : Option Router1RouteProfile) : List String :=
  listOf profile fun p => p.aiResolvedHosts.flatMap Prod.snd

/-- The line that clears a host of the profile. A host that is not an address has none. -/
def clearHost (host : String) : Option Command :=
  (InternetAddress.tryParse host).map fun type => .removeRoute (hostDestination host type)

/-- The batch of `clearRouter1Routing`. -/
def clearCommands (profile : Option Router1RouteProfile) : List Command :=
  [.removeDnsRoute .media, .removeDnsRoute .ai, .removeGroup .media, .removeGroup .ai] ++
  mediaDomains.map (.removeDomain .media) ++
  mediaDomains.map (.removeDomain .ai) ++
  aiDomains.map (.removeDomain .media) ++
  aiDomains.map (.removeDomain .ai) ++
  telegramIpv4Routes.map (fun route => .removeRoute route.destination) ++
  googleIpv4Routes.map (fun route => .removeRoute route.destination) ++
  cloudflareIpv4Routes.map (fun route => .removeRoute route.destination) ++
  [.removeRoute .lowHalf, .removeRoute .highHalf] ++
  (profileIpv4Routes profile).map (fun route => .removeRoute route.destination) ++
  telegramIpv6Routes.map (fun range => .removeRoute (.ipv6 range)) ++
  [.removeRoute .lowHalf6, .removeRoute .highHalf6] ++
  (profileIpv6Routes profile).map (fun range => .removeRoute (.ipv6 range)) ++
  (mediaHosts profile ++ aiHosts profile).filterMap clearHost

def clearRouter1Routing (access : KeeneticAccess) (profile : Option Router1RouteProfile) : Rci Unit :=
  if access.testMode then pure () else runCliCommands (clearCommands profile) true

/-! ### The whole tunnel -/

def fullTunnelCommands (selected : String) : List Command :=
  [.ipGlobal selected, .ipv6Global selected, .mtu1280 selected,
    .removeRouteVia .everything selected,
    .addRoute .lowHalf selected, .addRoute .highHalf selected,
    .addRoute .lowHalf6 selected, .addRoute .highHalf6 selected]

/-- `applyFullTunnelRouting` once the selected interface is known. -/
def sendFullTunnel (access : KeeneticAccess) (profile : Option Router1RouteProfile)
    (selected : String) : Rci Unit := do
  clearRouter1Routing access profile
  runCliCommands (fullTunnelCommands selected) true
  runCliCommands [.saveConfiguration] true

def applyFullTunnelRouting (access : KeeneticAccess) (profile : Option Router1RouteProfile) :
    Rci Unit := do
  if access.testMode then pure ()
  else
    match ← selectedInterface access.ip with
    | none => throw .notSelectedForFullTunnel
    | some selected => sendFullTunnel access profile selected

/-! ### The interfaces of the selective mode -/

/-- The selected interface and the first healthy tunnel to each of the two servers. -/
structure Lanes where
  selected : String
  endpoint : Option String
  fr : Option String
  nl2 : Option String

namespace Lanes

/-- The choice made from one answer to `/rci/show/interface`, whose entries are looked for one level
below the top. -/
def of (interfaces : Json) (selected : String) : Lanes :=
  let interfaceMap := interfaces.field "interface"
  { selected := selected
    endpoint := wireGuardEndpoint interfaceMap selected
    fr := findHealthyWireGuardByEndpoint interfaceMap [frEndpoint]
    nl2 := findHealthyWireGuardByEndpoint interfaceMap [nl2Endpoint] }

def mediaInterface (lanes : Lanes) : String :=
  match lanes.nl2 with
  | some nl2 => if lanes.endpoint = some frEndpoint then nl2 else lanes.selected
  | none => lanes.selected

def aiInterface (lanes : Lanes) : String :=
  match lanes.fr with
  | some fr => if lanes.endpoint = some nl2Endpoint then fr else lanes.selected
  | none => lanes.selected

end Lanes

/-! ### The batches of the selective mode -/

/-- `list.isNotEmpty ? list : fallback`, where a missing profile has no list. -/
def orBuiltIn (profile : Option Router1RouteProfile) (list : Router1RouteProfile → List String)
    (builtIn : List String) : List String :=
  match profile with
  | some p => if (list p).isEmpty then builtIn else list p
  | none => builtIn

def managedMediaDomains (profile : Option Router1RouteProfile) : List String :=
  orBuiltIn profile (·.mediaDomains) mediaDomains

def managedAiDomains (profile : Option Router1RouteProfile) : List String :=
  orBuiltIn profile (·.aiDomains) aiDomains

def mediaProbes (profile : Option Router1RouteProfile) : List String :=
  orBuiltIn profile (·.mediaProbeDomains) mediaResolveDomains

def aiProbes (profile : Option Router1RouteProfile) : List String :=
  orBuiltIn profile (·.aiProbeDomains) aiResolveDomains

def notGlobal (interface : Option String) : List Command :=
  match interface with
  | some name => [.noIpGlobal name, .noIpv6Global name]
  | none => []

def prepareCommands (lanes : Lanes) : List Command :=
  [.noIpGlobal lanes.selected, .noIpv6Global lanes.selected, .mtu1280 lanes.selected,
    .removeRouteVia .everything lanes.selected, .removeRouteVia .everything6 lanes.selected] ++
  notGlobal lanes.fr ++ notGlobal lanes.nl2

def includeDomain (profile : Option Router1RouteProfile) (domain : String) : Command :=
  .addDomain (if domain ∈ managedAiDomains profile then .ai else .media) domain

def groupCommands (profile : Option Router1RouteProfile) (lanes : Lanes) : List Command :=
  [.addGroup .media, .addGroup .ai] ++
  (managedMediaDomains profile ++ managedAiDomains profile).map (includeDomain profile) ++
  [.addDnsRoute .media lanes.mediaInterface, .addDnsRoute .ai lanes.aiInterface]

def routesVia (interface : String) (routes : List Ipv4Route) : List Command :=
  routes.map fun route => .addRoute route.destination interface

def rangesVia (interface : String) (ranges : List String) : List Command :=
  ranges.map fun range => .addRoute (.ipv6 range) interface

def staticCommands (profile : Option Router1RouteProfile) (lanes : Lanes) : List Command :=
  routesVia lanes.mediaInterface telegramIpv4Routes ++
  routesVia lanes.mediaInterface googleIpv4Routes ++
  routesVia lanes.aiInterface cloudflareIpv4Routes ++
  routesVia lanes.mediaInterface (listOf profile (·.telegramIpv4Routes)) ++
  routesVia lanes.mediaInterface (listOf profile (·.mediaIpv4Routes)) ++
  routesVia lanes.aiInterface (listOf profile (·.aiIpv4Routes)) ++
  rangesVia lanes.mediaInterface telegramIpv6Routes ++
  rangesVia lanes.mediaInterface (listOf profile (·.telegramIpv6Routes))

/-! ### Host routes -/

/-- The two accumulators of `_buildResolvedHostRoutes`. -/
structure HostPlan where
  commands : List Command
  seen : List String

namespace HostPlan

def empty : HostPlan := ⟨[], []⟩

def hostKey (address interface : String) : InternetAddressType → String
  | .ipv4 => s!"4:{address}:{interface}"
  | .ipv6 => s!"6:{address}:{interface}"

def addAddress (plan : HostPlan) (value interface : String) : HostPlan :=
  let address := trim value
  if address.isEmpty then plan
  else
    match InternetAddress.tryParse address with
    | none => plan
    | some type =>
        let key := hostKey address interface type
        if key ∈ plan.seen then plan
        else
          { commands := plan.commands ++ [.addRoute (hostDestination address type) interface]
            seen := key :: plan.seen }

def addResolved (interface : String) : HostPlan → List String → HostPlan
  | plan, [] => plan
  | plan, address :: addresses =>
      if 170 ≤ plan.commands.length then plan
      else addResolved interface (plan.addAddress address interface) addresses

/-- The answers of one lookup; the counter says how many more of them may add a route. -/
def addLookedUp (interface : String) : Nat → HostPlan → List InternetAddress → HostPlan
  | 0, plan, _ => plan
  | _ + 1, plan, [] => plan
  | left + 1, plan, address :: addresses =>
      let next := plan.addAddress address.address interface
      if plan.commands.length < next.commands.length then addLookedUp interface left next addresses
      else addLookedUp interface (left + 1) next addresses

/-- What one answered lookup adds; a failed one adds nothing. -/
def addAnswer (plan : HostPlan) (interface : String) : Option (List InternetAddress) → HostPlan
  | some addresses => plan.addLookedUp interface 4 addresses
  | none => plan

/-- One of the two loops over probe domains. -/
def addDomains (interface : String) (limit : Nat) : HostPlan → List String → Rci HostPlan
  | plan, [] => pure plan
  | plan, domain :: domains => do
      if limit ≤ plan.commands.length then pure plan
      else
        let answer ← lookup domain
        addDomains interface limit (plan.addAnswer interface answer) domains

/-- What the resolved hosts of the profile give before any lookup. -/
def ofProfile (profile : Option Router1RouteProfile) (lanes : Lanes) : HostPlan :=
  addResolved lanes.aiInterface
    (addResolved lanes.mediaInterface empty (mediaHosts profile)) (aiHosts profile)

end HostPlan

def buildResolvedHostRoutes (profile : Option Router1RouteProfile) (lanes : Lanes) :
    Rci (List Command) := do
  let media ← HostPlan.addDomains lanes.mediaInterface 90 (.ofProfile profile lanes)
    (mediaProbes profile)
  let plan ← HostPlan.addDomains lanes.aiInterface 170 media (aiProbes profile)
  pure (plan.commands.take 170)

/-! ### Sending the batches -/

/-- `applySelectiveDnsRouting` once the interfaces are chosen. An empty list of host routes is not
sent. -/
def sendSelective (access : KeeneticAccess) (profile : Option Router1RouteProfile) (lanes : Lanes) :
    Rci Unit := do
  clearRouter1Routing access profile
  runCliCommands (prepareCommands lanes) true
  runCliCommands (groupCommands profile lanes) false
  runCliCommands (staticCommands profile lanes) true
  let resolvedRoutes ← buildResolvedHostRoutes profile lanes
  runCliCommands resolvedRoutes true
  runCliCommands [.saveConfiguration] true

def applySelectiveDnsRouting (access : KeeneticAccess) (profile : Option Router1RouteProfile) :
    Rci Unit := do
  if access.testMode then pure ()
  else
    match ← selectedInterface access.ip with
    | none => throw .notSelectedForRouting
    | some selected =>
        let interfaces ← getJson .showInterfaces
        sendSelective access profile (.of interfaces selected)

def applyRoutingProfile (access : KeeneticAccess) (routing : RouterRoutingProfile)
    (profile : Option Router1RouteProfile) : Rci Unit :=
  match routing with
  | .fullTunnel => applyFullTunnelRouting access profile
  | .selective => applySelectiveDnsRouting access profile

end Keenetic
