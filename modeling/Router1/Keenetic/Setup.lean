import Router1.Keenetic.Routing

/-!
# Installing and switching tunnels

The operations of the service on the tunnels of one router. Installing a config takes the other
Router1 tunnels down and, once the new one has a handshake, deletes them; when anything fails on the
way a plan made at the start is carried out. Switching to the standby tunnel brings it up, applies the
routing to it and takes the old tunnel down; when anything fails, the two interfaces are put back.
-/

namespace Keenetic

open Dart Remote

/-- `_retryKeenetic` around the request that brings an interface up. -/
def bringUp (name : String) : Rci Unit := do
  let _ ← retryKeenetic (postRci (.interfaceUp name))

/-- `_retryKeenetic` around the request that takes an interface down. -/
def takeDown (name : String) : Rci Unit := do
  let _ ← retryKeenetic (postRci (.interfaceDown name))

/-! ### Installing a config -/

def importFilename (config : ParsedAwgConfig) : String :=
  let address := (firstIpv4 config.details.interfaceAddress).getD "vpn"
  s!"router1_{address}.conf"

/-- A text field of the reply to an import, when there is something in it. -/
def replyText (fields : List (String × Json)) (key : String) : Option String :=
  match (Json.get fields key).toText? with
  | some text => if text.isEmpty then none else some text
  | none => none

def importWireGuardConfig (configText : String) (config : ParsedAwgConfig) : Rci String := do
  match ← exchange (.importConfig configText (importFilename config)) with
  | .error .timeout => throw .importNoAnswer
  | .error .socket => throw .importUnreachable
  | .error cause => throw (.fault cause)
  | .ok response =>
      if response.isSuccess then
        match ← jsonDecode response.body with
        | .obj fields =>
            match replyText fields "created", replyText fields "intersects" with
            | some created, _ => pure created
            | none, some intersects => throw (.importIntersects intersects)
            | none, none => throw .importUnnamed
        | _ => throw .typeError
      else throw .importNotAuthorised

/-- `found ??= await _importWireGuardConfig(...)`. -/
def foundOrImported (found : Option String) (configText : String) (config : ParsedAwgConfig) :
    Rci String :=
  match found with
  | some name => pure name
  | none => importWireGuardConfig configText config

structure KeeneticRollbackPlan where
  selectedInterface : String
  createdByImport : Bool
  selectedWasUp : Bool
  competingInterfaces : List String

/-- The try block of `createAwgConnection`. -/
def establish (plan : KeeneticRollbackPlan) : Rci Unit := do
  runCliCommands [.noIpGlobal plan.selectedInterface, .mtu1280 plan.selectedInterface] false
  bringUp plan.selectedInterface
  plan.competingInterfaces.forM takeDown
  let status ← waitForHandshake plan.selectedInterface
  if status.handshakeOk then
    plan.competingInterfaces.forM fun name =>
      MonadExcept.tryCatch (deleteRci name) fun _ => pure ()
    saveConfiguration
  else throw (.noHandshake status.message)

def rollbackSetup (plan : KeeneticRollbackPlan) : Rci Unit := do
  plan.competingInterfaces.forM bringUp
  if plan.createdByImport then deleteRci plan.selectedInterface
  else if plan.selectedWasUp then pure ()
  else takeDown plan.selectedInterface
  saveConfiguration

/-- The plan for the interface that was found in the table, or imported because none was. -/
def rollbackPlan (entries : List (String × Json)) (found : Option String) (selected : String) :
    KeeneticRollbackPlan where
  selectedInterface := selected
  createdByImport := found.isNone
  selectedWasUp := found.isSome && showsUp entries selected
  competingInterfaces := findCompetingWireGuardInterfaces entries selected

/-- Everything `createAwgConnection` does once the selected interface is known. -/
def establishOrRollBack (plan : KeeneticRollbackPlan) : Rci Unit :=
  MonadExcept.tryCatch (establish plan) fun error => do
    rollbackSetup plan
    throw (.notApplied (error.message?.getD error.toText))

def createAwgConnection (access : KeeneticAccess) (configText : String) : Rci Unit := do
  if access.testMode then pure ()
  else
    let config ← Program.ofExcept (parseConfig configText)
    match ← getJson .showInterfaces with
    | .obj entries =>
        let found := findMatchingWireGuardInterface entries config
        let selected ← foundOrImported found configText config
        setSelectedInterface access.ip selected
        establishOrRollBack (rollbackPlan entries found selected)
    | _ => throw .noInterfaceList

def installStandbyAwgConfig (access : KeeneticAccess) (configText : String) : Rci String := do
  if access.testMode then pure "WireguardStandby"
  else
    let config ← Program.ofExcept (parseConfig configText)
    match ← getJson .showInterfaces with
    | .obj entries =>
        let found := findMatchingWireGuardInterface entries config
        let standby ← foundOrImported found configText config
        if (← selectedInterface access.ip) = some standby then throw .standbyIsMain
        else
          runCliCommands [.noIpGlobal standby, .noIpv6Global standby, .mtu1280 standby] true
          takeDown standby
          setStandbyInterface access.ip standby
          saveConfiguration
          pure standby
    | _ => throw .noStandbyInterfaceList

/-! ### Looking at what is installed -/

def startAndCheckTunnel (access : KeeneticAccess) : Rci TunnelStatus := do
  if access.testMode then pure ⟨true, true, "Handshake получен. Туннель активен."⟩
  else
    match ← selectedInterface access.ip with
    | some name => readTunnelStatus name
    | none => throw .notSelectedForCheck

/-- The names of the entries that lead to a Router1 server. -/
def router1Candidates (entries : List (String × Json)) : List String :=
  (entries.filter fun entry =>
    startsWith entry.1 "Wireguard" && hasEndpointIn (.obj entries) entry.1 router1Endpoints).map
    Prod.fst

/-- The first candidate that is up, or else the first one. -/
def preferredCandidate (entries : List (String × Json)) : Option String :=
  let candidates := router1Candidates entries
  candidates.find? (showsUp entries) <|> candidates.head?

def attachAndCheckExistingTunnel (access : KeeneticAccess) : Rci TunnelStatus := do
  match ← getJson .showInterfaces with
  | .obj entries =>
      match preferredCandidate entries with
      | none => throw .notFound
      | some selected =>
          setSelectedInterface access.ip selected
          match (router1Candidates entries).find? fun name => name != selected with
          | some standby => setStandbyInterface access.ip standby
          | none => pure ()
          readTunnelStatus selected
  | _ => throw .noConnectionList

def checkSelectedTunnel (access : KeeneticAccess) : Rci TunnelStatus := do
  match ← selectedInterface access.ip with
  | none => attachAndCheckExistingTunnel access
  | some selected => readTunnelStatus selected

/-! ### Switching -/

/-- What `switchToStandbyTunnel` does up to the point where the old tunnel is down. -/
def moveToStandby (access : KeeneticAccess) (routing : RouterRoutingProfile)
    (profile : Option Api.Router1RouteProfile) (current standby : String) : Rci TunnelStatus := do
  bringUp standby
  let status ← waitForHandshake standby
  if status.handshakeOk then
    setSelectedInterface access.ip standby
    applyRoutingProfile access routing profile
    takeDown current
    pure status
  else throw (.noHandshake status.message)

/-- The try block of `switchToStandbyTunnel`. -/
def switchOver (access : KeeneticAccess) (routing : RouterRoutingProfile)
    (profile : Option Api.Router1RouteProfile) (current standby : String) : Rci TunnelStatus := do
  let status ← moveToStandby access routing profile current standby
  setStandbyInterface access.ip current
  saveConfiguration
  pure status

/-- The catch block of `switchToStandbyTunnel`. -/
def putBack (access : KeeneticAccess) (current standby : String) (error : Failure) :
    Rci TunnelStatus := do
  setSelectedInterface access.ip current
  MonadExcept.tryCatch (do let _ ← postRci (.interfaceUp current)) fun _ => pure ()
  MonadExcept.tryCatch (do let _ ← postRci (.interfaceDown standby)) fun _ => pure ()
  throw (.standbyNotEnabled error.toText)

def switchToStandbyTunnel (access : KeeneticAccess) (routing : RouterRoutingProfile)
    (profile : Option Api.Router1RouteProfile) : Rci TunnelStatus := do
  match ← selectedInterface access.ip, ← standbyInterface access.ip with
  | some current, some standby =>
      if current = standby then throw .noSeparateStandby
      else
        MonadExcept.tryCatch (switchOver access routing profile current standby)
          (putBack access current standby)
  | _, _ => throw .noSeparateStandby

def setSelectedTunnelEnabled (access : KeeneticAccess) (enabled : Bool) : Rci Unit := do
  match ← selectedInterface access.ip with
  | none => throw .notSelectedForControl
  | some name =>
      if enabled then bringUp name else takeDown name
      saveConfiguration

def restartSelectedTunnel (access : KeeneticAccess) : Rci Unit := do
  setSelectedTunnelEnabled access false
  setSelectedTunnelEnabled access true

end Keenetic
