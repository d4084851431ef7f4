import Router1.Keenetic.Routing

/-!
# The first-run shell

The state of `FirstRunShell` and the callbacks that change it. A callback of a page runs when the page
calls it, which for a callback behind a request may be long after the page was left, so every event can
happen in every state. What the shell shows is a function of its state, and `offers` tells which events
the shown page can start.
-/

namespace App

open Keenetic

inductive FirstRunPath where
  | router
  | gadget
  deriving DecidableEq, Repr

inductive Router1RunMode where
  | demo
  | real
  deriving DecidableEq, Repr

inductive Router1RouteProfileKind where
  | goldStandard
  | ai
  | gamers
  deriving DecidableEq, Repr

def Router1RouteProfileKind.name : Router1RouteProfileKind → String
  | goldStandard => "goldStandard"
  | ai => "ai"
  | gamers => "gamers"

/-- The kind saved under a name, the first one for an unknown name. -/
def Router1RouteProfileKind.ofName (name : String) : Router1RouteProfileKind :=
  ([goldStandard, ai, gamers].find? fun kind => kind.name == name).getD goldStandard

structure KeeneticRouter where
  model : String
  ip : String
  deriving DecidableEq, Repr

/-- An authenticated router. -/
structure RouterAccess where
  router : KeeneticRouter
  testMode : Bool
  deriving DecidableEq, Repr

/-- What the app has stored. -/
structure Prefs where
  configured : Bool
  gadgetConfigured : Bool
  setupStage : Option String
  routerModel : Option String
  clientPhone : Option String
  routeProfileKind : Option String

structure Shell where
  step : Int
  path : Option FirstRunPath
  platform : String
  runMode : Router1RunMode
  router : Option KeeneticRouter
  routerAccess : Option RouterAccess
  awgConfig : Option String
  paidOrderId : Option String
  gadgetConfigText : Option String
  gadgetConfigFilename : Option String
  clientName : String
  clientPhone : String
  routerRoutingProfile : RouterRoutingProfile
  routerRouteProfileKind : Router1RouteProfileKind
  testPaymentMode : Bool
  isTestRouterPurchase : Bool
  paid : Bool
  routerReconnectOnly : Bool
  routerSetupResumeStage : Option String

namespace Shell

/-- The fields as they are declared. -/
def initial (platform : String) : Shell where
  step := 0
  path := none
  platform := platform
  runMode := .real
  router := none
  routerAccess := none
  awgConfig := none
  paidOrderId := none
  gadgetConfigText := none
  gadgetConfigFilename := none
  clientName := "Клиент Router1"
  clientPhone := ""
  routerRoutingProfile := .selective
  routerRouteProfileKind := .goldStandard
  testPaymentMode := false
  isTestRouterPurchase := false
  paid := false
  routerReconnectOnly := false
  routerSetupResumeStage := none

def next (s : Shell) : Shell := { s with step := s.step + 1 }
def back (s : Shell) : Shell := { s with step := if 0 < s.step then s.step - 1 else 0 }
def goTo (s : Shell) (value : Int) : Shell := { s with step := value }
def openHome (s : Shell) : Shell := s.goTo 100
/-- The part of `saveRouterSetupStage` that the shell sees. -/
def saveRouterSetupStage (s : Shell) (stage : String) : Shell :=
  { s with routerSetupResumeStage := some stage }

def startRouterSetupFromHome (s : Shell) : Shell :=
  { s.saveRouterSetupStage "started" with
    path := some .router
    router := none
    routerAccess := none
    awgConfig := none
    paidOrderId := none
    paid := false
    isTestRouterPurchase := false
    step := 2
    routerReconnectOnly := false }

def reconnectRouterFromHome (s : Shell) : Shell :=
  { s with path := some .router, routerReconnectOnly := true, step := 2 }

/-- The branches of `finishRouterReconnect` once the tunnel was looked at. -/
def finishRouterReconnect (s : Shell) (existingTunnelWorks : Bool) : Shell :=
  if s.routerSetupResumeStage.isSome then
    { s with path := some .router, routerReconnectOnly := false, step := 6 }
  else if existingTunnelWorks then s.openHome
  else
    { s with
      path := some .router
      routerReconnectOnly := false
      paid := false
      awgConfig := none
      paidOrderId := none
      step := 5 }

def startGadgetSetupFromHome (s : Shell) (platform : String) : Shell :=
  { s with
    path := some .gadget
    platform := platform
    gadgetConfigText := none
    gadgetConfigFilename := none
    step := 3 }

def openPaymentFromHome (s : Shell) : Shell :=
  if (Dart.trim s.clientPhone).isEmpty then
    { s with path := some .router, step := if s.routerAccess.isNone then 2 else 60 }
  else { s with path := none, step := 70 }

/-- `loadInitialScreen` after the stored access was tried. -/
def loadInitialScreen (s : Shell) (prefs : Prefs) : Shell :=
  if s.step = 0 ∧ (prefs.configured = true ∨ prefs.gadgetConfigured = true ∨
      prefs.setupStage.isSome = true) then
    let phone := prefs.clientPhone.getD ""
    let model := prefs.routerModel.getD ""
    { s with
      routerSetupResumeStage := prefs.setupStage
      routerRouteProfileKind := match prefs.routeProfileKind with
        | some name => .ofName name
        | none => s.routerRouteProfileKind
      clientPhone := if phone.isEmpty then s.clientPhone else phone
      router := if model.isEmpty then s.router else some ⟨model, ""⟩
      step := 100 }
  else s

end Shell

/-! ### Events -/

/-- The callbacks of the shell and of the pages it shows, with what they are called with. A loaded
config carries the order it was asked for, or none for the built-in sample of the demo mode. -/
inductive Event where
  | splash
  | restored (access : Option RouterAccess)
  | initialScreen (prefs : Prefs)
  | setupRouter
  | connectRouter
  | routerModeChanged (kind : Router1RouteProfileKind)
  | setupAndroid (platform : String)
  | subscription
  | home
  | chooseRouter
  | chooseGadget (platform : String)
  | runModeChanged (mode : Router1RunMode)
  | developerBack
  | back
  | access (value : RouterAccess)
  | reconnectSaved (value : RouterAccess)
  | reconnectChecked (existingTunnelWorks : Bool)
  | readyForPayment
  | existingConfig (name phone configText : String)
  | needsPayment (name phone : String)
  | paymentExisting (name phone configText : String) (trialMode : Option Router1RouteProfileKind)
  | paid (name phone orderId : String) (isTestPurchase : Bool) (trialMode : Router1RouteProfileKind)
  | installStarted
  | componentReady
  | config (order : Option String) (text : String)
  | routingChanged (value : RouterRoutingProfile)
  | routeProfileChanged (kind : Router1RouteProfileKind)
  | routingChosen
  | setupDone
  | platformSelected (platform : String)
  | platformNext
  | gadgetPaid (name phone configText filename : String)

namespace Shell

def handle (s : Shell) : Event → Shell
  | .splash => if s.step = 0 then s.next else s
  | .restored none => s
  | .restored (some value) => { s with routerAccess := some value, router := some value.router }
  | .initialScreen prefs => s.loadInitialScreen prefs
  | .setupRouter => s.startRouterSetupFromHome
  | .connectRouter => s.reconnectRouterFromHome
  | .routerModeChanged kind => { s with routerRouteProfileKind := kind }
  | .setupAndroid platform => s.startGadgetSetupFromHome platform
  | .subscription => s.openPaymentFromHome
  | .home => s.openHome
  | .chooseRouter => { s with path := some .router }.next
  | .chooseGadget platform => { s with path := some .gadget, platform := platform }.goTo 3
  | .runModeChanged mode =>
      { s with runMode := mode, testPaymentMode := mode == .demo, router := none, routerAccess := none }
  | .developerBack => s.goTo 1
  | .back => s.back
  | .access value =>
      -- in a reconnect the same callback only starts `finishRouterReconnect`
      if s.routerReconnectOnly then s
      else { s with routerAccess := some value, router := some value.router }.goTo 5
  | .reconnectSaved value => { s with routerAccess := some value, router := some value.router }
  | .reconnectChecked existingTunnelWorks => s.finishRouterReconnect existingTunnelWorks
  | .readyForPayment => s.goTo 6
  | .existingConfig name phone configText =>
      { s with clientName := name, clientPhone := phone, awgConfig := some configText, paid := true }.goTo
        (if s.routerSetupResumeStage = some "component_ready" ∨
          s.routerSetupResumeStage = some "configuring" then 9 else 7)
  | .needsPayment name phone => { s with clientName := name, clientPhone := phone }.goTo 60
  | .paymentExisting name phone configText trialMode =>
      { s with
        clientName := name
        clientPhone := phone
        awgConfig := some configText
        paid := true
        isTestRouterPurchase := s.isTestRouterPurchase || trialMode.isSome
        routerRouteProfileKind := trialMode.getD s.routerRouteProfileKind }.goTo 7
  | .paid name phone orderId isTestPurchase trialMode =>
      { s with
        clientName := name
        clientPhone := phone
        paidOrderId := some orderId
        paid := true
        isTestRouterPurchase := isTestPurchase
        routerRouteProfileKind :=
          if isTestPurchase then trialMode else s.routerRouteProfileKind }.goTo 7
  | .installStarted => s.saveRouterSetupStage "installing_component"
  | .componentReady =>
      (s.saveRouterSetupStage "component_ready").goTo (if s.awgConfig.isNone then 8 else 9)
  | .config _ text => { s with awgConfig := some text }.goTo 9
  | .routingChanged value => { s with routerRoutingProfile := value }
  | .routeProfileChanged kind =>
      { s with routerRouteProfileKind := kind, routerRoutingProfile := .selective }
  | .routingChosen => (s.saveRouterSetupStage "configuring").goTo 10
  | .setupDone => { s with routerSetupResumeStage := none }.openHome
  | .platformSelected platform => { s with platform := platform }
  | .platformNext => s.next
  | .gadgetPaid name phone configText filename =>
      { s with
        clientName := name
        clientPhone := phone
        gadgetConfigText := some configText
        gadgetConfigFilename := some filename
        paid := true }.goTo 4

end Shell

/-! ### What is shown -/

inductive Page where
  | splash
  | dashboard
  | choice
  | renewal
  | developerSettings
  | routerConnect
  | routerReady
  | phoneLookup
  | payment
  | component
  | configLoad
  | routing
  | progress
  | platform
  | gadgetPayment
  | gadgetInstruction
  deriving DecidableEq, Repr

namespace Shell

/-- `buildRouterFlow`. -/
def routerPage (step : Int) : Page :=
  if step = 2 then .routerConnect
  else if step = 5 then .routerReady
  else if step = 6 then .phoneLookup
  else if step = 60 then .payment
  else if step = 7 then .component
  else if step = 8 then .configLoad
  else if step = 9 then .routing
  else if step = 10 then .progress
  else .payment

/-- `buildGadgetFlow`. -/
def gadgetPage (step : Int) : Page :=
  if step = 2 then .platform
  else if step = 3 then .gadgetPayment
  else if step = 4 then .gadgetInstruction
  else .dashboard

/-- `build` and `buildStep`. -/
def page (s : Shell) : Page :=
  if s.step = 100 then .dashboard
  else if s.step = 0 then .splash
  else if s.step = 1 then .dashboard
  else if s.step = -1 then .choice
  else if s.step = 70 then .renewal
  else if s.path = some .gadget then gadgetPage s.step
  else if s.step = 30 then .developerSettings
  else routerPage s.step

/-- The text `RouterSetupProgressPage.run` installs: the page is shown and its guard passes. -/
def installs (s : Shell) : Option String :=
  if s.page = .progress ∧ s.routerAccess.isSome ∧ s.paid = true then s.awgConfig else none

end Shell

/-- The events a shown page can start. -/
def Page.offers : Page → Event → Bool
  | .splash, .splash | .splash, .restored _ | .splash, .initialScreen _ => true
  | .dashboard, .setupRouter | .dashboard, .connectRouter | .dashboard, .routerModeChanged _
  | .dashboard, .setupAndroid _ | .dashboard, .subscription => true
  | .choice, .chooseRouter | .choice, .chooseGadget _ | .choice, .home => true
  | .renewal, .home => true
  | .developerSettings, .runModeChanged _ | .developerSettings, .developerBack => true
  | .routerConnect, .access _ | .routerConnect, .reconnectSaved _
  | .routerConnect, .reconnectChecked _ => true
  | .routerReady, .readyForPayment => true
  | .phoneLookup, .existingConfig _ _ _ | .phoneLookup, .needsPayment _ _ => true
  | .payment, .paymentExisting _ _ _ _ | .payment, .paid _ _ _ _ _ => true
  | .component, .installStarted | .component, .componentReady => true
  | .configLoad, .config _ _ => true
  | .routing, .routingChanged _ | .routing, .routeProfileChanged _ | .routing, .routingChosen => true
  | .progress, .setupDone => true
  | .platform, .platformSelected _ | .platform, .platformNext => true
  | .gadgetPayment, .gadgetPaid _ _ _ _ => true
  | .splash, .back | .dashboard, .back | .choice, .back | .renewal, .back
  | .developerSettings, .back => false
  | _, .back => true
  | _, _ => false

end App
