import Router1.Failover.GoBackend
import Router1.Remote.Runs

/-!
# The two controllers on Android

The controller of the app and the failover thread of the backend work on one tunnel. The app's calls go
through an executor that runs one at a time; the failover thread and the samples of the status jobs run
beside it, and a job that was interrupted may still finish a sample. `shouldScheduleFailover`, the reading of
the current tunnel and `scheduleFailover` are three pieces of a job, so that two jobs can both have decided
before either schedules. An event is one piece of any of them that runs without waiting: the pieces of one
call come in order, everything else in any order.

Beside the state of the program `Android` keeps the times at which an automatic switch of the tunnel was
started, and whether the last `evaluate` ran to its end with nobody else touching the tunnel since it
began.
-/

namespace Failover

/-- What `setState` ends with: the tunnel is up, or it threw and the earlier tunnel was brought back, or
it threw and that failed as well. -/
inductive Outcome where
  | up
  | restored
  | lost
  deriving DecidableEq, Repr

/-- How far a `setState` has come: the earlier tunnel is down, or the new one was raised. -/
inductive Raising (Config : Type) where
  | lowered (original : Option Config)
  | raised

/-- A thread of `scheduleFailover`, and how far its `setState` has come if it was begun. -/
structure Attempt (Config : Type) where
  server : String
  config : Config
  progress : Option (Raising Config)

/-- A `connect` that the executor runs. -/
structure ConnectTask (Config : Type) where
  config : Config
  serverCode : String
  byController : Bool
  progress : Raising Config

/-- What the controller goes on with after it configured the backend or refreshed its bundle. -/
inductive Next where
  | refresh
  | finish
  | evaluate (status : AwgTunnelStatus)
  deriving DecidableEq, Repr

/-- Where the controller stands. -/
inductive Phase where
  | off
  | idle
  | fetching (next : Next)
  | configuring (next : Next)
  | adopting (status : AwgTunnelStatus)
  | deciding (status : AwgTunnelStatus)
  | connecting (node : Router1FailoverNode)
  | returning (node : Router1FailoverNode)
  deriving DecidableEq, Repr

/-- The reply to the controller's connect is on its way. -/
def Phase.connected : Phase → Phase
  | .connecting node => .returning node
  | phase => phase

/-- `due` counts the jobs that are about to read the tunnel, and `scheduling` has one entry for each job that
has read it, which tells whether there was one. -/
structure Android (Config : Type) where
  clock : Int
  native : GoBackend Config
  due : Nat
  scheduling : List Bool
  attempt : Option (Attempt Config)
  task : Option (ConnectTask Config)
  prefs : FailoverPrefs
  controller : AwgFailoverController
  phase : Phase
  statuses : List AwgTunnelStatus
  starts : List Int
  calm : Bool
  evaluated : Bool

inductive AndroidEvent where
  | elapse (milliseconds : Nat)
  | initialized
  | fetched (value : Option Router1FailoverBundle)
  | configure
  | readStatus (handshake rxBytes txBytes : Int)
  | evaluate (i : Nat)
  | adopt
  | decide
  | connect
  | userConnect (configText : String)
  | disconnect
  | raise (outcome : Outcome)
  | name
  | switched
  | sample (lastHandshake : Int) (probe : Bool)
  | readTunnel
  | schedule (i : Nat)
  | attemptBegins
  | attemptRaises (outcome : Outcome)
  | attemptRecords

namespace Android

variable {Config : Type} (parse : String → Option Config)

/-- A phone with an untouched backend and whatever an earlier run has stored. -/
def start (clock : Int) (prefs : FailoverPrefs) : Android Config where
  clock := clock
  native := .initial
  due := 0
  scheduling := []
  attempt := none
  task := none
  prefs := prefs
  controller := .initialized ⟨none, none, none⟩
  phase := .off
  statuses := []
  starts := []
  calm := false
  evaluated := false

/-- Somebody other than the controller touches the tunnel. -/
def disturbed (s : Android Config) : Android Config := { s with calm := false, evaluated := false }

/-- The end of an `evaluate`. -/
def ended (s : Android Config) : Android Config := { s with phase := .idle, evaluated := s.calm }

def continueWith (s : Android Config) : Next → Android Config
  | .refresh =>
      { s with controller := s.controller.refreshing s.clock, phase := .fetching .finish }
  | .finish => { s with phase := .idle }
  | .evaluate status => { s with phase := .adopting status }

/-- `_configureNative` up to its call of the platform. -/
def configureNative (s : Android Config) (next : Next) : Android Config :=
  match s.controller.bundle with
  | some bundle =>
      if bundle.nodes.length < 2 then s.continueWith next else { s with phase := .configuring next }
  | none => s.continueWith next

/-- The backend after the platform's `configureFailover`, if every text parses. -/
def configured (s : Android Config) : Option (GoBackend Config) :=
  match s.controller.bundle with
  | none => none
  | some bundle =>
      (parseNodes parse [] bundle.nodes).map fun configs =>
        s.native.configureFailover bundle.primaryServer
          (if s.controller.activeServer = "" then bundle.primaryServer else s.controller.activeServer)
          configs bundle.policy

/-- A `setState` that threw: the earlier tunnel comes back, or it does not. -/
def restore (n : GoBackend Config) (original : Option Config) : Outcome → GoBackend Config
  | .restored =>
      match original with
      | some config => n.raise config
      | none => n
  | _ => n

/-- The platform's `connect` up to where the earlier tunnel is down; a text that does not parse fails
before. -/
def beginConnect (s : Android Config) (configText serverCode : String) (byController : Bool) :
    Option (Android Config) :=
  if isBlank configText then none
  else
    match parse configText with
    | none => none
    | some config =>
        some { s with
          native := s.native.lower
          task := some ⟨config, serverCode, byController, .lowered s.native.currentConfig⟩ }

/-- The failover thread gives up or is done. -/
def attemptEnds (s : Android Config) (native : GoBackend Config) : Android Config :=
  { s with native := { native with failoverSwitching := false }, attempt := none }

/-- A `setState` of the executor comes to its end. -/
def raiseTask (s : Android Config) (t : ConnectTask Config) (original : Option Config) :
    Outcome → Android Config
  | .up => { s with native := s.native.raise t.config, task := some { t with progress := .raised } }
  | outcome =>
      let failed := { s with native := restore s.native original outcome, task := none }
      if t.byController then failed.ended else failed

/-- `setActiveFailoverServer`, when the call has a server code, and the reply. -/
def nameTask (s : Android Config) (t : ConnectTask Config) : Android Config :=
  let native :=
    if isBlank t.serverCode then s.native else s.native.setActiveFailoverServer t.serverCode
  { s with
    native := native
    task := none
    phase := if t.byController then s.phase.connected else s.phase }

/-- The controller's decision, and the start of the switch it may lead to. -/
def decided (s : Android Config) (status : AwgTunnelStatus) : Android Config :=
  match s.controller.decide status s.clock with
  | (controller, .stay _) => ended { s with controller := controller }
  | (controller, .switchTo serverCode _) =>
      match controller.bundle.bind fun bundle => bundle.node serverCode with
      | none => ended { s with controller := controller }
      | some node =>
          { s with
            controller := controller
            phase := .connecting node
            starts := s.starts ++ [s.clock] }

/-- One step; none for an event that cannot happen. -/
def step (s : Android Config) : AndroidEvent → Option (Android Config)
  | .elapse milliseconds => some { s with clock := s.clock + milliseconds }
  | .initialized =>
      match s.phase with
      | .off | .idle =>
          some (configureNative
            { s with controller := .initialized s.prefs, calm := false, evaluated := false } .refresh)
      | _ => none
  | .fetched value =>
      match s.phase, value with
      | .fetching next, none => some (s.continueWith next)
      | .fetching next, some bundle =>
          let controller := s.controller.refreshed bundle
          some (configureNative
            { s with
              controller := controller
              prefs := { s.prefs with cache := some bundle, server := some controller.activeServer } }
            next)
      | _, _ => none
  | .configure =>
      match s.phase, s.task with
      | .configuring next, none =>
          some (continueWith { s with native := (s.configured parse).getD s.native } next)
      | _, _ => none
  | .readStatus handshake rxBytes txBytes =>
      match s.task with
      | none =>
          some { s with statuses := s.statuses ++
            [⟨if s.native.currentConfig.isSome then "up" else "down", handshake, rxBytes, txBytes,
              s.native.failoverActiveServer⟩] }
      | some _ => none
  | .evaluate i =>
      match s.phase, s.statuses[i]? with
      | .idle, some status =>
          let begun := { s with calm := true, evaluated := false }
          if s.controller.refreshDue s.clock then
            some { begun with
              controller := s.controller.refreshing s.clock
              phase := .fetching (.evaluate status) }
          else some { begun with phase := .adopting status }
      | _, _ => none
  | .adopt =>
      match s.phase with
      | .adopting status =>
          let controller := s.controller.adopt status
          some { s with
            controller := controller
            prefs := if controller.activeServer = s.controller.activeServer then s.prefs
              else { s.prefs with server := some controller.activeServer }
            phase := .deciding status }
      | _ => none
  | .decide =>
      match s.phase with
      | .deciding status => some (s.decided status)
      | _ => none
  | .connect =>
      match s.phase, s.task with
      | .connecting node, none =>
          some ((s.beginConnect parse node.configText node.serverCode true).getD s.ended)
      | _, _ => none
  | .userConnect configText =>
      match s.task with
      | none => some ((s.disturbed.beginConnect parse configText "" false).getD s)
      | some _ => none
  | .disconnect =>
      match s.task with
      | none => some { s.disturbed with native := s.native.lower }
      | some _ => none
  | .raise outcome =>
      match s.task with
      | some t =>
          match t.progress with
          | .lowered original =>
              some ((if t.byController then s else s.disturbed).raiseTask t original outcome)
          | .raised => none
      | none => none
  | .name =>
      match s.task with
      | some t =>
          match t.progress with
          | .raised => some ((if t.byController then s else s.disturbed).nameTask t)
          | .lowered _ => none
      | none => none
  | .switched =>
      match s.phase with
      | .returning node =>
          some (ended { s with
            controller := s.controller.switched node.serverCode s.clock
            prefs := { s.prefs with server := some node.serverCode, switchedAt := some s.clock } })
      | _ => none
  | .sample lastHandshake probe =>
      let sampled := s.native.sample lastHandshake probe s.clock
      some { s with native := sampled.1, due := if sampled.2 then s.due + 1 else s.due }
  | .readTunnel =>
      match s.due with
      | 0 => none
      | due + 1 =>
          some { s with due := due, scheduling := s.scheduling ++ [s.native.currentConfig.isSome] }
  | .schedule i =>
      match s.scheduling[i]? with
      | some tunnel =>
          let left := { s with scheduling := s.scheduling.eraseIdx i }
          match s.native.scheduleFailover tunnel with
          | (_, none) => some left
          | (native, some target) =>
              some { left.disturbed with native := native, attempt := some ⟨target.1, target.2, none⟩ }
      | none => none
  | .attemptBegins =>
      match s.attempt with
      | some ⟨server, config, none⟩ =>
          some { s.disturbed with
            native := s.native.lower
            attempt := some ⟨server, config, some (.lowered s.native.currentConfig)⟩
            starts := s.starts ++ [s.clock] }
      | _ => none
  | .attemptRaises outcome =>
      match s.attempt with
      | some ⟨server, config, some (.lowered original)⟩ =>
          match outcome with
          | .up =>
              some { s.disturbed with
                native := s.native.raise config
                attempt := some ⟨server, config, some .raised⟩ }
          | outcome => some (s.disturbed.attemptEnds (restore s.native original outcome))
      | _ => none
  | .attemptRecords =>
      match s.attempt with
      | some ⟨server, _, some .raised⟩ =>
          some (s.disturbed.attemptEnds (s.native.record server s.clock))
      | _ => none

/-! ### What a step can do -/

/-- Every way a step can go, with what it needs and what it leaves. -/
inductive Move (s : Android Config) : AndroidEvent → Android Config → Prop
  | elapse (milliseconds : Nat) :
      Move s (.elapse milliseconds) { s with clock := s.clock + milliseconds }
  | initialized (hphase : s.phase = .off ∨ s.phase = .idle) :
      Move s .initialized (configureNative
        { s with controller := .initialized s.prefs, calm := false, evaluated := false } .refresh)
  | fetchFails {next : Next} (hphase : s.phase = .fetching next) :
      Move s (.fetched none) (s.continueWith next)
  | fetched {next : Next} (bundle : Router1FailoverBundle) (hphase : s.phase = .fetching next) :
      Move s (.fetched (some bundle)) (configureNative
        { s with
          controller := s.controller.refreshed bundle
          prefs := { s.prefs with
            cache := some bundle
            server := some (s.controller.refreshed bundle).activeServer } } next)
  | configure {next : Next} (hphase : s.phase = .configuring next) (htask : s.task = none) :
      Move s .configure (continueWith { s with native := (s.configured parse).getD s.native } next)
  | readStatus (handshake rxBytes txBytes : Int) (status : AwgTunnelStatus) :
      Move s (.readStatus handshake rxBytes txBytes) { s with statuses := s.statuses ++ [status] }
  | refreshes {i : Nat} (status : AwgTunnelStatus) (hphase : s.phase = .idle) :
      Move s (.evaluate i)
        { s with
          calm := true
          evaluated := false
          controller := s.controller.refreshing s.clock
          phase := .fetching (.evaluate status) }
  | evaluates {i : Nat} (status : AwgTunnelStatus) (hphase : s.phase = .idle) :
      Move s (.evaluate i) { s with calm := true, evaluated := false, phase := .adopting status }
  | adopt {status : AwgTunnelStatus} (server : Option String) (hphase : s.phase = .adopting status) :
      Move s .adopt
        { s with
          controller := s.controller.adopt status
          prefs := { s.prefs with server := server }
          phase := .deciding status }
  | stays {status : AwgTunnelStatus} {controller : AwgFailoverController} {decision : Decision}
      (hphase : s.phase = .deciding status)
      (hdecide : s.controller.decide status s.clock = (controller, decision)) :
      Move s .decide (ended { s with controller := controller })
  | switches {status : AwgTunnelStatus} {controller : AwgFailoverController} {serverCode message : String}
      {node : Router1FailoverNode} (hphase : s.phase = .deciding status)
      (hdecide : s.controller.decide status s.clock = (controller, .switchTo serverCode message))
      (hnode : (controller.bundle.bind fun bundle => bundle.node serverCode) = some node) :
      Move s .decide
        { s with
          controller := controller
          phase := .connecting node
          starts := s.starts ++ [s.clock] }
  | connectFails {node : Router1FailoverNode} (hphase : s.phase = .connecting node)
      (htask : s.task = none)
      (hfails : isBlank node.configText = true ∨ parse node.configText = none) :
      Move s .connect s.ended
  | connects {node : Router1FailoverNode} {config : Config} (hphase : s.phase = .connecting node)
      (htask : s.task = none) (hparse : parse node.configText = some config) :
      Move s .connect
        { s with
          native := s.native.lower
          task := some ⟨config, node.serverCode, true, .lowered s.native.currentConfig⟩ }
  | userConnectFails (configText : String) : Move s (.userConnect configText) s
  | userConnects {configText : String} {config : Config} (htask : s.task = none)
      (hparse : parse configText = some config) :
      Move s (.userConnect configText)
        { s.disturbed with
          native := s.native.lower
          task := some ⟨config, "", false, .lowered s.native.currentConfig⟩ }
  | disconnect (htask : s.task = none) :
      Move s .disconnect { s.disturbed with native := s.native.lower }
  | raise {t : ConnectTask Config} {original : Option Config} (outcome : Outcome)
      (htask : s.task = some t) (hprogress : t.progress = .lowered original) :
      Move s (.raise outcome)
        ((if t.byController then s else s.disturbed).raiseTask t original outcome)
  | name {t : ConnectTask Config} (htask : s.task = some t) (hprogress : t.progress = .raised) :
      Move s .name ((if t.byController then s else s.disturbed).nameTask t)
  | switched {node : Router1FailoverNode} (hphase : s.phase = .returning node) :
      Move s .switched (ended
        { s with
          controller := s.controller.switched node.serverCode s.clock
          prefs := { s.prefs with server := some node.serverCode, switchedAt := some s.clock } })
  | counts {lastHandshake : Int} {probe : Bool} (failures : Int) (due : Nat) :
      Move s (.sample lastHandshake probe)
        { s with native := { s.native with failoverFailures := failures }, due := due }
  | readTunnel (due : Nat) (scheduling : List Bool) :
      Move s .readTunnel { s with due := due, scheduling := scheduling }
  | schedulesNothing {i : Nat} (scheduling : List Bool) :
      Move s (.schedule i) { s with scheduling := scheduling }
  | schedules {i : Nat} {tunnel : Bool} {native : GoBackend Config} {target : String × Config}
      (htunnel : s.scheduling[i]? = some tunnel)
      (hschedule : s.native.scheduleFailover tunnel = (native, some target)) (scheduling : List Bool) :
      Move s (.schedule i)
        { s.disturbed with
          scheduling := scheduling
          native := native
          attempt := some ⟨target.1, target.2, none⟩ }
  | attemptBegins {server : String} {config : Config} (hattempt : s.attempt = some ⟨server, config, none⟩) :
      Move s .attemptBegins
        { s.disturbed with
          native := s.native.lower
          attempt := some ⟨server, config, some (.lowered s.native.currentConfig)⟩
          starts := s.starts ++ [s.clock] }
  | attemptRaises {server : String} {config : Config} {original : Option Config}
      (hattempt : s.attempt = some ⟨server, config, some (.lowered original)⟩) :
      Move s (.attemptRaises .up)
        { s.disturbed with
          native := s.native.raise config
          attempt := some ⟨server, config, some .raised⟩ }
  | attemptFails {server : String} {config : Config} {original : Option Config} {outcome : Outcome}
      (hattempt : s.attempt = some ⟨server, config, some (.lowered original)⟩) (hfails : outcome ≠ .up) :
      Move s (.attemptRaises outcome) (s.disturbed.attemptEnds (restore s.native original outcome))
  | attemptRecords {server : String} {config : Config}
      (hattempt : s.attempt = some ⟨server, config, some .raised⟩) :
      Move s .attemptRecords (s.disturbed.attemptEnds (s.native.record server s.clock))

variable {parse} {s t : Android Config} {e : AndroidEvent}

theorem restore_eq (n : GoBackend Config) (original : Option Config) (outcome : Outcome) :
    ∃ current, restore n original outcome = { n with currentConfig := current } := by
  cases outcome with
  | restored =>
      cases original with
      | none => exact ⟨_, rfl⟩
      | some config => exact n.raise_eq config
  | up | lost => exact ⟨_, rfl⟩

/-- What comes back to a tunnel that is down is the earlier config. -/
theorem restore_of_down {n : GoBackend Config} (h : n.currentConfig = none) (original : Option Config)
    (outcome : Outcome) :
    ∃ current, restore n original outcome = { n with currentConfig := current } ∧
      ∀ config, current = some config → original = some config := by
  cases outcome with
  | restored =>
      cases original with
      | none => exact ⟨none, by rw [restore, ← h], nofun⟩
      | some config => exact ⟨some config, n.raise_of_down h config, fun _ => id⟩
  | up | lost => exact ⟨none, by rw [restore, ← h]; nofun, nofun⟩

theorem move_decided {status : AwgTunnelStatus} (hphase : s.phase = .deciding status) :
    Move parse s .decide (s.decided status) := by
  rw [decided]
  split
  · next controller _ hdecide => exact .stays hphase hdecide
  · next controller serverCode message hdecide =>
      split
      · exact .stays hphase hdecide
      · next node hnode => exact .switches hphase hdecide hnode

theorem move_connect {node : Router1FailoverNode} (hphase : s.phase = .connecting node)
    (htask : s.task = none) :
    Move parse s .connect
      ((s.beginConnect parse node.configText node.serverCode true).getD s.ended) := by
  rw [beginConnect]
  split
  · next hblank => exact .connectFails hphase htask (.inl hblank)
  · split
    · next hparse => exact .connectFails hphase htask (.inr hparse)
    · next config hparse => exact .connects hphase htask hparse

theorem move_userConnect {configText : String} (htask : s.task = none) :
    Move parse s (.userConnect configText)
      ((s.disturbed.beginConnect parse configText "" false).getD s) := by
  rw [beginConnect]
  split
  · exact .userConnectFails configText
  · split
    · exact .userConnectFails configText
    · next config hparse => exact .userConnects htask hparse

theorem move_sample (lastHandshake : Int) (probe : Bool) (due : Nat) :
    Move parse s (.sample lastHandshake probe)
      { s with native := (s.native.sample lastHandshake probe s.clock).1, due := due } := by
  obtain ⟨failures, hnative⟩ := s.native.sample_eq lastHandshake probe s.clock
  rw [hnative]
  exact .counts failures due

theorem move_schedule {i : Nat} (h : step parse s (.schedule i) = some t) : Move parse s (.schedule i) t := by
  simp only [step] at h
  split at h
  · next tunnel htunnel =>
      split at h
      · cases h
        exact .schedulesNothing _
      · next native target hschedule =>
          cases h
          exact .schedules htunnel hschedule _
  · cases h

/-- **Inversion.** A step goes one of these ways. -/
theorem move_of_step (h : step parse s e = some t) : Move parse s e t := by
  cases e with
  | elapse milliseconds =>
      cases h
      exact .elapse milliseconds
  | initialized =>
      simp only [step] at h
      split at h
      · next hphase => cases h; exact .initialized (.inl hphase)
      · next hphase => cases h; exact .initialized (.inr hphase)
      · cases h
  | fetched value =>
      simp only [step] at h
      split at h
      · next hphase => cases h; exact .fetchFails hphase
      · next next bundle hphase => cases h; exact .fetched bundle hphase
      · cases h
  | configure =>
      simp only [step] at h
      split at h
      · next hphase htask => cases h; exact .configure hphase htask
      · cases h
  | readStatus handshake rxBytes txBytes =>
      simp only [step] at h
      split at h
      · cases h; exact .readStatus handshake rxBytes txBytes _
      · cases h
  | evaluate i =>
      simp only [step] at h
      split at h
      · next status hphase hstatus =>
          split at h
          · cases h; exact .refreshes status hphase
          · cases h; exact .evaluates status hphase
      · cases h
  | adopt =>
      simp only [step] at h
      split at h
      · next status hphase =>
          cases h
          split
          · exact .adopt _ hphase
          · exact .adopt _ hphase
      · cases h
  | decide =>
      simp only [step] at h
      split at h
      · next status hphase => cases h; exact move_decided hphase
      · cases h
  | connect =>
      simp only [step] at h
      split at h
      · next node hphase htask => cases h; exact move_connect hphase htask
      · cases h
  | userConnect configText =>
      simp only [step] at h
      split at h
      · next htask => cases h; exact move_userConnect htask
      · cases h
  | disconnect =>
      simp only [step] at h
      split at h
      · next htask => cases h; exact .disconnect htask
      · cases h
  | raise outcome =>
      simp only [step] at h
      split at h
      · next t htask =>
          split at h
          · next original hprogress => cases h; exact .raise outcome htask hprogress
          · cases h
      · cases h
  | name =>
      simp only [step] at h
      split at h
      · next t htask =>
          split at h
          · next hprogress => cases h; exact .name htask hprogress
          · cases h
      · cases h
  | switched =>
      simp only [step] at h
      split at h
      · next node hphase => cases h; exact .switched hphase
      · cases h
  | sample lastHandshake probe =>
      cases h
      exact move_sample lastHandshake probe _
  | readTunnel =>
      simp only [step] at h
      split at h
      · cases h
      · cases h; exact .readTunnel _ _
  | schedule i => exact move_schedule h
  | attemptBegins =>
      simp only [step] at h
      split at h
      · next server config hattempt => cases h; exact .attemptBegins hattempt
      · cases h
  | attemptRaises outcome =>
      simp only [step] at h
      split at h
      · next server config original hattempt =>
          split at h
          · cases h; exact .attemptRaises hattempt
          · next hfails => cases h; exact .attemptFails hattempt hfails
      · cases h
  | attemptRecords =>
      simp only [step] at h
      split at h
      · next server config hattempt => cases h; exact .attemptRecords hattempt
      · cases h

/-! ### A phone with two servers -/

def fr : Router1FailoverNode where
  serverCode := "fr"
  configText := "[Interface]\nPrivateKey=AAAAAAAAAAAAAAAAAAAAAAAAAAAAAAAAAAAAAAAAAAA="
  serverCode_ne := by decide
  configText_ne := by simp

def nl2 : Router1FailoverNode where
  serverCode := "nl2"
  configText := "[Interface]\nPrivateKey=BAAAAAAAAAAAAAAAAAAAAAAAAAAAAAAAAAAAAAAAAAA="
  serverCode_ne := by decide
  configText_ne := by simp

def twoServers : Router1FailoverBundle where
  primaryServer := "fr"
  health := [("fr", "healthy"), ("nl2", "healthy")]
  nodes := [fr, nl2]
  policy := ⟨3, 180, 300, 5⟩

/-- The first start of the app, with every text taken for its config. -/
def firstStart : Android String := start 1700000000000 ⟨none, none, none⟩

/-- The controller is initialised, and the user connects to the primary server. -/
def connected : List AndroidEvent :=
  [.initialized, .fetched (some twoServers), .configure, .userConnect fr.configText, .raise .up, .name]

/-- Three samples without an answer, after which the failover thread starts. -/
def failing : List AndroidEvent :=
  [.sample 1 false, .elapse 10000, .sample 1 false, .elapse 10000, .sample 1 false, .readTunnel, .schedule 0,
    .attemptBegins]

end Android

end Failover
