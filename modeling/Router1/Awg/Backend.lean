import Router1.Awg.Native
import Router1.Failover.Android

/-!
# The tunnel of the backend

`GoBackend.setState` takes the running tunnel down, starts the new one, and starts the old one again if the new one
does not come up. Tunnels and configs are objects, which are compared by identity; an object is a number here, with
a name or a config that never changes. The system starts and destroys the service between the calls.
-/

namespace Awg

open Text Java

inductive State where
  | down
  | toggle
  | up
  deriving DecidableEq, Repr

/-- What `setState` throws: a `BackendException` with its reason, or what the builder threw. -/
inductive Failure where
  | tunnelMissingConfig
  | vpnNotAuthorized
  | unableToStartVpn
  | dnsResolutionFailure (host : List Char)
  | builder (text : List Char)
  | tunCreationError
  | goActivationErrorCode (code : Int)
  deriving DecidableEq

/-- What the phone answers while a tunnel is started. -/
structure Phone (P : Platform) where
  prepared : Bool
  serviceStarts : Bool
  lookups : Nat → Nat → Lookup P
  version : Nat
  /-- The builder throws, or there is an interface or none. -/
  establish : List (BuilderCall P) → Except (List Char) Bool
  deviceStarts : List Char → Bool

structure Backend where
  currentTunnel : Option Nat
  currentConfig : Option Nat
  currentTunnelHandle : Int
  /-- The service that has come up, and whether the backend is its owner. -/
  vpnService : Option Bool
  /-- What the endpoints of each config remember. -/
  memory : Nat → Memory
  tunnelHandles : TunnelHandles TunnelHandle
  /-- The calls of `onStateChange`. -/
  notified : List (Nat × State)

namespace Backend

def initial : Backend where
  currentTunnel := none
  currentConfig := none
  currentTunnelHandle := -1
  vpnService := none
  memory _ _ := .initial
  tunnelHandles _ := none
  notified := []

def getState (b : Backend) (tunnel : Nat) : State := if b.currentTunnel = some tunnel then .up else .down

section Calls

variable {P : Platform} (getName : Nat → List Char) (configs : Nat → Config P)

/-- `setStateInternal` to `UP`, from the check of the handle on. -/
def start (b : Backend) (tunnel config : Nat) (phone : Phone P) : Except Failure Unit × Backend :=
  if b.currentTunnelHandle ≠ -1 then (.ok (), b)
  else
    match dnsRetry phone.lookups (configs config).peers.zipIdx dnsResolutionRetries 0 (b.memory config) with
    | (some host, memory) =>
        (.error (.dnsResolutionFailure host), { b with memory := Function.update b.memory config memory })
    | (none, memory) =>
        let last := phone.lookups dnsResolutionRetries
        let goConfig := (configs config).toAwgUserspaceString (memory.answers P last)
        let b := { b with memory := Function.update b.memory config (memory.written last (configs config)) }
        match phone.establish ((configs config).builderCalls (getName tunnel) phone.version) with
        | .error text => (.error (.builder text), b)
        | .ok false => (.error .tunCreationError, b)
        | .ok true =>
            let turnedOn := awgTurnOn b.tunnelHandles ⟨getName tunnel, goConfig⟩ (phone.deviceStarts goConfig)
            let b := { b with currentTunnelHandle := turnedOn.1, tunnelHandles := turnedOn.2 }
            if turnedOn.1 < 0 then (.error (.goActivationErrorCode turnedOn.1), b)
            else
              (.ok (), { b with
                currentTunnel := some tunnel
                currentConfig := some config
                notified := b.notified ++ [(tunnel, .up)] })

/-- `setStateInternal` to `UP`. -/
def raise (b : Backend) (tunnel : Nat) (config : Option Nat) (phone : Phone P) : Except Failure Unit × Backend :=
  match config with
  | none => (.error .tunnelMissingConfig, b)
  | some config =>
      if phone.prepared = false then (.error .vpnNotAuthorized, b)
      else if b.vpnService = none ∧ phone.serviceStarts = false then (.error .unableToStartVpn, b)
      else start getName configs { b with vpnService := some true } tunnel config phone

/-- `setStateInternal` to `DOWN`. -/
def lower (b : Backend) (tunnel : Nat) : Backend :=
  if b.currentTunnelHandle = -1 then b
  else
    { b with
      currentTunnel := none
      currentTunnelHandle := -1
      currentConfig := none
      tunnelHandles := awgTurnOff b.tunnelHandles b.currentTunnelHandle
      notified := b.notified ++ [(tunnel, .down)] }

/-- The state that is asked for. -/
def wanted (b : Backend) (tunnel : Nat) (state : State) : State :=
  if state = .toggle then if b.getState tunnel = .up then .down else .up else state

/-- The `UP` branch of `setState`: the running tunnel goes down, and comes back if the new one fails. -/
def replace (b : Backend) (tunnel : Nat) (config : Option Nat) (phone again : Phone P) :
    Except Failure State × Backend :=
  let lowered := match b.currentTunnel with
    | some original => b.lower original
    | none => b
  match raise getName configs lowered tunnel config phone with
  | (.ok (), b') => (.ok (b'.getState tunnel), b')
  | (.error e, b') =>
      match b.currentTunnel with
      | none => (.error e, b')
      | some original =>
          match raise getName configs b' original b.currentConfig again with
          | (.ok (), b'') => (.error e, b'')
          | (.error e', b'') => (.error e', b'')

/-- `setState`, with what the phone answers for the new tunnel and, if it fails, for the old one. -/
def setState (b : Backend) (tunnel : Nat) (state : State) (config : Option Nat) (phone again : Phone P) :
    Except Failure State × Backend :=
  let state := b.wanted tunnel state
  if state = b.getState tunnel ∧ b.currentTunnel = some tunnel ∧ config = b.currentConfig then
    (.ok (b.getState tunnel), b)
  else if state = .up then replace getName configs b tunnel config phone again
  else if state = .down ∧ b.currentTunnel = some tunnel then
    (.ok ((b.lower tunnel).getState tunnel), b.lower tunnel)
  else (.ok (b.getState tunnel), b)

end Calls

/-- `onCreate` or `onStartCommand` of the service. -/
def created (b : Backend) : Backend := { b with vpnService := some (b.vpnService.getD false) }

/-- `onDestroy` of the service. -/
def destroyed (b : Backend) : Backend :=
  match b.vpnService, b.currentTunnel with
  | some true, some tunnel =>
      { b with
        currentTunnel := none
        currentTunnelHandle := -1
        currentConfig := none
        vpnService := none
        tunnelHandles :=
          if b.currentTunnelHandle ≠ -1 then awgTurnOff b.tunnelHandles b.currentTunnelHandle else b.tunnelHandles
        notified := b.notified ++ [(tunnel, .down)] }
  | _, _ => { b with vpnService := none }

/-! ### Runs -/

/-- What a tunnel knows of its state from `onStateChange`; nothing, if it is told twice the same. -/
def hear (tunnel : Nat) (up : Option Bool) (notification : Nat × State) : Option Bool :=
  if notification.1 = tunnel then
    match up, notification.2 with
    | some false, .up => some true
    | some true, .down => some false
    | _, _ => none
  else up

def heard (b : Backend) (tunnel : Nat) : Option Bool := b.notified.foldl (hear tunnel) (some false)

inductive Event (P : Platform) where
  | setState (tunnel : Nat) (state : State) (config : Option Nat) (phone again : Phone P)
  | created
  | destroyed

section Runs

variable {P : Platform} (getName : Nat → List Char) (configs : Nat → Config P)

def step (b : Backend) : Event P → Backend
  | .setState tunnel state config phone again => (b.setState getName configs tunnel state config phone again).2
  | .created => b.created
  | .destroyed => b.destroyed

def run (events : List (Event P)) : Backend := events.foldl (step getName configs) initial

/-- Settings that were written after the names were resolved. -/
def Started (c : Config P) (settings : List Char) : Prop :=
  ∃ (memory : Memory) (last : Nat → Lookup P), (∀ k, (memory k).Numeric P) ∧ c.Known memory ∧
    settings = c.toAwgUserspaceString (memory.answers P last)

/-- No tunnel, and no device. -/
structure Down (b : Backend) : Prop where
  currentTunnel : b.currentTunnel = none
  currentConfig : b.currentConfig = none
  currentTunnelHandle : b.currentTunnelHandle = -1
  tunnelHandles : b.tunnelHandles = fun _ => none

/-- A tunnel, and one device with the settings of its config. -/
structure Up (b : Backend) (tunnel config : Nat) : Prop where
  currentTunnel : b.currentTunnel = some tunnel
  currentConfig : b.currentConfig = some config
  currentTunnelHandle : b.currentTunnelHandle = 0
  vpnService : b.vpnService = some true
  tunnelHandles : ∃ settings, Started (configs config) settings ∧
    b.tunnelHandles = Function.update (fun _ => none) 0 (some ⟨getName tunnel, settings⟩)

structure Ok (b : Backend) : Prop where
  state : b.Down ∨ ∃ tunnel config, b.Up getName configs tunnel config
  memory : ∀ config k, (b.memory config k).Numeric P
  /-- Every tunnel knows whether it is the one that is up. -/
  heard : ∀ tunnel, b.heard tunnel = some (decide (b.currentTunnel = some tunnel))

variable {getName configs} {b : Backend} {tunnel config : Nat}

theorem heard_append (b : Backend) (notification : Nat × State) (tunnel : Nat) :
    (b.notified ++ [notification]).foldl (hear tunnel) (some false) = hear tunnel (b.heard tunnel) notification := by
  rw [List.foldl_append]
  rfl

theorem hear_up (h : ∀ tunnel, b.heard tunnel = some false) (t : Nat) :
    hear t (b.heard t) (tunnel, .up) = some (decide (some tunnel = some t)) := by
  by_cases ht : tunnel = t
  · simp [hear, h, ht]
  · simp [hear, h, ht]

theorem hear_down (h : ∀ t, b.heard t = some (decide (some tunnel = some t))) (t : Nat) :
    hear t (b.heard t) (tunnel, .down) = some false := by
  by_cases ht : tunnel = t
  · simp [hear, h, ht]
  · simp [hear, h, ht]

theorem Down.heard (hdown : b.Down) (hb : b.Ok getName configs) (t : Nat) : b.heard t = some false := by
  rw [hb.heard, hdown.currentTunnel]
  rfl

theorem Ok.up_of_tunnel (hb : b.Ok getName configs) (h : b.currentTunnel = some tunnel) :
    ∃ config, b.Up getName configs tunnel config := by
  rcases hb.state with hdown | ⟨t, config, hup⟩
  · rw [hdown.currentTunnel] at h
    cases h
  · have htunnel := hup.currentTunnel
    rw [h] at htunnel
    cases htunnel
    exact ⟨config, hup⟩

theorem Ok.down_of_no_tunnel (hb : b.Ok getName configs) (h : b.currentTunnel = none) : b.Down := by
  rcases hb.state with hdown | ⟨t, config, hup⟩
  · exact hdown
  · rw [hup.currentTunnel] at h
    cases h

theorem ok_initial : initial.Ok getName configs := by
  refine ⟨.inl ⟨rfl, rfl, rfl, rfl⟩, fun config k answer h => ?_, fun t => rfl⟩
  cases h

/-- A call that only remembers more of the names. -/
theorem Ok.remember (hb : b.Ok getName configs) (hdown : b.Down) {memory : Nat → Memory}
    (hmemory : ∀ config k, (memory config k).Numeric P) (service : Option Bool) :
    { b with memory := memory, vpnService := service }.Ok getName configs ∧
      { b with memory := memory, vpnService := service }.Down :=
  have hdown' : { b with memory := memory, vpnService := service }.Down :=
    ⟨hdown.currentTunnel, hdown.currentConfig, hdown.currentTunnelHandle, hdown.tunnelHandles⟩
  ⟨⟨.inl hdown', hmemory, hb.heard⟩, hdown'⟩

theorem numeric_update {memory : Nat → Memory} (hmemory : ∀ config k, (memory config k).Numeric P) {m : Memory}
    (hm : ∀ k, (m k).Numeric P) (config : Nat) :
    ∀ c k, (Function.update memory config m c k).Numeric P := by
  intro c k
  rcases eq_or_ne c config with rfl | hc
  · rw [Function.update_self]
    exact hm k
  · rw [Function.update_of_ne hc]
    exact hmemory c k

theorem start_spec (hb : b.Ok getName configs) (hdown : b.Down) (hservice : b.vpnService = some true)
    (hconfig : (configs config).Parsed) (phone : Phone P) :
    (∃ e b', b.start getName configs tunnel config phone = (.error e, b') ∧ b'.Ok getName configs ∧ b'.Down) ∨
      ∃ b', b.start getName configs tunnel config phone = (.ok (), b') ∧ b'.Ok getName configs ∧
        b'.Up getName configs tunnel config := by
  have hpeers : ∀ x ∈ (configs config).peers.zipIdx, x.1.Ok := by
    intro x hx
    exact hconfig.peers x.1 (List.mem_of_getElem? (List.mem_zipIdx_iff_getElem?.mp hx))
  have hnumeric := numeric_of_dnsRetry phone.lookups dnsResolutionRetries 0 hpeers (hb.memory config)
  rw [start, if_neg (not_not_intro hdown.currentTunnelHandle)]
  split
  next host memory heq =>
    rw [heq] at hnumeric
    have hfailed := hb.remember hdown (numeric_update hb.memory hnumeric config) b.vpnService
    exact .inl ⟨_, _, rfl, hfailed.1, hfailed.2⟩
  next memory heq =>
    rw [heq] at hnumeric
    have hwritten := numeric_update hb.memory
      (Memory.numeric_written (phone.lookups dnsResolutionRetries) hconfig hnumeric) config
    have hfailed := hb.remember hdown hwritten b.vpnService
    simp only
    split
    next text _ => exact .inl ⟨_, _, rfl, hfailed.1, hfailed.2⟩
    next => exact .inl ⟨_, _, rfl, hfailed.1, hfailed.2⟩
    next =>
      rw [hdown.tunnelHandles, awgTurnOn_empty]
      cases hstarts : phone.deviceStarts
          ((configs config).toAwgUserspaceString (memory.answers P (phone.lookups dnsResolutionRetries))) with
      | false =>
          have hsame : { b with
              memory := Function.update b.memory config
                (memory.written (phone.lookups dnsResolutionRetries) (configs config))
              currentTunnelHandle := -1
              tunnelHandles := fun _ => none } =
              { b with
                memory := Function.update b.memory config
                  (memory.written (phone.lookups dnsResolutionRetries) (configs config)) } := by
            rw [← hdown.currentTunnelHandle, ← hdown.tunnelHandles]
          refine .inl ⟨_, _, rfl, ?_⟩
          exact hsame ▸ hfailed
      | true =>
          refine .inr ⟨_, rfl, ⟨.inr ⟨tunnel, config, ?up⟩, hwritten, fun t => ?_⟩, ?up⟩
          · exact ⟨rfl, rfl, rfl, hservice, _, ⟨memory, _, hnumeric, Config.known_of_dnsRetry heq, rfl⟩, rfl⟩
          · exact (heard_append b _ t).trans (hear_up (hdown.heard hb) t)

/-- The same for `setStateInternal`; a tunnel that came up has a config. -/
theorem raise_spec (hb : b.Ok getName configs) (hdown : b.Down) (hconfigs : ∀ config, (configs config).Parsed)
    (tunnel : Nat) (config : Option Nat) (phone : Phone P) :
    (∃ e b', b.raise getName configs tunnel config phone = (.error e, b') ∧ b'.Ok getName configs ∧ b'.Down) ∨
      ∃ c b', config = some c ∧ b.raise getName configs tunnel config phone = (.ok (), b') ∧
        b'.Ok getName configs ∧ b'.Up getName configs tunnel c := by
  cases config with
  | none => exact .inl ⟨_, b, rfl, hb, hdown⟩
  | some c =>
      rw [raise]
      split
      next => exact .inl ⟨_, b, rfl, hb, hdown⟩
      next =>
        split
        next => exact .inl ⟨_, b, rfl, hb, hdown⟩
        next =>
          obtain ⟨hb', hdown'⟩ := hb.remember hdown hb.memory (some true)
          rcases start_spec hb' hdown' rfl (hconfigs c) phone with hfails | ⟨b', hstart, hup⟩
          · exact .inl hfails
          · exact .inr ⟨c, b', rfl, hstart, hup⟩

theorem lower_spec (hb : b.Ok getName configs) (hup : b.Up getName configs tunnel config) :
    (b.lower tunnel).Ok getName configs ∧ (b.lower tunnel).Down := by
  obtain ⟨settings, -, hhandles⟩ := hup.tunnelHandles
  have hheard := hb.heard
  rw [hup.currentTunnel] at hheard
  rw [lower, if_neg (by rw [hup.currentTunnelHandle]; decide), hup.currentTunnelHandle, hhandles, awgTurnOff_only]
  refine ⟨⟨.inl ?down, hb.memory, fun t => ?_⟩, ?down⟩
  · exact ⟨rfl, rfl, rfl, rfl⟩
  · exact (heard_append b _ t).trans (hear_down hheard t)

theorem getState_of_up (hup : b.Up getName configs tunnel config) : b.getState tunnel = .up := by
  rw [getState, if_pos hup.currentTunnel]

theorem getState_of_down (hdown : b.Down) : b.getState tunnel = .down := by
  rw [getState, hdown.currentTunnel]
  rfl

theorem replace_spec (hb : b.Ok getName configs) (hconfigs : ∀ config, (configs config).Parsed) (tunnel : Nat)
    (config : Option Nat) (phone again : Phone P) :
    (∃ c b', config = some c ∧ b.replace getName configs tunnel config phone again = (.ok .up, b') ∧
        b'.Ok getName configs ∧ b'.Up getName configs tunnel c) ∨
      ∃ e b', b.replace getName configs tunnel config phone again = (.error e, b') ∧ b'.Ok getName configs ∧
        (b'.Down ∨ ∃ original c, b.Up getName configs original c ∧ b'.Up getName configs original c) := by
  rw [replace]
  cases htunnel : b.currentTunnel with
  | none =>
      simp only
      rcases raise_spec hb (hb.down_of_no_tunnel htunnel) hconfigs tunnel config phone with
        ⟨e, b', hraise, hb', hdown'⟩ | ⟨c, b', hc, hraise, hb', hup'⟩
      · rw [hraise]
        exact .inr ⟨e, b', rfl, hb', .inl hdown'⟩
      · rw [hraise]
        exact .inl ⟨c, b', hc, congrArg (fun s => (Except.ok s, b')) (getState_of_up hup'), hb', hup'⟩
  | some original =>
      obtain ⟨old, hold⟩ := hb.up_of_tunnel htunnel
      obtain ⟨hlow, hdown⟩ := lower_spec hb hold
      simp only
      rcases raise_spec hlow hdown hconfigs tunnel config phone with
        ⟨e, b', hraise, hb', hdown'⟩ | ⟨c, b', hc, hraise, hb', hup'⟩
      · rw [hraise]
        simp only
        rcases raise_spec hb' hdown' hconfigs original b.currentConfig again with
          ⟨e', b'', hagain, hb'', hdown''⟩ | ⟨c, b'', hc, hagain, hb'', hup''⟩
        · rw [hagain]
          exact .inr ⟨e', b'', rfl, hb'', .inl hdown''⟩
        · rw [hagain]
          rw [hold.currentConfig] at hc
          cases hc
          exact .inr ⟨e, b'', rfl, hb'', .inr ⟨original, old, hold, hup''⟩⟩
      · rw [hraise]
        exact .inl ⟨c, b', hc, congrArg (fun s => (Except.ok s, b')) (getState_of_up hup'), hb', hup'⟩

theorem wanted_ne_toggle (b : Backend) (tunnel : Nat) (state : State) : b.wanted tunnel state ≠ .toggle := by
  rw [wanted]
  split
  next =>
    split
    next => exact State.noConfusion
    next => exact State.noConfusion
  next h => exact h

variable (getName configs) in
/-- What a call of `setState` leads to. -/
inductive Settled (b : Backend) (tunnel : Nat) (state : State) (config : Option Nat) :
    Except Failure State × Backend → Prop where
  | up {c : Nat} {b' : Backend} (hwanted : b.wanted tunnel state = .up) (hconfig : config = some c)
      (hup : b'.Up getName configs tunnel c) : Settled b tunnel state config (.ok .up, b')
  | down {b' : Backend} (hwanted : b.wanted tunnel state = .down) (hcurrent : b.currentTunnel = some tunnel)
      (hdown : b'.Down) : Settled b tunnel state config (.ok .down, b')
  | other (hwanted : b.wanted tunnel state = .down) (hother : b.currentTunnel ≠ some tunnel) :
      Settled b tunnel state config (.ok .down, b)
  | lost {e : Failure} {b' : Backend} (hwanted : b.wanted tunnel state = .up) (hdown : b'.Down) :
      Settled b tunnel state config (.error e, b')
  | restored {e : Failure} {b' : Backend} {original c : Nat} (hwanted : b.wanted tunnel state = .up)
      (hold : b.Up getName configs original c) (hup : b'.Up getName configs original c) :
      Settled b tunnel state config (.error e, b')

theorem setState_spec (hb : b.Ok getName configs) (hconfigs : ∀ config, (configs config).Parsed) (tunnel : Nat)
    (state : State) (config : Option Nat) (phone again : Phone P) :
    (b.setState getName configs tunnel state config phone again).2.Ok getName configs ∧
      b.Settled getName configs tunnel state config
        (b.setState getName configs tunnel state config phone again) := by
  rw [setState]
  split
  next hsame =>
    obtain ⟨hwanted, hcurrent, hconfig⟩ := hsame
    obtain ⟨c, hup⟩ := hb.up_of_tunnel hcurrent
    rw [getState_of_up hup] at hwanted ⊢
    exact ⟨hb, .up hwanted (hconfig.trans hup.currentConfig) hup⟩
  next =>
    split
    next hwanted =>
      rcases replace_spec hb hconfigs tunnel config phone again with
        ⟨c, b', hconfig, hreplace, hb', hup'⟩ | ⟨e, b', hreplace, hb', hdown' | ⟨original, c, hold, hup'⟩⟩
      · rw [hreplace]
        exact ⟨hb', .up hwanted hconfig hup'⟩
      · rw [hreplace]
        exact ⟨hb', .lost hwanted hdown'⟩
      · rw [hreplace]
        exact ⟨hb', .restored hwanted hold hup'⟩
    next hnotUp =>
      have hwanted : b.wanted tunnel state = .down := by
        cases h : b.wanted tunnel state with
        | down => rfl
        | toggle => exact absurd h (wanted_ne_toggle b tunnel state)
        | up => exact absurd h hnotUp
      split
      next hcurrent =>
        obtain ⟨c, hup⟩ := hb.up_of_tunnel hcurrent.2
        obtain ⟨hlow, hdown⟩ := lower_spec hb hup
        rw [getState_of_down hdown]
        exact ⟨hlow, .down hwanted hcurrent.2 hdown⟩
      next hother =>
        have hcurrent : b.currentTunnel ≠ some tunnel := fun h => hother ⟨hwanted, h⟩
        rw [getState, if_neg hcurrent]
        exact ⟨hb, .other hwanted hcurrent⟩

theorem created_ok (hb : b.Ok getName configs) : b.created.Ok getName configs := by
  refine ⟨?_, hb.memory, hb.heard⟩
  rcases hb.state with hdown | ⟨tunnel, config, hup⟩
  · exact .inl ⟨hdown.currentTunnel, hdown.currentConfig, hdown.currentTunnelHandle, hdown.tunnelHandles⟩
  · refine .inr ⟨tunnel, config, hup.currentTunnel, hup.currentConfig, hup.currentTunnelHandle, ?_,
      hup.tunnelHandles⟩
    show some (b.vpnService.getD false) = some true
    rw [hup.vpnService]
    rfl

theorem destroyed_spec (hb : b.Ok getName configs) : b.destroyed.Ok getName configs ∧ b.destroyed.Down := by
  rcases hb.state with hdown | ⟨tunnel, config, hup⟩
  · have hsame : b.destroyed = { b with vpnService := none } := by
      rw [destroyed, hdown.currentTunnel]
      cases b.vpnService with
      | none => rfl
      | some owner =>
          cases owner with
          | false => rfl
          | true => rfl
    rw [hsame]
    exact hb.remember hdown hb.memory none
  · obtain ⟨settings, -, hhandles⟩ := hup.tunnelHandles
    have hheard := hb.heard
    rw [hup.currentTunnel] at hheard
    have hlowered : b.destroyed =
        { b with
          currentTunnel := none
          currentTunnelHandle := -1
          currentConfig := none
          vpnService := none
          tunnelHandles := fun _ => none
          notified := b.notified ++ [(tunnel, .down)] } := by
      rw [destroyed, hup.vpnService, hup.currentTunnel]
      simp only
      rw [if_pos (by rw [hup.currentTunnelHandle]; decide), hup.currentTunnelHandle, hhandles, awgTurnOff_only]
    rw [hlowered]
    refine ⟨⟨.inl ?down, hb.memory, fun t => ?_⟩, ?down⟩
    · exact ⟨rfl, rfl, rfl, rfl⟩
    · exact (heard_append b _ t).trans (hear_down hheard t)

theorem step_ok (hb : b.Ok getName configs) (hconfigs : ∀ config, (configs config).Parsed) (event : Event P) :
    (b.step getName configs event).Ok getName configs := by
  cases event with
  | setState tunnel state config phone again => exact (setState_spec hb hconfigs tunnel state config phone again).1
  | created => exact created_ok hb
  | destroyed => exact (destroyed_spec hb).1

theorem run_ok (hconfigs : ∀ config, (configs config).Parsed) (events : List (Event P)) :
    (run getName configs events).Ok getName configs := by
  have hrun : ∀ b : Backend, b.Ok getName configs → (events.foldl (step getName configs) b).Ok getName configs := by
    induction events with
    | nil => exact fun b hb => hb
    | cons event events ih => exact fun b hb => ih _ (step_ok hb hconfigs event)
  exact hrun initial ok_initial

/-- The configs were read from texts, whatever stands in them. -/
def WereRead (configs : Nat → Config P) : Prop := ∀ config, ∃ text, Config.parse P text = .ok (configs config)

theorem parsed_of_wereRead (h : WereRead configs) : ∀ config, (configs config).Parsed := by
  intro config
  obtain ⟨text, hparse⟩ := h config
  exact Config.parsed_of_parse hparse

/-- A device with these settings does what a config says. An endpoint is left out only if it is a name whose address
was too old when the settings were written and which was not known any more. -/
def Serves (c : Config P) (settings : List Char) : Prop :=
  ∃ (memory : Memory) (last : Nat → Lookup P), readDevice settings = some (c.device (memory.answers P last)) ∧
    ∀ (k : Nat) (p : Peer P) (e : InetEndpoint), c.peers[k]? = some p → p.endpoint = some e →
      (valuesOf "endpoint".toList (p.settings (memory.answers P last k)) = [] ↔
        e.isResolved = false ∧ InetEndpoint.expired (memory k) (last k) = true ∧
          (last k).getAllByName e.host = none)

theorem Started.serves {c : Config P} {settings : List Char} (hc : c.Parsed) (h : Started c settings) :
    Serves c settings := by
  obtain ⟨memory, last, hnumeric, hknown, rfl⟩ := h
  refine ⟨memory, last, readDevice_toAwgUserspaceString hc (Memory.resolves_answers hc hnumeric), ?_⟩
  exact fun k p e hp he => Config.endpoint_left_out_iff hknown hp he

/-- **The devices of a run.** Whatever texts the configs were read from: after any calls and any starts and ends of
the service, there is no tunnel and no device, or there is one tunnel and one device, with the name of the tunnel and
the settings of its config; and every tunnel was told in turn that it is up and that it is down, last of all the
truth. -/
theorem device_of_run (hconfigs : WereRead configs) (events : List (Event P)) :
    ((run getName configs events).Down ∨
      ∃ tunnel config settings, Serves (configs config) settings ∧
        (run getName configs events).currentTunnel = some tunnel ∧
        (run getName configs events).currentConfig = some config ∧
        (run getName configs events).currentTunnelHandle = 0 ∧
        (run getName configs events).tunnelHandles 0 = some ⟨getName tunnel, settings⟩ ∧
        ∀ handle ≠ 0, (run getName configs events).tunnelHandles handle = none) ∧
      ∀ tunnel, (run getName configs events).heard tunnel =
        some (decide ((run getName configs events).currentTunnel = some tunnel)) := by
  have hparsed := parsed_of_wereRead hconfigs
  have hrun : (run getName configs events).Ok getName configs := run_ok hparsed events
  refine ⟨hrun.state.imp_right ?_, hrun.heard⟩
  rintro ⟨tunnel, config, hup⟩
  obtain ⟨settings, hstarted, hhandles⟩ := hup.tunnelHandles
  refine ⟨tunnel, config, settings, hstarted.serves (hparsed config), hup.currentTunnel, hup.currentConfig,
    hup.currentTunnelHandle, ?_, fun handle hhandle => ?_⟩
  · rw [hhandles, Function.update_self]
  · rw [hhandles, Function.update_of_ne hhandle]

/-- A phone on which everything works. -/
def samplePhone : Phone ascii where
  prepared := true
  serviceStarts := true
  lookups _ _ := sampleLookup
  version := versionQ
  establish _ := .ok true
  deviceStarts _ := true

/-- A phone that does not let the app start a tunnel. -/
def refusingPhone : Phone ascii := { samplePhone with prepared := false }

/-- A tunnel is started, and the start of another one fails. -/
def sampleEvents : List (Event ascii) :=
  [.setState 0 .up (some 0) samplePhone samplePhone, .setState 1 .up (some 1) refusingPhone samplePhone]

theorem sampleEvents_up : (Config.parse ascii sampleText).toOption.any (fun c =>
    (run (fun _ => "Router1".toList) (fun _ => c) sampleEvents).currentTunnel == some 0) = true := by
  decide +kernel

theorem sample_wereRead : ∃ c : Config ascii, WereRead (fun _ => c) ∧
    (run (fun _ => "Router1".toList) (fun _ => c) sampleEvents).currentTunnel = some 0 := by
  have hup := sampleEvents_up
  cases h : Config.parse ascii sampleText with
  | error e =>
      rw [h] at hup
      cases hup
  | ok c =>
      rw [h] at hup
      exact ⟨c, fun _ => ⟨sampleText, h⟩, beq_iff_eq.mp hup⟩

theorem sample_device_of_run : ∃ c : Config ascii, WereRead (fun _ => c) ∧
    (run (fun _ => "Router1".toList) (fun _ => c) sampleEvents).heard 0 = some true := by
  obtain ⟨c, hread, hup⟩ := sample_wereRead
  refine ⟨c, hread, ?_⟩
  rw [(device_of_run hread sampleEvents).2 0, hup]
  rfl

/-- **What a call of `setState` does.** From every state that a run over configs that were read leads to: a tunnel
that is asked for is up with its config when the call returns; when it throws, the earlier tunnel is up with its
config, or none is; a tunnel that is not the current one takes nothing down. -/
theorem settled_of_run (hconfigs : WereRead configs) (events : List (Event P)) (tunnel : Nat) (state : State)
    (config : Option Nat) (phone again : Phone P) :
    (run getName configs events).Settled getName configs tunnel state config
      ((run getName configs events).setState getName configs tunnel state config phone again) :=
  (setState_spec (run_ok (parsed_of_wereRead hconfigs) events) (parsed_of_wereRead hconfigs) tunnel state config phone
    again).2

theorem sample_settled_of_run : ∃ c : Config ascii, WereRead (fun _ => c) ∧
    (run (fun _ => "Router1".toList) (fun _ => c) sampleEvents).Settled (fun _ => "Router1".toList) (fun _ => c) 1
      .down none ((run (fun _ => "Router1".toList) (fun _ => c) sampleEvents).setState (fun _ => "Router1".toList)
        (fun _ => c) 1 .down none samplePhone samplePhone) := by
  obtain ⟨c, hread, -⟩ := sample_wereRead
  exact ⟨c, hread, settled_of_run hread sampleEvents 1 .down none samplePhone samplePhone⟩

/-! ### What the failover sees -/

/-- The backend as the failover knows it: its config, and the fields of the failover. -/
def seen (n : Failover.GoBackend Nat) (b : Backend) : Failover.GoBackend Nat :=
  { n with currentConfig := b.currentConfig }

/-- A tunnel that was taken down, and what came after it. -/
def followed (n : Failover.GoBackend Nat) (original : Option Nat) (config : Nat) :
    Failover.Outcome → Failover.GoBackend Nat
  | .up => n.raise config
  | outcome => Failover.Android.restore n original outcome

theorem seen_followed {n : Failover.GoBackend Nat} {c : Nat} {r : Except Failure State × Backend}
    (h : b.Settled getName configs tunnel .up (some c) r) :
    ∃ outcome : Failover.Outcome, (outcome = .up ↔ ∃ state, r.1 = .ok state) ∧
      seen n r.2 = followed (seen n b).lower b.currentConfig c outcome := by
  have hwanted : b.wanted tunnel .up = .up := rfl
  cases h with
  | up _ hconfig hup =>
      cases hconfig
      refine ⟨.up, ⟨fun _ => ⟨_, rfl⟩, fun _ => rfl⟩, ?_⟩
      rw [seen, hup.currentConfig]
      rfl
  | down hdown _ _ => cases hwanted.symm.trans hdown
  | other hdown _ => cases hwanted.symm.trans hdown
  | lost _ hdown =>
      refine ⟨.lost, ⟨fun h => ?_, ?_⟩, ?_⟩
      · cases h
      · rintro ⟨_, h⟩
        cases h
      · rw [seen, hdown.currentConfig]
        rfl
  | restored _ hold hup =>
      refine ⟨.restored, ⟨fun h => ?_, ?_⟩, ?_⟩
      · cases h
      · rintro ⟨_, h⟩
        cases h
      · rw [seen, hup.currentConfig, hold.currentConfig]
        rfl

/-- **The backend of the failover.** In every state that a run over configs that were read leads to, a call for a
tunnel does to the config what the failover takes it to do: the tunnel is lowered, and then the new one is raised, or
the old one is restored, or none; and a call to take the current tunnel down lowers it. -/
theorem seen_of_run (hconfigs : WereRead configs) (events : List (Event P)) (n : Failover.GoBackend Nat)
    (tunnel c : Nat) (config : Option Nat) (phone again : Phone P) :
    (∃ outcome : Failover.Outcome,
      (outcome = .up ↔ ∃ state,
        ((run getName configs events).setState getName configs tunnel .up (some c) phone again).1 = .ok state) ∧
      seen n ((run getName configs events).setState getName configs tunnel .up (some c) phone again).2 =
        followed (seen n (run getName configs events)).lower (run getName configs events).currentConfig c outcome) ∧
      ((run getName configs events).currentTunnel = some tunnel →
        seen n ((run getName configs events).setState getName configs tunnel .down config phone again).2 =
          (seen n (run getName configs events)).lower) := by
  have hparsed := parsed_of_wereRead hconfigs
  have hrun : (run getName configs events).Ok getName configs := run_ok hparsed events
  refine ⟨seen_followed (setState_spec hrun hparsed tunnel .up (some c) phone again).2, fun hcurrent => ?_⟩
  have hsettled := (setState_spec hrun hparsed tunnel .down config phone again).2
  have hwanted : (run getName configs events).wanted tunnel .down = .down := rfl
  generalize (run getName configs events).setState getName configs tunnel .down config phone again = r at hsettled ⊢
  cases hsettled with
  | up hup _ _ => cases hwanted.symm.trans hup
  | down _ _ hdown =>
      rw [seen, hdown.currentConfig]
      rfl
  | other _ hother => exact absurd hcurrent hother
  | lost hup _ => cases hwanted.symm.trans hup
  | restored hup _ _ => cases hwanted.symm.trans hup

theorem sample_seen_of_run : ∃ c : Config ascii, WereRead (fun _ => c) ∧
    seen .initial ((run (fun _ => "Router1".toList) (fun _ => c) sampleEvents).setState (fun _ => "Router1".toList)
      (fun _ => c) 0 .down none samplePhone samplePhone).2 =
      (seen .initial (run (fun _ => "Router1".toList) (fun _ => c) sampleEvents)).lower := by
  obtain ⟨c, hread, hup⟩ := sample_wereRead
  exact ⟨c, hread, (seen_of_run hread sampleEvents .initial 0 0 none samplePhone samplePhone).2 hup⟩

end Runs

end Backend

end Awg
