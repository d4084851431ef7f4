import Router1.Awg.Handles
import Router1.Failover.Phone

/-!
# Raising a tunnel

`GoBackend.setState` and `setStateInternal` with every place at which an activation can throw, the handle of
the running device and the table of handles on the side of the library. A failover takes the working tunnel
down before it activates the target, so a target that cannot be activated leaves the phone without a tunnel
until the earlier config is activated again. What `Phone.setStateUp` assumes of the whole is proved at the
end.
-/

namespace Failover

open Awg (TunnelHandles awgTurnOn awgTurnOn_spec awgTurnOff)

/-! ### One activation -/

inductive ActivationError where
  | tunnelMissingConfig
  | vpnNotAuthorized
  | unableToStartVpn
  | dnsResolutionFailure (host : String)
  | tunCreationError
  | goActivationErrorCode (code : Int)
  /-- What the builder of the interface or the sleep between two rounds throws. -/
  | buildFailed
  deriving DecidableEq, Repr

/-- What the system and the network answer while a tunnel is activated. -/
structure Activation where
  authorised : Bool
  serviceStarts : Bool
  resolves : Nat → String → Bool
  builds : Bool
  establishes : Bool
  deviceUp : Bool

def dnsResolutionRetries : Nat := 10

/-- The rounds of name resolution that are left. A host that is not resolved ends a round; the one that ends
the last round is returned. -/
def unresolved (hosts : List String) (resolves : Nat → String → Bool) : Nat → Nat → Option String
  | 0, _ => none
  | left + 1, i =>
      match hosts.find? fun host => !resolves i host with
      | none => none
      | some host => if left = 0 then some host else unresolved hosts resolves left (i + 1)

/-- The fields of `GoBackend`, with the devices that the library holds. A `Tunnel` object is known by the
activity it belongs to, a value of `Config` is a `Config` object, and a device by the config it serves. -/
structure TunnelBackend (Config : Type) where
  native : GoBackend Config
  currentTunnel : Option Nat
  currentTunnelHandle : Int
  tunnelHandles : TunnelHandles Config

/-- How `setState` to `UP` ends: nothing was to do, the tunnel is up, or it threw; and then there was no
earlier tunnel, or the earlier one is up again, or it could not be raised either. -/
inductive Switch where
  | unchanged
  | up
  | failed (error : ActivationError)
  | restored (error : ActivationError)
  | lost (error : ActivationError)
  deriving DecidableEq, Repr

/-- What the steps of the phone know about the end of a `setState`. -/
def Switch.outcome : Switch → Outcome
  | .unchanged | .up => .up
  | .failed _ | .restored _ => .restored
  | .lost _ => .lost

namespace TunnelBackend

variable {Config : Type} (hosts : Config → List String)

/-- `setStateInternal` to `UP`. The hosts are those of the endpoints of a config, in the order of its
peers. -/
def activate (b : TunnelBackend Config) (tunnel : Nat) (config : Option Config) (a : Activation) :
    TunnelBackend Config × Except ActivationError Unit :=
  match config with
  | none => (b, .error .tunnelMissingConfig)
  | some config =>
      if a.authorised = false then (b, .error .vpnNotAuthorized)
      else if a.serviceStarts = false then (b, .error .unableToStartVpn)
      else if b.currentTunnelHandle ≠ -1 then (b, .ok ())
      else
        match unresolved (hosts config) a.resolves dnsResolutionRetries 0 with
        | some host => (b, .error (.dnsResolutionFailure host))
        | none =>
            if a.builds = false then (b, .error .buildFailed)
            else if a.establishes = false then (b, .error .tunCreationError)
            else
              let turnedOn := awgTurnOn b.tunnelHandles config a.deviceUp
              -- the handle is stored before it is looked at
              let held :=
                { b with currentTunnelHandle := turnedOn.1, tunnelHandles := turnedOn.2 }
              if turnedOn.1 < 0 then (held, .error (.goActivationErrorCode turnedOn.1))
              else
                ({ held with
                  native := { b.native with currentConfig := some config }
                  currentTunnel := some tunnel }, .ok ())

/-- `setStateInternal` to `DOWN`. -/
def deactivate (b : TunnelBackend Config) : TunnelBackend Config :=
  if b.currentTunnelHandle = -1 then b
  else
    { native := b.native.lower
      currentTunnel := none
      currentTunnelHandle := -1
      tunnelHandles := awgTurnOff b.tunnelHandles b.currentTunnelHandle }

/-- `setState` to `UP`, with the answers to the activation and, should it throw, to the next one. -/
def setState [DecidableEq Config] (b : TunnelBackend Config) (tunnel : Nat) (config : Config) (first again : Activation) :
    TunnelBackend Config × Switch :=
  if b.currentTunnel = some tunnel ∧ b.native.currentConfig = some config then (b, .unchanged)
  else
    let lowered := if b.currentTunnel.isSome then b.deactivate else b
    match lowered.activate hosts tunnel (some config) first with
    | (raised, .ok ()) => (raised, .up)
    | (left, .error error) =>
        match b.currentTunnel with
        | none => (left, .failed error)
        | some original =>
            match left.activate hosts original b.native.currentConfig again with
            | (restored, .ok ()) => (restored, .restored error)
            | (lost, .error second) => (lost, .lost second)

/-! ### The failover thread -/

/-- `scheduleFailover` up to the start of its thread. -/
def scheduleFailover (b : TunnelBackend Config) (tunnel : Option Nat) :
    TunnelBackend Config × Option (String × Config) :=
  let scheduled := b.native.scheduleFailover tunnel.isSome
  ({ b with native := scheduled.1 }, scheduled.2)

/-- The thread of `scheduleFailover`, from its start to its end. -/
def failover [DecidableEq Config] (b : TunnelBackend Config) (tunnel : Nat) (target : String × Config)
    (first again : Activation) (now : Int) : TunnelBackend Config × Switch :=
  match b.setState hosts tunnel target.2 first again with
  | (after, .unchanged) => ({ after with native := done (after.native.record target.1 now) }, .unchanged)
  | (after, .up) => ({ after with native := done (after.native.record target.1 now) }, .up)
  | (after, thrown) => ({ after with native := done after.native }, thrown)
where
  done (n : GoBackend Config) : GoBackend Config := { n with failoverSwitching := false }

/-! ### What an activation leaves -/

variable {hosts} {b c : TunnelBackend Config} {tunnel : Nat} {config : Config} {a first again : Activation}
  {error : ActivationError} {target : String × Config} {now : Int}

@[simp] theorem deactivate_currentTunnelHandle (b : TunnelBackend Config) :
    b.deactivate.currentTunnelHandle = -1 := by
  rw [deactivate]
  split
  · next hdown => exact hdown
  · rfl

/-- Taking the tunnel down changes nothing else. -/
theorem deactivate_native (b : TunnelBackend Config) :
    ∃ current, b.deactivate.native = { b.native with currentConfig := current } := by
  rw [deactivate]
  split
  · exact ⟨_, rfl⟩
  · exact ⟨_, rfl⟩

/-- While no device runs, an activation that throws leaves everything as it was, wherever it throws, and
one that does not throw holds a new handle of the library, under which the config is served. -/
theorem activate_of_down (hosts : Config → List String) (hdown : b.currentTunnelHandle = -1)
    (tunnel : Nat) (config : Option Config) (a : Activation) :
    (∃ error, b.activate hosts tunnel config a = (b, .error error)) ∨
      ∃ (handle : Nat) (config' : Config), b.tunnelHandles handle = none ∧ config = some config' ∧
        b.activate hosts tunnel config a =
          (⟨{ b.native with currentConfig := config }, some tunnel, (handle : Int),
            Function.update b.tunnelHandles handle config⟩, .ok ()) := by
  cases config with
  | none => exact .inl ⟨_, rfl⟩
  | some config =>
      simp only [activate]
      split
      · exact .inl ⟨_, rfl⟩
      · split
        · exact .inl ⟨_, rfl⟩
        · rw [if_neg (not_not.mpr hdown)]
          split
          · exact .inl ⟨_, rfl⟩
          · split
            · exact .inl ⟨_, rfl⟩
            · split
              · exact .inl ⟨_, rfl⟩
              · obtain hfails | ⟨handle, hfree, hturned⟩ :=
                  awgTurnOn_spec b.tunnelHandles config a.deviceUp
                · rw [hfails, if_pos (by decide : (-1 : Int) < 0)]
                  -- the sentinel is what the handle was before
                  refine .inl ⟨_, Prod.ext ?_ rfl⟩
                  rw [← hdown]
                · rw [hturned, if_neg (by omega)]
                  exact .inr ⟨handle, config, hfree, rfl, rfl⟩

variable [DecidableEq Config]

theorem setState_restored_iff :
    (b.setState hosts tunnel config first again).2 = .restored error ↔
      ¬(b.currentTunnel = some tunnel ∧ b.native.currentConfig = some config) ∧
        (b.deactivate.activate hosts tunnel (some config) first).2 = .error error ∧
        ∃ original, b.currentTunnel = some original ∧
          (b.deactivate.activate hosts original b.native.currentConfig again).2 = .ok () := by
  rw [setState]
  split
  · next hsame => exact iff_of_false nofun fun h => h.1 hsame
  · next hother =>
      cases hcurrent : b.currentTunnel with
      | none =>
          refine iff_of_false ?_ fun h => nomatch h.2.2
          dsimp only
          split
          · exact nofun
          · exact nofun
      | some original =>
          rw [hcurrent] at hother
          simp only [Option.isSome_some, if_true]
          obtain ⟨thrown, hfails⟩ | ⟨handle, _, -, -, hraised⟩ :=
            activate_of_down hosts (deactivate_currentTunnelHandle b) tunnel (some config) first
          · rw [hfails]
            obtain ⟨second, hlost⟩ | ⟨handle, _, -, -, hback⟩ :=
              activate_of_down hosts (deactivate_currentTunnelHandle b) original
                b.native.currentConfig again
            · simp [hlost]
            · simp only [hback, Switch.restored.injEq, Except.error.injEq]
              exact ⟨fun h => ⟨hother, h, original, rfl, by rw [hback]⟩, fun h => h.2.1⟩
          · simp [hraised]

/-- The earlier tunnel, with its config and with a handle under which the library serves it; nothing else has
changed. -/
theorem setState_of_restored (h : b.setState hosts tunnel config first again = (c, .restored error)) :
    c.native = b.native ∧ c.currentTunnel = b.currentTunnel ∧ 0 ≤ c.currentTunnelHandle ∧
      ∃ config, c.native.currentConfig = some config ∧ c.tunnelHandles c.currentTunnelHandle = some config := by
  obtain ⟨hother, hfails, original, hcurrent, hagain⟩ := setState_restored_iff.mp (congrArg Prod.snd h)
  obtain ⟨thrown, hfailed⟩ | ⟨handle, _, -, -, hraised⟩ :=
    activate_of_down hosts (deactivate_currentTunnelHandle b) tunnel (some config) first
  · obtain ⟨second, hlost⟩ | ⟨handle, earlier, -, hearlier, hback⟩ :=
      activate_of_down hosts (deactivate_currentTunnelHandle b) original b.native.currentConfig
        again
    · rw [hlost] at hagain
      cases hagain
    · rw [setState, if_neg hother] at h
      simp only [hcurrent, Option.isSome_some, if_true, hfailed, hback] at h
      obtain ⟨rfl, -⟩ := Prod.mk.inj h
      obtain ⟨current, hnative⟩ := deactivate_native b
      refine ⟨?_, rfl.trans hcurrent.symm, Int.natCast_nonneg handle, earlier, hearlier, ?_⟩
      · rw [hnative]
      · exact (Function.update_self _ _ _).trans hearlier
  · rw [hraised] at hfails
    cases hfails

theorem failover_of_restored (h : b.failover hosts tunnel target first again now = (c, .restored error)) :
    ∃ after, b.setState hosts tunnel target.2 first again = (after, .restored error) ∧
      c = { after with native := { after.native with failoverSwitching := false } } := by
  rw [failover] at h
  split at h
  · cases h
  · cases h
  · next after thrown _ _ hset =>
      obtain ⟨rfl, rfl⟩ := Prod.mk.inj h
      exact ⟨after, hset, rfl⟩

/-- **A failover that fails.** The thread was started while a tunnel runs, activating the target threw and
the earlier config could be activated again. Then the thread leaves the tunnel, its config and the server
it found, the backend holds a handle under which the library serves the config, and the next failover may
start. -/
theorem failed_failover_changes_nothing {scheduled : TunnelBackend Config}
    (hscheduled : b.scheduleFailover b.currentTunnel = (scheduled, some target))
    (hended : scheduled.failover hosts tunnel target first again now = (c, .restored error)) :
    c.currentTunnel = b.currentTunnel ∧ c.native.currentConfig = b.native.currentConfig ∧
      c.native.failoverActiveServer = b.native.failoverActiveServer ∧
      0 ≤ c.currentTunnelHandle ∧
      (∃ config, c.native.currentConfig = some config ∧ c.tunnelHandles c.currentTunnelHandle = some config) ∧
      c.native.failoverSwitching = false := by
  have hstarted : scheduled = { b with native := { b.native with failoverSwitching := true } } := by
    obtain ⟨rfl, htarget⟩ := Prod.mk.inj hscheduled
    obtain ⟨-, -, -, hnative⟩ := GoBackend.scheduleFailover_some (Prod.ext rfl htarget)
    exact congrArg (fun native => { b with native := native }) hnative
  obtain ⟨after, hset, rfl⟩ := failover_of_restored hended
  obtain ⟨hnative, hcurrent, hhandle, hserved⟩ := setState_of_restored hset
  subst hstarted
  refine ⟨hcurrent, ?_, ?_, hhandle, hserved, rfl⟩
  · show after.native.currentConfig = _
    rw [hnative]
  · show after.native.failoverActiveServer = _
    rw [hnative]

/-! A tunnel to one server, whose failover goes to a server that has no address. -/

def noAddress : Activation := ⟨true, true, fun _ _ => false, true, true, true⟩

def allWell : Activation := ⟨true, true, fun _ _ => true, true, true, true⟩

def onFr : TunnelBackend String where
  native := { (GoBackend.initial : GoBackend String) with
    currentConfig := some "fr"
    failoverConfigs := [("FR", "fr"), ("NL2", "nl2")]
    failoverActiveServer := "FR" }
  currentTunnel := some 0
  currentTunnelHandle := 0
  tunnelHandles := Function.update (fun _ => none) 0 (some "fr")

/-- The thread for the second server, as it starts. -/
def leavingFr : TunnelBackend String :=
  { onFr with native := { onFr.native with failoverSwitching := true } }

theorem unresolved_target_changes_nothing :
    ∃ after, leavingFr.failover (fun config => [config]) 0 ("NL2", "nl2") noAddress allWell 0
        = (after, .restored (.dnsResolutionFailure "nl2")) ∧
      after.currentTunnel = some 0 ∧ after.native.currentConfig = some "fr" ∧
      after.native.failoverActiveServer = "FR" ∧ 0 ≤ after.currentTunnelHandle ∧
      after.native.failoverSwitching = false := by
  have hscheduled : onFr.scheduleFailover onFr.currentTunnel = (leavingFr, some ("NL2", "nl2")) := rfl
  obtain ⟨after, hended⟩ : ∃ after,
      leavingFr.failover (fun config => [config]) 0 ("NL2", "nl2") noAddress allWell 0
        = (after, .restored (.dnsResolutionFailure "nl2")) := ⟨_, rfl⟩
  obtain ⟨htunnel, hconfig, hserver, hhandle, -, hfree⟩ :=
    failed_failover_changes_nothing hscheduled hended
  exact ⟨after, hended, htunnel, hconfig, hserver, hhandle, hfree⟩

/-! ### The phone -/

/-- A handle is held, and a config is kept, while a tunnel runs. -/
structure Consistent (b : TunnelBackend Config) : Prop where
  handle : b.currentTunnelHandle ≠ -1 ↔ b.currentTunnel.isSome = true
  config : b.native.currentConfig.isSome = true ↔ b.currentTunnel.isSome = true

omit [DecidableEq Config] in
theorem Consistent.deactivate (h : Consistent b) (hup : b.currentTunnel.isSome = true) :
    b.deactivate = ⟨b.native.lower, none, -1, awgTurnOff b.tunnelHandles b.currentTunnelHandle⟩ := by
  rw [TunnelBackend.deactivate, if_neg (h.handle.mpr hup)]

omit [DecidableEq Config] in
theorem consistent_raised (n : GoBackend Config) (tunnel handle : Nat) (handles : TunnelHandles Config) :
    Consistent ⟨{ n with currentConfig := some config }, some tunnel, (handle : Int), handles⟩ where
  handle := iff_of_true (show (handle : Int) ≠ -1 by omega) rfl
  config := iff_of_true rfl rfl

/-- The steps of the phone: `Phone.setStateUp` with the outcome of a `setState` does to the tunnel and to its
config what the `setState` does, and the handle stays in step with them. -/
theorem setState_refines (p : Phone Config) (hnative : p.native = b.native)
    (htunnel : p.currentTunnel = b.currentTunnel) (hb : Consistent b) {switch : Switch}
    (h : b.setState hosts tunnel config first again = (c, switch)) :
    (p.setStateUp tunnel config switch.outcome).native = c.native ∧
      (p.setStateUp tunnel config switch.outcome).currentTunnel = c.currentTunnel ∧ Consistent c := by
  rw [setState] at h
  split at h
  · next hsame =>
      obtain ⟨rfl, rfl⟩ := Prod.mk.inj h
      refine ⟨?_, hsame.1.symm, hb⟩
      show { p.native with currentConfig := some config } = b.native
      rw [hnative, ← hsame.2]
  · cases hcurrent : b.currentTunnel with
    | none =>
        have hdown : b.currentTunnelHandle = -1 := by
          have hhandle := hb.handle
          rw [hcurrent] at hhandle
          exact not_not.mp fun hheld => nomatch hhandle.mp hheld
        simp only [hcurrent, Option.isSome_none, Bool.false_eq_true, if_false] at h
        obtain ⟨error, hfails⟩ | ⟨handle, _, -, -, hraised⟩ :=
          activate_of_down hosts hdown tunnel (some config) first
        · rw [hfails] at h
          obtain ⟨rfl, rfl⟩ := Prod.mk.inj h
          exact ⟨hnative, htunnel, hb⟩
        · rw [hraised] at h
          obtain ⟨rfl, rfl⟩ := Prod.mk.inj h
          exact ⟨by rw [← hnative]; rfl, rfl, consistent_raised b.native tunnel handle _⟩
    | some original =>
        have hlowered := hb.deactivate (by rw [hcurrent]; rfl)
        have hdown := deactivate_currentTunnelHandle b
        simp only [hcurrent, Option.isSome_some, if_true] at h
        obtain ⟨error, hfails⟩ | ⟨handle, _, -, -, hraised⟩ :=
          activate_of_down hosts hdown tunnel (some config) first
        · rw [hfails] at h
          obtain ⟨second, hlost⟩ | ⟨handle, earlier, -, hearlier, hback⟩ :=
            activate_of_down hosts hdown original b.native.currentConfig again
          · simp only [hlost] at h
            obtain ⟨rfl, rfl⟩ := Prod.mk.inj h
            rw [hlowered]
            exact ⟨by rw [← hnative]; rfl, rfl, ⟨iff_of_false (by simp) nofun, iff_of_false nofun nofun⟩⟩
          · simp only [hback] at h
            obtain ⟨rfl, rfl⟩ := Prod.mk.inj h
            rw [hlowered, hearlier]
            refine ⟨?_, htunnel.trans hcurrent, consistent_raised _ original handle _⟩
            show p.native = _
            rw [hnative, GoBackend.lower, ← hearlier]
        · rw [hraised] at h
          obtain ⟨rfl, rfl⟩ := Prod.mk.inj h
          rw [hlowered]
          refine ⟨?_, rfl, consistent_raised _ tunnel handle _⟩
          show { p.native with currentConfig := some config } = _
          rw [hnative, GoBackend.lower]

end TunnelBackend

end Failover
