import Router1.Failover.Android

/-!
# The phone

Every activity of the app has a `Tunnel` object and an executor of its own, and all of them share one
backend. A status job that found the tunnel unreachable reads the current tunnel and hands it to
`scheduleFailover`, which starts a thread; the thread calls `setState` some time later. Here each
`setState` is one step, and the pieces of the samples, of the failover threads and of the tasks of the executors
come in any order. What an executor runs is an event here; when it was called is not the matter of this module.
-/

namespace Failover

/-- A thread of `scheduleFailover`; `done` when its `setState` has returned. -/
structure FailoverThread (Config : Type) where
  tunnel : Nat
  server : String
  config : Config
  done : Bool

/-- What `restoreTunnelIfRequested` has given to the executor of its activity. `current` tells whether
no disconnect has ended since. -/
structure Restore where
  activity : Nat
  current : Bool
  deriving DecidableEq, Repr

/-- `due` counts the jobs that are about to read the tunnel, `scheduling` has what the others have read, and
`disconnecting` counts the disconnects that have still to store the flag. -/
structure Phone (Config : Type) where
  clock : Int
  native : GoBackend Config
  currentTunnel : Option Nat
  activities : Nat
  enabled : Bool
  stored : Option String
  due : Nat
  scheduling : List (Option Nat)
  failover : Option (FailoverThread Config)
  restores : List Restore
  connects : List String
  disconnecting : Nat

inductive PhoneEvent where
  | elapse (milliseconds : Nat)
  | configureFailover (primaryServer activeServer : String) (nodes : List Router1FailoverNode)
      (policy : Router1FailoverPolicy)
  | sample (lastHandshake : Int) (probe : Bool)
  | readTunnel
  | schedule (i : Nat)
  | failoverRuns (outcome : Outcome)
  | failoverRecords
  | connect (activity : Nat) (configText serverCode : String) (outcome : Outcome)
  | connectEnds (i : Nat)
  | disconnect (activity : Nat)
  | disconnectEnds
  | activityStarts (permitted : Bool)
  | restore (i : Nat) (outcome : Outcome)
  | serviceDestroyed
  | processDies

namespace Phone

variable {Config : Type} (parse : String → Option Config)

/-- A phone on which nothing runs, with the flag and the file an earlier run has left. -/
def start (clock : Int) (enabled : Bool) (stored : Option String) : Phone Config where
  clock := clock
  native := .initial
  currentTunnel := none
  activities := 0
  enabled := enabled
  stored := stored
  due := 0
  scheduling := []
  failover := none
  restores := []
  connects := []
  disconnecting := 0

/-- `setStateInternal` to `DOWN` of the current tunnel. -/
def lower (s : Phone Config) : Phone Config :=
  { s with native := s.native.lower, currentTunnel := none }

/-- `setState` to `UP`: the tunnel is up with the config, or it threw. What was there before is back
then, or that failed as well. -/
def setStateUp (s : Phone Config) (tunnel : Nat) (config : Config) : Outcome → Phone Config
  | .up =>
      { s with
        native := { s.native with currentConfig := some config }
        currentTunnel := some tunnel }
  | .restored => s
  | .lost => s.lower

/-- `setState` to `DOWN`: it leaves another activity's tunnel alone. -/
def setStateDown (s : Phone Config) (tunnel : Nat) : Phone Config :=
  if s.currentTunnel = some tunnel then s.lower else s

/-- `scheduleFailover` with the tunnel its caller has read. -/
def scheduleFailover (s : Phone Config) : Option Nat → Phone Config
  | none => s
  | some tunnel =>
      match s.native.scheduleFailover true with
      | (_, none) => s
      | (native, some target) =>
          { s with native := native, failover := some ⟨tunnel, target.1, target.2, false⟩ }

/-- The failover thread comes to its end. -/
def failoverEnds (s : Phone Config) : Phone Config :=
  { s with native := { s.native with failoverSwitching := false }, failover := none }

/-- The calls of an activity come after its restore. -/
def free (s : Phone Config) (activity : Nat) : Bool :=
  activity < s.activities && s.restores.all fun restore => restore.activity != activity

/-- `connect` once the permission is there: the text is parsed and written to the file before the
tunnel is touched. -/
def connect (s : Phone Config) (activity : Nat) (configText serverCode : String) (outcome : Outcome) :
    Phone Config :=
  if isBlank configText then s
  else
    match parse configText with
    | none => s
    | some config =>
        let called := setStateUp { s with stored := some configText } activity config outcome
        match outcome with
        | .up => { called with connects := s.connects ++ [serverCode] }
        | _ => called

/-- What `restoreTunnelIfRequested` left to the executor. -/
def restore (s : Phone Config) (r : Restore) (outcome : Outcome) : Phone Config :=
  if s.currentTunnel = some r.activity then s
  else
    match s.stored.bind parse with
    | none => s
    | some config => s.setStateUp r.activity config outcome

/-- One step; none for an event that cannot happen. -/
def step (s : Phone Config) : PhoneEvent → Option (Phone Config)
  | .elapse milliseconds => some { s with clock := s.clock + milliseconds }
  | .configureFailover primaryServer activeServer nodes policy =>
      some { s with
        native :=
          match parseNodes parse [] nodes with
          | some configs => s.native.configureFailover primaryServer activeServer configs policy
          | none => s.native }
  | .sample lastHandshake probe =>
      let sampled := s.native.sample lastHandshake probe s.clock
      some { s with native := sampled.1, due := if sampled.2 then s.due + 1 else s.due }
  | .readTunnel =>
      match s.due with
      | 0 => none
      | due + 1 => some { s with due := due, scheduling := s.scheduling ++ [s.currentTunnel] }
  | .schedule i =>
      match s.scheduling[i]? with
      | some tunnel =>
          some (scheduleFailover { s with scheduling := s.scheduling.eraseIdx i } tunnel)
      | none => none
  | .failoverRuns outcome =>
      match s.failover with
      | some ⟨tunnel, server, config, false⟩ =>
          let called := s.setStateUp tunnel config outcome
          match outcome with
          | .up => some { called with failover := some ⟨tunnel, server, config, true⟩ }
          | _ => some called.failoverEnds
      | _ => none
  | .failoverRecords =>
      match s.failover with
      | some ⟨_, server, _, true⟩ =>
          some (failoverEnds { s with native := s.native.record server s.clock })
      | _ => none
  | .connect activity configText serverCode outcome =>
      if s.free activity then some (s.connect parse activity configText serverCode outcome) else none
  | .connectEnds i =>
      match s.connects[i]? with
      | some serverCode =>
          some { s with
            native :=
              if isBlank serverCode then s.native else s.native.setActiveFailoverServer serverCode
            enabled := true
            connects := s.connects.eraseIdx i }
      | none => none
  | .disconnect activity =>
      if s.free activity then
        some { s.setStateDown activity with disconnecting := s.disconnecting + 1 }
      else none
  | .disconnectEnds =>
      match s.disconnecting with
      | 0 => none
      | disconnecting + 1 =>
          some { s with
            enabled := false
            restores := s.restores.map fun restore => { restore with current := false }
            disconnecting := disconnecting }
  | .activityStarts permitted =>
      some { s with
        activities := s.activities + 1
        restores :=
          if s.enabled && s.stored.isSome && permitted then s.restores ++ [⟨s.activities, true⟩]
          else s.restores }
  | .restore i outcome =>
      match s.restores[i]? with
      | some r => some (restore parse { s with restores := s.restores.eraseIdx i } r outcome)
      | none => none
  | .serviceDestroyed => some s.lower
  | .processDies =>
      some { s with
        native := .initial
        currentTunnel := none
        due := 0
        scheduling := []
        failover := none
        restores := []
        connects := []
        disconnecting := 0 }

/-! ### What a step does to the tunnel -/

def raised (s : Phone Config) : PhoneEvent → Option (Nat × Config)
  | .failoverRuns .up =>
      match s.failover with
      | some ⟨tunnel, _, config, false⟩ => some (tunnel, config)
      | _ => none
  | .connect activity configText _ .up =>
      if s.free activity && !isBlank configText then (parse configText).map fun config => (activity, config)
      else none
  | .restore i .up =>
      match s.restores[i]? with
      | some r =>
          if s.currentTunnel = some r.activity then none
          else (s.stored.bind parse).map fun config => (r.activity, config)
      | none => none
  | _ => none

/-- The text that the event writes to the file. -/
def written (s : Phone Config) : PhoneEvent → Option String
  | .connect activity configText _ _ =>
      if s.free activity && !isBlank configText && (parse configText).isSome then some configText else none
  | _ => none

/-- The restores that the event leaves in their executors. -/
def waiting (s : Phone Config) : PhoneEvent → List Restore
  | .restore i _ => s.restores.eraseIdx i
  | _ => s.restores

variable {parse} {s t : Phone Config} {e : PhoneEvent} {tunnel : Nat} {config : Config}

/-- What an event leaves that raises a tunnel. -/
structure Raised (parse : String → Option Config) (s : Phone Config) (e : PhoneEvent) (tunnel : Nat)
    (config : Config) (t : Phone Config) : Prop where
  currentTunnel : t.currentTunnel = some tunnel
  currentConfig : t.native.currentConfig = some config
  stored : t.stored = (s.written parse e).or s.stored
  activities : t.activities = s.activities
  restores : t.restores = s.waiting e

/-- What any other event leaves: the tunnel as it was, or none. -/
structure NotRaised (parse : String → Option Config) (s : Phone Config) (e : PhoneEvent)
    (t : Phone Config) : Prop where
  tunnel : t.currentTunnel = s.currentTunnel ∧ t.native.currentConfig = s.native.currentConfig ∨
    t.currentTunnel = none ∧ t.native.currentConfig = none
  stored : t.stored = (s.written parse e).or s.stored
  activities : (∀ permitted, e ≠ .activityStarts permitted) → t.activities = s.activities
  restores : (∀ permitted, e ≠ .activityStarts permitted) →
    ∀ r ∈ t.restores, ∃ current, ⟨r.activity, current⟩ ∈ s.restores ∧
      (e ≠ .disconnectEnds → current = r.current)

theorem step_of_raised (h : s.raised parse e = some (tunnel, config)) :
    ∃ t, s.step parse e = some t ∧ Raised parse s e tunnel config t := by
  cases e with
  | failoverRuns outcome =>
      cases outcome with
      | up =>
          simp only [raised] at h
          split at h
          · next tunnel server config hthread =>
              cases h
              refine ⟨_, by simp only [step, hthread]; rfl, ?_⟩
              exact ⟨rfl, rfl, rfl, rfl, rfl⟩
          · cases h
      | restored | lost => cases h
  | connect activity configText serverCode outcome =>
      cases outcome with
      | up =>
          simp only [raised] at h
          split at h
          · next hfree =>
              obtain ⟨parsed, hparse, heq⟩ := Option.map_eq_some_iff.mp h
              cases heq
              rw [Bool.and_eq_true, Bool.not_eq_true'] at hfree
              refine ⟨_, by simp only [step, hfree.1, if_true]; rfl, ?_⟩
              simp only [connect, hfree.2, Bool.false_eq_true, if_false, hparse]
              refine ⟨rfl, rfl, ?_, rfl, rfl⟩
              simp [written, hfree.1, hfree.2, hparse, setStateUp]
          · cases h
      | restored | lost => cases h
  | restore i outcome =>
      cases outcome with
      | up =>
          simp only [raised] at h
          split at h
          · next r hr =>
              split at h
              · cases h
              · next hdown =>
                  obtain ⟨parsed, hparse, heq⟩ := Option.map_eq_some_iff.mp h
                  cases heq
                  refine ⟨_, by simp only [step, hr]; rfl, ?_⟩
                  simp only [restore, hdown, if_false, hparse]
                  exact ⟨rfl, rfl, rfl, rfl, rfl⟩
          · cases h
      | restored | lost => cases h
  | elapse | configureFailover | sample | readTunnel | schedule | failoverRecords | connectEnds | disconnect
  | disconnectEnds | activityStarts | serviceDestroyed | processDies => cases h

theorem NotRaised.of_kept (hwritten : s.written parse e = none)
    (htunnel : t.currentTunnel = s.currentTunnel) (hconfig : t.native.currentConfig = s.native.currentConfig)
    (hstored : t.stored = s.stored) (hactivities : t.activities = s.activities)
    (hrestores : ∀ r ∈ t.restores, r ∈ s.restores) :
    NotRaised parse s e t where
  tunnel := .inl ⟨htunnel, hconfig⟩
  stored := by rw [hstored, hwritten, Option.none_or]
  activities _ := hactivities
  restores _ r hr := ⟨r.current, hrestores r hr, fun _ => rfl⟩

theorem NotRaised.of_lowered (hwritten : s.written parse e = none)
    (htunnel : t.currentTunnel = none) (hconfig : t.native.currentConfig = none)
    (hstored : t.stored = s.stored) (hactivities : t.activities = s.activities)
    (hrestores : ∀ r ∈ t.restores, r ∈ s.restores) :
    NotRaised parse s e t where
  tunnel := .inr ⟨htunnel, hconfig⟩
  stored := by rw [hstored, hwritten, Option.none_or]
  activities _ := hactivities
  restores _ r hr := ⟨r.current, hrestores r hr, fun _ => rfl⟩

theorem scheduleFailover_kept (s : Phone Config) (tunnel : Option Nat) :
    (s.scheduleFailover tunnel).currentTunnel = s.currentTunnel ∧
      (s.scheduleFailover tunnel).native.currentConfig = s.native.currentConfig ∧
      (s.scheduleFailover tunnel).stored = s.stored ∧
      (s.scheduleFailover tunnel).activities = s.activities ∧
      (s.scheduleFailover tunnel).restores = s.restores := by
  cases tunnel with
  | none => exact ⟨rfl, rfl, rfl, rfl, rfl⟩
  | some tunnel =>
      rw [scheduleFailover]
      split
      · exact ⟨rfl, rfl, rfl, rfl, rfl⟩
      · next native target hschedule =>
          obtain ⟨-, -, -, rfl⟩ := GoBackend.scheduleFailover_some hschedule
          exact ⟨rfl, rfl, rfl, rfl, rfl⟩

theorem connect_of_not_raised {activity : Nat} {configText serverCode : String} {outcome : Outcome}
    (hfree : s.free activity = true)
    (hraised : s.raised parse (.connect activity configText serverCode outcome) = none) :
    NotRaised parse s (.connect activity configText serverCode outcome)
      (s.connect parse activity configText serverCode outcome) := by
  rw [connect]
  split
  · next hblank =>
      refine .of_kept ?_ rfl rfl rfl rfl fun _ => id
      simp [written, hblank]
  · next hblank =>
      rw [Bool.not_eq_true] at hblank
      cases hparse : parse configText with
      | none =>
          refine .of_kept ?_ rfl rfl rfl rfl fun _ => id
          simp [written, hparse]
      | some config =>
          have hwritten : s.written parse (.connect activity configText serverCode outcome) =
              some configText := by
            simp [written, hfree, hblank, hparse]
          cases outcome with
          | up => simp [raised, hfree, hblank, hparse] at hraised
          | restored =>
              refine ⟨.inl ⟨rfl, rfl⟩, ?_, fun _ => rfl, fun _ r hr => ⟨r.current, hr, fun _ => rfl⟩⟩
              rw [hwritten]
              rfl
          | lost =>
              refine ⟨.inr ⟨rfl, rfl⟩, ?_, fun _ => rfl, fun _ r hr => ⟨r.current, hr, fun _ => rfl⟩⟩
              rw [hwritten]
              rfl

theorem restore_of_not_raised {i : Nat} {outcome : Outcome} {r : Restore} (hr : s.restores[i]? = some r)
    (hraised : s.raised parse (.restore i outcome) = none) :
    NotRaised parse s (.restore i outcome)
      (restore parse { s with restores := s.restores.eraseIdx i } r outcome) := by
  have hleft : ∀ r ∈ s.restores.eraseIdx i, r ∈ s.restores := fun r hr => List.mem_of_mem_eraseIdx hr
  rw [restore]
  split
  · exact .of_kept rfl rfl rfl rfl rfl hleft
  · next hdown =>
      dsimp only at hdown ⊢
      cases hparse : s.stored.bind parse with
      | none => exact .of_kept rfl rfl rfl rfl rfl hleft
      | some config =>
          cases outcome with
          | up => simp [raised, hr, hdown, hparse] at hraised
          | restored => exact .of_kept rfl rfl rfl rfl rfl hleft
          | lost => exact .of_lowered rfl rfl rfl rfl rfl hleft

theorem step_of_not_raised (hraised : s.raised parse e = none) (h : s.step parse e = some t) :
    NotRaised parse s e t := by
  cases e with
  | elapse =>
      cases h
      exact .of_kept rfl rfl rfl rfl rfl fun _ => id
  | configureFailover primaryServer activeServer nodes policy =>
      cases h
      refine .of_kept rfl rfl ?_ rfl rfl fun _ => id
      dsimp only
      split <;> rfl
  | sample lastHandshake probe =>
      cases h
      obtain ⟨failures, hnative⟩ := s.native.sample_eq lastHandshake probe s.clock
      refine .of_kept rfl rfl ?_ rfl rfl fun _ => id
      dsimp only
      rw [hnative]
  | readTunnel =>
      simp only [step] at h
      split at h
      · cases h
      · cases h
        exact .of_kept rfl rfl rfl rfl rfl fun _ => id
  | schedule i =>
      simp only [step] at h
      split at h
      · next tunnel _ =>
          cases h
          obtain ⟨htunnel, hconfig, hstored, hactivities, hrestores⟩ :=
            scheduleFailover_kept { s with scheduling := s.scheduling.eraseIdx i } tunnel
          refine .of_kept rfl htunnel hconfig hstored hactivities ?_
          rw [hrestores]
          exact fun _ => id
      · cases h
  | failoverRuns outcome =>
      simp only [step] at h
      split at h
      · next tunnel server config hthread =>
          cases outcome with
          | up => simp [raised, hthread] at hraised
          | restored =>
              cases h
              exact .of_kept rfl rfl rfl rfl rfl fun _ => id
          | lost =>
              cases h
              exact .of_lowered rfl rfl rfl rfl rfl fun _ => id
      · cases h
  | failoverRecords =>
      simp only [step] at h
      split at h
      · cases h
        exact .of_kept rfl rfl rfl rfl rfl fun _ => id
      · cases h
  | connect activity configText serverCode outcome =>
      simp only [step] at h
      split at h
      · next hfree =>
          cases h
          exact connect_of_not_raised hfree hraised
      · cases h
  | connectEnds i =>
      simp only [step] at h
      split at h
      · next serverCode _ =>
          cases h
          refine .of_kept rfl rfl ?_ rfl rfl fun _ => id
          dsimp only
          split
          · rfl
          · obtain ⟨active, hactive⟩ := s.native.setActiveFailoverServer_eq serverCode
            rw [hactive]
      · cases h
  | disconnect activity =>
      simp only [step] at h
      split at h
      · cases h
        rw [setStateDown]
        split
        · exact .of_lowered rfl rfl rfl rfl rfl fun _ => id
        · exact .of_kept rfl rfl rfl rfl rfl fun _ => id
      · cases h
  | disconnectEnds =>
      simp only [step] at h
      split at h
      · cases h
      · cases h
        refine ⟨.inl ⟨rfl, rfl⟩, rfl, fun _ => rfl, fun _ r hr => ?_⟩
        obtain ⟨before, hbefore, rfl⟩ := List.mem_map.mp hr
        exact ⟨before.current, hbefore, fun hne => absurd rfl hne⟩
  | activityStarts permitted =>
      cases h
      exact ⟨.inl ⟨rfl, rfl⟩, rfl, fun hne => absurd rfl (hne permitted),
        fun hne => absurd rfl (hne permitted)⟩
  | restore i outcome =>
      simp only [step] at h
      split at h
      · next r hr =>
          cases h
          exact restore_of_not_raised hr hraised
      · cases h
  | serviceDestroyed =>
      cases h
      exact .of_lowered rfl rfl rfl rfl rfl fun _ => id
  | processDies =>
      cases h
      exact .of_lowered rfl rfl rfl rfl rfl (List.forall_mem_nil _)

/-- While no tunnel runs and no job holds one, no job comes to hold one, and no thread is started. -/
theorem threads_of_down (hdown : s.currentTunnel = none) (hscheduling : ∀ tunnel ∈ s.scheduling, tunnel = none)
    (h : s.step parse e = some t) :
    (∀ tunnel ∈ t.scheduling, tunnel = none) ∧
      ∀ thread, t.failover = some thread →
        s.failover = some thread ∨ ∃ before, s.failover = some before ∧ before.done = false := by
  cases e with
  | elapse | configureFailover | sample | activityStarts | serviceDestroyed =>
      cases h
      exact ⟨hscheduling, fun thread hthread => .inl hthread⟩
  | readTunnel =>
      simp only [step] at h
      split at h
      · cases h
      · cases h
        refine ⟨fun tunnel hmem => ?_, fun thread hthread => .inl hthread⟩
        rcases List.mem_append.mp hmem with hold | hnew
        · exact hscheduling tunnel hold
        · rw [List.mem_singleton.mp hnew, hdown]
  | schedule i =>
      simp only [step] at h
      split at h
      · next tunnel hmem =>
          cases h
          rw [hscheduling tunnel (List.mem_of_getElem? hmem)]
          exact ⟨fun tunnel hleft => hscheduling tunnel (List.mem_of_mem_eraseIdx hleft),
            fun thread hthread => .inl hthread⟩
      · cases h
  | failoverRuns outcome =>
      simp only [step] at h
      split at h
      · next tunnel server config hthread =>
          cases outcome with
          | up | restored | lost =>
              cases h
              exact ⟨hscheduling, fun _ _ => .inr ⟨_, hthread, rfl⟩⟩
      · cases h
  | failoverRecords =>
      simp only [step] at h
      split at h
      · cases h
        exact ⟨hscheduling, nofun⟩
      · cases h
  | connect activity configText serverCode outcome =>
      simp only [step] at h
      split at h
      · cases h
        rw [connect]
        split
        · exact ⟨hscheduling, fun thread hthread => .inl hthread⟩
        · split
          · exact ⟨hscheduling, fun thread hthread => .inl hthread⟩
          · cases outcome with
            | up | restored | lost => exact ⟨hscheduling, fun thread hthread => .inl hthread⟩
      · cases h
  | connectEnds | disconnectEnds =>
      simp only [step] at h
      split at h
      all_goals cases h
      exact ⟨hscheduling, fun thread hthread => .inl hthread⟩
  | disconnect activity =>
      simp only [step] at h
      split at h
      · cases h
        rw [setStateDown]
        split
        · exact ⟨hscheduling, fun thread hthread => .inl hthread⟩
        · exact ⟨hscheduling, fun thread hthread => .inl hthread⟩
      · cases h
  | restore i outcome =>
      simp only [step] at h
      split at h
      · cases h
        rw [restore]
        split
        · exact ⟨hscheduling, fun thread hthread => .inl hthread⟩
        · split
          · exact ⟨hscheduling, fun thread hthread => .inl hthread⟩
          · cases outcome with
            | up | restored | lost => exact ⟨hscheduling, fun thread hthread => .inl hthread⟩
      · cases h
  | processDies =>
      cases h
      exact ⟨List.forall_mem_nil _, nofun⟩

/-! ### A phone with two servers -/

/-- The app starts, and the user connects to the first of two servers, with every text taken for its
config. -/
def connectedOnce : List PhoneEvent :=
  [.activityStarts true, .configureFailover "fr" "fr" [Android.fr, Android.nl2] ⟨3, 180, 300, 5⟩,
    .connect 0 Android.fr.configText "fr" .up, .connectEnds 0]

/-- Three samples without an answer, after which the failover thread starts. -/
def outage : List PhoneEvent :=
  [.sample 1 false, .elapse 10000, .sample 1 false, .elapse 10000, .sample 1 false, .readTunnel, .schedule 0]

def newPhone : Phone String := start 1700000000000 false none

end Phone

end Failover
