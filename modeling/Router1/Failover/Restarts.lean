import Router1.Failover.Phone

/-!
# What is left for a restart

`connect` writes its config to a file, and `restoreTunnelIfRequested` raises the tunnel from that file
when an activity starts. Two things are asked of it: that the file holds the config that runs, and that an
activity which starts leaves a running tunnel alone. Neither the native failover nor a failed `connect`
keeps the file in step with the tunnel, and a new activity asks the backend about a `Tunnel` object of
its own, which never is the one that runs. `Stores` and `Solo` say which steps are harmless.
-/

namespace Failover

open Remote

namespace Phone

variable {Config : Type} {parse : String → Option Config} {s t : Phone Config} {e : PhoneEvent} {tunnel : Nat}
  {config : Config}

/-! ### The file and the tunnel -/

/-- With nothing in progress, the file of an enabled phone holds the config its tunnel runs with. -/
def StoredRuns (parse : String → Option Config) (s : Phone Config) : Prop :=
  s.failover = none → s.scheduling = [] → s.restores = [] → s.connects = [] → s.enabled = true →
    s.currentTunnel.isSome = true →
    ∃ text config, s.stored = some text ∧ parse text = some config ∧
      s.native.currentConfig = some config

/-- A failover that succeeds goes to the config of the file, and a `connect` that throws, with the tunnel
put back, was for the config that runs. -/
def Stores (parse : String → Option Config) (s : Phone Config) : PhoneEvent → Prop
  | .failoverRuns .up =>
      ∀ thread, s.failover = some thread → s.stored.bind parse = some thread.config
  | .connect activity configText serverCode .restored =>
      ∀ text running, s.written parse (.connect activity configText serverCode .restored) = some text →
        s.native.currentConfig = some running → parse text = some running
  | _ => True

/-- The running tunnel has a config, and the file holds it. -/
structure InStep (parse : String → Option Config) (s : Phone Config) : Prop where
  running : s.currentTunnel.isSome = true → s.native.currentConfig.isSome = true
  stored : ∀ config, s.native.currentConfig = some config → s.stored.bind parse = some config

theorem stored_of_raised (hstores : Stores parse s e)
    (h : s.raised parse e = some (tunnel, config)) :
    ((s.written parse e).or s.stored).bind parse = some config := by
  cases e with
  | failoverRuns outcome =>
      cases outcome with
      | up =>
          simp only [raised] at h
          split at h
          · next hthread =>
              cases h
              exact hstores _ hthread
          · cases h
      | restored | lost => cases h
  | connect activity configText serverCode outcome =>
      cases outcome with
      | up =>
          simp only [raised] at h
          split at h
          · next hfree =>
              obtain ⟨parsed, hparse, heq⟩ := Option.map_eq_some_iff.mp h
              cases heq
              simp [written, hfree, hparse]
          · cases h
      | restored | lost => cases h
  | restore i outcome =>
      cases outcome with
      | up =>
          simp only [raised] at h
          split at h
          · split at h
            · cases h
            · obtain ⟨parsed, hparse, heq⟩ := Option.map_eq_some_iff.mp h
              cases heq
              exact hparse
          · cases h
      | restored | lost => cases h
  | elapse | configureFailover | sample | readTunnel | schedule | failoverRecords | connectEnds | disconnect
  | disconnectEnds | activityStarts | serviceDestroyed | processDies => cases h

/-- What an event has written that raises nothing is what runs, if anything does. -/
theorem written_of_not_raised (hstores : Stores parse s e) (hraised : s.raised parse e = none)
    (hstep : s.step parse e = some t) {text : String} (hwritten : s.written parse e = some text)
    (hkept : t.native.currentConfig = s.native.currentConfig)
    (hrunning : t.native.currentConfig = some config) : parse text = some config := by
  cases e with
  | connect activity configText serverCode outcome =>
      have hfree := hwritten
      simp only [written] at hfree
      split at hfree
      · next htext =>
          simp only [Bool.and_eq_true, Bool.not_eq_true'] at htext
          obtain ⟨parsed, hparse⟩ := Option.isSome_iff_exists.mp htext.2
          cases outcome with
          | up => simp [raised, htext.1.1, htext.1.2, hparse] at hraised
          | restored => exact hstores text config hwritten (hkept.symm.trans hrunning)
          | lost =>
              simp only [step, htext.1.1, if_true, connect, htext.1.2, Bool.false_eq_true, if_false,
                hparse] at hstep
              cases hstep
              cases hrunning
      · cases hfree
  | elapse | configureFailover | sample | readTunnel | schedule | failoverRuns | failoverRecords | connectEnds
  | disconnect | disconnectEnds | activityStarts | restore | serviceDestroyed | processDies => cases hwritten

theorem InStep.step (h : InStep parse s) (hstores : Stores parse s e) (hstep : s.step parse e = some t) :
    InStep parse t := by
  cases hraised : s.raised parse e with
  | some raise =>
      obtain ⟨after, hafter, hraise⟩ := step_of_raised hraised
      obtain rfl : after = t := Option.some.inj (hafter.symm.trans hstep)
      refine ⟨fun _ => by rw [hraise.currentConfig]; rfl, ?_⟩
      intro config hconfig
      rw [hraise.stored, stored_of_raised hstores hraised,
        Option.some.inj (hraise.currentConfig.symm.trans hconfig)]
  | none =>
      have hnot := step_of_not_raised hraised hstep
      obtain ⟨htunnel, hconfig⟩ | ⟨htunnel, hconfig⟩ := hnot.tunnel
      · refine ⟨fun hup => ?_, fun config hrunning => ?_⟩
        · rw [htunnel] at hup
          rw [hconfig]
          exact h.running hup
        · rw [hnot.stored]
          cases hwritten : s.written parse e with
          | none => exact h.stored config (hconfig.symm.trans hrunning)
          | some text => exact written_of_not_raised hstores hraised hstep hwritten hconfig hrunning
      · refine ⟨fun hup => ?_, fun config hrunning => ?_⟩
        · rw [htunnel] at hup
          cases hup
        · cases hconfig.symm.trans hrunning

/-- **The file of a running tunnel.** In every run in which a failover goes to no other config than the
file's and no `connect` fails over the running tunnel, the file holds what runs. -/
theorem stored_runs {clock : Int} {enabled : Bool} {stored : Option String}
    (hrun : Reaches (step parse) (Stores parse) (start clock enabled stored) s) :
    StoredRuns parse s := by
  have hinStep : InStep parse s :=
    hrun.invariant (fun _ _ _ hs hstores hstep => hs.step hstores hstep) ⟨nofun, nofun⟩
  intro _ _ _ _ _ hup
  obtain ⟨config, hconfig⟩ := Option.isSome_iff_exists.mp (hinStep.running hup)
  obtain ⟨text, htext, hparse⟩ := Option.bind_eq_some_iff.mp (hinStep.stored config hconfig)
  exact ⟨text, config, htext, hparse, hconfig⟩

/-- A failover in the background, to its end. -/
def failedOver : List PhoneEvent := connectedOnce ++ outage ++ [.failoverRuns .up, .failoverRecords]

/-- The tunnel runs with the second server and the file holds the first. -/
theorem failover_not_stored :
    ¬∀ (clock : Int) (enabled : Bool) (stored : Option String) (s : Phone String),
      Reaches (step some) (fun _ _ => True) (start clock enabled stored) s → StoredRuns some s := by
  intro hclaim
  have hsummary : (runEvents (step some) newPhone failedOver).map (fun s =>
      (s.failover.isNone && s.scheduling.isEmpty && s.restores.isEmpty && s.connects.isEmpty &&
        s.enabled && s.currentTunnel.isSome, s.stored, s.native.currentConfig)) =
      some (true, some Android.fr.configText, some Android.nl2.configText) := by
    decide +kernel
  obtain ⟨s, hrun, hs⟩ := Option.map_eq_some_iff.mp hsummary
  simp only [Prod.mk.injEq, Bool.and_eq_true, Option.isNone_iff_eq_none, List.isEmpty_iff] at hs
  obtain ⟨⟨⟨⟨⟨⟨hfailover, hscheduling⟩, hrestores⟩, hconnects⟩, henabled⟩, htunnel⟩, hstored, hconfig⟩ :=
    hs
  have hreached : Reaches (step some) (fun _ _ => True) newPhone s :=
    reaches_of_runEvents failedOver (allAllowed_of_forall (fun _ _ => trivial) _) hrun
  obtain ⟨text, config, htext, hparse, hrunning⟩ :=
    hclaim _ _ _ s hreached hfailover hscheduling hrestores hconnects henabled htunnel
  have hsame : Android.fr.configText = Android.nl2.configText :=
    calc Android.fr.configText
      _ = text := Option.some.inj (hstored.symm.trans htext)
      _ = config := Option.some.inj hparse
      _ = Android.nl2.configText := Option.some.inj (hrunning.symm.trans hconfig)
  exact absurd hsame (by decide)

theorem connectedOnce_stored :
    ∃ s, Reaches (step some) (Stores some) newPhone s ∧ s.enabled = true ∧ s.currentTunnel = some 0 ∧
      StoredRuns some s := by
  have hsummary : (runEvents (step some) newPhone connectedOnce).map
      (fun s => (s.enabled, s.currentTunnel)) = some (true, some 0) := by
    decide +kernel
  obtain ⟨s, hrun, hs⟩ := Option.map_eq_some_iff.mp hsummary
  rw [Prod.mk.injEq] at hs
  have hreached : Reaches (step some) (Stores some) newPhone s :=
    reaches_of_runEvents connectedOnce ⟨trivial, trivial, trivial, trivial, trivial⟩ hrun
  exact ⟨s, hreached, hs.1, hs.2, stored_runs hreached⟩

/-! ### A new activity and a running tunnel -/

/-- The state that `status` reports through an activity. -/
def status (s : Phone Config) (activity : Nat) : String :=
  if s.currentTunnel = some activity then "up" else "down"

/-- Activities that have started leave a running tunnel alone: each restore that is still to run finds it
up and changes nothing, and the latest activity reports a tunnel exactly when one runs. -/
structure LeavesRunning (parse : String → Option Config) (s : Phone Config) : Prop where
  alreadyUp : s.currentTunnel.isSome = true → ∀ r ∈ s.restores, s.status r.activity = "up"
  kept : s.currentTunnel.isSome = true → ∀ i outcome t, s.step parse (.restore i outcome) = some t →
    t.currentTunnel = s.currentTunnel ∧ t.native.currentConfig = s.native.currentConfig
  reported : ∀ latest, s.activities = latest + 1 →
    (s.status latest = "up" ↔ s.currentTunnel.isSome = true)

/-- An activity starts only while no tunnel runs, and a tunnel that is raised is the one of the latest
activity, with no restore of an earlier one still to come. -/
structure Solo (parse : String → Option Config) (s : Phone Config) (e : PhoneEvent) : Prop where
  starts : ∀ permitted, e = .activityStarts permitted → s.currentTunnel = none
  raises : ∀ tunnel config, s.raised parse e = some (tunnel, config) →
    s.activities = tunnel + 1 ∧ ∀ r ∈ s.waiting e, r.activity = tunnel

/-- The running tunnel is the one of the latest activity, and so are the restores. -/
def Newest (s : Phone Config) : Prop :=
  ∀ tunnel, s.currentTunnel = some tunnel →
    s.activities = tunnel + 1 ∧ ∀ r ∈ s.restores, r.activity = tunnel

/-- Before the first activity there is nothing that could raise a tunnel. -/
structure Unbegun (s : Phone Config) : Prop where
  currentTunnel : s.currentTunnel = none
  failover : s.failover = none
  scheduling : ∀ tunnel ∈ s.scheduling, tunnel = none
  restores : s.restores = []

theorem status_eq_up (activity : Nat) : s.status activity = "up" ↔ s.currentTunnel = some activity := by
  rw [status]
  split
  · next h => exact iff_of_true rfl h
  · next h => exact iff_of_false (by decide) h

theorem Newest.leavesRunning (h : Newest s) : LeavesRunning parse s where
  alreadyUp hup r hr := by
    obtain ⟨tunnel, htunnel⟩ := Option.isSome_iff_exists.mp hup
    rw [status_eq_up, (h tunnel htunnel).2 r hr]
    exact htunnel
  kept hup i outcome t hstep := by
    obtain ⟨tunnel, htunnel⟩ := Option.isSome_iff_exists.mp hup
    simp only [step] at hstep
    split at hstep
    · next r hr =>
        cases hstep
        have hsame : s.currentTunnel = some r.activity := by
          rw [(h tunnel htunnel).2 r (List.mem_of_getElem? hr)]
          exact htunnel
        rw [restore, if_pos hsame]
        exact ⟨rfl, rfl⟩
    · cases hstep
  reported latest hlatest := by
    rw [status_eq_up]
    constructor
    · intro htunnel
      rw [htunnel]
      rfl
    · intro hup
      obtain ⟨tunnel, htunnel⟩ := Option.isSome_iff_exists.mp hup
      have hnewest := (h tunnel htunnel).1
      obtain rfl : tunnel = latest := by omega
      exact htunnel

theorem Newest.step (h : Newest s) (hsolo : Solo parse s e) (hstep : s.step parse e = some t) :
    Newest t := by
  cases hraised : s.raised parse e with
  | some raise =>
      obtain ⟨raised, hafter, hraise⟩ := step_of_raised hraised
      obtain rfl : raised = t := Option.some.inj (hafter.symm.trans hstep)
      obtain ⟨hlatest, hwaiting⟩ := hsolo.raises _ _ hraised
      intro tunnel htunnel
      obtain rfl : raise.1 = tunnel := Option.some.inj (hraise.currentTunnel.symm.trans htunnel)
      rw [hraise.activities, hraise.restores]
      exact ⟨hlatest, hwaiting⟩
  | none =>
      have hnot := step_of_not_raised hraised hstep
      intro tunnel htunnel
      obtain ⟨hkept, -⟩ | ⟨hlowered, -⟩ := hnot.tunnel
      · have hrunning : s.currentTunnel = some tunnel := hkept.symm.trans htunnel
        have hquiet : ∀ permitted, e ≠ .activityStarts permitted := by
          intro permitted he
          cases (hsolo.starts permitted he).symm.trans hrunning
        obtain ⟨hlatest, hrestores⟩ := h tunnel hrunning
        refine ⟨(hnot.activities hquiet).trans hlatest, fun r hr => ?_⟩
        obtain ⟨current, hbefore, -⟩ := hnot.restores hquiet r hr
        exact hrestores ⟨r.activity, current⟩ hbefore
      · cases hlowered.symm.trans htunnel

theorem Unbegun.raised (h : Unbegun s) (hnone : s.activities = 0) : s.raised parse e = none := by
  cases e with
  | failoverRuns outcome =>
      cases outcome with
      | up => simp [Phone.raised, h.failover]
      | restored | lost => rfl
  | connect activity configText serverCode outcome =>
      cases outcome with
      | up => simp [Phone.raised, free, hnone]
      | restored | lost => rfl
  | restore i outcome =>
      cases outcome with
      | up => simp [Phone.raised, h.restores]
      | restored | lost => rfl
  | elapse | configureFailover | sample | readTunnel | schedule | failoverRecords | connectEnds | disconnect
  | disconnectEnds | activityStarts | serviceDestroyed | processDies => rfl

theorem activities_le_step (hstep : s.step parse e = some t) : s.activities ≤ t.activities := by
  cases hraised : s.raised parse e with
  | some raise =>
      obtain ⟨raised, hafter, hraise⟩ := step_of_raised hraised
      obtain rfl : raised = t := Option.some.inj (hafter.symm.trans hstep)
      exact Nat.le_of_eq hraise.activities.symm
  | none =>
      by_cases hstarts : ∃ permitted, e = .activityStarts permitted
      · obtain ⟨permitted, rfl⟩ := hstarts
        cases hstep
        exact Nat.le_succ _
      · have hsame := (step_of_not_raised hraised hstep).activities fun permitted he =>
          hstarts ⟨permitted, he⟩
        exact Nat.le_of_eq hsame.symm

theorem Unbegun.step (h : s.activities = 0 → Unbegun s) (hstep : s.step parse e = some t)
    (hnone : t.activities = 0) : Unbegun t := by
  have hbefore : s.activities = 0 := by
    have hle := activities_le_step hstep
    omega
  have hs : Unbegun s := h hbefore
  have hnot := step_of_not_raised (hs.raised hbefore) hstep
  have hquiet : ∀ permitted, e ≠ .activityStarts permitted := by
    rintro permitted rfl
    cases hstep
    cases hnone
  obtain ⟨hscheduling, hfailover⟩ := threads_of_down hs.currentTunnel hs.scheduling hstep
  refine ⟨?_, ?_, hscheduling, ?_⟩
  · obtain ⟨hkept, -⟩ | ⟨hlowered, -⟩ := hnot.tunnel
    · exact hkept.trans hs.currentTunnel
    · exact hlowered
  · refine Option.eq_none_iff_forall_ne_some.mpr fun thread hthread => ?_
    rcases hfailover thread hthread with hsame | ⟨before, hbefore, -⟩
    · cases hs.failover.symm.trans hsame
    · cases hs.failover.symm.trans hbefore
  · refine List.eq_nil_iff_forall_not_mem.mpr fun r hr => ?_
    obtain ⟨current, hmem, -⟩ := hnot.restores hquiet r hr
    rw [hs.restores] at hmem
    cases hmem

theorem solo_of_leavesRunning (h : Newest s) (hunbegun : s.activities = 0 → Unbegun s)
    (hleaves : ∀ t, s.step parse e = some t → LeavesRunning parse t) : Solo parse s e where
  starts := by
    rintro permitted rfl
    cases htunnel : s.currentTunnel with
    | none => rfl
    | some tunnel =>
        have hafter := hleaves _ rfl
        have hreport : s.status (tunnel + 1) = "up" :=
          (hafter.reported (tunnel + 1) (congrArg (· + 1) (h tunnel htunnel).1)).mpr
            (show s.currentTunnel.isSome = true by rw [htunnel]; rfl)
        rw [status_eq_up, htunnel, Option.some.injEq] at hreport
        omega
  raises tunnel config hraised := by
    obtain ⟨t, hstep, hraise⟩ := step_of_raised hraised
    have hafter : LeavesRunning parse t := hleaves t hstep
    have hup : t.currentTunnel = some tunnel := hraise.currentTunnel
    have hsome : t.currentTunnel.isSome = true := by rw [hup]; rfl
    have hwaiting : ∀ r ∈ s.waiting e, r.activity = tunnel := by
      intro r hr
      rw [← hraise.restores] at hr
      have hreport := hafter.alreadyUp hsome r hr
      rw [status_eq_up, hup, Option.some.injEq] at hreport
      exact hreport.symm
    cases hactivities : s.activities with
    | zero => cases ((hunbegun hactivities).raised hactivities).symm.trans hraised
    | succ latest =>
        have hreport := (hafter.reported latest (hraise.activities.trans hactivities)).mpr hsome
        rw [status_eq_up, hup, Option.some.injEq] at hreport
        exact ⟨by omega, hwaiting⟩

/-- **Running tunnels and new activities.** A run leaves running tunnels alone throughout exactly when all
its steps are the latest activity's own. -/
theorem leavesRunning_iff (clock : Int) (enabled : Bool) (stored : Option String)
    (es : List PhoneEvent) :
    Throughout (step parse) (LeavesRunning parse) (start clock enabled stored) es ↔
      AllAllowed (step parse) (Solo parse) (start clock enabled stored) es := by
  have hpossible : AllAllowed (step parse) (fun _ _ => True) (start clock enabled stored) es :=
    allAllowed_of_forall (fun _ _ => trivial) es
  refine throughout_iff (I := fun s => Newest s ∧ (s.activities = 0 → Unbegun s))
    (fun s hs => hs.1.leavesRunning) ?_ ?_ ?_ es hpossible
  · intro s e t hs _ hsolo hstep
    exact ⟨hs.1.step hsolo hstep, fun hnone => Unbegun.step hs.2 hstep hnone⟩
  · intro s e hs _ hleaves
    exact solo_of_leavesRunning hs.1 hs.2 hleaves
  · exact ⟨nofun, fun _ => ⟨rfl, rfl, nofun, rfl⟩⟩

/-- The activity is created anew while the tunnel runs. -/
def recreated : List PhoneEvent := connectedOnce ++ [.activityStarts true]

/-- The new activity finds the tunnel down and has a restore under way that replaces it. -/
theorem recreation_interrupts :
    ¬∀ (clock : Int) (enabled : Bool) (stored : Option String) (es : List PhoneEvent),
      Throughout (step some) (LeavesRunning some) (start clock enabled stored) es := by
  intro hclaim
  have hsummary : (runEvents (step some) newPhone recreated).map
      (fun s => (s.restores, s.currentTunnel)) = some ([⟨1, true⟩], some 0) := by
    decide +kernel
  obtain ⟨s, hrun, hs⟩ := Option.map_eq_some_iff.mp hsummary
  rw [Prod.mk.injEq] at hs
  have hleaves : LeavesRunning some s := (hclaim _ _ _ recreated).last hrun
  have hup := hleaves.alreadyUp (by rw [hs.2]; rfl) ⟨1, true⟩ (by rw [hs.1]; exact List.mem_cons_self)
  rw [status_eq_up, hs.2] at hup
  cases hup

end Phone

end Failover
