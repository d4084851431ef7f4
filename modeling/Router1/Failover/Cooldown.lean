import Mathlib
import Router1.Failover.Android
import Router1.Remote.Pacing

/-!
# The distance between automatic switches

Each of the two controllers keeps the time of its own last success and lets its own cooldown pass before
it decides to start again. A failed start leaves no such time behind, neither controller looks at the other's,
and the backend does not look at its own again when a job that has decided comes to schedule. In a run in which
every start succeeds, in which the controller decides and a job schedules only when both cooldowns have passed
and the other controller is not switching, all starts are a cooldown apart.
-/

namespace Failover

open Remote

/-- The controller has asked for a connect and has not come back from it. -/
def Phase.isSwitching : Phase → Bool
  | .connecting _ | .returning _ => true
  | _ => false

namespace Android

variable {Config : Type} {parse : String → Option Config} {s t : Android Config} {e : AndroidEvent}
  {cooldown : Int}

/-- Every bundle comes with the same cooldown. -/
def fixedPolicy (cooldown : Int) (_ : Android Config) : AndroidEvent → Bool
  | .fetched (some bundle) => bundle.policy.switchCooldownSeconds == cooldown
  | _ => true

/-- The steps that keep the two controllers apart. -/
def inTime (parse : String → Option Config) (cooldown : Int) (s : Android Config) : AndroidEvent → Bool
  -- every start succeeds
  | .attemptRaises outcome => outcome == .up
  | .raise outcome => outcome == .up || !s.task.any (·.byController)
  | .connect =>
      match s.phase with
      | .connecting node => !isBlank node.configText && (parse node.configText).isSome
      | _ => true
  -- the controller starts after the backend's cooldown, while the backend is not switching
  | .decide =>
      match s.phase with
      | .deciding status =>
          match (s.controller.decide status s.clock).2 with
          | .switchTo _ _ =>
              s.attempt.isNone && cooldown * 1000 ≤ s.clock - s.native.failoverLastSwitchMillis
          | .stay _ => true
      | _ => true
  -- and a job schedules after both cooldowns, while the controller is not switching
  | .schedule i =>
      match s.scheduling[i]? with
      | some tunnel =>
          match (s.native.scheduleFailover tunnel).2 with
          | some _ =>
              !s.phase.isSwitching && cooldown * 1000 ≤ s.clock - s.native.failoverLastSwitchMillis &&
                s.controller.lastSwitch.all fun last => cooldown * 1000 ≤ s.clock - last
          | none => true
      | none => true
  | _ => true

/-- The times at which the backend and a controller last succeeded. -/
def marks (s : Android Config) (lastSwitch : Option Int) : List Int :=
  s.native.failoverLastSwitchMillis :: lastSwitch.toList

/-- What holds between the starts and the times the controllers keep. A start that is still going on has
left no time yet. -/
structure Paced (cooldown : Int) (s : Android Config) : Prop where
  spaced : Spaced (cooldown * 1000) s.starts
  past : ∀ a ∈ s.starts, a ≤ s.clock
  waiting : ∀ attempt, s.attempt = some attempt → attempt.progress = none →
    ∀ a ∈ s.starts, a + cooldown * 1000 ≤ s.clock
  alone : s.attempt ≠ none → s.phase.isSwitching = false
  busy : s.attempt ≠ none → s.native.failoverSwitching = true
  covered : (∀ attempt, s.attempt = some attempt → attempt.progress = none) →
    s.phase.isSwitching = false →
    Covered s.starts (s.marks s.controller.lastSwitch) ∧ Covered s.starts (s.marks s.prefs.switchedAt)
  bundle : ∀ bundle, s.controller.bundle = some bundle → bundle.policy.switchCooldownSeconds = cooldown
  cache : ∀ bundle, s.prefs.cache = some bundle → bundle.policy.switchCooldownSeconds = cooldown

theorem connected_isSwitching (phase : Phase) : phase.connected.isSwitching = phase.isSwitching := by
  cases phase <;> rfl

theorem start_paced (clock : Int) {prefs : FailoverPrefs}
    (hcache : ∀ bundle, prefs.cache = some bundle → bundle.policy.switchCooldownSeconds = cooldown) :
    Paced cooldown (start clock prefs : Android Config) where
  spaced := List.Pairwise.nil
  past := nofun
  waiting := nofun
  alone := fun h => absurd rfl h
  busy := fun h => absurd rfl h
  covered := fun _ _ => ⟨nofun, nofun⟩
  bundle := nofun
  cache := hcache

theorem Paced.continueWith (hs : Paced cooldown s) (hphase : s.phase.isSwitching = false) (next : Next) :
    Paced cooldown (s.continueWith next) := by
  cases next with
  | refresh | finish | evaluate status =>
      exact { hs with
        alone := fun _ => rfl
        covered := fun hbegun _ => hs.covered hbegun hphase }

theorem Paced.configureNative (hs : Paced cooldown s) (hphase : s.phase.isSwitching = false)
    (next : Next) : Paced cooldown (s.configureNative next) := by
  rw [Android.configureNative]
  split
  · split
    · exact hs.continueWith hphase next
    · exact { hs with
        alone := fun _ => rfl
        covered := fun hbegun _ => hs.covered hbegun hphase }
  · exact hs.continueWith hphase next

theorem Paced.configured (hs : Paced cooldown s) :
    Paced cooldown { s with native := (s.configured parse).getD s.native } := by
  cases hconfigured : s.configured parse with
  | none => exact hs
  | some native =>
      rw [Android.configured] at hconfigured
      split at hconfigured
      · cases hconfigured
      · next bundle hbundle =>
          obtain ⟨configs, -, rfl⟩ := Option.map_eq_some_iff.mp hconfigured
          exact { hs with }

theorem Paced.switches (hs : Paced cooldown s) (hlong : 60 ≤ cooldown) {status : AwgTunnelStatus}
    {controller : AwgFailoverController} {serverCode message : String} (node : Router1FailoverNode)
    (hphase : s.phase = .deciding status)
    (hdecide : s.controller.decide status s.clock = (controller, .switchTo serverCode message))
    (hattempt : s.attempt = none)
    (hnative : cooldown * 1000 ≤ s.clock - s.native.failoverLastSwitchMillis) :
    Paced cooldown
      { s with
        controller := controller
        phase := .connecting node
        starts := s.starts ++ [s.clock] } := by
  obtain ⟨hbundle, -, -⟩ := AwgFailoverController.decide_frame s.controller status s.clock
  rw [hdecide] at hbundle
  obtain ⟨bundle, hhand, hpassed, -⟩ := AwgFailoverController.switchTo_cases (congrArg Prod.snd hdecide)
  have hcovered : Covered s.starts (s.marks s.controller.lastSwitch) := by
    refine (hs.covered ?_ ?_).1
    · intro attempt hsome
      rw [hattempt] at hsome
      cases hsome
    · rw [hphase]
      rfl
  have hgap : ∀ a ∈ s.starts, a + cooldown * 1000 ≤ s.clock := by
    refine hcovered.add_gap_le ?_
    intro mark hmark
    rw [marks, List.mem_cons, Option.mem_toList] at hmark
    rcases hmark with rfl | hlast
    · omega
    · have hpolicy := hs.bundle bundle hhand
      have helapsed := AwgFailoverController.elapsed_of_cooldownPassed (by omega) hlast hpassed
      omega
  exact { hs with
    spaced := hs.spaced.append_now hgap
    past := by
      intro a ha
      rw [List.mem_append, List.mem_singleton] at ha
      rcases ha with hold | rfl
      · exact hs.past a hold
      · exact Int.le_refl _
    waiting := by
      intro attempt hsome
      rw [hattempt] at hsome
      cases hsome
    alone := fun h => absurd hattempt h
    covered := fun _ h => absurd h (by simp [Phase.isSwitching])
    bundle := by
      intro bundle hbundle'
      exact hs.bundle bundle (hbundle ▸ hbundle') }

theorem Paced.schedules (hs : Paced cooldown s) {tunnel : Bool} {native : GoBackend Config}
    {target : String × Config} (hschedule : s.native.scheduleFailover tunnel = (native, some target))
    (hphase : s.phase.isSwitching = false)
    (hnative : cooldown * 1000 ≤ s.clock - s.native.failoverLastSwitchMillis)
    (hlast : ∀ last, s.controller.lastSwitch = some last → cooldown * 1000 ≤ s.clock - last)
    (scheduling : List Bool) :
    Paced cooldown
      { s.disturbed with
        scheduling := scheduling
        native := native
        attempt := some ⟨target.1, target.2, none⟩ } := by
  obtain ⟨-, hfree, -, rfl⟩ := GoBackend.scheduleFailover_some hschedule
  have hattempt : s.attempt = none := by
    by_contra hsome
    rw [hs.busy hsome] at hfree
    cases hfree
  have hcovered := hs.covered (by simp [hattempt]) hphase
  have hgap : ∀ a ∈ s.starts, a + cooldown * 1000 ≤ s.clock := by
    refine hcovered.1.add_gap_le ?_
    intro mark hmark
    rw [marks, List.mem_cons, Option.mem_toList] at hmark
    rcases hmark with rfl | hmark
    · omega
    · have helapsed := hlast mark hmark
      omega
  exact { hs with
    waiting := fun _ _ _ => hgap
    alone := fun _ => hphase
    busy := fun _ => rfl
    covered := fun _ _ => hcovered }

theorem Paced.attemptBegins (hs : Paced cooldown s) {server : String} {config : Config}
    (hattempt : s.attempt = some ⟨server, config, none⟩) :
    Paced cooldown
      { s.disturbed with
        native := s.native.lower
        attempt := some ⟨server, config, some (.lowered s.native.currentConfig)⟩
        starts := s.starts ++ [s.clock] } := by
  have hsome : s.attempt ≠ none := by
    rw [hattempt]
    simp
  exact { hs with
    spaced := hs.spaced.append_now (hs.waiting _ hattempt rfl)
    past := by
      intro a ha
      rw [List.mem_append, List.mem_singleton] at ha
      rcases ha with hold | rfl
      · exact hs.past a hold
      · exact Int.le_refl _
    waiting := by
      rintro attempt hattempt' hprogress
      cases hattempt'
      cases hprogress
    alone := fun _ => hs.alone hsome
    busy := fun _ => hs.busy hsome
    covered := by
      intro hbegun
      cases hbegun _ rfl }

/-- A call of the executor changes the config and the label, which the starts do not depend on. -/
theorem Paced.withNative (hs : Paced cooldown s) {native : GoBackend Config} {current : Option Config}
    {active : String}
    (hnative : native = { s.native with currentConfig := current, failoverActiveServer := active })
    (task : Option (ConnectTask Config)) (calm evaluated : Bool) :
    Paced cooldown
      { s with native := native, task := task, calm := calm, evaluated := evaluated } := by
  subst hnative
  exact { hs with }

theorem Paced.raise (hs : Paced cooldown s) {task : ConnectTask Config} {original : Option Config}
    {outcome : Outcome} (hup : task.byController = true → outcome = .up) :
    Paced cooldown ((if task.byController then s else s.disturbed).raiseTask task original outcome) := by
  cases hby : task.byController with
  | true =>
      obtain rfl := hup hby
      obtain ⟨current, hraise⟩ := s.native.raise_eq task.config
      exact hs.withNative hraise _ _ _
  | false =>
      simp only [Bool.false_eq_true, if_false]
      cases outcome with
      | up =>
          obtain ⟨current, hraise⟩ := s.native.raise_eq task.config
          exact hs.withNative hraise _ _ _
      | restored | lost =>
          simp only [raiseTask, hby, Bool.false_eq_true, if_false]
          obtain ⟨current, hrestore⟩ := restore_eq s.native original _
          exact hs.withNative hrestore _ _ _

theorem Paced.name (hs : Paced cooldown s) (task : ConnectTask Config) :
    Paced cooldown ((if task.byController then s else s.disturbed).nameTask task) := by
  have hlabel : ∃ active, (if isBlank task.serverCode then s.native
      else s.native.setActiveFailoverServer task.serverCode) =
        { s.native with failoverActiveServer := active } := by
    split
    · exact ⟨_, rfl⟩
    · exact s.native.setActiveFailoverServer_eq task.serverCode
  obtain ⟨active, hnative⟩ := hlabel
  cases hby : task.byController with
  | false =>
      simp only [Bool.false_eq_true, if_false, nameTask, hby]
      exact hs.withNative hnative _ _ _
  | true =>
      have hnamed := hs.withNative hnative none s.calm s.evaluated
      simp only [if_true, nameTask, hby]
      exact { hnamed with
        alone := by
          rw [connected_isSwitching]
          exact hnamed.alone
        covered := by
          rw [connected_isSwitching]
          exact hnamed.covered }

theorem Paced.switched (hs : Paced cooldown s) (node : Router1FailoverNode) :
    Paced cooldown (ended
      { s with
        controller := s.controller.switched node.serverCode s.clock
        prefs := { s.prefs with server := some node.serverCode, switchedAt := some s.clock } }) := by
  have hnow : s.clock ∈ s.marks (some s.clock) := by simp [marks]
  exact { hs with
    alone := fun _ => rfl
    covered := fun _ _ => ⟨covered_of_now hs.past hnow, covered_of_now hs.past hnow⟩ }

theorem Paced.attemptRecords (hs : Paced cooldown s) (server : String) :
    Paced cooldown (s.disturbed.attemptEnds (s.native.record server s.clock)) :=
  { hs with
    waiting := nofun
    alone := fun h => absurd rfl h
    busy := fun h => absurd rfl h
    covered := fun _ _ => ⟨covered_of_now hs.past List.mem_cons_self,
      covered_of_now hs.past List.mem_cons_self⟩ }

/-- **One step.** -/
theorem Paced.step (hs : Paced cooldown s) (hlong : 60 ≤ cooldown) (hfixed : fixedPolicy cooldown s e = true)
    (hin : inTime parse cooldown s e = true) (h : step parse s e = some t) : Paced cooldown t := by
  cases move_of_step h with
  | elapse milliseconds =>
      exact { hs with
        past := fun a ha => by
          have := hs.past a ha
          show a ≤ s.clock + milliseconds
          omega
        waiting := fun attempt hattempt hprogress a ha => by
          have := hs.waiting attempt hattempt hprogress a ha
          show a + cooldown * 1000 ≤ s.clock + milliseconds
          omega }
  | initialized hphase =>
      have hquiet : s.phase.isSwitching = false := by
        rcases hphase with hphase | hphase <;> rw [hphase] <;> rfl
      have hread : Paced cooldown
          { s with controller := .initialized s.prefs, calm := false, evaluated := false } :=
        { hs with
          covered := fun hbegun _ => ⟨(hs.covered hbegun hquiet).2, (hs.covered hbegun hquiet).2⟩
          bundle := hs.cache }
      exact hread.configureNative hquiet .refresh
  | fetchFails hphase => exact hs.continueWith (by rw [hphase]; rfl) _
  | fetched bundle hphase =>
      have hquiet : s.phase.isSwitching = false := by rw [hphase]; rfl
      have hkept : Paced cooldown
          { s with
            controller := s.controller.refreshed bundle
            prefs := { s.prefs with
              cache := some bundle
              server := some (s.controller.refreshed bundle).activeServer } } :=
        { hs with
          covered := fun hbegun _ => hs.covered hbegun hquiet
          bundle := by
            rintro _ ⟨⟩
            exact beq_iff_eq.mp hfixed
          cache := by
            rintro _ ⟨⟩
            exact beq_iff_eq.mp hfixed }
      exact hkept.configureNative hquiet _
  | configure hphase _ => exact hs.configured.continueWith (by rw [hphase]; rfl) _
  | readStatus _ _ _ status => exact { hs with }
  | refreshes status hphase | evaluates status hphase =>
      have hquiet : s.phase.isSwitching = false := by rw [hphase]; rfl
      exact { hs with
        alone := fun _ => rfl
        covered := fun hbegun _ => hs.covered hbegun hquiet }
  | @adopt status server hphase =>
      have hquiet : s.phase.isSwitching = false := by rw [hphase]; rfl
      obtain ⟨hbundle, hlast⟩ := s.controller.adopt_frame status
      exact { hs with
        alone := fun _ => rfl
        covered := fun hbegun _ => by
          rw [hlast]
          exact hs.covered hbegun hquiet
        bundle := by
          rw [hbundle]
          exact hs.bundle }
  | @stays status controller decision hphase hdecide =>
      have hquiet : s.phase.isSwitching = false := by rw [hphase]; rfl
      obtain ⟨hbundle, -, hlast⟩ := s.controller.decide_frame status s.clock
      rw [hdecide] at hbundle hlast
      exact { hs with
        alone := fun _ => rfl
        covered := fun hbegun _ => by
          show Covered s.starts (s.marks controller.lastSwitch) ∧ _
          rw [hlast]
          exact hs.covered hbegun hquiet
        bundle := by
          show ∀ bundle, controller.bundle = some bundle → _
          rw [hbundle]
          exact hs.bundle }
  | switches hphase hdecide hnode =>
      simp only [inTime, hphase, hdecide, Bool.and_eq_true, Option.isNone_iff_eq_none,
        decide_eq_true_eq] at hin
      exact hs.switches hlong _ hphase hdecide hin.1 hin.2
  | connectFails hphase _ hfails =>
      simp only [inTime, hphase, Bool.and_eq_true, Bool.not_eq_true', Option.isSome_iff_ne_none] at hin
      rcases hfails with hfails | hfails
      · rw [hin.1] at hfails
        cases hfails
      · exact absurd hfails hin.2
  | connects _ _ _ => exact { hs with }
  | userConnectFails configText => exact hs
  | userConnects _ _ => exact { hs with }
  | disconnect _ => exact { hs with }
  | raise outcome htask _ =>
      refine hs.raise fun hby => ?_
      simpa [inTime, htask, hby] using hin
  | name htask _ => exact hs.name _
  | switched _ => exact hs.switched _
  | counts failures due => exact { hs with }
  | readTunnel due scheduling => exact { hs with }
  | schedulesNothing scheduling => exact { hs with }
  | schedules htunnel hschedule scheduling =>
      simp only [inTime, htunnel, hschedule, Bool.and_eq_true, Bool.not_eq_true', Option.all_eq_true,
        decide_eq_true_eq] at hin
      exact hs.schedules hschedule hin.1.1 hin.1.2 hin.2 scheduling
  | attemptBegins hattempt => exact hs.attemptBegins hattempt
  | @attemptRaises server config original hattempt =>
      have hsome : s.attempt ≠ none := by rw [hattempt]; simp
      obtain ⟨current, hraise⟩ := s.native.raise_eq config
      rw [hraise]
      exact { hs with
        waiting := by
          rintro attempt ⟨⟩ hprogress
          cases hprogress
        alone := fun _ => hs.alone hsome
        busy := fun _ => hs.busy hsome
        covered := by
          intro hbegun
          cases hbegun _ rfl }
  | attemptFails _ hfails => exact absurd (beq_iff_eq.mp hin) hfails
  | attemptRecords _ => exact hs.attemptRecords _

/-- **Cooldown.** With a fixed cooldown of a minute or more, the starts of a run that keeps the two
controllers apart are a cooldown apart from each other. -/
theorem starts_spaced {clock : Int} {prefs : FailoverPrefs} (hlong : 60 ≤ cooldown)
    (hcache : ∀ bundle, prefs.cache = some bundle → bundle.policy.switchCooldownSeconds = cooldown)
    (h : Reaches (step parse)
      (fun s e => fixedPolicy cooldown s e = true ∧ inTime parse cooldown s e = true)
      (start clock prefs) s) :
    Spaced (cooldown * 1000) s.starts := by
  have hpaced : Paced cooldown s := by
    refine h.invariant ?_ (start_paced clock hcache)
    intro s e t hs hallowed hstep
    exact hs.step hlong hallowed.1 hallowed.2 hstep
  exact hpaced.spaced

/-! ### A failed start -/

/-- The thread cannot raise the other server, and ten seconds later it starts again. -/
def retried : List AndroidEvent :=
  connected ++ failing ++
    [.attemptRaises .restored, .elapse 10000, .sample 1 false, .readTunnel, .schedule 0, .attemptBegins]

theorem retried_starts :
    (runEvents (step some) firstStart retried).map (·.starts) =
      some [1700000020000, 1700000030000] := by
  decide +kernel

/-- Two starts ten seconds apart under a cooldown of five minutes. -/
theorem failed_start_retried_at_once :
    ¬∀ (cooldown clock : Int) (prefs : FailoverPrefs) (s : Android String), 60 ≤ cooldown →
      (∀ bundle, prefs.cache = some bundle → bundle.policy.switchCooldownSeconds = cooldown) →
      Reaches (step some) (fun s e => fixedPolicy cooldown s e = true) (start clock prefs) s →
      Spaced (cooldown * 1000) s.starts := by
  intro hclaim
  obtain ⟨s, hrun, hstarts⟩ := Option.map_eq_some_iff.mp retried_starts
  have hfixed :
      AllAllowed (step some) (fun s e => fixedPolicy 300 s e = true) firstStart retried := by
    decide +kernel
  have hspaced := hclaim 300 1700000000000 ⟨none, none, none⟩ s (by decide) nofun
    (reaches_of_runEvents retried hfixed hrun)
  rw [hstarts] at hspaced
  exact absurd hspaced (by simp [Spaced])

/-- The thread raises the other server, and the next failure is met after the cooldown. -/
def patient : List AndroidEvent :=
  connected ++ failing ++ [.attemptRaises .up, .attemptRecords, .elapse 300000] ++ failing

theorem patient_starts :
    (runEvents (step some) firstStart patient).map (·.starts) =
      some [1700000020000, 1700000340000] := by
  decide +kernel

theorem patient_starts_spaced :
    ∃ s, runEvents (step some) firstStart patient = some s ∧
      s.starts = [1700000020000, 1700000340000] ∧ Spaced (300 * 1000) s.starts := by
  obtain ⟨s, hrun, hstarts⟩ := Option.map_eq_some_iff.mp patient_starts
  have hallowed : AllAllowed (step some)
      (fun s e => fixedPolicy 300 s e = true ∧ inTime some 300 s e = true) firstStart patient := by
    decide +kernel
  have hcache : ∀ bundle, (⟨none, none, none⟩ : FailoverPrefs).cache = some bundle →
      bundle.policy.switchCooldownSeconds = 300 := nofun
  exact ⟨s, hrun, hstarts,
    starts_spaced (by decide) hcache (reaches_of_runEvents patient hallowed hrun)⟩

end Android

end Failover
