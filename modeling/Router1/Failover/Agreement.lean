import Router1.Failover.Labels

/-!
# The labels of the active server agree

The steps of the executor and of the failover thread keep `Orderly` too. So in every run whose steps are
all in order, the backend's label names the server of the running config whenever nothing is in
progress, and so does the controller's once an `evaluate` has ended undisturbed. The dashboard's own
connect is not always in order: after a failover it brings the first server back under the label of the
other one.
-/

namespace Failover

open Remote

namespace Android

variable {Config : Type} {parse : String → Option Config} {s t : Android Config} {e : AndroidEvent}

/-! ### The executor's steps -/

/-- Whoever else touches the tunnel, the controller has nothing to answer for. -/
theorem Orderly.disturbed (hs : Orderly parse s) : Orderly parse s.disturbed :=
  { hs with
    deciding := nofun
    connecting := nofun
    returning := nofun
    ended := nofun }

theorem Orderly.beginTask (hs : Orderly parse s) (hattempt : s.attempt = none) (htask : s.task = none)
    {task : ConnectTask Config} (hlowered : task.progress = .lowered s.native.currentConfig)
    (huser : task.byController = false → task.serverCode = "" ∧
      (s.phase.isConfiguring = false →
        Agrees parse s.controller.bundle s.native.failoverActiveServer task.config))
    (hcontrolled : task.byController = true → ∃ node, KnownTask parse s.phase s.native task node) :
    Orderly parse { s with native := s.native.lower, task := some task } :=
  { hs with
    agreed := fun hquiet => by
      have hagreed := hs.agreed hquiet
      refine ⟨hagreed.known, ?_, hagreed.target, ?_⟩
      · intro config hbase
        refine hagreed.label config ?_
        rw [hattempt] at hbase ⊢
        rw [htask]
        rw [baseOf, ConnectTask.base, hlowered] at hbase
        exact hbase
      · rintro _ ⟨⟩ hby
        exact (huser hby).2 hquiet
    alone := fun h => absurd hattempt h
    attemptLowered := by
      rw [hattempt]
      exact nofun
    attemptRaised := by
      rw [hattempt]
      exact nofun
    taskLowered := fun _ _ _ _ => rfl
    taskRaised := by
      rintro _ ⟨⟩ hraised
      rw [hlowered] at hraised
      cases hraised
    user := by
      rintro _ ⟨⟩ hby
      exact (huser hby).1
    controlled := by
      rintro _ ⟨⟩ hby
      obtain ⟨node, hknown⟩ := hcontrolled hby
      exact ⟨node, { hknown with }⟩ }

theorem Orderly.attempt_eq_none (hs : Orderly parse s) {task : ConnectTask Config}
    (htask : s.task = some task) : s.attempt = none := by
  by_contra hsome
  rw [hs.alone hsome] at htask
  cases htask

theorem Orderly.taskFails (hs : Orderly parse s) {task : ConnectTask Config} {original : Option Config}
    (htask : s.task = some task) (hlowered : task.progress = .lowered original) (outcome : Outcome) :
    Orderly parse { s with native := restore s.native original outcome, task := none } := by
  have hattempt := hs.attempt_eq_none htask
  have hdown := hs.taskLowered task original htask hlowered
  obtain ⟨current, hrestore, hcurrent⟩ := restore_of_down hdown original outcome
  rw [hrestore]
  exact { hs with
    agreed := fun hquiet => by
      have hagreed := hs.agreed hquiet
      refine ⟨hagreed.known, ?_, hagreed.target, nofun⟩
      intro config hbase
      rw [hattempt] at hbase
      refine hagreed.label config ?_
      rw [hattempt, htask, baseOf, ConnectTask.base, hlowered]
      exact hcurrent config hbase
    alone := fun _ => rfl
    attemptLowered := by
      rw [hattempt]
      exact nofun
    attemptRaised := by
      rw [hattempt]
      exact nofun
    taskLowered := nofun
    taskRaised := nofun
    user := nofun
    controlled := nofun }

theorem Orderly.taskRaises (hs : Orderly parse s) {task : ConnectTask Config} {original : Option Config}
    (htask : s.task = some task) (hlowered : task.progress = .lowered original) :
    Orderly parse
      { s with
        native := s.native.raise task.config
        task := some { task with progress := .raised } } := by
  have hattempt := hs.attempt_eq_none htask
  rw [GoBackend.raise_of_down (hs.taskLowered task original htask hlowered)]
  exact { hs with
    agreed := fun hquiet => by
      have hagreed := hs.agreed hquiet
      refine ⟨hagreed.known, ?_, hagreed.target, ?_⟩
      · intro config hbase
        rw [hattempt, baseOf, ConnectTask.base] at hbase
        cases hby : task.byController with
        | true =>
            rw [hby] at hbase
            cases hbase
        | false =>
            rw [hby] at hbase
            cases hbase
            exact hagreed.request task htask hby
      · rintro _ ⟨⟩ hby
        exact hagreed.request task htask hby
    alone := fun h => absurd hattempt h
    attemptLowered := by
      rw [hattempt]
      exact nofun
    attemptRaised := by
      rw [hattempt]
      exact nofun
    taskLowered := by
      rintro _ _ ⟨⟩ hprogress
      cases hprogress
    taskRaised := by
      rintro _ ⟨⟩ _
      rfl
    user := by
      rintro _ ⟨⟩ hby
      exact hs.user task htask hby
    controlled := by
      rintro _ ⟨⟩ hby
      obtain ⟨node, hknown⟩ := hs.controlled task htask hby
      exact ⟨node, { hknown with }⟩ }

theorem Orderly.raiseTask (hs : Orderly parse s) {task : ConnectTask Config} {original : Option Config}
    (htask : s.task = some task) (hlowered : task.progress = .lowered original) (outcome : Outcome) :
    Orderly parse (s.raiseTask task original outcome) := by
  have hfails : ∀ outcome, Orderly parse
      (if task.byController then
        Android.ended { s with native := restore s.native original outcome, task := none }
      else { s with native := restore s.native original outcome, task := none }) := by
    intro outcome
    have hfailed := hs.taskFails htask hlowered outcome
    split
    · next hby =>
        -- the exception ends the `evaluate`
        obtain ⟨node, hknown⟩ := hs.controlled task htask hby
        refine hfailed.toPlain nofun rfl hs.cache
          (fun _ => hfailed.agreed (by rw [hknown.phase]; rfl)) fun hcalm => ⟨rfl, ?_⟩
        exact hfailed.connecting node hknown.phase hcalm
    · exact hfailed
  cases outcome with
  | up => exact hs.taskRaises htask hlowered
  | restored => exact hfails .restored
  | lost => exact hfails .lost

theorem Orderly.nameTask (hs : Orderly parse s) {task : ConnectTask Config} (htask : s.task = some task)
    (hraised : task.progress = .raised) : Orderly parse (s.nameTask task) := by
  have hattempt := hs.attempt_eq_none htask
  have hrunning := hs.taskRaised task htask hraised
  cases hby : task.byController with
  | false =>
      have hcode := hs.user task htask hby
      have hblank : isBlank task.serverCode = true := by
        rw [hcode]
        rfl
      simp only [Android.nameTask, hblank, hby, if_true, Bool.false_eq_true, if_false]
      exact { hs with
        agreed := fun hquiet => by
          have hagreed := hs.agreed hquiet
          refine ⟨hagreed.known, ?_, hagreed.target, fun _ htask => by cases htask⟩
          intro config hbase
          rw [hattempt, baseOf, hrunning] at hbase
          cases hbase
          exact hagreed.request task htask hby
        alone := fun _ => rfl
        taskLowered := fun _ _ htask => by cases htask
        taskRaised := fun _ htask => by cases htask
        user := fun _ htask => by cases htask
        controlled := fun _ htask => by cases htask }
  | true =>
      obtain ⟨node, hknown⟩ := hs.controlled task htask hby
      obtain ⟨bundle, hbundle, hnode⟩ := hs.node node hknown.phase
      have hquiet : s.phase.isConfiguring = false := by rw [hknown.phase]; rfl
      have hagreed := hs.agreed hquiet
      have hlabel : s.native.setActiveFailoverServer task.serverCode =
          { s.native with failoverActiveServer := node.serverCode } := by
        rw [hknown.code, GoBackend.setActiveFailoverServer, if_pos hknown.known]
      have hblank : isBlank task.serverCode = false := by
        rw [hknown.code]
        exact hknown.named
      simp only [Android.nameTask, hblank, hby, if_true, Bool.false_eq_true, if_false, hlabel,
        hknown.phase, Phase.connected]
      exact { hs with
        agreed := fun _ => by
          refine ⟨hagreed.known, ?_, ?_, fun _ htask => by cases htask⟩
          · intro config hbase
            rw [hattempt, baseOf, hrunning] at hbase
            cases hbase
            rw [hbundle]
            exact fun _ => ⟨node, hnode, rfl, hknown.config⟩
          · intro attempt hsome
            rw [hattempt] at hsome
            cases hsome
        alone := fun _ => rfl
        taskLowered := fun _ _ htask => by cases htask
        taskRaised := fun _ htask => by cases htask
        user := fun _ htask => by cases htask
        controlled := fun _ htask => by cases htask
        node := fun _ hphase => by cases hphase
        deciding := fun _ hphase => by cases hphase
        connecting := fun _ hphase => by cases hphase
        returning := by
          rintro _ ⟨⟩ _
          rfl
        ended := fun h => by
          have hidle := (hs.ended h).1
          rw [hknown.phase] at hidle
          cases hidle }

theorem Orderly.disconnect (hs : Orderly parse s) (htask : s.task = none) :
    Orderly parse { s with native := s.native.lower } :=
  { hs with
    agreed := fun hquiet => by
      have hagreed := hs.agreed hquiet
      refine ⟨hagreed.known, ?_, hagreed.target, hagreed.request⟩
      intro config hbase
      refine hagreed.label config ?_
      revert hbase
      rw [htask]
      -- only an attempt that is under way has a config to come back to
      cases s.attempt with
      | none => exact nofun
      | some a =>
          simp only [baseOf, Attempt.base]
          cases a.progress with
          | none => exact nofun
          | some progress => cases progress <;> exact id
    attemptLowered := fun _ _ _ _ => rfl
    attemptRaised := fun _ _ _ => nofun
    taskLowered := fun _ _ _ _ => rfl
    taskRaised := by
      rw [htask]
      exact nofun
    controlled := by
      rw [htask]
      exact nofun }

/-! ### The steps of the failover thread -/

theorem Orderly.schedules (hs : Orderly parse s) {tunnel : Bool} {native : GoBackend Config}
    {target : String × Config} (hschedule : s.native.scheduleFailover tunnel = (native, some target))
    (htask : s.task = none) (scheduling : List Bool) :
    Orderly parse
      { s with scheduling := scheduling, native := native, attempt := some ⟨target.1, target.2, none⟩ } := by
  obtain ⟨-, hfree, htarget, rfl⟩ := GoBackend.scheduleFailover_some hschedule
  have hattempt : s.attempt = none := by
    by_contra hsome
    rw [hs.busy hsome] at hfree
    cases hfree
  exact { hs with
    agreed := fun hquiet => by
      have hagreed := hs.agreed hquiet
      refine ⟨hagreed.known, ?_, ?_, hagreed.request⟩
      · intro config hbase
        refine hagreed.label config ?_
        rw [hattempt, htask]
        exact hbase
      · rintro _ ⟨⟩
        exact hagreed.known target htarget
    busy := fun _ => rfl
    alone := fun _ => htask
    attemptLowered := by
      rintro _ _ ⟨⟩ hprogress
      cases hprogress
    attemptRaised := by
      rintro _ ⟨⟩ hprogress
      cases hprogress
    controlled := by
      rw [htask]
      exact nofun }

theorem Orderly.attemptBegins (hs : Orderly parse s) {server : String} {config : Config}
    (hattempt : s.attempt = some ⟨server, config, none⟩) (starts : List Int) :
    Orderly parse
      { s with
        native := s.native.lower
        attempt := some ⟨server, config, some (.lowered s.native.currentConfig)⟩
        starts := starts } := by
  have hsome : s.attempt ≠ none := by rw [hattempt]; simp
  have htask := hs.alone hsome
  exact { hs with
    agreed := fun hquiet => by
      have hagreed := hs.agreed hquiet
      refine ⟨hagreed.known, ?_, ?_, hagreed.request⟩
      · intro original hbase
        refine hagreed.label original ?_
        rw [hattempt]
        exact hbase
      · have htarget := hagreed.target _ hattempt
        rintro _ ⟨⟩
        exact htarget
    busy := fun _ => hs.busy hsome
    alone := fun _ => htask
    attemptLowered := fun _ _ _ _ => rfl
    attemptRaised := by
      rintro _ ⟨⟩ hprogress
      cases hprogress
    taskLowered := fun _ _ _ _ => rfl
    taskRaised := by
      rw [htask]
      exact nofun
    controlled := by
      rw [htask]
      exact nofun }

theorem Orderly.attemptRaises (hs : Orderly parse s) {server : String} {config : Config}
    {original : Option Config}
    (hattempt : s.attempt = some ⟨server, config, some (.lowered original)⟩) :
    Orderly parse
      { s with
        native := s.native.raise config
        attempt := some ⟨server, config, some .raised⟩ } := by
  have hsome : s.attempt ≠ none := by rw [hattempt]; simp
  have htask := hs.alone hsome
  rw [GoBackend.raise_of_down (hs.attemptLowered _ original hattempt rfl)]
  exact { hs with
    agreed := fun hquiet => by
      have hagreed := hs.agreed hquiet
      have htarget := hagreed.target _ hattempt
      refine ⟨hagreed.known, nofun, ?_, hagreed.request⟩
      rintro _ ⟨⟩
      exact htarget
    busy := fun _ => hs.busy hsome
    alone := fun _ => htask
    attemptLowered := by
      rintro _ _ ⟨⟩ hprogress
      cases hprogress
    attemptRaised := by
      rintro _ ⟨⟩ _ _ ⟨⟩
      rfl
    taskLowered := by
      rw [htask]
      exact nofun
    taskRaised := by
      rw [htask]
      exact nofun
    controlled := by
      rw [htask]
      exact nofun }

/-- An attempt that fails leaves the earlier tunnel, which the label still names. -/
theorem Orderly.attemptFails (hs : Orderly parse s) {server : String} {config : Config}
    {original : Option Config}
    (hattempt : s.attempt = some ⟨server, config, some (.lowered original)⟩) (outcome : Outcome) :
    Orderly parse (s.attemptEnds (restore s.native original outcome)) := by
  have htask := hs.alone (by rw [hattempt]; simp)
  have hdown := hs.attemptLowered _ original hattempt rfl
  have hidle : (s.attemptEnds (restore s.native original outcome)).task = none := htask
  obtain ⟨current, hrestore, hcurrent⟩ := restore_of_down hdown original outcome
  rw [hrestore] at hidle ⊢
  exact { hs with
    agreed := fun hquiet => by
      have hagreed := hs.agreed hquiet
      refine ⟨hagreed.known, ?_, nofun, hagreed.request⟩
      intro config hbase
      refine hagreed.label config ?_
      change baseOf none s.task current = some config at hbase
      rw [htask] at hbase
      rw [hattempt]
      exact hcurrent config hbase
    busy := fun h => absurd rfl h
    alone := fun h => absurd rfl h
    attemptLowered := nofun
    attemptRaised := nofun
    taskLowered := by
      rw [hidle]
      exact nofun
    taskRaised := by
      rw [hidle]
      exact nofun
    controlled := by
      rw [hidle]
      exact nofun }

/-- An attempt that succeeds makes its own server the active one. -/
theorem Orderly.attemptRecords (hs : Orderly parse s) {server : String} {config : Config}
    (hattempt : s.attempt = some ⟨server, config, some .raised⟩) (now : Int) :
    Orderly parse (s.disturbed.attemptEnds (s.native.record server now)) := by
  have htask := hs.alone (by rw [hattempt]; simp)
  have hidle : (s.disturbed.attemptEnds (s.native.record server now)).task = none := htask
  exact { hs.disturbed with
    agreed := fun hquiet => by
      have hagreed := hs.agreed hquiet
      refine ⟨hagreed.known, ?_, nofun, ?_⟩
      · intro current hbase
        rw [hidle] at hbase
        rw [hs.attemptRaised _ hattempt rfl current hbase]
        exact hagreed.target _ hattempt
      · rw [hidle]
        exact nofun
    busy := fun h => absurd rfl h
    alone := fun h => absurd rfl h
    attemptLowered := nofun
    attemptRaised := nofun
    controlled := by
      rw [hidle]
      exact nofun
    deciding := nofun
    connecting := nofun
    returning := nofun
    ended := nofun }

/-! ### Runs -/

/-- **One step.** -/
theorem Orderly.step [DecidableEq Config] (hs : Orderly parse s) (htwo : twoNodes s e = true)
    (hin : inOrder parse s e = true) (h : step parse s e = some t) : Orderly parse t := by
  cases move_of_step h with
  | elapse milliseconds => exact { hs with }
  | initialized hphase =>
      have hfree : s.phase.isConnecting = false := by
        rcases hphase with hphase | hphase <;> rw [hphase] <;> rfl
      exact hs.configureNative (fun _ => hs.byUser hfree) hs.cache hs.cache rfl .refresh
  | fetchFails hphase =>
      refine hs.continueWith (by rw [hphase]; rfl) (hs.agreed (by rw [hphase]; rfl)) ?_ _
      exact hs.evaluated_eq_false (by simp [hphase])
  | fetched bundle hphase =>
      have hmany : ∀ other, some bundle = some other → 2 ≤ other.nodes.length := by
        rintro _ ⟨⟩
        exact of_decide_eq_true htwo
      exact hs.configureNative (fun _ => hs.byUser (by rw [hphase]; rfl)) hmany hmany
        (hs.evaluated_eq_false (by simp [hphase])) _
  | configure hphase htask => exact hs.configure hphase htask hin
  | readStatus _ _ _ status => exact { hs with }
  | refreshes status hphase | evaluates status hphase =>
      exact hs.toPlain (fun _ => hs.byUser (by rw [hphase]; rfl)) rfl hs.cache
        (fun _ => hs.agreed (by rw [hphase]; rfl)) (fun hended => by cases hended)
  | adopt server hphase =>
      simp only [inOrder, hphase, beq_iff_eq] at hin
      exact hs.adopt hphase hin server
  | stays hphase hdecide => exact hs.stays hphase hdecide
  | switches hphase hdecide hnode => exact hs.switches hphase hdecide hnode _
  | @connectFails node hphase htask _ =>
      exact hs.toPlain (by simp [htask]) rfl hs.cache
        (fun _ => hs.agreed (by rw [hphase]; rfl)) fun hcalm => ⟨rfl, hs.connecting node hphase hcalm⟩
  | @connects node config hphase htask hparse =>
      simp only [inOrder, hphase, Bool.and_eq_true, Option.isNone_iff_eq_none, Bool.not_eq_true']
        at hin
      obtain ⟨hattempt, hknown, hnamed⟩ := hin
      exact hs.beginTask hattempt htask rfl (fun huser => by cases huser)
        fun _ => ⟨node, hphase, rfl, hknown, hnamed, hparse⟩
  | userConnectFails configText => exact hs
  | @userConnects configText config htask hparse =>
      simp only [inOrder, hparse, Bool.and_eq_true, Option.isNone_iff_eq_none, Option.all_some,
        Bool.or_eq_true, decide_eq_true_eq] at hin
      obtain ⟨hattempt, hserver⟩ := hin
      refine hs.disturbed.beginTask hattempt htask rfl (fun _ => ⟨rfl, fun hquiet => ?_⟩)
        fun hcontrolled => by cases hcontrolled
      rcases hserver with hconfiguring | hagrees
      · rw [show s.phase.isConfiguring = false from hquiet] at hconfiguring
        cases hconfiguring
      · exact hagrees
  | disconnect htask => exact hs.disturbed.disconnect htask
  | raise outcome htask hprogress =>
      split
      · exact hs.raiseTask htask hprogress outcome
      · exact hs.disturbed.raiseTask htask hprogress outcome
  | name htask hprogress =>
      split
      · exact hs.nameTask htask hprogress
      · exact hs.disturbed.nameTask htask hprogress
  | switched hphase => exact hs.switched hphase
  | counts failures due =>
      exact { hs with
        agreed := fun hquiet => { hs.agreed hquiet with }
        controlled := fun task htask hby =>
          (hs.controlled task htask hby).imp fun _ hknown => { hknown with } }
  | readTunnel due scheduling => exact { hs with }
  | schedulesNothing scheduling => exact { hs with }
  | schedules htunnel hschedule scheduling =>
      simp only [inOrder, htunnel, hschedule, Option.isNone_iff_eq_none] at hin
      exact hs.disturbed.schedules hschedule hin scheduling
  | attemptBegins hattempt => exact hs.disturbed.attemptBegins hattempt _
  | attemptRaises hattempt => exact hs.disturbed.attemptRaises hattempt
  | attemptFails hattempt _ => exact hs.disturbed.attemptFails hattempt _
  | attemptRecords hattempt => exact hs.attemptRecords hattempt _

/-- **Agreement.** In every run whose steps keep the labels true, the two labels name the running
server. -/
theorem labels_agree [DecidableEq Config] {clock : Int} {prefs : FailoverPrefs}
    (hcache : ∀ bundle, prefs.cache = some bundle → 2 ≤ bundle.nodes.length)
    (h : Reaches (Android.step parse) (fun s e => twoNodes s e = true ∧ inOrder parse s e = true)
      (start clock prefs) s) :
    LabelsAgree parse s := by
  have horderly : Orderly parse s := by
    refine h.invariant ?_ (start_orderly clock hcache)
    intro s e t hs hallowed hstep
    exact hs.step hallowed.1 hallowed.2 hstep
  exact horderly.labelsAgree

/-! ### Two runs -/

/-- What the agreement is about, of a state that can be computed. -/
structure Summary where
  quiescent : Bool
  bundle : Option Router1FailoverBundle
  currentConfig : Option String
  nativeServer : String
  activeServer : String
  evaluated : Bool
  deriving DecidableEq

def summary (s : Android String) : Summary where
  quiescent := s.attempt.isNone && s.task.isNone && s.phase = .idle
  bundle := s.controller.bundle
  currentConfig := s.native.currentConfig
  nativeServer := s.native.failoverActiveServer
  activeServer := s.controller.activeServer
  evaluated := s.evaluated

/-- The user connects, and an `evaluate` takes over the label of a fresh status. -/
def evaluatedOnce : List AndroidEvent :=
  connected ++ [.readStatus 1699999990 1024 2048, .evaluate 0, .adopt, .decide]

theorem evaluatedOnce_summary :
    (runEvents (step some) firstStart evaluatedOnce).map summary =
      some ⟨true, some twoServers, some fr.configText, "fr", "fr", true⟩ := by
  decide +kernel

theorem evaluatedOnce_labels_agree :
    ∃ s, runEvents (step some) firstStart evaluatedOnce = some s ∧
      summary s = ⟨true, some twoServers, some fr.configText, "fr", "fr", true⟩ ∧
      LabelsAgree some s := by
  obtain ⟨s, hrun, hsummary⟩ := Option.map_eq_some_iff.mp evaluatedOnce_summary
  have hallowed : AllAllowed (step some)
      (fun s e => twoNodes s e = true ∧ inOrder some s e = true) firstStart evaluatedOnce := by
    decide +kernel
  have hcache : ∀ bundle, (⟨none, none, none⟩ : FailoverPrefs).cache = some bundle →
      2 ≤ bundle.nodes.length := nofun
  exact ⟨s, hrun, hsummary, labels_agree hcache (reaches_of_runEvents evaluatedOnce hallowed hrun)⟩

/-- The backend fails over to the other server; then the user disconnects and connects again. -/
def toggled : List AndroidEvent :=
  connected ++ failing ++ [.attemptRaises .up, .attemptRecords] ++
    [.disconnect, .userConnect fr.configText, .raise .up, .name]

theorem toggled_summary :
    (runEvents (step some) firstStart toggled).map summary =
      some ⟨true, some twoServers, some fr.configText, "nl2", "fr", false⟩ := by
  decide +kernel

/-- The tunnel is back on the first server, and the backend's label still names the other one. -/
theorem label_kept_after_reconnect :
    ¬∀ (clock : Int) (prefs : FailoverPrefs) (s : Android String),
      (∀ bundle, prefs.cache = some bundle → 2 ≤ bundle.nodes.length) →
      Reaches (step some) (fun s e => twoNodes s e = true) (start clock prefs) s →
      LabelsAgree some s := by
  intro hclaim
  obtain ⟨s, hrun, hsummary⟩ := Option.map_eq_some_iff.mp toggled_summary
  have hallowed : AllAllowed (step some) (fun s e => twoNodes s e = true) firstStart toggled := by
    decide +kernel
  have hagree := hclaim 1700000000000 ⟨none, none, none⟩ s nofun
    (reaches_of_runEvents toggled hallowed hrun)
  simp only [summary, Summary.mk.injEq, Bool.and_eq_true, Option.isNone_iff_eq_none,
    decide_eq_true_eq] at hsummary
  obtain ⟨⟨⟨hattempt, htask⟩, hphase⟩, hbundle, hconfig, hlabel, -⟩ := hsummary
  obtain ⟨⟨node, hnode, hcode, hparse⟩, -⟩ := hagree twoServers fr.configText
    ⟨hattempt, htask, .inl hphase⟩ hbundle hconfig ⟨fr, List.mem_cons_self, rfl⟩
  rw [hlabel] at hcode
  have hother : ∀ node ∈ twoServers.nodes, node.serverCode = "nl2" → node.configText ≠ fr.configText := by
    decide +kernel
  exact hother node hnode hcode (Option.some.inj hparse)

end Android

end Failover
