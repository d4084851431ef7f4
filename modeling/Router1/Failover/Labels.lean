import Router1.Failover.Android

/-!
# Which server is active

The backend and the controller each keep a label of the active server. A connect without a server code
moves the tunnel and no label, `configureFailover` writes the controller's label over the backend's, and
`evaluate` takes over a label that was read earlier. `inOrder` lists the steps that keep the labels true.

`Orderly` is what holds between the labels and the tunnel while operations are in progress. This module
shows that the steps of the controller keep it.
-/

namespace Failover

open Remote

variable {Config : Type}

/-- The config is one of the bundle's only if it is the config of the node the code names. -/
def Agrees (parse : String → Option Config) (bundle : Option Router1FailoverBundle) (code : String)
    (config : Config) : Prop :=
  match bundle with
  | none => True
  | some bundle =>
      (∃ node ∈ bundle.nodes, parse node.configText = some config) →
        ∃ node ∈ bundle.nodes, node.serverCode = code ∧ parse node.configText = some config

instance [DecidableEq Config] (parse : String → Option Config) (bundle : Option Router1FailoverBundle)
    (code : String) (config : Config) : Decidable (Agrees parse bundle code config) :=
  match bundle with
  | none => isTrue trivial
  | some bundle => inferInstanceAs (Decidable
      ((∃ node ∈ bundle.nodes, parse node.configText = some config) →
        ∃ node ∈ bundle.nodes, node.serverCode = code ∧ parse node.configText = some config))

/-- The bundle is newer than what the backend knows. -/
def Phase.isConfiguring : Phase → Bool
  | .configuring _ => true
  | _ => false

def Phase.isConnecting : Phase → Bool
  | .connecting _ => true
  | _ => false

/-- The controller is neither about to switch nor switching. -/
def Phase.isPlain : Phase → Bool
  | .deciding _ | .connecting _ | .returning _ => false
  | _ => true

/-- The config whose server the label has to name: the one the tunnel comes back to if the attempt
fails. Once the attempt has raised the tunnel, its own label is on the way. -/
def Attempt.base (a : Attempt Config) (current : Option Config) : Option Config :=
  match a.progress with
  | none => current
  | some (.lowered original) => original
  | some .raised => none

def ConnectTask.base (t : ConnectTask Config) (current : Option Config) : Option Config :=
  match t.progress with
  | .lowered original => original
  | .raised => if t.byController then none else current

/-- A failover thread and a connect do not go on at once. -/
def baseOf (attempt : Option (Attempt Config)) (task : Option (ConnectTask Config))
    (current : Option Config) : Option Config :=
  match attempt, task with
  | some a, _ => a.base current
  | none, some t => t.base current
  | none, none => current

namespace Android

def base (s : Android Config) : Option Config := baseOf s.attempt s.task s.native.currentConfig

section

variable [DecidableEq Config] (parse : String → Option Config)

/-- Every bundle has two nodes or more. -/
def twoNodes (_ : Android Config) : AndroidEvent → Bool
  | .fetched (some bundle) => 2 ≤ bundle.nodes.length
  | _ => true

/-- The steps that keep the labels true. -/
def inOrder (s : Android Config) : AndroidEvent → Bool
  -- the configs parse, and the server that becomes active is the one of the tunnel's config
  | .configure =>
      match s.configured parse with
      | none => false
      | some native =>
          s.base.all (fun config =>
            Agrees parse s.controller.bundle native.failoverActiveServer config) &&
          s.attempt.all fun a => Agrees parse s.controller.bundle a.server a.config
  -- the status is not older than the label
  | .adopt =>
      match s.phase with
      | .adopting status => status.serverCode == s.native.failoverActiveServer
      | _ => true
  -- the controller connects to a server the backend knows, and not beside a failover thread
  | .connect =>
      s.attempt.isNone &&
        match s.phase with
        | .connecting node => s.native.knows node.serverCode && !isBlank node.serverCode
        | _ => true
  -- the user connects to the server of the label, or to none of the bundle, and not beside one either
  | .userConnect configText =>
      s.attempt.isNone && (s.phase.isConfiguring || (parse configText).all fun config =>
        Agrees parse s.controller.bundle s.native.failoverActiveServer config)
  -- a failover is not scheduled beside a connect
  | .schedule i =>
      match s.scheduling[i]? with
      | some tunnel =>
          match (s.native.scheduleFailover tunnel).2 with
          | some _ => s.task.isNone
          | none => true
      | none => true
  | _ => true

end

/-- No operation is in progress. -/
def Quiescent (s : Android Config) : Prop :=
  s.attempt = none ∧ s.task = none ∧ (s.phase = .idle ∨ s.phase = .off)

/-- When nothing is in progress and the tunnel runs on the config of a node, the backend's label names a
node with that config, and the controller's does after an `evaluate` that nobody disturbed. -/
def LabelsAgree (parse : String → Option Config) (s : Android Config) : Prop :=
  ∀ bundle config, s.Quiescent → s.controller.bundle = some bundle →
    s.native.currentConfig = some config →
    (∃ node ∈ bundle.nodes, parse node.configText = some config) →
    (∃ node ∈ bundle.nodes, node.serverCode = s.native.failoverActiveServer ∧
      parse node.configText = some config) ∧
    (s.evaluated = true → ∃ node ∈ bundle.nodes, node.serverCode = s.controller.activeServer ∧
      parse node.configText = some config)

/-! ### The invariant -/

variable {parse : String → Option Config} {s t : Android Config} {e : AndroidEvent}

/-- The labels that somebody may yet make the active one name the servers of their configs. -/
structure Agreed (parse : String → Option Config) (bundle : Option Router1FailoverBundle)
    (native : GoBackend Config) (attempt : Option (Attempt Config))
    (task : Option (ConnectTask Config)) : Prop where
  known : ∀ entry ∈ native.failoverConfigs, Agrees parse bundle entry.1 entry.2
  label : ∀ config, baseOf attempt task native.currentConfig = some config →
    Agrees parse bundle native.failoverActiveServer config
  target : ∀ a, attempt = some a → Agrees parse bundle a.server a.config
  request : ∀ t, task = some t → t.byController = false →
    Agrees parse bundle native.failoverActiveServer t.config

/-- A `connect` of the controller goes to the node it waits for, which the backend knows. -/
structure KnownTask (parse : String → Option Config) (phase : Phase) (native : GoBackend Config)
    (t : ConnectTask Config) (node : Router1FailoverNode) : Prop where
  phase : phase = .connecting node
  code : t.serverCode = node.serverCode
  known : native.knows node.serverCode = true
  named : isBlank node.serverCode = false
  config : parse node.configText = some t.config

/-- The controller's label is the backend's, unless the backend was never told one. -/
def Synced (s : Android Config) : Prop :=
  s.controller.activeServer = s.native.failoverActiveServer ∨ s.native.failoverActiveServer = ""

structure Orderly (parse : String → Option Config) (s : Android Config) : Prop where
  cache : ∀ bundle, s.prefs.cache = some bundle → 2 ≤ bundle.nodes.length
  agreed : s.phase.isConfiguring = false →
    Agreed parse s.controller.bundle s.native s.attempt s.task
  busy : s.attempt ≠ none → s.native.failoverSwitching = true
  alone : s.attempt ≠ none → s.task = none
  attemptLowered : ∀ a original, s.attempt = some a → a.progress = some (.lowered original) →
    s.native.currentConfig = none
  attemptRaised : ∀ a, s.attempt = some a → a.progress = some .raised →
    ∀ config, s.native.currentConfig = some config → config = a.config
  taskLowered : ∀ t original, s.task = some t → t.progress = .lowered original →
    s.native.currentConfig = none
  taskRaised : ∀ t, s.task = some t → t.progress = .raised → s.native.currentConfig = some t.config
  user : ∀ t, s.task = some t → t.byController = false → t.serverCode = ""
  controlled : ∀ t, s.task = some t → t.byController = true →
    ∃ node, KnownTask parse s.phase s.native t node
  node : ∀ node, s.phase = .connecting node →
    ∃ bundle, s.controller.bundle = some bundle ∧ node ∈ bundle.nodes
  deciding : ∀ status, s.phase = .deciding status → s.calm = true → s.Synced
  connecting : ∀ node, s.phase = .connecting node → s.calm = true → s.Synced
  returning : ∀ node, s.phase = .returning node → s.calm = true →
    s.native.failoverActiveServer = node.serverCode
  ended : s.evaluated = true → s.phase = .idle ∧ s.Synced

theorem start_orderly (clock : Int) {prefs : FailoverPrefs}
    (hcache : ∀ bundle, prefs.cache = some bundle → 2 ≤ bundle.nodes.length) :
    Orderly parse (start clock prefs : Android Config) where
  cache := hcache
  agreed := fun _ => ⟨nofun, nofun, nofun, nofun⟩
  busy := fun h => absurd rfl h
  alone := fun h => absurd rfl h
  attemptLowered := nofun
  attemptRaised := nofun
  taskLowered := nofun
  taskRaised := nofun
  user := nofun
  controlled := nofun
  node := nofun
  deciding := nofun
  connecting := nofun
  returning := nofun
  ended := nofun

theorem Orderly.labelsAgree (hs : Orderly parse s) : LabelsAgree parse s := by
  rintro bundle config ⟨hattempt, htask, hphase⟩ hbundle hconfig hlisted
  have hquiet : s.phase.isConfiguring = false := by
    rcases hphase with hphase | hphase <;> rw [hphase] <;> rfl
  have hbase : baseOf s.attempt s.task s.native.currentConfig = some config := by
    rw [hattempt, htask]
    exact hconfig
  have hlabel := (hs.agreed hquiet).label config hbase
  rw [hbundle] at hlabel
  obtain ⟨node, hnode, hcode, hparse⟩ := hlabel hlisted
  refine ⟨⟨node, hnode, hcode, hparse⟩, fun hevaluated => ⟨node, hnode, ?_, hparse⟩⟩
  rcases (hs.ended hevaluated).2 with hsame | hempty
  · rw [hsame, hcode]
  · rw [hempty] at hcode
    exact absurd hcode node.serverCode_ne

/-! ### The controller's steps -/

theorem Orderly.byUser (hs : Orderly parse s) (hphase : s.phase.isConnecting = false)
    {task : ConnectTask Config} (htask : s.task = some task) : task.byController = false := by
  by_contra hby
  rw [Bool.not_eq_false] at hby
  obtain ⟨node, hknown⟩ := hs.controlled task htask hby
  rw [hknown.phase] at hphase
  cases hphase

theorem Orderly.toPlain (hs : Orderly parse s)
    (huser : ∀ task, s.task = some task → task.byController = false) {prefs : FailoverPrefs}
    {controller : AwgFailoverController} {phase : Phase} {calm evaluated : Bool}
    (hplain : phase.isPlain = true)
    (hcache : ∀ bundle, prefs.cache = some bundle → 2 ≤ bundle.nodes.length)
    (hagreed : phase.isConfiguring = false → Agreed parse controller.bundle s.native s.attempt s.task)
    (hended : evaluated = true → phase = .idle ∧
      (controller.activeServer = s.native.failoverActiveServer ∨ s.native.failoverActiveServer = "")) :
    Orderly parse
      { s with
        prefs := prefs
        controller := controller
        phase := phase
        calm := calm
        evaluated := evaluated } where
  cache := hcache
  agreed := hagreed
  busy := hs.busy
  alone := hs.alone
  attemptLowered := hs.attemptLowered
  attemptRaised := hs.attemptRaised
  taskLowered := hs.taskLowered
  taskRaised := hs.taskRaised
  user := hs.user
  controlled := fun task htask hby => by
    rw [huser task htask] at hby
    cases hby
  node := by rintro _ rfl; cases hplain
  deciding := by rintro _ rfl; cases hplain
  connecting := by rintro _ rfl; cases hplain
  returning := by rintro _ rfl; cases hplain
  ended := hended

theorem Orderly.evaluated_eq_false (hs : Orderly parse s) (hphase : s.phase ≠ .idle) :
    s.evaluated = false := by
  by_contra hevaluated
  rw [Bool.not_eq_false] at hevaluated
  exact hphase (hs.ended hevaluated).1

theorem Orderly.continueWith (hs : Orderly parse s) (hplain : s.phase.isPlain = true)
    (hagreed : Agreed parse s.controller.bundle s.native s.attempt s.task)
    (hevaluated : s.evaluated = false) (next : Next) : Orderly parse (s.continueWith next) := by
  have huser : ∀ task, s.task = some task → task.byController = false := by
    intro task htask
    refine hs.byUser ?_ htask
    revert hplain
    cases s.phase <;> intro hplain <;> first | rfl | cases hplain
  have hended : s.evaluated = true → False := by
    rw [hevaluated]
    exact nofun
  cases next with
  | refresh | finish | evaluate status =>
      exact hs.toPlain huser rfl hs.cache (fun _ => hagreed) fun h => (hended h).elim

theorem agreed_none (native : GoBackend Config) (attempt : Option (Attempt Config))
    (task : Option (ConnectTask Config)) : Agreed parse none native attempt task :=
  ⟨fun _ _ => trivial, fun _ _ => trivial, fun _ _ => trivial, fun _ _ _ => trivial⟩

theorem Orderly.configureNative (hs : Orderly parse s)
    (huser : ∀ task, s.task = some task → task.byController = false) {prefs : FailoverPrefs}
    {controller : AwgFailoverController} {calm evaluated : Bool}
    (hcache : ∀ bundle, prefs.cache = some bundle → 2 ≤ bundle.nodes.length)
    (htwo : ∀ bundle, controller.bundle = some bundle → 2 ≤ bundle.nodes.length)
    (hevaluated : evaluated = false) (next : Next) :
    Orderly parse (Android.configureNative
      { s with prefs := prefs, controller := controller, calm := calm, evaluated := evaluated }
      next) := by
  subst hevaluated
  rw [Android.configureNative]
  split
  · next bundle hbundle =>
      have hmany : ¬bundle.nodes.length < 2 := by
        have := htwo bundle hbundle
        omega
      rw [if_neg hmany]
      exact hs.toPlain huser rfl hcache nofun nofun
  · next hbundle =>
      have hnone : controller.bundle = none := hbundle
      have hagreed : Agreed parse controller.bundle s.native s.attempt s.task := by
        rw [hnone]
        exact agreed_none _ _ _
      cases next with
      | refresh | finish | evaluate status =>
          exact hs.toPlain huser rfl hcache (fun _ => hagreed) nofun

/-- The backend takes over a bundle whose server for the tunnel's config is the one it makes active. -/
theorem Orderly.configure [DecidableEq Config] (hs : Orderly parse s) {next : Next}
    (hphase : s.phase = .configuring next) (htask : s.task = none)
    (hin : inOrder parse s .configure = true) :
    Orderly parse
      (Android.continueWith { s with native := (s.configured parse).getD s.native } next) := by
  rw [inOrder] at hin
  split at hin
  · cases hin
  · next native hconfigured =>
      rw [hconfigured, Option.getD_some]
      simp only [Bool.and_eq_true, Option.all_eq_true, decide_eq_true_eq] at hin
      obtain ⟨hlabel, htarget⟩ := hin
      have hnative : ∃ bundle configs, s.controller.bundle = some bundle ∧
          parseNodes parse [] bundle.nodes = some configs ∧
          native.failoverConfigs = configs ∧ native.currentConfig = s.native.currentConfig ∧
          native.failoverSwitching = s.native.failoverSwitching := by
        rw [configured] at hconfigured
        split at hconfigured
        · cases hconfigured
        · next bundle hbundle =>
            obtain ⟨configs, hconfigs, rfl⟩ := Option.map_eq_some_iff.mp hconfigured
            exact ⟨bundle, configs, hbundle, hconfigs, rfl, rfl, rfl⟩
      obtain ⟨bundle, configs, hbundle, hconfigs, hknown, hcurrent, hswitching⟩ := hnative
      have hkept : Orderly parse { s with native := native } :=
        { hs with
          agreed := by
            rw [hphase]
            exact nofun
          busy := fun h => by
            rw [hswitching]
            exact hs.busy h
          attemptLowered := fun a original ha hprogress => by
            rw [hcurrent]
            exact hs.attemptLowered a original ha hprogress
          attemptRaised := fun a ha hprogress => by
            rw [hcurrent]
            exact hs.attemptRaised a ha hprogress
          taskLowered := by
            rw [htask]
            exact nofun
          taskRaised := by
            rw [htask]
            exact nofun
          controlled := by
            rw [htask]
            exact nofun
          deciding := by
            rw [hphase]
            exact nofun
          connecting := by
            rw [hphase]
            exact nofun
          returning := by
            rw [hphase]
            exact nofun
          ended := fun h => by
            have hidle := (hs.ended h).1
            rw [hphase] at hidle
            cases hidle }
      refine hkept.continueWith (by rw [hphase]; rfl) ?_ (hs.evaluated_eq_false ?_) next
      · refine ⟨?_, ?_, htarget, ?_⟩
        · intro entry hentry
          rw [hknown] at hentry
          rcases mem_of_parseNodes hconfigs hentry with hnil | ⟨node, hnode, hcode, hparse⟩
          · cases hnil
          · rw [hbundle]
            exact fun _ => ⟨node, hnode, hcode, hparse⟩
        · intro config hbase
          refine hlabel config ?_
          rw [base, ← hcurrent]
          exact hbase
        · rw [htask]
          exact nofun
      · rw [hphase]
        exact nofun

theorem Orderly.adopt (hs : Orderly parse s) {status : AwgTunnelStatus}
    (hphase : s.phase = .adopting status) (hstatus : status.serverCode = s.native.failoverActiveServer)
    (server : Option String) :
    Orderly parse
      { s with
        controller := s.controller.adopt status
        prefs := { s.prefs with server := server }
        phase := .deciding status } := by
  have hsynced : (s.controller.adopt status).activeServer = s.native.failoverActiveServer ∨
      s.native.failoverActiveServer = "" := by
    rw [← hstatus, AwgFailoverController.adopt]
    by_cases hempty : status.serverCode = ""
    · exact .inr hempty
    · by_cases hsame : status.serverCode = s.controller.activeServer
      · rw [if_neg fun h => h.2 hsame]
        exact .inl hsame.symm
      · rw [if_pos ⟨hempty, hsame⟩]
        exact .inl rfl
  have hquiet : s.phase.isConfiguring = false := by rw [hphase]; rfl
  have hfree : s.phase.isConnecting = false := by rw [hphase]; rfl
  exact { hs with
    agreed := fun _ => by
      rw [(s.controller.adopt_frame status).1]
      exact hs.agreed hquiet
    controlled := fun task htask hby => by
      rw [hs.byUser hfree htask] at hby
      cases hby
    node := fun _ hconnecting => by cases hconnecting
    deciding := fun _ _ _ => hsynced
    connecting := fun _ hconnecting => by cases hconnecting
    returning := fun _ hreturning => by cases hreturning
    ended := fun h => by
      have hidle := (hs.ended h).1
      rw [hphase] at hidle
      cases hidle }

theorem Orderly.stays (hs : Orderly parse s) {status : AwgTunnelStatus}
    {controller : AwgFailoverController} {decision : Decision} (hphase : s.phase = .deciding status)
    (hdecide : s.controller.decide status s.clock = (controller, decision)) :
    Orderly parse (Android.ended { s with controller := controller }) := by
  obtain ⟨hbundle, hactive, -⟩ := s.controller.decide_frame status s.clock
  rw [hdecide] at hbundle hactive
  refine hs.toPlain (fun task => hs.byUser (by rw [hphase]; rfl)) rfl hs.cache (fun _ => ?_)
    fun hcalm => ⟨rfl, ?_⟩
  · rw [hbundle]
    exact hs.agreed (by rw [hphase]; rfl)
  · rw [hactive]
    exact hs.deciding status hphase hcalm

theorem Orderly.switches (hs : Orderly parse s) {status : AwgTunnelStatus}
    {controller : AwgFailoverController} {decision : Decision} {serverCode : String}
    {node : Router1FailoverNode} (hphase : s.phase = .deciding status)
    (hdecide : s.controller.decide status s.clock = (controller, decision))
    (hnode : (controller.bundle.bind fun bundle => bundle.node serverCode) = some node)
    (starts : List Int) :
    Orderly parse
      { s with controller := controller, phase := .connecting node, starts := starts } := by
  obtain ⟨hbundle, hactive, -⟩ := s.controller.decide_frame status s.clock
  rw [hdecide] at hbundle hactive
  have hfree : s.phase.isConnecting = false := by rw [hphase]; rfl
  exact { hs with
    agreed := fun _ => by
      rw [hbundle]
      exact hs.agreed (by rw [hphase]; rfl)
    controlled := fun task htask hby => by
      rw [hs.byUser hfree htask] at hby
      cases hby
    node := by
      rintro _ ⟨⟩
      obtain ⟨bundle, hsome, hfound⟩ := Option.bind_eq_some_iff.mp hnode
      exact ⟨bundle, hsome, List.mem_of_find?_eq_some hfound⟩
    deciding := nofun
    connecting := fun _ _ hcalm => by
      show controller.activeServer = _ ∨ _
      rw [hactive]
      exact hs.deciding status hphase hcalm
    returning := nofun
    ended := fun h => by
      have hidle := (hs.ended h).1
      rw [hphase] at hidle
      cases hidle }

theorem Orderly.switched (hs : Orderly parse s) {node : Router1FailoverNode}
    (hphase : s.phase = .returning node) :
    Orderly parse (Android.ended
      { s with
        controller := s.controller.switched node.serverCode s.clock
        prefs := { s.prefs with server := some node.serverCode, switchedAt := some s.clock } }) :=
  hs.toPlain (fun _ => hs.byUser (by rw [hphase]; rfl)) rfl hs.cache
    (fun _ => hs.agreed (by rw [hphase]; rfl))
    fun hcalm => ⟨rfl, .inl (hs.returning node hphase hcalm).symm⟩

end Android

end Failover
