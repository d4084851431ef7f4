import Router1.Dart.Text
import Router1.Failover.Controller
import Router1.Remote.Runs

/-!
# Failover on Windows

`WindowsAwgTunnelService.status` asks the service manager whether the tunnel's service runs and reports
no handshake, so every status that reaches the controller carries the default one. The controller takes
it for a handshake from before its time, counts every poll as a failure, and leaves a healthy server as
soon as the count and the cooldown allow it. `Spared` says when a poll does not come to that; a run
connects nowhere exactly when each of its polls is spared.
-/

namespace Failover

open Remote

/-! ### The status of the service -/

structure ProcessResult where
  exitCode : Int
  stdout : String
  stderr : String
  deriving DecidableEq, Repr

structure WindowsAwgTunnelState where
  connected : Bool
  installed : Bool
  rxBytes : Int
  txBytes : Int
  deriving DecidableEq, Repr

namespace WindowsAwgTunnelService

/-- `\s` of a pattern. -/
def isSpace (c : Char) : Bool := Dart.isWhitespace c && c.toNat != 0x85

/-- `\w` of a pattern. -/
def isWord (c : Char) : Bool :=
  Dart.isDigit c || c == '_' || (0x41 ≤ c.toNat && c.toNat ≤ 0x5A) ||
    (0x61 ≤ c.toNat && c.toNat ≤ 0x7A)

/-- Upper case for the letters that become Latin ones; the patterns look at no others. -/
def upperChar (c : Char) : Char :=
  if 0x61 ≤ c.toNat && c.toNat ≤ 0x7A then Char.ofNat (c.toNat - 32)
  else if c.toNat = 0x131 then 'I'
  else if c.toNat = 0x17F then 'S'
  else c

/-- `:\s*4\s+` matches at the start. -/
def stateFourAt : List Char → Bool
  | ':' :: cs =>
      match cs.dropWhile isSpace with
      | '4' :: c :: _ => isSpace c
      | _ => false
  | _ => false

/-- `\bRUNNING\b` matches somewhere after a character that was a word character or not. -/
def hasRunning : Bool → List Char → Bool
  | _, [] => false
  | afterWord, c :: cs =>
      (!afterWord && "RUNNING".toList.isPrefixOf (c :: cs) &&
        !(((c :: cs).drop 7).head?.any isWord)) || hasRunning (isWord c) cs

def status (query : ProcessResult) (transferStats : Int × Int) : WindowsAwgTunnelState :=
  if query.exitCode ≠ 0 then ⟨false, false, 0, 0⟩
  else
    let output := (query.stdout.toList ++ '\n' :: query.stderr.toList).map upperChar
    let connected := output.tails.any stateFourAt || hasRunning false output
    let stats := if connected then transferStats else (0, 0)
    ⟨connected, true, stats.1, stats.2⟩

end WindowsAwgTunnelService

/-- `AwgTunnelService.status` on Windows. -/
def AwgTunnelStatus.ofWindows (value : WindowsAwgTunnelState) : AwgTunnelStatus where
  state := if value.connected then "up" else "down"
  rxBytes := value.rxBytes
  txBytes := value.txBytes

/-! ### The polls of the dashboard -/

/-- One tick of the dashboard's timer, with the answers it gets: of the service manager, of
`fetchFailoverBundle` if it is called, of `tunnel.connect` if it is called (none for an exception), and
the clock at its three readings. -/
structure Poll where
  query : ProcessResult
  transferStats : Int × Int
  fetch : Option Router1FailoverBundle
  connect : Option Bool
  refreshAt : Int
  evaluateAt : Int
  switchAt : Int

def Poll.status (p : Poll) : AwgTunnelStatus :=
  .ofWindows (WindowsAwgTunnelService.status p.query p.transferStats)

/-- The controller and the configs it gave to `tunnel.connect`. -/
structure Watch where
  controller : AwgFailoverController
  connected : List String

namespace Watch

/-- `refreshBundle`. The platform has no native failover to configure. -/
def refreshBundle (c : AwgFailoverController) (p : Poll) : AwgFailoverController :=
  if c.refreshDue p.refreshAt then
    match p.fetch with
    | some value => (c.refreshing p.refreshAt).refreshed value
    | none => c.refreshing p.refreshAt
  else c

def switchTo (w : Watch) (serverCode : String) (p : Poll) : Watch :=
  match w.controller.bundle.bind fun bundle => bundle.node serverCode with
  | none => w
  | some node =>
      { controller :=
          if p.connect = some true then w.controller.switched node.serverCode p.switchAt
          else w.controller
        connected := w.connected ++ [node.configText] }

/-- `refreshTunnel` with `evaluateFailover`, which does not overlap itself. -/
def poll (w : Watch) (p : Poll) : Watch :=
  match ((refreshBundle w.controller p).adopt p.status).decide p.status p.evaluateAt with
  | (controller, .stay _) => { w with controller := controller }
  | (controller, .switchTo serverCode _) => switchTo { w with controller := controller } serverCode p

def step (w : Watch) (p : Poll) : Option Watch := some (w.poll p)

end Watch

/-! ### Healthy tunnels -/

/-- The bundle reports its primary server healthy and offers another node. -/
structure Router1FailoverBundle.Healthy (b : Router1FailoverBundle) : Prop where
  two : 2 ≤ b.nodes.length
  samples : 1 ≤ b.policy.failureSamples
  primary : b.health.lookup b.primaryServer = some "healthy"

namespace Watch

variable {w w' : Watch} {p : Poll} {b : Router1FailoverBundle} {polls : List Poll}

/-- The bundle at hand is healthy, and its primary server is the active one. -/
def OnPrimary (c : AwgFailoverController) : Prop :=
  ∀ b, c.bundle = some b → b.Healthy ∧ c.activeServer = b.primaryServer

/-- The service runs, and a bundle fetched at this poll is healthy with the active server as its primary
one. -/
def Healthy (w : Watch) (p : Poll) : Prop :=
  (WindowsAwgTunnelService.status p.query p.transferStats).connected = true ∧
    ∀ b, p.fetch = some b → b.Healthy ∧ (w.controller.refreshed b).activeServer = b.primaryServer

/-- The polls that connect nowhere: there is no bundle, its policy calls the default handshake fresh, the
failures are too few yet, the cooldown has not passed, or every other node is down. -/
def Spared (w : Watch) (p : Poll) : Prop :=
  ∀ b, (refreshBundle w.controller p).bundle = some b →
    2 ^ 30 ≤ b.policy.handshakeStaleSeconds ∨
    w.controller.failureSamples + 1 < b.policy.failureSamples ∨
    w.controller.cooldownPassed b.policy p.evaluateAt = false ∨
    ∀ node ∈ b.nodes, node.serverCode ≠ b.primaryServer →
      b.health.lookup node.serverCode = some "down"

theorem status_connected (hrun : (WindowsAwgTunnelService.status p.query p.transferStats).connected = true) :
    p.status.connected = true := by
  simp [Poll.status, AwgTunnelStatus.ofWindows, AwgTunnelStatus.connected, hrun]

theorem adopt_status (c : AwgFailoverController) (p : Poll) : c.adopt p.status = c :=
  if_neg fun h => h.1 rfl

theorem handshakeFresh_status (policy : Router1FailoverPolicy) (p : Poll) (now : Int) :
    AwgFailoverController.handshakeFresh policy p.status now = true ↔
      2 ^ 30 ≤ policy.handshakeStaleSeconds := by
  have hage : AwgFailoverController.handshakeAge p.status now = 2 ^ 30 :=
    if_neg (show ¬(0 : Int) < -3 by decide)
  rw [AwgFailoverController.handshakeFresh, hage]
  simp

theorem refreshBundle_kept (c : AwgFailoverController) (p : Poll) :
    (refreshBundle c p).failureSamples = c.failureSamples ∧
      (refreshBundle c p).lastSwitch = c.lastSwitch := by
  rw [refreshBundle]
  split
  · split <;> exact ⟨rfl, rfl⟩
  · exact ⟨rfl, rfl⟩

theorem OnPrimary.refreshBundle (hw : OnPrimary w.controller) (hp : w.Healthy p) :
    OnPrimary (refreshBundle w.controller p) := by
  rw [Watch.refreshBundle]
  split
  · split
    · next value hfetch =>
        intro b hb
        cases hb
        exact hp.2 value hfetch
    · exact hw
  · exact hw

theorem candidates_eq_nil_iff (b : Router1FailoverBundle) (active : String) :
    b.candidates active = [] ↔
      ∀ node ∈ b.nodes, node.serverCode ≠ active → b.health.lookup node.serverCode = some "down" := by
  rw [Router1FailoverBundle.candidates, List.filter_eq_nil_iff]
  simp only [Bool.and_eq_true, bne_iff_ne, not_and, not_not, ne_eq]

theorem decide_stays_iff {c : AwgFailoverController} (hc : OnPrimary c)
    (hstatus : p.status.connected = true) (now : Int) :
    (∃ message, (c.decide p.status now).2 = .stay message) ↔
      ∀ b, c.bundle = some b →
        2 ^ 30 ≤ b.policy.handshakeStaleSeconds ∨ c.failureSamples + 1 < b.policy.failureSamples ∨
        c.cooldownPassed b.policy now = false ∨
        ∀ node ∈ b.nodes, node.serverCode ≠ b.primaryServer →
          b.health.lookup node.serverCode = some "down" := by
  cases hbundle : c.bundle with
  | none => simp [AwgFailoverController.decide, hbundle]
  | some b =>
      obtain ⟨hhealthy, hactive⟩ := hc b hbundle
      have htwo : ¬(b.nodes.length < 2 ∨ p.status.connected = false) := by
        rw [hstatus]
        have := hhealthy.two
        simp only [Bool.true_eq_false, or_false]
        omega
      simp only [AwgFailoverController.decide, hbundle, if_neg htwo, Option.some.injEq, forall_eq',
        hactive, ne_eq, not_true_eq_false, false_and, if_false]
      rw [← candidates_eq_nil_iff, ← handshakeFresh_status b.policy p now]
      by_cases hfresh : AwgFailoverController.handshakeFresh b.policy p.status now = true
      · simp [hfresh]
      · rw [if_neg hfresh]
        by_cases hearly : c.failureSamples + 1 < b.policy.failureSamples ∨
            c.cooldownPassed b.policy now = false
        · rw [if_pos hearly]
          refine iff_of_true ⟨none, rfl⟩ ?_
          rcases hearly with hfew | hwait
          · exact .inr (.inl hfew)
          · exact .inr (.inr (.inl hwait))
        · rw [if_neg hearly]
          rw [not_or] at hearly
          cases b.candidates b.primaryServer with
          | nil => simp
          | cons candidate rest => simp [hfresh, hearly.1, hearly.2]

/-- **One poll.** On the primary server of a healthy bundle a poll connects nowhere exactly when it is
spared, and then it stays there. -/
theorem poll_spared_iff (hw : OnPrimary w.controller) (hp : w.Healthy p) :
    ((w.poll p).connected = w.connected ↔ w.Spared p) ∧
      (w.Spared p → OnPrimary (w.poll p).controller) := by
  have hprimary : OnPrimary (refreshBundle w.controller p) := hw.refreshBundle hp
  obtain ⟨hsamples, hlast⟩ := refreshBundle_kept w.controller p
  have hspared : w.Spared p ↔
      ∃ message, ((refreshBundle w.controller p).decide p.status p.evaluateAt).2 = .stay message := by
    rw [decide_stays_iff hprimary (status_connected hp.1), Spared, hsamples]
    simp only [AwgFailoverController.cooldownPassed, hlast]
  obtain ⟨hbundle, hactive, -⟩ :=
    AwgFailoverController.decide_frame (refreshBundle w.controller p) p.status p.evaluateAt
  rw [hspared, poll, adopt_status]
  cases hdecision : (refreshBundle w.controller p).decide p.status p.evaluateAt with
  | mk c decision =>
      rw [hdecision] at hbundle hactive
      cases decision with
      | stay message =>
          refine ⟨iff_of_true rfl ⟨message, rfl⟩, fun _ => ?_⟩
          intro b hb
          rw [hbundle] at hb
          rw [hactive]
          exact hprimary b hb
      | switchTo serverCode message =>
          have hnone : ¬∃ message', Decision.switchTo serverCode message = .stay message' := by
            rintro ⟨_, hstay⟩
            cases hstay
          refine ⟨iff_of_false ?_ hnone, fun hstays => absurd hstays hnone⟩
          have hswitch := congrArg Prod.snd hdecision
          obtain ⟨bundle, hhand, -, hcase⟩ := AwgFailoverController.switchTo_cases hswitch
          have hactivePrimary := (hprimary bundle hhand).2
          obtain ⟨hne, -⟩ | ⟨node, hnode, rfl⟩ := hcase
          · exact absurd hactivePrimary hne
          · obtain ⟨found, hfound⟩ := Router1FailoverBundle.exists_node_of_mem hnode
            have hlookup : (c.bundle.bind fun bundle => bundle.node node.serverCode) = some found := by
              rw [hbundle, hhand, Option.bind_some, hfound]
            simp [switchTo, hlookup]

theorem connected_poll (w : Watch) (p : Poll) :
    ∃ now, (w.poll p).connected = w.connected ++ now := by
  rw [poll]
  split
  · exact ⟨[], (List.append_nil _).symm⟩
  · rw [switchTo]
    split
    · exact ⟨[], (List.append_nil _).symm⟩
    · exact ⟨_, rfl⟩

theorem connected_of_runEvents (h : runEvents step w polls = some w') :
    ∃ more, w'.connected = w.connected ++ more := by
  induction polls generalizing w with
  | nil =>
      cases h
      exact ⟨[], (List.append_nil _).symm⟩
  | cons p polls ih =>
      obtain ⟨later, hlater⟩ := ih h
      obtain ⟨now, hnow⟩ := connected_poll w p
      refine ⟨now ++ later, ?_⟩
      rw [hlater, hnow, List.append_assoc]

/-- **Healthy runs.** While the service runs and every bundle reports the active primary server healthy,
the controller connects nowhere exactly when every poll of the run is spared. -/
theorem connects_nowhere_iff (hw : OnPrimary w.controller) (hhealthy : AllAllowed step Healthy w polls)
    (h : runEvents step w polls = some w') :
    w'.connected = w.connected ↔ AllAllowed step Spared w polls := by
  induction polls generalizing w with
  | nil =>
      cases h
      exact iff_of_true rfl trivial
  | cons p polls ih =>
      obtain ⟨hfirst, hrest⟩ := hhealthy
      obtain ⟨hiff, hstays⟩ := poll_spared_iff hw hfirst
      by_cases hspared : w.Spared p
      · have hquiet := hiff.mpr hspared
        rw [← hquiet, ih (hstays hspared) hrest h]
        exact ⟨fun hlater => ⟨hspared, hlater⟩, fun hall => hall.2⟩
      · refine iff_of_false ?_ fun hall => hspared hall.1
        -- what was connected to once stays in the list
        intro hquiet
        obtain ⟨now, hnow⟩ := connected_poll w p
        obtain ⟨later, hlater⟩ := connected_of_runEvents (w := w.poll p) h
        have hnone : now ++ later = [] := by
          rw [hlater, hnow, List.append_assoc] at hquiet
          exact List.append_right_eq_self.mp hquiet
        refine hspared (hiff.mp ?_)
        rw [hnow, List.append_eq_nil_iff.mp hnone |>.1, List.append_nil]

/-! ### Three polls -/

def frankfurt : Router1FailoverNode := ⟨"fr", "config fr", fr_ne, configFr_ne⟩

def amsterdam : Router1FailoverNode := ⟨"nl2", "config nl2", nl2_ne, configNl2_ne⟩

/-- Two healthy nodes under the default policy. -/
def healthyBundle : Router1FailoverBundle where
  primaryServer := "fr"
  health := [("fr", "healthy"), ("nl2", "healthy")]
  nodes := [frankfurt, amsterdam]
  policy := ⟨3, 180, 300, 5⟩

def runningPoll (now : Int) : Poll where
  query := ⟨0, "STATE : 4 RUNNING ", ""⟩
  transferStats := (1024, 2048)
  fetch := some healthyBundle
  connect := some true
  refreshAt := now
  evaluateAt := now
  switchAt := now

def firstStart : Watch := ⟨.initialized ⟨none, none, none⟩, []⟩

theorem healthyBundle_healthy : healthyBundle.Healthy := ⟨by decide, by decide, rfl⟩

theorem firstStart_onPrimary : OnPrimary firstStart.controller := nofun

theorem runningPoll_healthy (now : Int)
    (hactive : (w.controller.refreshed healthyBundle).activeServer = "fr") :
    w.Healthy (runningPoll now) := by
  have hrun : (WindowsAwgTunnelService.status ⟨0, "STATE : 4 RUNNING ", ""⟩ (1024, 2048)).connected =
      true := by
    decide +kernel
  refine ⟨hrun, ?_⟩
  intro b hb
  cases hb
  exact ⟨healthyBundle_healthy, hactive⟩

def twoPolls : List Poll := [runningPoll 1700000000000, runningPoll 1700000003000]

theorem two_polls_connect_nowhere :
    AllAllowed step Healthy firstStart twoPolls ∧
      ((firstStart.poll (runningPoll 1700000000000)).poll (runningPoll 1700000003000)).connected = [] := by
  have hhealthy : AllAllowed step Healthy firstStart twoPolls :=
    ⟨runningPoll_healthy _ rfl, runningPoll_healthy _ rfl, trivial⟩
  have hspared : AllAllowed step Spared firstStart twoPolls := by
    refine ⟨?_, ?_, trivial⟩
    · intro b hb
      cases hb
      exact .inr (.inl (by decide))
    · intro b hb
      cases hb
      exact .inr (.inl (by decide))
  exact ⟨hhealthy, (connects_nowhere_iff firstStart_onPrimary hhealthy rfl).mpr hspared⟩

/-- The third poll takes a healthy tunnel away from its healthy primary server. -/
theorem third_poll_leaves_healthy_server :
    ¬∀ (w w' : Watch) (polls : List Poll), OnPrimary w.controller → AllAllowed step Healthy w polls →
      runEvents step w polls = some w' → w'.connected = w.connected := by
  intro hclaim
  have hquiet := hclaim firstStart _
    (twoPolls ++ [runningPoll 1700000006000]) firstStart_onPrimary
    ⟨runningPoll_healthy _ rfl, runningPoll_healthy _ rfl, runningPoll_healthy _ rfl, trivial⟩ rfl
  exact absurd hquiet (by decide)

end Watch

end Failover
