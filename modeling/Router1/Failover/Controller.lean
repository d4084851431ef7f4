import Mathlib.Algebra.Group.Int.Defs
import Mathlib.Data.List.Basic

/-!
# The failover controller of the app

`AwgFailoverController`, cut at its awaits: what it does with a fetched bundle, with the server code of a
status, with a status as a whole, and with a successful connect. Who performs the requests in between
differs between the platforms. Times are milliseconds since the epoch.
-/

namespace Failover

/-- A node of a bundle. `Router1FailoverBundle.fromJson` drops those without a code or a config. -/
structure Router1FailoverNode where
  serverCode : String
  configText : String
  serverCode_ne : serverCode ≠ ""
  configText_ne : configText ≠ ""
  deriving DecidableEq, Repr

/-! What the nodes of the runs on Windows and in the controller's life are made of. -/

theorem fr_ne : "fr" ≠ "" := by decide

theorem nl2_ne : "nl2" ≠ "" := by decide

theorem configFr_ne : "config fr" ≠ "" := by decide

theorem configNl2_ne : "config nl2" ≠ "" := by decide

structure Router1FailoverPolicy where
  failureSamples : Int
  handshakeStaleSeconds : Int
  switchCooldownSeconds : Int
  failbackHealthySamples : Int
  deriving DecidableEq, Repr

structure Router1FailoverBundle where
  primaryServer : String
  health : List (String × String)
  nodes : List Router1FailoverNode
  policy : Router1FailoverPolicy
  deriving DecidableEq, Repr

namespace Router1FailoverBundle

def node (b : Router1FailoverBundle) (serverCode : String) : Option Router1FailoverNode :=
  b.nodes.find? fun value => value.serverCode == serverCode

/-- The nodes a failover away from `active` may go to. -/
def candidates (b : Router1FailoverBundle) (active : String) : List Router1FailoverNode :=
  b.nodes.filter fun node =>
    node.serverCode != active && b.health.lookup node.serverCode != some "down"

end Router1FailoverBundle

/-- What `tunnel.status` returns; without a value from the platform the handshake is `-3`. -/
structure AwgTunnelStatus where
  state : String
  handshake : Int := -3
  rxBytes : Int := 0
  txBytes : Int := 0
  serverCode : String := ""
  deriving DecidableEq, Repr

def AwgTunnelStatus.connected (status : AwgTunnelStatus) : Bool := status.state == "up"

/-- The stored values of a device. -/
structure FailoverPrefs where
  cache : Option Router1FailoverBundle
  server : Option String
  switchedAt : Option Int
  deriving DecidableEq, Repr

structure AwgFailoverController where
  bundle : Option Router1FailoverBundle
  activeServer : String
  failureSamples : Int
  primaryHealthySamples : Int
  lastSwitch : Option Int
  lastBundleRefresh : Option Int
  deriving DecidableEq, Repr

/-- What `evaluate` decides. -/
inductive Decision where
  | stay (message : Option String)
  | switchTo (serverCode message : String)
  deriving DecidableEq, Repr

namespace AwgFailoverController

/-- The reads of `initialize`. -/
def initialized (prefs : FailoverPrefs) : AwgFailoverController where
  bundle := prefs.cache
  activeServer := prefs.server.getD ((prefs.cache.map (·.primaryServer)).getD "")
  failureSamples := 0
  primaryHealthySamples := 0
  lastSwitch := prefs.switchedAt
  lastBundleRefresh := none

/-- `refreshBundle` asks for a bundle, unless it did so less than 30 seconds ago. -/
def refreshDue (c : AwgFailoverController) (now : Int) : Bool :=
  match c.lastBundleRefresh with
  | none => true
  | some last => 30000 ≤ now - last

def refreshing (c : AwgFailoverController) (now : Int) : AwgFailoverController :=
  { c with lastBundleRefresh := some now }

/-- A fetched bundle. -/
def refreshed (c : AwgFailoverController) (value : Router1FailoverBundle) : AwgFailoverController :=
  { c with
    bundle := some value
    activeServer :=
      if c.activeServer = "" ∨ value.node c.activeServer = none then value.primaryServer
      else c.activeServer }

/-- `evaluate` takes over the server code of its status. -/
def adopt (c : AwgFailoverController) (status : AwgTunnelStatus) : AwgFailoverController :=
  if status.serverCode ≠ "" ∧ status.serverCode ≠ c.activeServer then
    { c with activeServer := status.serverCode }
  else c

def cooldownPassed (c : AwgFailoverController) (policy : Router1FailoverPolicy) (now : Int) : Bool :=
  match c.lastSwitch with
  | none => true
  | some last => policy.switchCooldownSeconds ≤ (now - last).tdiv 1000

def handshakeAge (status : AwgTunnelStatus) (now : Int) : Int :=
  if 0 < status.handshake then now.tdiv 1000 - status.handshake else 2 ^ 30

def handshakeFresh (policy : Router1FailoverPolicy) (status : AwgTunnelStatus) (now : Int) : Bool :=
  0 ≤ handshakeAge status now && handshakeAge status now ≤ policy.handshakeStaleSeconds

/-- The part of `evaluate` after the bundle and the server code were taken over. -/
def decide (c : AwgFailoverController) (status : AwgTunnelStatus) (now : Int) :
    AwgFailoverController × Decision :=
  match c.bundle with
  | none => ({ c with failureSamples := 0, primaryHealthySamples := 0 }, .stay none)
  | some bundle =>
      if bundle.nodes.length < 2 ∨ status.connected = false then
        ({ c with failureSamples := 0, primaryHealthySamples := 0 }, .stay none)
      else if handshakeFresh bundle.policy status now then
        if c.activeServer ≠ bundle.primaryServer ∧
            bundle.health.lookup bundle.primaryServer = some "healthy" then
          let counted := { c with
            failureSamples := 0
            primaryHealthySamples := c.primaryHealthySamples + 1 }
          if bundle.policy.failbackHealthySamples ≤ counted.primaryHealthySamples ∧
              c.cooldownPassed bundle.policy now then
            (counted, .switchTo bundle.primaryServer "Основной маршрут восстановлен")
          else (counted, .stay none)
        else ({ c with failureSamples := 0, primaryHealthySamples := 0 }, .stay none)
      else
        let counted := { c with
          primaryHealthySamples := 0
          failureSamples := c.failureSamples + 1 }
        if counted.failureSamples < bundle.policy.failureSamples ∨
            c.cooldownPassed bundle.policy now = false then
          (counted, .stay none)
        else
          match bundle.candidates c.activeServer with
          | [] => (counted, .stay (some "Резервный маршрут временно недоступен"))
          | candidate :: _ =>
              (counted, .switchTo candidate.serverCode "Переключено на резервный маршрут")

/-- `_switchTo` after a connect that reports the tunnel up. -/
def switched (c : AwgFailoverController) (serverCode : String) (now : Int) : AwgFailoverController :=
  { c with
    activeServer := serverCode
    lastSwitch := some now
    failureSamples := 0
    primaryHealthySamples := 0 }

variable {c : AwgFailoverController} {status : AwgTunnelStatus} {now : Int}

theorem adopt_frame (c : AwgFailoverController) (status : AwgTunnelStatus) :
    (c.adopt status).bundle = c.bundle ∧ (c.adopt status).lastSwitch = c.lastSwitch := by
  rw [adopt]
  split <;> exact ⟨rfl, rfl⟩

theorem decide_frame (c : AwgFailoverController) (status : AwgTunnelStatus) (now : Int) :
    (c.decide status now).1.bundle = c.bundle ∧
      (c.decide status now).1.activeServer = c.activeServer ∧
      (c.decide status now).1.lastSwitch = c.lastSwitch := by
  rw [decide]
  split
  · exact ⟨rfl, rfl, rfl⟩
  · split
    · exact ⟨rfl, rfl, rfl⟩
    · split
      · split
        · simp only
          split <;> exact ⟨rfl, rfl, rfl⟩
        · exact ⟨rfl, rfl, rfl⟩
      · simp only
        split
        · exact ⟨rfl, rfl, rfl⟩
        · split <;> exact ⟨rfl, rfl, rfl⟩

theorem elapsed_of_cooldownPassed {policy : Router1FailoverPolicy} {last : Int}
    (hpositive : 0 < policy.switchCooldownSeconds) (hlast : c.lastSwitch = some last)
    (h : c.cooldownPassed policy now = true) : policy.switchCooldownSeconds * 1000 ≤ now - last := by
  rw [cooldownPassed, hlast, decide_eq_true_iff] at h
  have hnonneg : 0 ≤ now - last := by
    by_contra hnegative
    have hback : 0 ≤ (last - now).tdiv 1000 := Int.tdiv_nonneg (by omega) (by decide)
    rw [← Int.neg_sub, Int.neg_tdiv] at h
    omega
  rw [Int.tdiv_eq_ediv_of_nonneg hnonneg] at h
  omega

/-- A switch is decided on only with a bundle at hand and after the cooldown, back to a primary server that
is not the active one or on to a node of the bundle. -/
theorem switchTo_cases {serverCode message : String}
    (h : (c.decide status now).2 = .switchTo serverCode message) :
    ∃ bundle, c.bundle = some bundle ∧ c.cooldownPassed bundle.policy now = true ∧
      (c.activeServer ≠ bundle.primaryServer ∧ serverCode = bundle.primaryServer ∨
        ∃ node ∈ bundle.nodes, node.serverCode = serverCode) := by
  rw [decide] at h
  split at h
  · cases h
  · next bundle hbundle =>
      refine ⟨bundle, hbundle, ?_⟩
      split at h
      · cases h
      · split at h
        · split at h
          · next hprimary =>
              simp only at h
              split at h
              · next hpassed =>
                  cases h
                  exact ⟨hpassed.2, .inl ⟨hprimary.1, rfl⟩⟩
              · cases h
          · cases h
        · simp only at h
          split at h
          · cases h
          · next hpassed =>
              rw [not_or, Bool.not_eq_false] at hpassed
              split at h
              · cases h
              · next candidate rest hcandidates =>
                  cases h
                  have hmem : candidate ∈ bundle.candidates c.activeServer := by
                    rw [hcandidates]
                    exact List.mem_cons_self
                  exact ⟨hpassed.2, .inr ⟨candidate, (List.mem_filter.mp hmem).1, rfl⟩⟩

end AwgFailoverController

theorem Router1FailoverBundle.exists_node_of_mem {bundle : Router1FailoverBundle}
    {node : Router1FailoverNode} (h : node ∈ bundle.nodes) :
    ∃ found, bundle.node node.serverCode = some found := by
  rw [← Option.isSome_iff_exists, Router1FailoverBundle.node, List.find?_isSome]
  exact ⟨node, h, beq_self_eq_true _⟩

end Failover
