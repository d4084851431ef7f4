import Router1.Dart.LinkedMap
import Router1.Failover.Controller

/-!
# The native backend

The failover fields of `GoBackend` and the methods that change them. A config is what `Config.parse`
makes of a text; nothing here looks into one. The tunnel is up with `currentConfig`, or down.
-/

namespace Failover

open Dart

variable {Config : Type}

/-- Kotlin's `isBlank`. -/
def isBlank (text : String) : Bool :=
  text.toList.all fun c =>
    let n := c.toNat
    (9 ≤ n && n ≤ 13) || (0x1C ≤ n && n ≤ 0x20) || n == 0xA0 || n == 0x1680 ||
      (0x2000 ≤ n && n ≤ 0x200A) || n == 0x2028 || n == 0x2029 || n == 0x202F || n == 0x205F ||
      n == 0x3000

/-- The loop over the nodes of a `configureFailover` call; a text that does not parse ends the call. -/
def parseNodes (parse : String → Option Config) :
    List (String × Config) → List Router1FailoverNode → Option (List (String × Config))
  | configs, [] => some configs
  | configs, node :: nodes =>
      if isBlank node.serverCode || isBlank node.configText then parseNodes parse configs nodes
      else
        match parse node.configText with
        | none => none
        | some config => parseNodes parse (put node.serverCode config configs) nodes

structure GoBackend (Config : Type) where
  currentConfig : Option Config
  failoverConfigs : List (String × Config)
  failoverPrimaryServer : String
  failoverActiveServer : String
  failoverFailureSamples : Int
  failoverHandshakeStaleSeconds : Int
  failoverSwitchCooldownSeconds : Int
  failoverFailures : Int
  failoverLastSwitchMillis : Int
  failoverSwitching : Bool

namespace GoBackend

/-- The fields as they are declared. -/
def initial : GoBackend Config where
  currentConfig := none
  failoverConfigs := []
  failoverPrimaryServer := ""
  failoverActiveServer := ""
  failoverFailureSamples := 3
  failoverHandshakeStaleSeconds := 180
  failoverSwitchCooldownSeconds := 300
  failoverFailures := 0
  failoverLastSwitchMillis := 0
  failoverSwitching := false

def knows (n : GoBackend Config) (serverCode : String) : Bool :=
  n.failoverConfigs.any fun entry => entry.1 == serverCode

def configureFailover (n : GoBackend Config) (primaryServer activeServer : String)
    (configs : List (String × Config)) (policy : Router1FailoverPolicy) : GoBackend Config :=
  { n with
    failoverConfigs := configs
    failoverPrimaryServer := primaryServer
    failoverActiveServer :=
      if configs.any fun entry => entry.1 == activeServer then activeServer else primaryServer
    failoverFailureSamples := max 2 policy.failureSamples
    failoverHandshakeStaleSeconds := max 60 policy.handshakeStaleSeconds
    failoverSwitchCooldownSeconds := max 60 policy.switchCooldownSeconds
    failoverFailures := 0 }

def setActiveFailoverServer (n : GoBackend Config) (serverCode : String) : GoBackend Config :=
  if n.knows serverCode then { n with failoverActiveServer := serverCode } else n

/-- `setStateInternal` to `DOWN`. -/
def lower (n : GoBackend Config) : GoBackend Config := { n with currentConfig := none }

/-- `setStateInternal` to `UP` once nothing stands in its way: a tunnel that is up already stays as it
is. -/
def raise (n : GoBackend Config) (config : Config) : GoBackend Config :=
  if n.currentConfig.isSome then n else { n with currentConfig := some config }

def isFailoverConfigured (n : GoBackend Config) : Bool := 1 < n.failoverConfigs.length

def shouldScheduleFailover (n : GoBackend Config) (now : Int) : Bool :=
  if n.failoverSwitching ∨ n.failoverConfigs.length < 2 ∨
      n.failoverFailures < n.failoverFailureSamples then
    false
  else n.failoverSwitchCooldownSeconds * 1000 ≤ now - n.failoverLastSwitchMillis

/-- The first other server. -/
def failoverTarget (n : GoBackend Config) : Option (String × Config) :=
  n.failoverConfigs.find? fun entry => entry.1 != n.failoverActiveServer

/-- `scheduleFailover` up to the start of its thread; `tunnel` tells whether its caller has read one. -/
def scheduleFailover (n : GoBackend Config) (tunnel : Bool) : GoBackend Config × Option (String × Config) :=
  if tunnel = false ∨ n.failoverSwitching = true then (n, none)
  else
    match n.failoverTarget with
    | none => (n, none)
    | some target => ({ n with failoverSwitching := true }, some target)

/-- The tunnel works, by the probe where failover is configured and by the handshake elsewhere. -/
def reachable (n : GoBackend Config) (lastHandshake : Int) (probe : Bool) (now : Int) : Bool :=
  let nowSeconds := now.tdiv 1000
  if n.isFailoverConfigured then probe
  else 0 < lastHandshake && lastHandshake ≤ nowSeconds &&
    nowSeconds - lastHandshake ≤ n.failoverHandshakeStaleSeconds

/-- A sample of the status job, with the handshake it read and the result of its probe, and whether it goes on to
`scheduleFailover`, which is a call of its own. -/
def sample (n : GoBackend Config) (lastHandshake : Int) (probe : Bool) (now : Int) : GoBackend Config × Bool :=
  if lastHandshake = -3 then (n, false)
  else if n.reachable lastHandshake probe now then ({ n with failoverFailures := 0 }, false)
  else if n.isFailoverConfigured || 0 ≤ lastHandshake then
    let counted := { n with failoverFailures := n.failoverFailures + 1 }
    (counted, counted.shouldScheduleFailover now)
  else (n, false)

/-- What the failover thread keeps after its `setState` returned. -/
def record (n : GoBackend Config) (serverCode : String) (now : Int) : GoBackend Config :=
  { n with
    failoverActiveServer := serverCode
    failoverLastSwitchMillis := now
    failoverFailures := 0 }

variable {n m : GoBackend Config} {tunnel : Bool} {target : String × Config}

theorem raise_eq (n : GoBackend Config) (config : Config) :
    ∃ current, n.raise config = { n with currentConfig := current } := by
  rw [raise]
  split
  · exact ⟨_, rfl⟩
  · exact ⟨_, rfl⟩

theorem raise_of_down (h : n.currentConfig = none) (config : Config) :
    n.raise config = { n with currentConfig := some config } := by
  rw [raise, h]
  rfl

theorem setActiveFailoverServer_eq (n : GoBackend Config) (serverCode : String) :
    ∃ active, n.setActiveFailoverServer serverCode = { n with failoverActiveServer := active } := by
  rw [setActiveFailoverServer]
  split
  · exact ⟨_, rfl⟩
  · exact ⟨_, rfl⟩

theorem scheduleFailover_some (h : n.scheduleFailover tunnel = (m, some target)) :
    tunnel = true ∧ n.failoverSwitching = false ∧ target ∈ n.failoverConfigs ∧
      m = { n with failoverSwitching := true } := by
  rw [scheduleFailover] at h
  split at h
  · cases h
  · next hfree =>
      rw [not_or, Bool.not_eq_false, Bool.not_eq_true] at hfree
      split at h
      · cases h
      · next found hfound =>
          cases h
          exact ⟨hfree.1, hfree.2, List.mem_of_find?_eq_some hfound, rfl⟩

theorem sample_eq (n : GoBackend Config) (lastHandshake : Int) (probe : Bool) (now : Int) :
    ∃ failures, (n.sample lastHandshake probe now).1 = { n with failoverFailures := failures } := by
  simp only [sample]
  split
  · exact ⟨_, rfl⟩
  · split
    · exact ⟨_, rfl⟩
    · split
      · exact ⟨_, rfl⟩
      · exact ⟨_, rfl⟩

end GoBackend

/-! ### The configs of a bundle -/

variable {parse : String → Option Config} {configs configs' : List (String × Config)}
  {nodes : List Router1FailoverNode}

theorem mem_of_parseNodes (h : parseNodes parse configs nodes = some configs') {entry : String × Config}
    (hentry : entry ∈ configs') :
    entry ∈ configs ∨
      ∃ node ∈ nodes, node.serverCode = entry.1 ∧ parse node.configText = some entry.2 := by
  induction nodes generalizing configs with
  | nil =>
      cases h
      exact .inl hentry
  | cons node nodes ih =>
      rw [parseNodes] at h
      split at h
      · obtain hold | ⟨other, hother, hcode⟩ := ih h
        · exact .inl hold
        · exact .inr ⟨other, List.mem_cons_of_mem _ hother, hcode⟩
      · split at h
        · cases h
        · next config hconfig =>
            obtain hput | ⟨other, hother, hcode⟩ := ih h
            · obtain rfl | hold := mem_put hput
              · exact .inr ⟨node, List.mem_cons_self, rfl, hconfig⟩
              · exact .inl hold
            · exact .inr ⟨other, List.mem_cons_of_mem _ hother, hcode⟩

end Failover
