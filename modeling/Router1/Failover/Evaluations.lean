import Router1.Failover.Controller
import Router1.Remote.Runs

/-!
# The evaluations of a controller

The life of the failover controller of one device: it starts from the preferences, evaluates one status
after another, and starts again when the process was restarted, which can happen in the middle of a call.
A call that is cut short leaves the preferences it has written so far.

`DecisionLaw` says when an evaluation may report a switch, in terms of the evaluations before it; it
holds in every run. `ChargedToItsServer` says that the failures that made the controller leave a server
were all seen on that server. The counter behind it survives a change of the active server, so it holds in
the runs that count no failure of one server on top of failures of another.
-/

namespace Failover

open Remote

/-! ### One call -/

inductive PrefWrite where
  | cache (value : Router1FailoverBundle)
  | server (serverCode : String)
  | switchedAt (time : Int)
  deriving DecidableEq, Repr

def FailoverPrefs.write (prefs : FailoverPrefs) : PrefWrite → FailoverPrefs
  | .cache value => { prefs with cache := some value }
  | .server serverCode => { prefs with server := some serverCode }
  | .switchedAt time => { prefs with switchedAt := some time }

structure AwgFailoverResult where
  switched : Bool
  serverCode : String
  message : Option String := none
  deriving DecidableEq, Repr

/-- What one call of `evaluate` meets: its status, the answers of `fetchFailoverBundle` and
`tunnel.connect` if they are called (none for an exception), and the clock at its three readings. -/
structure Sample where
  status : AwgTunnelStatus
  fetch : Option Router1FailoverBundle
  connect : Option AwgTunnelStatus
  refreshAt : Int
  evaluateAt : Int
  switchAt : Int

/-- A call of `evaluate`: the controller it decides with and the one it leaves, the preferences it writes,
in order, and what it returns (none for an exception). -/
structure Evaluation where
  sample : Sample
  deciding : AwgFailoverController
  after : AwgFailoverController
  writes : List PrefWrite
  result : Option AwgFailoverResult

namespace AwgFailoverController

def refreshBundle (c : AwgFailoverController) (force : Bool) (now : Int)
    (fetch : Option Router1FailoverBundle) : AwgFailoverController × List PrefWrite :=
  if force || c.refreshDue now then
    match fetch with
    | some value =>
        let taken := (c.refreshing now).refreshed value
        (taken, [.cache value, .server taken.activeServer])
    | none => (c.refreshing now, [])
  else (c, [])

/-- `initialize`: what is stored, and a refresh at once. -/
def started (prefs : FailoverPrefs) (now : Int) (fetch : Option Router1FailoverBundle) :
    AwgFailoverController × List PrefWrite :=
  (initialized prefs).refreshBundle true now fetch

/-- `_switchTo`; calls that do not overlap find `_switching` false. -/
def switchTo (c : AwgFailoverController) (serverCode message : String) (x : Sample) :
    AwgFailoverController × List PrefWrite × Option AwgFailoverResult :=
  match c.bundle.bind fun bundle => bundle.node serverCode with
  | none => (c, [], some { switched := false, serverCode := c.activeServer })
  | some node =>
      match x.connect with
      | none => (c, [], none)
      | some status =>
          if status.connected then
            (c.switched node.serverCode x.switchAt,
              [.server node.serverCode, .switchedAt x.switchAt],
              some { switched := true, serverCode := node.serverCode, message := some message })
          else
            (c, [], some
              { switched := false
                serverCode := c.activeServer
                message := some "Не удалось включить резервный маршрут" })

/-- The controller once the refresh and the server code of the status are taken over. -/
def deciding (c : AwgFailoverController) (x : Sample) : AwgFailoverController :=
  (c.refreshBundle false x.refreshAt x.fetch).1.adopt x.status

def evaluate (c : AwgFailoverController) (x : Sample) : Evaluation :=
  let refresh := c.refreshBundle false x.refreshAt x.fetch
  let writes := refresh.2 ++
    if x.status.serverCode ≠ "" ∧ x.status.serverCode ≠ refresh.1.activeServer then
      [.server x.status.serverCode]
    else []
  match (c.deciding x).decide x.status x.evaluateAt with
  | (counted, .stay message) =>
      { sample := x
        deciding := c.deciding x
        after := counted
        writes := writes
        result := some
          { switched := false, serverCode := counted.activeServer, message := message } }
  | (counted, .switchTo serverCode message) =>
      let switch := counted.switchTo serverCode message x
      { sample := x
        deciding := c.deciding x
        after := switch.1
        writes := writes ++ switch.2.1
        result := switch.2.2 }

end AwgFailoverController

/-! ### The life of a controller -/

/-- The process, if it lives, with its controller; the preferences; and all calls of `evaluate` so far,
the latest first. -/
structure Life where
  controller : Option AwgFailoverController
  prefs : FailoverPrefs
  clock : Int
  history : List Evaluation

/-- A start of the process or a call of `evaluate`. With `some n` the process dies in it after `n`
writes. -/
inductive LifeEvent where
  | start (now : Int) (fetch : Option Router1FailoverBundle) (dies : Option Nat)
  | evaluate (x : Sample) (dies : Option Nat)

/-- What a process that dies after `n` writes leaves of a call. -/
def Evaluation.cut (e : Evaluation) : Option Nat → Evaluation
  | none => e
  | some n => { e with writes := e.writes.take n, result := none }

def PrefWrite.time : PrefWrite → Option Int
  | .switchedAt time => some time
  | _ => none

/-- The time of the switch that the call has recorded, if it has. -/
def Evaluation.recorded (e : Evaluation) : Option Int := e.writes.reverse.findSome? PrefWrite.time

namespace Life

def first (clock : Int) (prefs : FailoverPrefs) : Life where
  controller := none
  prefs := prefs
  clock := clock
  history := []

def step (s : Life) : LifeEvent → Option Life
  | .start now fetch dies =>
      if s.clock ≤ now then
        let started := AwgFailoverController.started s.prefs now fetch
        match dies with
        | none =>
            some { s with
              controller := some started.1
              prefs := started.2.foldl .write s.prefs
              clock := now }
        | some n =>
            some { s with
              controller := none
              prefs := (started.2.take n).foldl .write s.prefs
              clock := now }
      else none
  | .evaluate x dies =>
      match s.controller with
      | none => none
      | some c =>
          if s.clock ≤ x.refreshAt ∧ x.refreshAt ≤ x.evaluateAt ∧ x.evaluateAt ≤ x.switchAt then
            let e := (c.evaluate x).cut dies
            some
              { controller := if dies = none then some e.after else none
                prefs := e.writes.foldl .write s.prefs
                clock := x.switchAt
                history := e :: s.history }
          else none

end Life

/-- The time of the last recorded switch: of the latest call that recorded one, or else the one that was
stored before. -/
def lastRecorded (stored : Option Int) : List Evaluation → Option Int
  | [] => stored
  | e :: earlier => e.recorded.or (lastRecorded stored earlier)

/-! ### The laws -/

/-- The status is of a connected tunnel with a fresh handshake on another server than the primary one,
which is reported healthy. -/
def AwgFailoverController.seesHealthyPrimary (c : AwgFailoverController) (status : AwgTunnelStatus)
    (now : Int) : Bool :=
  match c.bundle with
  | none => false
  | some bundle =>
      status.connected && handshakeFresh bundle.policy status now &&
        c.activeServer != bundle.primaryServer &&
        bundle.health.lookup bundle.primaryServer == some "healthy"

/-- The status is of a connected tunnel with a stale handshake. -/
def AwgFailoverController.seesStale (c : AwgFailoverController) (status : AwgTunnelStatus) (now : Int) :
    Bool :=
  match c.bundle with
  | none => false
  | some bundle => status.connected && !handshakeFresh bundle.policy status now

def Evaluation.sawHealthyPrimary (e : Evaluation) : Bool :=
  e.deciding.seesHealthyPrimary e.sample.status e.sample.evaluateAt

def Evaluation.sawStale (e : Evaluation) : Bool :=
  e.deciding.seesStale e.sample.status e.sample.evaluateAt

/-- The call saw a stale handshake while the server was the active one. -/
def Evaluation.staleOn (serverCode : String) (e : Evaluation) : Bool :=
  e.sawStale && e.deciding.activeServer == serverCode

/-- What a reported switch goes by, with the calls before it, the latest first. -/
def DecisionLaw (stored : Option Int) (earlier : List Evaluation) (e : Evaluation) : Prop :=
  ∀ r, e.result = some r → r.switched = true →
    ∃ bundle, e.deciding.bundle = some bundle ∧
      (∃ node ∈ bundle.nodes, node.serverCode = r.serverCode) ∧
      r.serverCode ≠ e.deciding.activeServer ∧
      (∀ last, lastRecorded stored earlier = some last →
        bundle.policy.switchCooldownSeconds ≤ (e.sample.evaluateAt - last).tdiv 1000) ∧
      if AwgFailoverController.handshakeFresh bundle.policy e.sample.status e.sample.evaluateAt then
        r.serverCode = bundle.primaryServer ∧
          bundle.policy.failbackHealthySamples ≤
            ((e :: earlier).takeWhile Evaluation.sawHealthyPrimary).length
      else bundle.health.lookup r.serverCode ≠ some "down"

/-- A server that is left over stale handshakes was the active one at each of them. -/
def ChargedToItsServer (earlier : List Evaluation) (e : Evaluation) : Prop :=
  ∀ r bundle, e.result = some r → r.switched = true → e.deciding.bundle = some bundle →
    AwgFailoverController.handshakeFresh bundle.policy e.sample.status e.sample.evaluateAt = false →
    bundle.policy.failureSamples ≤
      ((e :: earlier).takeWhile (Evaluation.staleOn e.deciding.activeServer)).length

/-- A call that sees a stale handshake after others have been counted finds the active server as the last
call left it: neither the refreshed bundle nor the server code of the status replaces it. -/
def AwgFailoverController.Continues (c : AwgFailoverController) (x : Sample) : Prop :=
  0 < c.failureSamples → (c.deciding x).seesStale x.status x.evaluateAt = true →
    (c.deciding x).activeServer = c.activeServer

/-! ### What a call can do -/

namespace AwgFailoverController

variable {c : AwgFailoverController} {status : AwgTunnelStatus} {now : Int}

/-- What deciding can come to. -/
inductive Decided (c : AwgFailoverController) (status : AwgTunnelStatus) (now : Int) :
    AwgFailoverController × Decision → Prop
  | idle : Decided c status now ({ c with failureSamples := 0, primaryHealthySamples := 0 }, .stay none)
  | healthy {bundle : Router1FailoverBundle} {decision : Decision} (hbundle : c.bundle = some bundle)
      (hconnected : status.connected = true) (hfresh : handshakeFresh bundle.policy status now = true)
      (hactive : c.activeServer ≠ bundle.primaryServer)
      (hprimary : bundle.health.lookup bundle.primaryServer = some "healthy")
      (hdecision : decision = .stay none ∨
        bundle.policy.failbackHealthySamples ≤ c.primaryHealthySamples + 1 ∧
          c.cooldownPassed bundle.policy now = true ∧
          decision = .switchTo bundle.primaryServer "Основной маршрут восстановлен") :
      Decided c status now
        ({ c with failureSamples := 0, primaryHealthySamples := c.primaryHealthySamples + 1 }, decision)
  | stale {bundle : Router1FailoverBundle} {decision : Decision} (hbundle : c.bundle = some bundle)
      (hconnected : status.connected = true) (hfresh : handshakeFresh bundle.policy status now = false)
      (hdecision : (∃ message, decision = .stay message) ∨
        bundle.policy.failureSamples ≤ c.failureSamples + 1 ∧
          c.cooldownPassed bundle.policy now = true ∧
          ∃ candidate ∈ bundle.candidates c.activeServer,
            decision = .switchTo candidate.serverCode "Переключено на резервный маршрут") :
      Decided c status now
        ({ c with primaryHealthySamples := 0, failureSamples := c.failureSamples + 1 }, decision)

theorem decided (c : AwgFailoverController) (status : AwgTunnelStatus) (now : Int) :
    Decided c status now (c.decide status now) := by
  rw [decide]
  split
  · exact .idle
  · next bundle hbundle =>
      by_cases hskip : bundle.nodes.length < 2 ∨ status.connected = false
      · rw [if_pos hskip]
        exact .idle
      rw [if_neg hskip]
      rw [not_or, Bool.not_eq_false] at hskip
      by_cases hfresh : handshakeFresh bundle.policy status now = true
      · rw [if_pos hfresh]
        by_cases hprimary : c.activeServer ≠ bundle.primaryServer ∧
            bundle.health.lookup bundle.primaryServer = some "healthy"
        · rw [if_pos hprimary]
          dsimp only
          split
          · next hpassed =>
              exact .healthy hbundle hskip.2 hfresh hprimary.1 hprimary.2
                (.inr ⟨hpassed.1, hpassed.2, rfl⟩)
          · exact .healthy hbundle hskip.2 hfresh hprimary.1 hprimary.2 (.inl rfl)
        · rw [if_neg hprimary]
          exact .idle
      · rw [if_neg hfresh]
        rw [Bool.not_eq_true] at hfresh
        dsimp only
        split
        · exact .stale hbundle hskip.2 hfresh (.inl ⟨none, rfl⟩)
        · next hpassed =>
            rw [not_or, Bool.not_eq_false, Int.not_lt] at hpassed
            cases hcandidates : bundle.candidates c.activeServer with
            | nil => exact .stale hbundle hskip.2 hfresh (.inl ⟨_, rfl⟩)
            | cons candidate rest =>
                refine .stale hbundle hskip.2 hfresh (.inr ⟨hpassed.1, hpassed.2, candidate, ?_, rfl⟩)
                rw [hcandidates]
                exact List.mem_cons_self

/-- What calling can come to: it decides and goes no further, or it switches as it decided. -/
inductive Evaluated (c : AwgFailoverController) (x : Sample) : Evaluation → Prop
  | stays {e : Evaluation} (hsample : e.sample = x) (hdeciding : e.deciding = c.deciding x)
      (hafter : e.after = ((c.deciding x).decide x.status x.evaluateAt).1)
      (hwrites : ∀ write ∈ e.writes, write.time = none)
      (hresult : ∀ r, e.result = some r → r.switched = false) : Evaluated c x e
  | switches {e : Evaluation} {bundle : Router1FailoverBundle} {node : Router1FailoverNode}
      {message : String} (hsample : e.sample = x) (hdeciding : e.deciding = c.deciding x)
      (hbundle : (c.deciding x).bundle = some bundle) (hnode : node ∈ bundle.nodes)
      (hdecision : ((c.deciding x).decide x.status x.evaluateAt).2 = .switchTo node.serverCode message)
      (hafter : e.after =
        ((c.deciding x).decide x.status x.evaluateAt).1.switched node.serverCode x.switchAt)
      (hrecorded : e.recorded = some x.switchAt)
      (hresult : e.result = some ⟨true, node.serverCode, some message⟩) : Evaluated c x e

theorem refreshBundle_writes (c : AwgFailoverController) (force : Bool) (now : Int)
    (fetch : Option Router1FailoverBundle) :
    ∀ write ∈ (c.refreshBundle force now fetch).2, write.time = none := by
  rw [refreshBundle.eq_def]
  intro write hwrite
  split at hwrite
  · cases fetch with
    | none => cases hwrite
    | some value =>
        simp only [List.mem_cons, List.not_mem_nil, or_false] at hwrite
        obtain rfl | rfl := hwrite <;> rfl
  · cases hwrite

theorem refreshBundle_frame (c : AwgFailoverController) (force : Bool) (now : Int)
    (fetch : Option Router1FailoverBundle) :
    (c.refreshBundle force now fetch).1.lastSwitch = c.lastSwitch ∧
      (c.refreshBundle force now fetch).1.failureSamples = c.failureSamples ∧
      (c.refreshBundle force now fetch).1.primaryHealthySamples = c.primaryHealthySamples := by
  rw [refreshBundle.eq_def]
  split
  · cases fetch with
    | none => exact ⟨rfl, rfl, rfl⟩
    | some value => exact ⟨rfl, rfl, rfl⟩
  · exact ⟨rfl, rfl, rfl⟩

theorem deciding_frame (c : AwgFailoverController) (x : Sample) :
    (c.deciding x).lastSwitch = c.lastSwitch ∧ (c.deciding x).failureSamples = c.failureSamples ∧
      (c.deciding x).primaryHealthySamples = c.primaryHealthySamples := by
  have hrefresh := refreshBundle_frame c false x.refreshAt x.fetch
  rw [deciding, adopt]
  split <;> exact hrefresh

theorem adopting_writes (x : Sample) (activeServer : String) :
    ∀ write ∈ (if x.status.serverCode ≠ "" ∧ x.status.serverCode ≠ activeServer then
      [PrefWrite.server x.status.serverCode] else []), write.time = none := by
  intro write hwrite
  split at hwrite
  · obtain rfl := List.mem_singleton.mp hwrite
    rfl
  · cases hwrite

theorem switchTo_spec (c : AwgFailoverController) (serverCode message : String) (x : Sample) :
    (∃ result, c.switchTo serverCode message x = (c, [], result) ∧
      ∀ r, result = some r → r.switched = false) ∨
    ∃ bundle node, c.bundle = some bundle ∧ node ∈ bundle.nodes ∧ node.serverCode = serverCode ∧
      c.switchTo serverCode message x =
        (c.switched node.serverCode x.switchAt, [.server node.serverCode, .switchedAt x.switchAt],
          some ⟨true, node.serverCode, some message⟩) := by
  rw [switchTo]
  cases hnode : c.bundle.bind fun bundle => bundle.node serverCode with
  | none =>
      refine .inl ⟨_, rfl, fun r hr => ?_⟩
      cases hr
      rfl
  | some node =>
      cases x.connect with
      | none => exact .inl ⟨none, rfl, nofun⟩
      | some status =>
          dsimp only
          split
          · obtain ⟨bundle, hbundle, hfound⟩ := Option.bind_eq_some_iff.mp hnode
            have hcode : node.serverCode = serverCode := by simpa using List.find?_some hfound
            exact .inr ⟨bundle, node, hbundle, List.mem_of_find?_eq_some hfound, hcode, rfl⟩
          · refine .inl ⟨_, rfl, fun r hr => ?_⟩
            cases hr
            rfl

theorem evaluated (c : AwgFailoverController) (x : Sample) : Evaluated c x (c.evaluate x) := by
  have hrefresh := refreshBundle_writes c false x.refreshAt x.fetch
  have hadopting := adopting_writes x (c.refreshBundle false x.refreshAt x.fetch).1.activeServer
  have hwrites := List.forall_mem_append.mpr ⟨hrefresh, hadopting⟩
  have hframe := (decide_frame (c.deciding x) x.status x.evaluateAt).1
  rw [evaluate]
  cases hdecided : (c.deciding x).decide x.status x.evaluateAt with
  | mk counted decision =>
      rw [hdecided] at hframe
      have hcounted : counted = ((c.deciding x).decide x.status x.evaluateAt).1 := by rw [hdecided]
      cases decision with
      | stay message =>
          refine .stays rfl rfl hcounted hwrites fun r hr => ?_
          cases hr
          rfl
      | switchTo serverCode message =>
          dsimp only
          obtain ⟨result, hswitch, hresult⟩ | ⟨bundle, node, hbundle, hnode, rfl, hswitch⟩ :=
            counted.switchTo_spec serverCode message x
          · rw [hswitch, List.append_nil]
            exact .stays rfl rfl hcounted hwrites hresult
          · rw [hswitch]
            refine .switches rfl rfl (hframe.symm.trans hbundle) hnode ?_ (by rw [hcounted]) ?_ rfl
            · rw [hdecided]
            · rw [Evaluation.recorded, List.reverse_append]
              rfl

theorem primaryHealthySamples_decide (c : AwgFailoverController) (status : AwgTunnelStatus) (now : Int) :
    (c.decide status now).1.primaryHealthySamples = 0 ∨
      c.seesHealthyPrimary status now = true ∧
        (c.decide status now).1.primaryHealthySamples = c.primaryHealthySamples + 1 := by
  have hdecided := c.decided status now
  generalize c.decide status now = made at hdecided ⊢
  cases hdecided with
  | idle => exact .inl rfl
  | healthy hbundle hconnected hfresh hactive hprimary =>
      refine .inr ⟨?_, rfl⟩
      simp [seesHealthyPrimary, hbundle, hconnected, hfresh, hactive, hprimary]
  | stale => exact .inl rfl

theorem failureSamples_decide (c : AwgFailoverController) (status : AwgTunnelStatus) (now : Int) :
    (c.decide status now).1.failureSamples = 0 ∨
      c.seesStale status now = true ∧
        (c.decide status now).1.failureSamples = c.failureSamples + 1 := by
  have hdecided := c.decided status now
  generalize c.decide status now = made at hdecided ⊢
  cases hdecided with
  | idle => exact .inl rfl
  | healthy => exact .inl rfl
  | stale hbundle hconnected hfresh =>
      refine .inr ⟨?_, rfl⟩
      simp [seesStale, hbundle, hconnected, hfresh]

theorem decide_switchTo {serverCode message : String}
    (h : (c.decide status now).2 = .switchTo serverCode message) :
    ∃ bundle, c.bundle = some bundle ∧ c.cooldownPassed bundle.policy now = true ∧
      serverCode ≠ c.activeServer ∧
      (handshakeFresh bundle.policy status now = true ∧ c.seesHealthyPrimary status now = true ∧
          serverCode = bundle.primaryServer ∧
          bundle.policy.failbackHealthySamples ≤ c.primaryHealthySamples + 1 ∨
        handshakeFresh bundle.policy status now = false ∧ c.seesStale status now = true ∧
          bundle.health.lookup serverCode ≠ some "down" ∧
          bundle.policy.failureSamples ≤ c.failureSamples + 1) := by
  have hdecided := c.decided status now
  generalize c.decide status now = made at hdecided h
  cases hdecided with
  | idle => cases h
  | healthy hbundle hconnected hfresh hactive hprimary hdecision =>
      obtain hstay | ⟨hsamples, hpassed, hswitch⟩ := hdecision
      · cases hstay.symm.trans h
      · cases hswitch.symm.trans h
        refine ⟨_, hbundle, hpassed, hactive.symm, .inl ⟨hfresh, ?_, rfl, hsamples⟩⟩
        simp [seesHealthyPrimary, hbundle, hconnected, hfresh, hactive, hprimary]
  | stale hbundle hconnected hfresh hdecision =>
      obtain ⟨_, hstay⟩ | ⟨hsamples, hpassed, candidate, hcandidate, hswitch⟩ := hdecision
      · cases hstay.symm.trans h
      · cases hswitch.symm.trans h
        have hchosen := (List.mem_filter.mp hcandidate).2
        rw [Bool.and_eq_true, bne_iff_ne, bne_iff_ne] at hchosen
        refine ⟨_, hbundle, hpassed, hchosen.1, .inr ⟨hfresh, ?_, hchosen.2, hsamples⟩⟩
        simp [seesStale, hbundle, hconnected, hfresh]

/-! ### What a call leaves of the counters -/

variable {x : Sample} {history : List Evaluation}

theorem evaluate_deciding (c : AwgFailoverController) (x : Sample) :
    (c.evaluate x).sample = x ∧ (c.evaluate x).deciding = c.deciding x := by
  cases c.evaluated x with
  | stays hsample hdeciding => exact ⟨hsample, hdeciding⟩
  | switches hsample hdeciding => exact ⟨hsample, hdeciding⟩

/-- A counter that is cleared, or raised by one on an entry of its kind, stays within the entries of that
kind, one after the other. -/
theorem le_length_takeWhile_cons {α : Type*} {P : α → Bool} {a : α} {l : List α} {n m : Int}
    (hn : n ≤ (l.takeWhile P).length) (hm : m = 0 ∨ P a = true ∧ m = n + 1) :
    m ≤ ((a :: l).takeWhile P).length := by
  obtain rfl | ⟨ha, rfl⟩ := hm
  · exact Int.natCast_nonneg _
  · rw [List.takeWhile_cons_of_pos ha, List.length_cons]
    push_cast
    omega

theorem lastSwitch_evaluate (c : AwgFailoverController) (x : Sample) :
    (c.evaluate x).after.lastSwitch = (c.evaluate x).recorded.or c.lastSwitch := by
  cases c.evaluated x with
  | stays _ _ hafter hwrites =>
      rw [hafter, (decide_frame _ _ _).2.2, (deciding_frame c x).1, Evaluation.recorded,
        List.findSome?_eq_none_iff.mpr fun write hwrite => hwrites write (List.mem_reverse.mp hwrite),
        Option.none_or]
  | switches _ _ _ _ _ hafter hrecorded =>
      rw [hafter, hrecorded]
      rfl

theorem primaryHealthySamples_evaluate
    (h : c.primaryHealthySamples ≤ (history.takeWhile Evaluation.sawHealthyPrimary).length) :
    (c.evaluate x).after.primaryHealthySamples ≤
      (((c.evaluate x) :: history).takeWhile Evaluation.sawHealthyPrimary).length := by
  obtain ⟨hsample, hdeciding⟩ := evaluate_deciding c x
  refine le_length_takeWhile_cons h ?_
  rw [Evaluation.sawHealthyPrimary, hsample, hdeciding, ← (deciding_frame c x).2.2]
  cases c.evaluated x with
  | stays _ _ hafter =>
      rw [hafter]
      exact primaryHealthySamples_decide (c.deciding x) x.status x.evaluateAt
  | switches _ _ _ _ _ hafter =>
      rw [hafter]
      exact .inl rfl

theorem staleOn_evaluate (hsees : (c.deciding x).seesStale x.status x.evaluateAt = true) :
    Evaluation.staleOn (c.deciding x).activeServer (c.evaluate x) = true := by
  obtain ⟨hsample, hdeciding⟩ := evaluate_deciding c x
  rw [Evaluation.staleOn, Evaluation.sawStale, hsample, hdeciding, hsees, beq_self_eq_true]
  rfl

theorem Continues.failureSamples (hcontinues : c.Continues x)
    (h : c.failureSamples ≤ (history.takeWhile (Evaluation.staleOn c.activeServer)).length)
    (hsees : (c.deciding x).seesStale x.status x.evaluateAt = true) :
    c.failureSamples ≤ (history.takeWhile (Evaluation.staleOn (c.deciding x).activeServer)).length := by
  by_cases hcounted : 0 < c.failureSamples
  · rw [hcontinues hcounted hsees]
    exact h
  · omega

/-- The failures of the active server stay within the calls that saw them on it. -/
theorem failureSamples_evaluate (hcontinues : c.Continues x)
    (h : c.failureSamples ≤ (history.takeWhile (Evaluation.staleOn c.activeServer)).length) :
    (c.evaluate x).after.failureSamples ≤
      ((c.evaluate x :: history).takeWhile (Evaluation.staleOn (c.evaluate x).after.activeServer)).length := by
  cases c.evaluated x with
  | stays _ _ hafter =>
      rw [hafter, (decide_frame _ _ _).2.1]
      obtain hzero | ⟨hsees, hcount⟩ := failureSamples_decide (c.deciding x) x.status x.evaluateAt
      · rw [hzero]
        exact Int.natCast_nonneg _
      · refine le_length_takeWhile_cons (hcontinues.failureSamples h hsees) (.inr ⟨?_, ?_⟩)
        · exact staleOn_evaluate hsees
        · rw [hcount, (deciding_frame c x).2.1]
  | switches _ _ _ _ _ hafter =>
      rw [hafter]
      exact Int.natCast_nonneg _

end AwgFailoverController

/-! ### Runs -/

variable {stored : Option Int} {history : List Evaluation}

theorem switchedAt_foldl_write (prefs : FailoverPrefs) (writes : List PrefWrite) :
    (writes.foldl .write prefs).switchedAt =
      (writes.reverse.findSome? PrefWrite.time).or prefs.switchedAt := by
  induction writes generalizing prefs with
  | nil => rfl
  | cons write writes ih =>
      rw [List.foldl_cons, ih, List.reverse_cons, List.findSome?_append, Option.or_assoc]
      congr 1
      cases write <;> rfl

theorem findSome?_time_eq_none {writes : List PrefWrite} (h : ∀ write ∈ writes, write.time = none) :
    writes.reverse.findSome? PrefWrite.time = none := by
  rw [List.findSome?_eq_none_iff]
  intro write hwrite
  exact h write (List.mem_reverse.mp hwrite)

namespace Life

variable {s t : Life} {ev : LifeEvent} {c : AwgFailoverController} {x : Sample}

/-- The stored time is the last recorded one, and a living controller knows it and has counted at most the
calls that saw the primary server healthy, one after the other. -/
structure Counted (stored : Option Int) (s : Life) : Prop where
  recorded : s.prefs.switchedAt = lastRecorded stored s.history
  lastSwitch : ∀ c, s.controller = some c → c.lastSwitch = s.prefs.switchedAt
  healthy : ∀ c, s.controller = some c →
    c.primaryHealthySamples ≤ (s.history.takeWhile Evaluation.sawHealthyPrimary).length

/-- The failures a living controller has counted were seen on its active server, one after the other. -/
def Charged (s : Life) : Prop :=
  ∀ c, s.controller = some c →
    c.failureSamples ≤ (s.history.takeWhile (Evaluation.staleOn c.activeServer)).length

def OnOneServer (s : Life) : LifeEvent → Prop
  | .start _ _ _ => True
  | .evaluate x _ => ∀ c, s.controller = some c → c.Continues x

theorem started_counted (prefs : FailoverPrefs) (now : Int) (fetch : Option Router1FailoverBundle) :
    (AwgFailoverController.started prefs now fetch).1.lastSwitch = prefs.switchedAt ∧
      (AwgFailoverController.started prefs now fetch).1.failureSamples = 0 ∧
      (AwgFailoverController.started prefs now fetch).1.primaryHealthySamples = 0 :=
  AwgFailoverController.refreshBundle_frame _ true now fetch

/-- A start, complete or not, leaves the stored time of the last switch. -/
theorem started_switchedAt (prefs : FailoverPrefs) (now : Int) (fetch : Option Router1FailoverBundle)
    {writes : List PrefWrite}
    (hwrites : ∀ write ∈ writes, write ∈ (AwgFailoverController.started prefs now fetch).2) :
    (writes.foldl .write prefs).switchedAt = prefs.switchedAt := by
  have htimes : ∀ write ∈ writes, write.time = none := by
    intro write hwrite
    exact AwgFailoverController.refreshBundle_writes _ true now fetch write (hwrites write hwrite)
  rw [switchedAt_foldl_write, findSome?_time_eq_none htimes, Option.none_or]

/-- What a step can do: a start from the preferences, or a call of the living controller. -/
inductive Move (s : Life) : LifeEvent → Life → Prop
  | start (now : Int) (fetch : Option Router1FailoverBundle) (dies : Option Nat)
      (controller : Option AwgFailoverController) (writes : List PrefWrite)
      (hcontroller : ∀ c, controller = some c →
        c = (AwgFailoverController.started s.prefs now fetch).1)
      (hwrites : ∀ write ∈ writes, write ∈ (AwgFailoverController.started s.prefs now fetch).2) :
      Move s (.start now fetch dies)
        ⟨controller, writes.foldl .write s.prefs, now, s.history⟩
  | evaluate (x : Sample) (dies : Option Nat) (c : AwgFailoverController) (hc : s.controller = some c)
      (controller : Option AwgFailoverController)
      (hcontroller : ∀ c', controller = some c' → c' = (c.evaluate x).after ∧ dies = none) :
      Move s (.evaluate x dies)
        ⟨controller, ((c.evaluate x).cut dies).writes.foldl .write s.prefs, x.switchAt,
          (c.evaluate x).cut dies :: s.history⟩

theorem move_of_step (h : s.step ev = some t) : Move s ev t := by
  cases ev with
  | start now fetch dies =>
      rw [step] at h
      split at h
      · cases dies with
        | none =>
            cases h
            refine .start now fetch none _ _ (fun c hc => ?_) fun write hwrite => hwrite
            exact (Option.some.inj hc).symm
        | some n =>
            cases h
            refine .start now fetch (some n) none _ (fun c hc => ?_) fun write hwrite =>
              List.mem_of_mem_take hwrite
            cases hc
      · cases h
  | evaluate x dies =>
      rw [step] at h
      cases hc : s.controller with
      | none => simp [hc] at h
      | some c =>
          simp only [hc] at h
          split at h
          · cases h
            refine .evaluate x dies c hc _ fun c' hc' => ?_
            cases dies with
            | none => exact ⟨(Option.some.inj hc').symm, rfl⟩
            | some n => cases hc'
          · cases h

theorem Counted.step (h : Counted stored s) (hstep : s.step ev = some t) : Counted stored t := by
  cases move_of_step hstep with
  | start now fetch dies controller writes hcontroller hwrites =>
      have hkept := started_switchedAt s.prefs now fetch hwrites
      obtain ⟨hlast, -, hsamples⟩ := started_counted s.prefs now fetch
      refine ⟨hkept.trans h.recorded, ?_, ?_⟩
      · intro c hc
        rw [hcontroller c hc, hlast, hkept]
      · intro c hc
        rw [hcontroller c hc, hsamples]
        exact Int.natCast_nonneg _
  | evaluate x dies c hc controller hcontroller =>
      refine ⟨?_, ?_, ?_⟩
      · rw [switchedAt_foldl_write, h.recorded]
        rfl
      · intro c' hc'
        obtain ⟨rfl, rfl⟩ := hcontroller c' hc'
        rw [AwgFailoverController.lastSwitch_evaluate, h.lastSwitch c hc, switchedAt_foldl_write]
        rfl
      · intro c' hc'
        obtain ⟨rfl, rfl⟩ := hcontroller c' hc'
        exact AwgFailoverController.primaryHealthySamples_evaluate (h.healthy c hc)

theorem Charged.step (h : Charged s) (hserver : OnOneServer s ev) (hstep : s.step ev = some t) :
    Charged t := by
  cases move_of_step hstep with
  | start now fetch dies controller writes hcontroller hwrites =>
      intro c hc
      rw [hcontroller c hc, (started_counted s.prefs now fetch).2.1]
      exact Int.natCast_nonneg _
  | evaluate x dies c hc controller hcontroller =>
      intro c' hc'
      obtain ⟨rfl, rfl⟩ := hcontroller c' hc'
      exact AwgFailoverController.failureSamples_evaluate (hserver c hc) (h c hc)

theorem first_controller (clock : Int) (prefs : FailoverPrefs) :
    (first clock prefs).controller ≠ some c := Option.some_ne_none c ∘ Eq.symm

theorem first_counted (clock : Int) (prefs : FailoverPrefs) :
    Counted prefs.switchedAt (first clock prefs) :=
  ⟨rfl, fun _ hc => absurd hc (first_controller clock prefs),
    fun _ hc => absurd hc (first_controller clock prefs)⟩

theorem first_charged (clock : Int) (prefs : FailoverPrefs) : Charged (first clock prefs) :=
  fun _ hc => absurd hc (first_controller clock prefs)

/-- **The decision law.** In every run, every call that reports a switch goes by the law. -/
theorem evaluate_lawful {clock : Int} {prefs : FailoverPrefs}
    (hrun : Reaches step (fun _ _ => True) (first clock prefs) s) (hc : s.controller = some c)
    (x : Sample) : DecisionLaw prefs.switchedAt s.history (c.evaluate x) := by
  have hcounted : Counted prefs.switchedAt s :=
    hrun.invariant (fun _ _ _ hs _ hstep => hs.step hstep) (first_counted clock prefs)
  obtain ⟨hsample, hdeciding⟩ := AwgFailoverController.evaluate_deciding c x
  intro r hr hswitched
  cases c.evaluated x with
  | stays _ _ _ _ hresult => cases (hresult r hr).symm.trans hswitched
  | @switches bundle node _ _ _ hbundle hnode hdecision _ _ hresult =>
      cases hresult.symm.trans hr
      obtain ⟨decided, hdecided, hpassed, hother, hcase⟩ :=
        AwgFailoverController.decide_switchTo hdecision
      obtain rfl : bundle = decided := Option.some.inj (hbundle.symm.trans hdecided)
      obtain ⟨hlast, -, hsamples⟩ := AwgFailoverController.deciding_frame c x
      rw [hsample, hdeciding]
      refine ⟨bundle, hbundle, ⟨node, hnode, rfl⟩, hother, ?_, ?_⟩
      · intro last hrecorded
        rw [AwgFailoverController.cooldownPassed, hlast, hcounted.lastSwitch c hc, hcounted.recorded,
          hrecorded, decide_eq_true_iff] at hpassed
        exact hpassed
      · obtain ⟨hfresh, hsees, hprimary, henough⟩ | ⟨hfresh, -, hdown, -⟩ := hcase
        · rw [if_pos hfresh]
          refine ⟨hprimary, Int.le_trans henough ?_⟩
          refine AwgFailoverController.le_length_takeWhile_cons (hcounted.healthy c hc) (.inr ⟨?_, ?_⟩)
          · rw [Evaluation.sawHealthyPrimary, hsample, hdeciding, hsees]
          · rw [hsamples]
        · rw [hfresh]
          exact hdown

/-! ### Two servers -/

def fr : Router1FailoverNode := ⟨"fr", "config fr", fr_ne, configFr_ne⟩

def nl2 : Router1FailoverNode := ⟨"nl2", "config nl2", nl2_ne, configNl2_ne⟩

def bothHealthy : Router1FailoverBundle where
  primaryServer := "fr"
  health := [("fr", "healthy"), ("nl2", "healthy")]
  nodes := [fr, nl2]
  policy := ⟨2, 180, 300, 2⟩

/-- A call at a time, with the last handshake that many seconds before. -/
def sampleAt (now : Int) (serverCode : String) (age : Int) : Sample where
  status := { state := "up", handshake := now / 1000 - age, serverCode := serverCode }
  fetch := none
  connect := some { state := "up" }
  refreshAt := now
  evaluateAt := now
  switchAt := now

/-- A device that switched to the second server once. -/
def onSecond : Life := first 1700000000000 ⟨some bothHealthy, some "nl2", some 1699999000000⟩

/-- A second healthy sample takes the device back to the primary server. -/
theorem failback_lawful :
    ∃ s c, Reaches step (fun _ _ => True) onSecond s ∧ s.controller = some c ∧
      (c.evaluate (sampleAt 1700000020000 "nl2" 10)).result =
        some ⟨true, "fr", some "Основной маршрут восстановлен"⟩ ∧
      DecisionLaw (some 1699999000000) s.history (c.evaluate (sampleAt 1700000020000 "nl2" 10)) := by
  let es : List LifeEvent :=
    [.start 1700000000000 none none, .evaluate (sampleAt 1700000010000 "nl2" 10) none]
  have hsummary : ((runEvents step onSecond es).bind fun s => s.controller.map fun c =>
      (c.evaluate (sampleAt 1700000020000 "nl2" 10)).result) =
        some (some ⟨true, "fr", some "Основной маршрут восстановлен"⟩) := by decide +kernel
  obtain ⟨s, hs, hcall⟩ := Option.bind_eq_some_iff.mp hsummary
  obtain ⟨c, hc, hresult⟩ := Option.map_eq_some_iff.mp hcall
  have hrun : Reaches step (fun _ _ => True) onSecond s :=
    reaches_of_runEvents es (allAllowed_of_forall (fun _ _ => trivial) es) hs
  exact ⟨s, c, hrun, hc, hresult, evaluate_lawful hrun hc _⟩

/-- **Failures are charged to their server**, in every run that counts no stale handshake of one server
on top of those of another. -/
theorem evaluate_charged {clock : Int} {prefs : FailoverPrefs}
    (hrun : Reaches step OnOneServer (first clock prefs) s) (hc : s.controller = some c)
    (hx : c.Continues x) : ChargedToItsServer s.history (c.evaluate x) := by
  have hcharged : Charged s :=
    hrun.invariant (fun _ _ _ hs hserver hstep => hs.step hserver hstep) (first_charged clock prefs)
  obtain ⟨hsample, hdeciding⟩ := AwgFailoverController.evaluate_deciding c x
  intro r bundle hr hswitched hbundle hstale
  cases c.evaluated x with
  | stays _ _ _ _ hresult => cases (hresult r hr).symm.trans hswitched
  | switches _ _ _ _ hdecision _ _ _ =>
      obtain ⟨decided, hdecided, -, -, hcase⟩ := AwgFailoverController.decide_switchTo hdecision
      rw [hdeciding] at hbundle
      rw [hsample] at hstale
      obtain rfl : bundle = decided := Option.some.inj (hbundle.symm.trans hdecided)
      obtain ⟨hfresh, -⟩ | ⟨-, hsees, -, henough⟩ := hcase
      · cases hfresh.symm.trans hstale
      · rw [(AwgFailoverController.deciding_frame c x).2.1] at henough
        refine Int.le_trans henough ?_
        rw [hdeciding]
        exact AwgFailoverController.le_length_takeWhile_cons (hx.failureSamples (hcharged c hc) hsees)
          (.inr ⟨AwgFailoverController.staleOn_evaluate hsees, rfl⟩)

/-- A stale handshake on one server, then one on the server the native failover has gone to. -/
def nativeSwitch : List LifeEvent :=
  [.start 1700000000000 none none, .evaluate (sampleAt 1700001000000 "fr" 200) none]

/-- The second server is left for a failure of the first one. -/
theorem charged_to_another_server :
    ¬∀ (clock : Int) (prefs : FailoverPrefs) (s : Life) (c : AwgFailoverController) (x : Sample),
      Reaches step (fun _ _ => True) (first clock prefs) s → s.controller = some c →
        ChargedToItsServer s.history (c.evaluate x) := by
  intro hall
  have hsummary : ((runEvents step onSecond nativeSwitch).bind fun s => s.controller.map fun c =>
      let e := c.evaluate (sampleAt 1700001010000 "nl2" 200)
      (e.result, e.deciding.bundle, ((e :: s.history).takeWhile
        (Evaluation.staleOn e.deciding.activeServer)).length)) =
      some (some ⟨true, "fr", some "Переключено на резервный маршрут"⟩, some bothHealthy, 1) := by
    decide +kernel
  obtain ⟨s, hs, hcall⟩ := Option.bind_eq_some_iff.mp hsummary
  obtain ⟨c, hc, hfacts⟩ := Option.map_eq_some_iff.mp hcall
  obtain ⟨hresult, hbundle, hlength⟩ := by simpa only [Prod.mk.injEq] using hfacts
  have hrun : Reaches step (fun _ _ => True) onSecond s :=
    reaches_of_runEvents nativeSwitch (allAllowed_of_forall (fun _ _ => trivial) _) hs
  obtain ⟨hsample, -⟩ :=
    AwgFailoverController.evaluate_deciding c (sampleAt 1700001010000 "nl2" 200)
  have henough := hall _ _ s c (sampleAt 1700001010000 "nl2" 200) hrun hc _ _ hresult rfl hbundle
    (by rw [hsample]; decide +kernel)
  rw [hlength] at henough
  exact absurd henough (by decide)

/-- Two stale handshakes on one server. -/
theorem failover_charged :
    ∃ s c, Reaches step OnOneServer onSecond s ∧ s.controller = some c ∧
      (c.evaluate (sampleAt 1700001010000 "fr" 200)).result =
        some ⟨true, "nl2", some "Переключено на резервный маршрут"⟩ ∧
      ChargedToItsServer s.history (c.evaluate (sampleAt 1700001010000 "fr" 200)) := by
  have hsummary : ((runEvents step onSecond nativeSwitch).bind fun s => s.controller.map fun c =>
      ((c.evaluate (sampleAt 1700001010000 "fr" 200)).result,
        (c.deciding (sampleAt 1700001010000 "fr" 200)).activeServer, c.activeServer)) =
      some (some ⟨true, "nl2", some "Переключено на резервный маршрут"⟩, "fr", "fr") := by
    decide +kernel
  obtain ⟨s, hs, hcall⟩ := Option.bind_eq_some_iff.mp hsummary
  obtain ⟨c, hc, hfacts⟩ := Option.map_eq_some_iff.mp hcall
  obtain ⟨hresult, hdeciding, hactive⟩ := by simpa only [Prod.mk.injEq] using hfacts
  have hrun : Reaches step OnOneServer onSecond s := by
    refine reaches_of_runEvents nativeSwitch ⟨trivial, ?_, trivial⟩ hs
    intro c hc hcounted
    cases hc
    exact absurd hcounted (by decide +kernel)
  exact ⟨s, c, hrun, hc, hresult,
    evaluate_charged hrun hc fun _ _ => hdeciding.trans hactive.symm⟩

end Life

end Failover
