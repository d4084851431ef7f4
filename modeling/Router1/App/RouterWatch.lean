import Router1.Keenetic.Exchanges
import Router1.Remote.Parallel
import Router1.Remote.Runs

/-!
# The dashboard watches the router

Every fifteen seconds `evaluateRouterFailover` checks the selected tunnel and, after three checks
without a handshake, switches to the standby. Meanwhile the user works with the buttons of the router
sheet. All of them are programs that wait at every request, on one session; an event answers one request
of one of them, which then runs to its next request, or goes on after one of them has ended.

`off` says that a call of `setSelectedTunnelEnabled` with `false` has returned and neither "Включить" nor
"Перезапустить" was pressed since. `overridden` says that `evaluateRouterFailover` has called
`switchToStandbyTunnel` or sent a request that brings an interface up while it was off.
-/

namespace App

open Keenetic Remote
open Remote.Program (Calls)

/-- What the user starts from the router sheet and by pulling the page down. The program of a mode change
starts when its profile has arrived. -/
inductive RouterAction where
  | setSelectedTunnelEnabled (enabled : Bool)
  | restartSelectedTunnel
  | refreshRouter
  | changeRouterMode (routing : RouterRoutingProfile) (profile : Option Api.Router1RouteProfile)

namespace RouterAction

def program (access : KeeneticAccess) : RouterAction → Rci Unit
  | setSelectedTunnelEnabled enabled => Keenetic.setSelectedTunnelEnabled access enabled
  | restartSelectedTunnel => Keenetic.restartSelectedTunnel access
  | refreshRouter => do let _ ← attachAndCheckExistingTunnel access
  | changeRouterMode routing profile => applyRoutingProfile access routing profile

/-- The user wants the tunnel to be up. -/
def enables : RouterAction → Bool
  | setSelectedTunnelEnabled enabled => enabled
  | restartSelectedTunnel => true
  | refreshRouter | changeRouterMode _ _ => false

/-- The user wants the tunnel to be down. -/
def disables : RouterAction → Bool
  | setSelectedTunnelEnabled enabled => !enabled
  | restartSelectedTunnel | refreshRouter | changeRouterMode _ _ => false

end RouterAction

/-- Where `evaluateRouterFailover` stands. -/
inductive Evaluation where
  | idle
  | checking (rest : Rci TunnelStatus)
  | fetching
  | switching (rest : Rci TunnelStatus)

/-- No switch is under way or decided on. -/
def Evaluation.quiet : Evaluation → Bool
  | idle | checking _ => true
  | fetching | switching _ => false

structure RunningAction where
  action : RouterAction
  rest : Rci Unit

structure RouterWatch where
  clock : Int
  session : Session
  evaluation : Evaluation
  routerFailureSamples : Nat
  routerLastFailoverAttempt : Option Int
  actions : List RunningAction
  off : Bool
  overridden : Bool

inductive WatchEvent where
  | elapse (milliseconds : Nat)
  | tick
  | evaluationAnswered
  | checked
  | profiled (routing : RouterRoutingProfile) (profile : Option Api.Router1RouteProfile)
  | switched
  | press (action : RouterAction)
  | actionAnswered (i : Nat)
  | actionEnds (i : Nat)

namespace RouterWatch

variable (access : KeeneticAccess) (net : Net)

/-- The page is opened, with the records the service has. -/
def start (clock : Int) (session : Session) : RouterWatch where
  clock := clock
  session := session
  evaluation := .idle
  routerFailureSamples := 0
  routerLastFailoverAttempt := none
  actions := []
  off := false
  overridden := false

/-- A program of the service starts and runs to its first request. -/
def settled {α : Type} (s : RouterWatch) (p : Rci α) : Rci α × Session :=
  p.settle net.handle Call.awaited s.session

/-- Five minutes have passed since the last attempt. -/
def attemptDue (s : RouterWatch) : Bool :=
  match s.routerLastFailoverAttempt with
  | none => true
  | some last => 300000 ≤ s.clock - last

/-- `evaluateRouterFailover` after its check has returned. -/
def afterCheck (s : RouterWatch) (status : TunnelStatus) : RouterWatch :=
  if status.handshakeOk then { s with routerFailureSamples := 0, evaluation := .idle }
  else
    let counted := { s with routerFailureSamples := s.routerFailureSamples + 1 }
    if counted.routerFailureSamples < 3 then { counted with evaluation := .idle }
    else if counted.attemptDue then
      { counted with routerLastFailoverAttempt := some s.clock, evaluation := .fetching }
    else { counted with evaluation := .idle }

/-- The evaluation asks the router to bring an interface up. -/
def raises (rest : Rci TunnelStatus) : Bool :=
  match rest.waitsAt with
  | some (.exchange (.interfaceUp _)) => true
  | _ => false

def evaluationAnswered (s : RouterWatch) (rest : Rci TunnelStatus) (goOn : Rci TunnelStatus → Evaluation) :
    Option RouterWatch :=
  match rest.resume net.handle Call.awaited s.session with
  | some (next, session) =>
      some { s with
        session := session
        evaluation := goOn next
        overridden := s.overridden || (s.off && raises rest) }
  | none => none

/-- One step; none for an event that cannot happen. -/
def step (s : RouterWatch) : WatchEvent → Option RouterWatch
  | .elapse milliseconds => some { s with clock := s.clock + milliseconds }
  | .tick =>
      match s.evaluation with
      | .idle =>
          let begun := s.settled net (checkSelectedTunnel access)
          some { s with session := begun.2, evaluation := .checking begun.1 }
      | _ => some s
  | .evaluationAnswered =>
      match s.evaluation with
      | .checking rest => s.evaluationAnswered net rest .checking
      | .switching rest => s.evaluationAnswered net rest .switching
      | .idle | .fetching => none
  | .checked =>
      match s.evaluation with
      | .checking (.pure status) => some (s.afterCheck status)
      | .checking (.throw _) => some { s with evaluation := .idle }
      | _ => none
  | .profiled routing profile =>
      match s.evaluation with
      | .fetching =>
          let begun := s.settled net (switchToStandbyTunnel access routing profile)
          some { s with
            session := begun.2
            evaluation := .switching begun.1
            overridden := s.overridden || s.off }
      | _ => none
  | .switched =>
      match s.evaluation with
      | .switching (.pure _) => some { s with routerFailureSamples := 0, evaluation := .idle }
      | .switching (.throw _) => some { s with evaluation := .idle }
      | _ => none
  | .press action =>
      let begun := s.settled net (action.program access)
      some { s with
        session := begun.2
        actions := s.actions ++ [⟨action, begun.1⟩]
        off := s.off && !action.enables }
  | .actionAnswered i =>
      match s.actions[i]? with
      | some ⟨action, rest⟩ =>
          match rest.resume net.handle Call.awaited s.session with
          | some (next, session) =>
              some { s with session := session, actions := s.actions.set i ⟨action, next⟩ }
          | none => none
      | none => none
  | .actionEnds i =>
      match s.actions[i]? with
      | some ⟨action, .pure _⟩ =>
          some { s with actions := s.actions.eraseIdx i, off := s.off || action.disables }
      | some ⟨_, .throw _⟩ => some { s with actions := s.actions.eraseIdx i }
      | _ => none

/-! ### A check only looks -/

def Looks : Call → Prop
  | .exchange (.interfaceUp _) => False
  | _ => True

theorem looks_checkSelectedTunnel : (checkSelectedTunnel access).Calls Looks := by
  refine Calls.bind ((Program.calls_request _).mpr trivial) fun selected => ?_
  cases selected with
  | none =>
      exact calls_attachAndCheckExistingTunnel trivial (fun _ => trivial) (fun _ => trivial)
        fun _ => trivial
  | some name => exact calls_readTunnelStatus trivial

variable {access} {net} {s t : RouterWatch} {e : WatchEvent}

theorem raises_eq_false {rest : Rci TunnelStatus} (h : rest.Calls Looks) : raises rest = false := by
  rw [raises]
  split
  · next hwaits => exact (h.waitsAt hwaits).elim
  · rfl

/-! ### The condition on a run -/

/-- While the tunnel is off, a check that comes back has a handshake, or is not yet the third without
one, or comes within five minutes of the last attempt; and the tunnel is not turned off while a switch
is under way or decided on. -/
def respectful (s : RouterWatch) : WatchEvent → Bool
  | .checked =>
      match s.evaluation with
      | .checking (.pure status) =>
          !s.off || status.handshakeOk || s.routerFailureSamples + 1 < 3 || !s.attemptDue
      | _ => true
  | .actionEnds i =>
      match s.actions[i]? with
      | some ⟨action, .pure _⟩ => !action.disables || s.evaluation.quiet
      | _ => true
  | _ => true

/-- The user was not overridden, a check that is under way only looks, and while the tunnel is off no
switch is under way or decided on. -/
structure Heeded (s : RouterWatch) : Prop where
  overridden : s.overridden = false
  checking : ∀ rest, s.evaluation = .checking rest → rest.Calls Looks
  off : s.off = true → s.evaluation.quiet = true

theorem Heeded.off_eq_false (h : Heeded s) (hquiet : s.evaluation.quiet = false) : s.off = false := by
  cases hoff : s.off with
  | false => rfl
  | true => exact absurd (h.off hoff) (by rw [hquiet]; exact Bool.false_ne_true)

theorem Heeded.afterCheck (h : Heeded s) {status : TunnelStatus}
    (hrespect : (!s.off || status.handshakeOk || decide (s.routerFailureSamples + 1 < 3) ||
      !s.attemptDue) = true) : Heeded (s.afterCheck status) := by
  rw [RouterWatch.afterCheck]
  split
  · exact ⟨h.overridden, nofun, fun _ => rfl⟩
  · next hhandshake =>
      dsimp only
      split
      · exact ⟨h.overridden, nofun, fun _ => rfl⟩
      · next hsamples =>
          split
          · next hdue =>
              refine ⟨h.overridden, nofun, fun hoff => ?_⟩
              have hdue : s.attemptDue = true := hdue
              change s.off = true at hoff
              simp [hoff, hhandshake, hsamples, hdue] at hrespect
          · exact ⟨h.overridden, nofun, fun _ => rfl⟩

theorem Heeded.checking_answered (h : Heeded s) {rest : Rci TunnelStatus}
    (hchecking : s.evaluation = .checking rest)
    (hanswered : s.evaluationAnswered net rest .checking = some t) : Heeded t := by
  have hlooks := h.checking rest hchecking
  rw [evaluationAnswered] at hanswered
  split at hanswered
  · next next session hresume =>
      cases hanswered
      refine ⟨?_, ?_, fun _ => rfl⟩
      · rw [h.overridden, raises_eq_false hlooks, Bool.and_false, Bool.or_false]
      · intro rest' hrest'
        cases hrest'
        exact hlooks.resume hresume
  · cases hanswered

theorem Heeded.switching_answered (h : Heeded s) {rest : Rci TunnelStatus}
    (hswitching : s.evaluation = .switching rest)
    (hanswered : s.evaluationAnswered net rest .switching = some t) : Heeded t := by
  have hoff : s.off = false := h.off_eq_false (by rw [hswitching]; rfl)
  rw [evaluationAnswered] at hanswered
  split at hanswered
  · cases hanswered
    refine ⟨?_, nofun, fun hturned => ?_⟩
    · rw [h.overridden, hoff, Bool.false_and, Bool.or_false]
    · rw [hoff] at hturned
      cases hturned
  · cases hanswered

/-- **Step.** -/
theorem Heeded.step (h : Heeded s) (hrespect : s.respectful e = true)
    (hstep : s.step access net e = some t) : Heeded t := by
  cases e with
  | elapse milliseconds =>
      cases hstep
      exact ⟨h.overridden, h.checking, h.off⟩
  | tick =>
      simp only [RouterWatch.step] at hstep
      split at hstep
      · cases hstep
        refine ⟨h.overridden, ?_, fun _ => rfl⟩
        intro rest hrest
        cases hrest
        exact (looks_checkSelectedTunnel access).settle _ _ _
      · cases hstep
        exact h
  | evaluationAnswered =>
      simp only [RouterWatch.step] at hstep
      split at hstep
      · next rest hchecking => exact h.checking_answered hchecking hstep
      · next rest hswitching => exact h.switching_answered hswitching hstep
      · cases hstep
      · cases hstep
  | checked =>
      simp only [RouterWatch.step] at hstep
      split at hstep
      · next status hchecking =>
          cases hstep
          rw [respectful, hchecking] at hrespect
          exact h.afterCheck hrespect
      · cases hstep
        exact ⟨h.overridden, nofun, fun _ => rfl⟩
      · cases hstep
  | profiled routing profile =>
      simp only [RouterWatch.step] at hstep
      split at hstep
      · next hfetching =>
          have hoff : s.off = false := h.off_eq_false (by rw [hfetching]; rfl)
          cases hstep
          refine ⟨?_, nofun, fun hturned => ?_⟩
          · rw [h.overridden, hoff, Bool.or_false]
          · rw [hoff] at hturned
            cases hturned
      · cases hstep
  | switched =>
      simp only [RouterWatch.step] at hstep
      split at hstep
      · cases hstep
        exact ⟨h.overridden, nofun, fun _ => rfl⟩
      · cases hstep
        exact ⟨h.overridden, nofun, fun _ => rfl⟩
      · cases hstep
  | press action =>
      cases hstep
      exact ⟨h.overridden, h.checking, fun hoff => h.off (Bool.and_eq_true_iff.mp hoff).1⟩
  | actionAnswered i =>
      simp only [RouterWatch.step] at hstep
      split at hstep
      · split at hstep
        · cases hstep
          exact ⟨h.overridden, h.checking, h.off⟩
        · cases hstep
      · cases hstep
  | actionEnds i =>
      simp only [RouterWatch.step] at hstep
      split at hstep
      · next action hended =>
          cases hstep
          refine ⟨h.overridden, h.checking, fun hoff => ?_⟩
          rw [respectful, hended] at hrespect
          obtain hwas | hdisables := Bool.or_eq_true_iff.mp hoff
          · exact h.off hwas
          · simpa [hdisables] using hrespect
      · cases hstep
        exact ⟨h.overridden, h.checking, h.off⟩
      · cases hstep

/-- **The user's word on the router.** In every run whose steps are respectful, the failover of the
dashboard does not bring a tunnel up that the user has turned off. -/
theorem not_overridden {clock : Int} {session : Session}
    (h : Reaches (step access net) (fun s e => s.respectful e = true) (start clock session) s) :
    s.overridden = false := by
  have hheeded : Heeded s := by
    refine h.invariant ?_ ⟨rfl, nofun, nofun⟩
    intro s e t hs hrespect hstep
    exact hs.step hrespect hstep
  exact hheeded.overridden

/-! ### Two runs -/

def homeRouter : KeeneticAccess := ⟨"192.168.1.1", false⟩

/-- The main tunnel and the standby are known. -/
def bothKnown : Session := ⟨fun _ => some "Wireguard0", fun _ => some "Wireguard1", [], []⟩

/-- A router that carries out every request and shows no handshake. -/
def withoutHandshake : Net where
  answers _ := responds 200 (.json (.obj []))
  lookups _ := none

def turnedOff : List WatchEvent :=
  [.press (.setSelectedTunnelEnabled false), .actionAnswered 0, .actionAnswered 0, .actionEnds 0]

def check : List WatchEvent := [.elapse 15000, .tick, .evaluationAnswered, .checked]

/-- Two checks find no handshake, and then the user turns the tunnel on again. -/
def turnedOn : List WatchEvent :=
  turnedOff ++ check ++ check ++
    [.press (.setSelectedTunnelEnabled true), .actionAnswered 0, .actionAnswered 0, .actionEnds 0] ++
    check ++ [.profiled .selective none]

theorem turnedOn_not_overridden :
    ∃ s, runEvents (step homeRouter withoutHandshake) (start 0 bothKnown) turnedOn = some s ∧
      s.evaluation.quiet = false ∧ s.overridden = false := by
  have hsummary : (runEvents (step homeRouter withoutHandshake) (start 0 bothKnown) turnedOn).map
      (fun s => s.evaluation.quiet) = some false := by
    decide +kernel
  obtain ⟨s, hrun, hs⟩ := Option.map_eq_some_iff.mp hsummary
  have hrespect : AllAllowed (step homeRouter withoutHandshake) (fun s e => s.respectful e = true)
      (start 0 bothKnown) turnedOn := by
    decide +kernel
  exact ⟨s, hrun, hs, not_overridden (reaches_of_runEvents turnedOn hrespect hrun)⟩

/-- The tunnel is off, and the third check without a handshake switches to the standby. -/
def thirdCheck : List WatchEvent :=
  turnedOff ++ check ++ check ++ check ++ [.profiled .selective none]

theorem standby_raised_while_off :
    ¬∀ (access : KeeneticAccess) (net : Net) (clock : Int) (session : Session) (s : RouterWatch),
      Reaches (step access net) (fun _ _ => True) (start clock session) s → s.overridden = false := by
  intro hclaim
  have hsummary : (runEvents (step homeRouter withoutHandshake) (start 0 bothKnown) thirdCheck).map
      (fun s => (s.off, s.overridden)) = some (true, true) := by
    decide +kernel
  obtain ⟨s, hrun, hs⟩ := Option.map_eq_some_iff.mp hsummary
  rw [Prod.mk.injEq] at hs
  have hkept : s.overridden = false := hclaim homeRouter withoutHandshake 0 bothKnown s
    (reaches_of_runEvents thirdCheck (allAllowed_of_forall (fun _ _ => trivial) _) hrun)
  rw [hs.2] at hkept
  cases hkept

end RouterWatch

end App
