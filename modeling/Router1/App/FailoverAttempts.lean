import Mathlib
import Router1.App.RouterWatch
import Router1.Remote.Pacing

/-!
# How often the dashboard switches the router

`evaluateRouterFailover` on its own, with what it awaits answered in every possible way. The timer starts
an execution every fifteen seconds, whether or not an earlier one is still waiting; the flag
`routerFailoverEvaluating` turns it away. The counter of samples, the time of the last attempt and the
flag are set at different exits of the function, so a state keeps all executions that are under way and
the history of what they have seen and done. The clock is `DateTime.now` in microseconds.
-/

namespace App

open Remote

/-- What an execution of `evaluateRouterFailover` waits for. -/
inductive Awaited where
  | check
  | profile
  | switch
  deriving DecidableEq, Repr

/-- How `checkSelectedTunnel` ends. -/
inductive CheckOutcome where
  | healthy
  | unhealthy
  | failed
  deriving DecidableEq, Repr

/-- What the history tells: samples, throttle tests passed, calls of `switchToStandbyTunnel` and
switches that have succeeded. -/
inductive LoopMark where
  | healthy
  | unhealthy
  | passed (instant : Int)
  | called
  | switched
  deriving DecidableEq, Repr

namespace LoopMark

/-- The marks from which unhealthy samples are counted anew. -/
def resets : LoopMark → Bool
  | healthy | switched => true
  | unhealthy | passed _ | called => false

def passedAt? : LoopMark → Option Int
  | passed instant => some instant
  | healthy | unhealthy | called | switched => none

end LoopMark

/-- The unhealthy samples since the latest healthy one or successful switch, or since the start. -/
def unhealthySince (history : List LoopMark) : Nat :=
  (history.reverse.takeWhile fun mark => !mark.resets).count .unhealthy

/-- The instants at which the throttle test was passed. -/
def passes (history : List LoopMark) : List Int := history.filterMap LoopMark.passedAt?

/-- The fields of one dashboard, the executions that have not ended, and the history, oldest first. -/
structure RouterLoop where
  clock : Int
  routerFailoverEvaluating : Bool
  routerFailureSamples : Nat
  routerLastFailoverAttempt : Option Int
  executions : List Awaited
  history : List LoopMark
  deriving DecidableEq, Repr

inductive LoopEvent where
  | elapse (microseconds : Nat)
  | tick (attached : Bool)
  | checked (i : Nat) (outcome : CheckOutcome)
  | profiled (i : Nat) (arrived : Bool)
  | switched (i : Nat) (returned : Bool)
  deriving DecidableEq, Repr

namespace RouterLoop

def start (clock : Int) : RouterLoop where
  clock := clock
  routerFailoverEvaluating := false
  routerFailureSamples := 0
  routerLastFailoverAttempt := none
  executions := []
  history := []

/-- `const Duration(minutes: 5)`. -/
def fiveMinutes : Int := 300000000

def attemptDue (s : RouterLoop) : Bool :=
  match s.routerLastFailoverAttempt with
  | none => true
  | some last => !(s.clock - last < fiveMinutes)

def note (s : RouterLoop) (mark : LoopMark) : RouterLoop :=
  { s with history := s.history ++ [mark] }

/-- The finally block of an execution. -/
def leave (s : RouterLoop) (i : Nat) : RouterLoop :=
  { s with executions := s.executions.eraseIdx i, routerFailoverEvaluating := false }

def afterCheck (s : RouterLoop) (i : Nat) : CheckOutcome → RouterLoop
  | .healthy => ({ s with routerFailureSamples := 0 }.note .healthy).leave i
  | .failed => s.leave i
  | .unhealthy =>
      let counted := { s with routerFailureSamples := s.routerFailureSamples + 1 }.note .unhealthy
      if counted.routerFailureSamples < 3 then counted.leave i
      else if counted.attemptDue then
        { counted with
          routerLastFailoverAttempt := some counted.clock
          executions := counted.executions.set i .profile }.note (.passed counted.clock)
      else counted.leave i

/-- An execution after its switch. The counter is left as it is when the switch has raised. -/
def afterSwitch (s : RouterLoop) (i : Nat) (returned : Bool) : RouterLoop :=
  if returned then ({ s with routerFailureSamples := 0 }.note .switched).leave i else s.leave i

/-- One step; none for an event that cannot happen. A profile that has not arrived is left out of the
call. -/
def step (s : RouterLoop) : LoopEvent → Option RouterLoop
  | .elapse microseconds => some { s with clock := s.clock + microseconds }
  | .tick attached =>
      if !attached || s.routerFailoverEvaluating then some s
      else
        some { s with
          routerFailoverEvaluating := true
          executions := s.executions ++ [.check] }
  | .checked i outcome =>
      match s.executions[i]? with
      | some .check => some (s.afterCheck i outcome)
      | _ => none
  | .profiled i _ =>
      match s.executions[i]? with
      | some .profile =>
          some ({ s with executions := s.executions.set i .switch }.note .called)
      | _ => none
  | .switched i returned =>
      match s.executions[i]? with
      | some .switch => some (s.afterSwitch i returned)
      | _ => none

/-! ### The history grows -/

section History

variable {history : List LoopMark} {mark : LoopMark}

theorem unhealthySince_append (history : List LoopMark) (mark : LoopMark) :
    unhealthySince (history ++ [mark]) =
      if mark.resets then 0 else unhealthySince history + if mark = .unhealthy then 1 else 0 := by
  unfold unhealthySince
  rw [List.reverse_append, List.reverse_singleton, List.singleton_append, List.takeWhile_cons]
  cases mark <;> simp [LoopMark.resets]

theorem passes_append (history : List LoopMark) (mark : LoopMark) :
    passes (history ++ [mark]) = passes history ++ mark.passedAt?.toList := by
  unfold passes
  rw [List.filterMap_append]
  cases mark <;> rfl

theorem passes_append_of_resets (history : List LoopMark) (h : mark.resets = true) :
    passes (history ++ [mark]) = passes history := by
  rw [passes_append]
  cases mark <;> simp_all [LoopMark.resets, LoopMark.passedAt?]

/-- Every call has three unhealthy samples before it. -/
def Justified (history : List LoopMark) : Prop :=
  ∀ earlier later, history = earlier ++ .called :: later → 3 ≤ unhealthySince earlier

theorem Justified.append (h : Justified history)
    (hcall : mark = .called → 3 ≤ unhealthySince history) : Justified (history ++ [mark]) := by
  intro earlier later heq
  induction later using List.reverseRecOn with
  | nil =>
      obtain ⟨rfl, hmark⟩ := List.append_inj' heq rfl
      exact hcall (List.singleton_inj.mp hmark)
  | append_singleton later last _ =>
      have hsplit : history ++ [mark] = (earlier ++ .called :: later) ++ [last] := by
        rw [heq, List.append_assoc, List.cons_append]
      exact h earlier later (List.append_inj' hsplit rfl).1

end History

/-! ### What every step keeps -/

/-- The passes keep the distance, and the last attempt is the latest of them. -/
structure Paced (clock : Int) (last : Option Int) (passes : List Int) : Prop where
  past : ∀ instant ∈ passes, instant ≤ clock
  covered : Covered passes last.toList
  spaced : Spaced fiveMinutes passes

/-- There is an execution exactly while the flag is set, the counter counts the unhealthy samples, and an
execution that has passed the test had three of them. -/
structure Throttled (s : RouterLoop) : Prop where
  alone : s.executions.length = s.routerFailoverEvaluating.toNat
  samples : s.routerFailureSamples = unhealthySince s.history
  decided : ∀ awaited ∈ s.executions, awaited ≠ .check → 3 ≤ s.routerFailureSamples
  paced : Paced s.clock s.routerLastFailoverAttempt (passes s.history)
  justified : Justified s.history

variable {s t : RouterLoop} {i : Nat} {awaited : Awaited} {mark : LoopMark} {e : LoopEvent}

theorem throttled_start (clock : Int) : Throttled (start clock) where
  alone := rfl
  samples := rfl
  decided := nofun
  paced := ⟨nofun, nofun, List.Pairwise.nil⟩
  justified := by
    intro earlier later heq
    simp [start] at heq

theorem Throttled.only (h : Throttled s) (hi : s.executions[i]? = some awaited) :
    i = 0 ∧ s.executions = [awaited] ∧ s.routerFailoverEvaluating = true := by
  have hlt : i < s.executions.length := (List.getElem?_eq_some_iff.mp hi).1
  have halone := h.alone
  cases hbusy : s.routerFailoverEvaluating with
  | false =>
      rw [hbusy, Bool.toNat_false] at halone
      omega
  | true =>
      rw [hbusy, Bool.toNat_true] at halone
      have hzero : i = 0 := by omega
      obtain ⟨only, honly⟩ := List.length_eq_one_iff.mp halone
      rw [hzero, honly] at hi
      obtain rfl : only = awaited := Option.some.inj hi
      exact ⟨hzero, honly, rfl⟩

theorem Throttled.leave (h : Throttled s) (hi : s.executions[i]? = some awaited) :
    Throttled (s.leave i) := by
  obtain ⟨rfl, honly, -⟩ := h.only hi
  have hnone : (s.leave 0).executions = [] := by rw [RouterLoop.leave, honly]; rfl
  refine ⟨?_, h.samples, ?_, h.paced, h.justified⟩
  · rw [hnone]
    rfl
  · rw [hnone]
    nofun

/-- A healthy sample and a successful switch end their execution and start the count anew. -/
theorem Throttled.reset (h : Throttled s) (hi : s.executions[i]? = some awaited)
    (hmark : mark.resets = true) :
    Throttled (({ s with routerFailureSamples := 0 }.note mark).leave i) := by
  obtain ⟨rfl, honly, -⟩ := h.only hi
  have hpasses : passes (s.history ++ [mark]) = passes s.history := passes_append_of_resets _ hmark
  have hleft : (({ s with routerFailureSamples := 0 }.note mark).leave 0).executions = [] := by
    show s.executions.eraseIdx 0 = []
    rw [honly]
    rfl
  constructor
  · rw [hleft]
    rfl
  · show 0 = unhealthySince (s.history ++ [mark])
    rw [unhealthySince_append, if_pos hmark]
  · rw [hleft]
    nofun
  · show Paced s.clock s.routerLastFailoverAttempt (passes (s.history ++ [mark]))
    rw [hpasses]
    exact h.paced
  · apply h.justified.append
    rintro rfl
    cases hmark

theorem Throttled.count (h : Throttled s) :
    Throttled ({ s with routerFailureSamples := s.routerFailureSamples + 1 }.note .unhealthy) := by
  have hpasses : passes (s.history ++ [.unhealthy]) = passes s.history := by
    rw [passes_append]
    exact List.append_nil _
  constructor
  · exact h.alone
  · show s.routerFailureSamples + 1 = unhealthySince (s.history ++ [.unhealthy])
    rw [unhealthySince_append, h.samples]
    rfl
  · intro awaited hawaited hpassed
    exact Nat.le_succ_of_le (h.decided awaited hawaited hpassed)
  · show Paced s.clock s.routerLastFailoverAttempt (passes (s.history ++ [.unhealthy]))
    rw [hpasses]
    exact h.paced
  · exact h.justified.append nofun

theorem Paced.elapse {clock : Int} {last : Option Int} {passes : List Int} (h : Paced clock last passes)
    (microseconds : Nat) : Paced (clock + microseconds) last passes := by
  refine ⟨fun instant hinstant => ?_, h.covered, h.spaced⟩
  have hpast := h.past instant hinstant
  omega

theorem Paced.pass {history : List LoopMark} (h : Paced s.clock s.routerLastFailoverAttempt (passes history))
    (hdue : s.attemptDue = true) :
    Paced s.clock (some s.clock) (passes (history ++ [.passed s.clock])) := by
  have hmarks : ∀ last ∈ s.routerLastFailoverAttempt.toList, last + fiveMinutes ≤ s.clock := by
    intro last hlast
    rw [Option.mem_toList] at hlast
    rw [attemptDue, hlast] at hdue
    simp only [Bool.not_eq_true', decide_eq_false_iff_not, not_lt] at hdue
    omega
  have hpasses : passes (history ++ [.passed s.clock]) = passes history ++ [s.clock] :=
    passes_append history _
  have hpast : ∀ instant ∈ passes history ++ [s.clock], instant ≤ s.clock := by
    intro instant hinstant
    rcases List.mem_append.mp hinstant with hearlier | hnow
    · exact h.past instant hearlier
    · exact (List.mem_singleton.mp hnow).le
  rw [hpasses]
  exact ⟨hpast, covered_of_now hpast (by simp), h.spaced.append_now (h.covered.add_gap_le hmarks)⟩

theorem alone_set (h : Throttled s) (i : Nat) (awaited : Awaited) :
    (s.executions.set i awaited).length = s.routerFailoverEvaluating.toNat := by
  rw [List.length_set, h.alone]

theorem Throttled.pass (h : Throttled s) (i : Nat)
    (hsamples : 3 ≤ s.routerFailureSamples) (hdue : s.attemptDue = true) :
    Throttled ({ s with
      routerLastFailoverAttempt := some s.clock
      executions := s.executions.set i .profile }.note (.passed s.clock)) := by
  constructor
  · exact alone_set h i .profile
  · show s.routerFailureSamples = unhealthySince (s.history ++ [.passed s.clock])
    rw [unhealthySince_append, h.samples]
    rfl
  · exact fun _ _ _ => hsamples
  · exact h.paced.pass hdue
  · exact h.justified.append nofun

theorem Throttled.call (h : Throttled s) (hi : s.executions[i]? = some .profile) :
    Throttled ({ s with executions := s.executions.set i .switch }.note .called) := by
  have hsamples : 3 ≤ s.routerFailureSamples := by
    apply h.decided .profile (List.mem_of_getElem? hi)
    decide
  constructor
  · exact alone_set h i .switch
  · show s.routerFailureSamples = unhealthySince (s.history ++ [.called])
    rw [unhealthySince_append, h.samples]
    rfl
  · exact fun _ _ _ => hsamples
  · show Paced s.clock s.routerLastFailoverAttempt (passes (s.history ++ [.called]))
    rw [passes_append]
    simpa [LoopMark.passedAt?] using h.paced
  · apply h.justified.append
    intro _
    rw [← h.samples]
    exact hsamples

theorem Throttled.afterCheck (h : Throttled s) (hi : s.executions[i]? = some .check)
    (outcome : CheckOutcome) : Throttled (s.afterCheck i outcome) := by
  cases outcome with
  | healthy => exact h.reset hi rfl
  | failed => exact h.leave hi
  | unhealthy =>
      have hcounted := h.count
      rw [RouterLoop.afterCheck]
      split_ifs with hfew hdue
      · exact hcounted.leave hi
      · exact hcounted.pass i (by omega) hdue
      · exact hcounted.leave hi

/-- **Step.** -/
theorem Throttled.step (h : Throttled s) (hstep : s.step e = some t) : Throttled t := by
  cases e with
  | elapse microseconds =>
      cases hstep
      exact ⟨h.alone, h.samples, h.decided, h.paced.elapse microseconds, h.justified⟩
  | tick attached =>
      rw [RouterLoop.step] at hstep
      split_ifs at hstep with hturned
      · cases hstep
        exact h
      · cases hstep
        have hidle : s.routerFailoverEvaluating = false := by simp_all
        have hnone : s.executions = [] := by
          apply List.eq_nil_of_length_eq_zero
          rw [h.alone, hidle]
          rfl
        refine ⟨?_, h.samples, ?_, h.paced, h.justified⟩
        · simp [hnone]
        · simp [hnone]
  | checked i outcome =>
      rw [RouterLoop.step] at hstep
      split at hstep
      · next hi =>
          cases hstep
          exact h.afterCheck hi outcome
      · cases hstep
  | profiled i arrived =>
      rw [RouterLoop.step] at hstep
      split at hstep
      · next hi =>
          cases hstep
          exact h.call hi
      · cases hstep
  | switched i returned =>
      rw [RouterLoop.step] at hstep
      split at hstep
      · next hi =>
          cases hstep
          rw [afterSwitch]
          split
          · exact h.reset hi rfl
          · exact h.leave hi
      · cases hstep

theorem throttled_of_reaches {clock : Int}
    (h : Reaches step (fun _ _ => True) (start clock) s) : Throttled s :=
  h.invariant (fun _ _ _ hs _ hstep => hs.step hstep) (throttled_start clock)

/-- **Attempts are throttled and justified.** In every run the throttle test is passed at instants that
are five minutes apart, no two calls of `switchToStandbyTunnel` are under way at once, and every call has
three unhealthy samples since the latest healthy one or successful switch. -/
theorem attempts_throttled {clock : Int}
    (h : Reaches step (fun _ _ => True) (start clock) s) :
    Spaced fiveMinutes (passes s.history) ∧ s.executions.count .switch ≤ 1 ∧
      ∀ earlier later, s.history = earlier ++ .called :: later → 3 ≤ unhealthySince earlier := by
  have hs := throttled_of_reaches h
  refine ⟨hs.paced.spaced, ?_, hs.justified⟩
  calc s.executions.count .switch ≤ s.executions.length := List.count_le_length
    _ = s.routerFailoverEvaluating.toNat := hs.alone
    _ ≤ 1 := Bool.toNat_le _

/-- A tick and an unhealthy sample, with another tick in between. -/
def unhealthyTick : List LoopEvent :=
  [.elapse 15000000, .tick true, .elapse 15000000, .tick true, .checked 0 .unhealthy]

/-- The third sample leads to an attempt that fails. The samples go on, and the first of them that comes
five minutes later leads to another attempt. -/
def twoAttempts : List LoopEvent :=
  unhealthyTick ++ unhealthyTick ++ unhealthyTick ++ [.profiled 0 false, .switched 0 false] ++
    unhealthyTick ++ [.elapse 240000000] ++ unhealthyTick ++ [.profiled 0 true]

theorem twoAttempts_throttled :
    ∃ s, runEvents step (start 0) twoAttempts = some s ∧ passes s.history = [90000000, 390000000] ∧
      Spaced fiveMinutes (passes s.history) ∧ s.executions.count .switch ≤ 1 ∧
      ∀ earlier later, s.history = earlier ++ .called :: later → 3 ≤ unhealthySince earlier := by
  have hsummary : (runEvents step (start 0) twoAttempts).map (fun s => passes s.history) =
      some [90000000, 390000000] := by decide
  obtain ⟨s, hrun, hs⟩ := Option.map_eq_some_iff.mp hsummary
  exact ⟨s, hrun, hs, attempts_throttled
    (reaches_of_runEvents twoAttempts (allAllowed_of_forall (fun _ _ => trivial) _) hrun)⟩

end RouterLoop

/-! ### The dashboard on the router's session

`RouterWatch` runs the same function with the programs of the service in the place of their outcomes. Its
runs are runs of the loop, with a clock in milliseconds. -/

def Evaluation.awaited : Evaluation → List Awaited
  | idle => []
  | checking _ => [.check]
  | fetching => [.profile]
  | switching _ => [.switch]

namespace RouterWatch

open Keenetic

variable {access : KeeneticAccess} {net : Net} {s t : RouterWatch} {l : RouterLoop} {e : WatchEvent}

/-- The loop is where the dashboard is. -/
structure Follows (s : RouterWatch) (l : RouterLoop) : Prop where
  clock : l.clock = 1000 * s.clock
  evaluating : l.routerFailoverEvaluating = !s.evaluation.awaited.isEmpty
  samples : l.routerFailureSamples = s.routerFailureSamples
  attempt : l.routerLastFailoverAttempt = s.routerLastFailoverAttempt.map (1000 * ·)
  executions : l.executions = s.evaluation.awaited

theorem follows_start (clock : Int) (session : Session) :
    Follows (start clock session) (RouterLoop.start (1000 * clock)) := ⟨rfl, rfl, rfl, rfl, rfl⟩

theorem Follows.attemptDue (h : Follows s l) : l.attemptDue = s.attemptDue := by
  unfold RouterLoop.attemptDue RouterWatch.attemptDue
  rw [h.attempt, h.clock]
  cases s.routerLastFailoverAttempt with
  | none => rfl
  | some last =>
      rw [Option.map_some, Bool.eq_iff_iff]
      simp only [Bool.not_eq_true', decide_eq_false_iff_not, decide_eq_true_eq]
      unfold RouterLoop.fiveMinutes
      omega

theorem reaches_one {l' : RouterLoop} (e : LoopEvent) (h : l.step e = some l') :
    Reaches RouterLoop.step (fun _ _ => True) l l' := .single ⟨e, trivial, h⟩

/-- While the dashboard awaits something, the loop has this one execution. -/
theorem Follows.only (h : Follows s l) {awaited : Awaited} (hone : s.evaluation.awaited = [awaited]) :
    l.executions = [awaited] ∧ l.executions.eraseIdx 0 = [] ∧
      (∀ next, l.executions.set 0 next = [next]) ∧ l.routerFailoverEvaluating = true := by
  have hexecutions : l.executions = [awaited] := by rw [h.executions, hone]
  rw [hexecutions, h.evaluating, hone]
  exact ⟨rfl, rfl, fun _ => rfl, rfl⟩

def outcomeOf (status : TunnelStatus) : CheckOutcome :=
  if status.handshakeOk then .healthy else .unhealthy

theorem Follows.afterCheck (h : Follows s l) {rest : Rci TunnelStatus} (status : TunnelStatus)
    (hchecking : s.evaluation = .checking rest) :
    Follows (s.afterCheck status) (l.afterCheck 0 (outcomeOf status)) := by
  have hawaited : s.evaluation.awaited = [.check] := by rw [hchecking]; rfl
  obtain ⟨-, hleft, hset, hbusy⟩ := h.only hawaited
  unfold outcomeOf RouterWatch.afterCheck
  split
  · exact ⟨h.clock, rfl, rfl, h.attempt, hleft⟩
  · have hcounted : Follows { s with routerFailureSamples := s.routerFailureSamples + 1 }
        (RouterLoop.note { l with routerFailureSamples := l.routerFailureSamples + 1 } .unhealthy) :=
      ⟨h.clock, h.evaluating, congrArg (· + 1) h.samples, h.attempt, h.executions⟩
    rw [RouterLoop.afterCheck]
    simp only [hcounted.samples, hcounted.attemptDue]
    split_ifs
    · exact ⟨hcounted.clock, rfl, hcounted.samples, hcounted.attempt, hleft⟩
    · exact ⟨hcounted.clock, hbusy, rfl, congrArg some hcounted.clock, hset .profile⟩
    · exact ⟨hcounted.clock, rfl, hcounted.samples, hcounted.attempt, hleft⟩

/-- An answer within a check or a switch is none to the loop. -/
theorem Follows.answered (h : Follows s l) {rest : Rci TunnelStatus}
    {goOn : Rci TunnelStatus → Evaluation} (hgoOn : ∀ rest', (goOn rest').awaited = s.evaluation.awaited)
    (hanswered : s.evaluationAnswered net rest goOn = some t) : Follows t l := by
  rw [evaluationAnswered] at hanswered
  split at hanswered
  · cases hanswered
    refine ⟨h.clock, ?_, h.samples, h.attempt, ?_⟩
    · rw [h.evaluating, hgoOn]
    · rw [h.executions, hgoOn]
  · cases hanswered

/-- **Step.** -/
theorem Follows.step (h : Follows s l) (hstep : s.step access net e = some t) :
    ∃ l', Reaches RouterLoop.step (fun _ _ => True) l l' ∧ Follows t l' := by
  cases e with
  | elapse milliseconds =>
      cases hstep
      refine ⟨_, reaches_one (.elapse (1000 * milliseconds)) rfl, ⟨?_, h.evaluating, h.samples, h.attempt,
        h.executions⟩⟩
      show l.clock + ↑(1000 * milliseconds) = 1000 * (s.clock + ↑milliseconds)
      rw [h.clock]
      omega
  | tick =>
      simp only [RouterWatch.step] at hstep
      split at hstep
      · next hidle =>
          cases hstep
          have hnone : l.executions = [] := by rw [h.executions, hidle]; rfl
          have hfree : l.routerFailoverEvaluating = false := by rw [h.evaluating, hidle]; rfl
          refine ⟨_, reaches_one (.tick true) (if_neg (by rw [hfree]; decide)), ⟨h.clock, rfl, h.samples,
            h.attempt, ?_⟩⟩
          show l.executions ++ [.check] = [.check]
          rw [hnone]
          rfl
      · cases hstep
        exact ⟨l, .refl, h⟩
  | evaluationAnswered =>
      simp only [RouterWatch.step] at hstep
      split at hstep
      · next rest hchecking => exact ⟨l, .refl, h.answered (fun _ => by rw [hchecking]; rfl) hstep⟩
      · next rest hswitching => exact ⟨l, .refl, h.answered (fun _ => by rw [hswitching]; rfl) hstep⟩
      · cases hstep
      · cases hstep
  | checked =>
      simp only [RouterWatch.step] at hstep
      split at hstep
      · next status hchecking =>
          cases hstep
          have hawaited : s.evaluation.awaited = [.check] := by rw [hchecking]; rfl
          obtain ⟨hone, -⟩ := h.only hawaited
          refine ⟨_, reaches_one (.checked 0 (outcomeOf status)) ?_, h.afterCheck status hchecking⟩
          rw [RouterLoop.step, hone]
          rfl
      · next error hchecking =>
          cases hstep
          have hawaited : s.evaluation.awaited = [.check] := by rw [hchecking]; rfl
          obtain ⟨hone, hleft, -⟩ := h.only hawaited
          refine ⟨l.leave 0, reaches_one (.checked 0 .failed) ?_, ⟨h.clock, rfl, h.samples, h.attempt, hleft⟩⟩
          rw [RouterLoop.step, hone]
          rfl
      · cases hstep
  | profiled routing profile =>
      simp only [RouterWatch.step] at hstep
      split at hstep
      · next hfetching =>
          cases hstep
          have hawaited : s.evaluation.awaited = [.profile] := by rw [hfetching]; rfl
          obtain ⟨hone, -, hset, hbusy⟩ := h.only hawaited
          refine ⟨{ l with executions := l.executions.set 0 .switch }.note .called,
            reaches_one (.profiled 0 profile.isSome) ?_,
            ⟨h.clock, hbusy, h.samples, h.attempt, hset .switch⟩⟩
          rw [RouterLoop.step, hone]
          rfl
      · cases hstep
  | switched =>
      simp only [RouterWatch.step] at hstep
      split at hstep
      · next status hswitching =>
          cases hstep
          have hawaited : s.evaluation.awaited = [.switch] := by rw [hswitching]; rfl
          obtain ⟨hone, hleft, -⟩ := h.only hawaited
          refine ⟨l.afterSwitch 0 true, reaches_one (.switched 0 true) ?_,
            ⟨h.clock, rfl, rfl, h.attempt, hleft⟩⟩
          rw [RouterLoop.step, hone]
          rfl
      · next error hswitching =>
          cases hstep
          have hawaited : s.evaluation.awaited = [.switch] := by rw [hswitching]; rfl
          obtain ⟨hone, hleft, -⟩ := h.only hawaited
          refine ⟨l.afterSwitch 0 false, reaches_one (.switched 0 false) ?_,
            ⟨h.clock, rfl, h.samples, h.attempt, hleft⟩⟩
          rw [RouterLoop.step, hone]
          rfl
      · cases hstep
  | press action =>
      cases hstep
      exact ⟨l, .refl, ⟨h.clock, h.evaluating, h.samples, h.attempt, h.executions⟩⟩
  | actionAnswered i =>
      simp only [RouterWatch.step] at hstep
      split at hstep
      · split at hstep
        · cases hstep
          exact ⟨l, .refl, ⟨h.clock, h.evaluating, h.samples, h.attempt, h.executions⟩⟩
        · cases hstep
      · cases hstep
  | actionEnds i =>
      simp only [RouterWatch.step] at hstep
      split at hstep
      · cases hstep
        exact ⟨l, .refl, ⟨h.clock, h.evaluating, h.samples, h.attempt, h.executions⟩⟩
      · cases hstep
        exact ⟨l, .refl, ⟨h.clock, h.evaluating, h.samples, h.attempt, h.executions⟩⟩
      · cases hstep

/-- Whatever the user does and the router answers, the dashboard switches only after three samples without
a handshake. -/
theorem samples_of_switching {clock : Int} {session : Session} {allowed : RouterWatch → WatchEvent → Prop}
    {rest : Rci TunnelStatus} (h : Reaches (step access net) allowed (start clock session) s)
    (hswitching : s.evaluation = .switching rest) : 3 ≤ s.routerFailureSamples := by
  obtain ⟨l, hreached, hfollows⟩ := h.simulated
    (fun _ _ _ _ hfollows _ hstep => hfollows.step hstep) (follows_start clock session)
  have hmember : .switch ∈ l.executions := by
    rw [hfollows.executions, hswitching]
    exact List.mem_singleton_self _
  have hdecided := (RouterLoop.throttled_of_reaches hreached).decided .switch hmember
  rw [hfollows.samples] at hdecided
  exact hdecided (by decide)

end RouterWatch

end App
