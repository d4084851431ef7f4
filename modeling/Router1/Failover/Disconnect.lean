import Router1.Failover.Phone
import Router1.Remote.Runs

/-!
# The last word of the user

What a call asks for is done later: a `connect` without the permission waits for the answer of the system, and
then, like every call, for the executor of its activity, which takes its tasks in the order they were given. A
disconnect may be called and carried out in the meantime. `Handset` keeps the calls that are under way beside the
phone that carries them out.

Two things are only watched. `off` says that a disconnect was carried out and nothing that was asked for after it
has raised the tunnel; `overruled` says that the tunnel has become up, all the same, while it was off.
-/

namespace Failover

open Remote

/-- A `connect` that waits for the permission: `pendingConfig` and `pendingServerCode` of its activity. `asked` is
the number of disconnects that were called before it. -/
structure PendingConnect where
  activity : Nat
  configText : String
  serverCode : String
  asked : Nat
  deriving DecidableEq, Repr

/-- What is left to do for a call. A disconnect calls `setState` and then stores the flag. -/
inductive Task where
  | connect (configText serverCode : String)
  | disconnect
  | storeDisconnect
  deriving DecidableEq, Repr

/-- A call in an executor. -/
structure Request where
  activity : Nat
  task : Task
  asked : Nat
  deriving DecidableEq, Repr

def Request.isConnect (r : Request) : Bool :=
  match r.task with
  | .connect _ _ => true
  | _ => false

/-- `pending` has the connects that wait for the permission, `tasks` what the executors were given. `disconnects`
counts the calls, and `ended` is the latest one that was carried out. -/
structure Handset (Config : Type) where
  phone : Phone Config
  pending : List PendingConnect
  tasks : List Request
  disconnects : Nat
  ended : Nat
  off : Bool
  overruled : Bool

inductive HandsetEvent where
  | connect (activity : Nat) (configText serverCode : String) (permitted : Bool)
  | answered (activity : Nat) (granted permitted : Bool)
  | disconnect (activity : Nat)
  | runs (i : Nat) (outcome : Outcome)
  | phone (e : PhoneEvent)

namespace Handset

variable {Config : Type} (parse : String → Option Config)

/-- A phone on which nothing runs. -/
def start (clock : Int) (enabled : Bool) (stored : Option String) : Handset Config where
  phone := .start clock enabled stored
  pending := []
  tasks := []
  disconnects := 0
  ended := 0
  off := false
  overruled := false

/-- `connect` of the activity: the call takes the place of an earlier one that waits for the permission, or goes to
the executor. -/
def ask (s : Handset Config) (call : PendingConnect) (permitted : Bool) : Handset Config :=
  if permitted then
    { s with tasks := s.tasks ++ [⟨call.activity, .connect call.configText call.serverCode, call.asked⟩] }
  else { s with pending := s.pending.filter (fun other => other.activity != call.activity) ++ [call] }

/-- The phone takes a step; `current` tells whether the step was asked for after the last disconnect. -/
def advance (s : Handset Config) (e : PhoneEvent) (current : Bool) : Option (Handset Config) :=
  (s.phone.step parse e).map fun phone =>
    let off := s.off && !(current && (s.phone.raised parse e).isSome)
    { s with
      phone := phone
      off := off
      overruled :=
        s.overruled || (off && s.phone.currentTunnel.isNone && phone.currentTunnel.isSome) }

/-- The task, if it is the first one of its executor. -/
def firstTask (s : Handset Config) (i : Nat) : Option Request :=
  s.tasks[i]?.filter fun r => (s.tasks.take i).all fun other => other.activity != r.activity

/-- One step; none for an event that cannot happen. -/
def step (s : Handset Config) : HandsetEvent → Option (Handset Config)
  | .connect activity configText serverCode permitted =>
      if activity < s.phone.activities then
        some (if isBlank configText then s
          else s.ask ⟨activity, configText, serverCode, s.disconnects⟩ permitted)
      else none
  -- the answer of the system; `granted` also says that somebody still waits for the result of the call
  | .answered activity granted permitted =>
      match s.pending.find? fun call => call.activity == activity with
      | some call =>
          let left := { s with pending := s.pending.filter fun other => other.activity != activity }
          some (if granted then left.ask call permitted else left)
      | none => none
  | .disconnect activity =>
      if activity < s.phone.activities then
        some { s with
          tasks := s.tasks ++ [⟨activity, .disconnect, s.disconnects⟩]
          disconnects := s.disconnects + 1 }
      else none
  | .runs i outcome =>
      match s.firstTask i with
      | some ⟨activity, .connect configText serverCode, asked⟩ =>
          advance parse { s with tasks := s.tasks.eraseIdx i }
            (.connect activity configText serverCode outcome) (s.ended ≤ asked)
      | some ⟨activity, .disconnect, asked⟩ =>
          advance parse { s with tasks := s.tasks.set i ⟨activity, .storeDisconnect, asked⟩ }
            (.disconnect activity) false
      | some ⟨_, .storeDisconnect, asked⟩ =>
          (advance parse { s with tasks := s.tasks.eraseIdx i, ended := max s.ended (asked + 1) }
            .disconnectEnds false).map fun t => { t with off := true }
      | none => none
  | .phone e =>
      match e with
      | .connect _ _ _ _ | .disconnect _ | .disconnectEnds => none
      | .processDies => advance parse { s with pending := [], tasks := [] } .processDies false
      | .restore i outcome => advance parse s (.restore i outcome) (s.phone.restores[i]?.any Restore.current)
      | e => advance parse s e false

/-- A disconnect has been carried out when the tunnel is down and nothing is left to act that was decided or asked
for before: no failover thread whose `setState` is to come, no status job with a tunnel it has read, no restore,
and no connect that was called before the disconnect. -/
def calm (s : Handset Config) : HandsetEvent → Bool
  | .runs i _ =>
      match s.tasks[i]? with
      | some ⟨_, .storeDisconnect, asked⟩ =>
          s.phone.currentTunnel.isNone && s.phone.failover.all FailoverThread.done &&
            s.phone.scheduling.all Option.isNone && s.phone.restores.isEmpty &&
            (s.pending.all fun call => asked < call.asked) &&
            s.tasks.all fun r => !r.isConnect || asked < r.asked
      | _ => true
  | _ => true

/-! ### Nothing is left to act -/

/-- The tunnel is down, and no job and no thread can raise it. -/
structure Silent (s : Phone Config) : Prop where
  down : s.currentTunnel = none
  failover : ∀ thread, s.failover = some thread → thread.done = true
  scheduling : ∀ tunnel ∈ s.scheduling, tunnel = none

/-- Nobody has asked for the event: it is neither a task of a call nor a restore. -/
def unasked : PhoneEvent → Bool
  | .connect _ _ _ _ | .disconnect _ | .disconnectEnds | .restore _ _ => false
  | _ => true

section Runs

variable {parse} {s t : Handset Config} {p q : Phone Config} {e : PhoneEvent} {current : Bool}

theorem Silent.step (h : Silent p) (hraised : p.raised parse e = none) (hstep : p.step parse e = some q) :
    Silent q := by
  obtain ⟨hscheduling, hthreads⟩ := Phone.threads_of_down h.down h.scheduling hstep
  refine ⟨?_, fun thread hthread => ?_, hscheduling⟩
  · rcases (Phone.step_of_not_raised hraised hstep).tunnel with ⟨hkept, -⟩ | ⟨hlowered, -⟩
    · exact hkept.trans h.down
    · exact hlowered
  · rcases hthreads thread hthread with hsame | ⟨before, hbefore, hrunning⟩
    · exact h.failover thread hsame
    · rw [h.failover before hbefore] at hrunning
      cases hrunning

/-- In the silence only a connect and a restore can raise the tunnel. -/
theorem Silent.raised_eq_none (h : Silent p) (hunasked : unasked e = true) : p.raised parse e = none := by
  cases e with
  | connect | restore => cases hunasked
  | failoverRuns outcome =>
      cases outcome with
      | up =>
          simp only [Phone.raised]
          split
          · next hthread => cases h.failover _ hthread
          · rfl
      | restored | lost => rfl
  | elapse | configureFailover | sample | readTunnel | schedule | failoverRecords | connectEnds | disconnect
  | disconnectEnds | activityStarts | serviceDestroyed | processDies => rfl

theorem restores_current (hcurrent : ∀ r ∈ p.restores, r.current = true) (he : e ≠ .disconnectEnds)
    (hstep : p.step parse e = some q) : ∀ r ∈ q.restores, r.current = true := by
  cases hraised : p.raised parse e with
  | some raise =>
      obtain ⟨after, hafter, hraise⟩ := Phone.step_of_raised hraised
      obtain rfl : after = q := Option.some.inj (hafter.symm.trans hstep)
      rw [hraise.restores]
      cases e with
      | restore i outcome => exact fun r hr => hcurrent r (List.mem_of_mem_eraseIdx hr)
      | _ => exact hcurrent
  | none =>
      by_cases hstarts : ∃ permitted, e = .activityStarts permitted
      · obtain ⟨permitted, rfl⟩ := hstarts
        cases hstep
        intro r hr
        dsimp only at hr
        split at hr
        · rcases List.mem_append.mp hr with hold | hnew
          · exact hcurrent r hold
          · rw [List.mem_singleton.mp hnew]
        · exact hcurrent r hr
      · intro r hr
        obtain ⟨before, hbefore, hsame⟩ := (Phone.step_of_not_raised hraised hstep).restores
          (fun permitted heq => hstarts ⟨permitted, heq⟩) r hr
        rw [← hsame he]
        exact hcurrent _ hbefore

/-- The connects on their way were all called after the disconnects that were carried out, and while the tunnel is
off nothing is left to act. -/
structure Obeyed (s : Handset Config) : Prop where
  overruled : s.overruled = false
  ended : s.ended ≤ s.disconnects
  numbered : ∀ r ∈ s.tasks, r.isConnect = false → r.asked < s.disconnects
  pending : ∀ call ∈ s.pending, s.ended ≤ call.asked
  connects : ∀ r ∈ s.tasks, r.isConnect = true → s.ended ≤ r.asked
  restores : ∀ r ∈ s.phone.restores, r.current = true
  silent : s.off = true → Silent s.phone

/-- **The phone takes a step.** What raises the tunnel while it is off is asked for after the last disconnect. -/
theorem Obeyed.advance (h : Obeyed s) (hadvance : s.advance parse e current = some t) (hends : e ≠ .disconnectEnds)
    (hasked : s.off = true → (s.phone.raised parse e).isSome = true → current = true) : Obeyed t := by
  obtain ⟨phone, hstep, rfl⟩ := Option.map_eq_some_iff.mp hadvance
  have hsilent : (s.off && !(current && (s.phone.raised parse e).isSome)) = true → Silent phone := by
    intro hoff
    rw [Bool.and_eq_true, Bool.not_eq_true', Bool.and_eq_false_iff] at hoff
    refine (h.silent hoff.1).step ?_ hstep
    cases hraised : s.phone.raised parse e with
    | none => rfl
    | some raise =>
        rw [hraised] at hoff hasked
        rw [hasked hoff.1 rfl] at hoff
        rcases hoff.2 with hfalse | hfalse <;> cases hfalse
  refine ⟨?_, h.ended, h.numbered, h.pending, h.connects, restores_current h.restores hends hstep, hsilent⟩
  dsimp only
  rw [h.overruled, Bool.false_or]
  cases hoff : s.off && !(current && (s.phone.raised parse e).isSome) with
  | false => rfl
  | true => rw [(hsilent hoff).down, Option.isSome_none, Bool.and_false]

theorem Obeyed.ends (h : Obeyed s) {asked : Nat} (hasked : asked < s.disconnects) (hsilent : Silent s.phone)
    (hrestores : s.phone.restores = []) (hpending : ∀ call ∈ s.pending, asked < call.asked)
    (hconnects : ∀ r ∈ s.tasks, r.isConnect = true → asked < r.asked)
    (hadvance : Handset.advance parse { s with ended := max s.ended (asked + 1) } .disconnectEnds false = some t) :
    Obeyed { t with off := true } := by
  obtain ⟨phone, hstep, rfl⟩ := Option.map_eq_some_iff.mp hadvance
  have hafter : Silent phone := hsilent.step rfl hstep
  have hlater : ∀ n, s.ended ≤ n → asked < n → max s.ended (asked + 1) ≤ n := fun n hbefore hthis => by omega
  refine ⟨?_, hlater _ h.ended hasked, h.numbered, fun call hcall => ?_, fun r hr hconnect => ?_, fun r hr => ?_,
    fun _ => hafter⟩
  · dsimp only
    rw [h.overruled, hafter.down, Option.isSome_none, Bool.and_false, Bool.or_false]
  · exact hlater _ (h.pending call hcall) (hpending call hcall)
  · exact hlater _ (h.connects r hr hconnect) (hconnects r hr hconnect)
  · obtain ⟨current, hbefore, -⟩ := (Phone.step_of_not_raised rfl hstep).restores nofun r hr
    rw [hrestores] at hbefore
    cases hbefore

/-- A task keeps its place among the calls. -/
def Placed (s : Handset Config) (r : Request) : Prop :=
  (r.isConnect = true → s.ended ≤ r.asked) ∧ (r.isConnect = false → r.asked < s.disconnects)

theorem Obeyed.placed (h : Obeyed s) {r : Request} (hr : r ∈ s.tasks) : s.Placed r :=
  ⟨h.connects r hr, h.numbered r hr⟩

theorem Obeyed.withCalls (h : Obeyed s) {pending : List PendingConnect} {tasks : List Request}
    (hpending : ∀ call ∈ pending, s.ended ≤ call.asked) (htasks : ∀ r ∈ tasks, s.Placed r) :
    Obeyed { s with pending := pending, tasks := tasks } :=
  { h with
    numbered := fun r hr => (htasks r hr).2
    pending := hpending
    connects := fun r hr => (htasks r hr).1 }

theorem Obeyed.ask (h : Obeyed s) {call : PendingConnect} (hasked : s.ended ≤ call.asked) (permitted : Bool) :
    Obeyed (s.ask call permitted) := by
  rw [Handset.ask]
  split
  · refine h.withCalls h.pending fun r hr => ?_
    rcases List.mem_append.mp hr with hr | hr
    · exact h.placed hr
    · rw [List.mem_singleton.mp hr]
      exact ⟨fun _ => hasked, nofun⟩
  · refine h.withCalls (fun other hother => ?_) fun r hr => h.placed hr
    rcases List.mem_append.mp hother with hother | hother
    · exact h.pending other (List.mem_of_mem_filter hother)
    · rw [List.mem_singleton.mp hother]
      exact hasked

theorem mem_of_firstTask {i : Nat} {r : Request} (h : s.firstTask i = some r) :
    s.tasks[i]? = some r ∧ r ∈ s.tasks := by
  have htask : s.tasks[i]? = some r := (Option.filter_eq_some_iff.mp h).1
  exact ⟨htask, List.mem_of_getElem? htask⟩

theorem Obeyed.without (h : Obeyed s) (i : Nat) : Obeyed { s with tasks := s.tasks.eraseIdx i } :=
  h.withCalls h.pending fun _ hr => h.placed (List.mem_of_mem_eraseIdx hr)

theorem Obeyed.runs (h : Obeyed s) {i : Nat} {outcome : Outcome} (hcalm : s.calm (.runs i outcome) = true)
    (hstep : s.step parse (.runs i outcome) = some t) : Obeyed t := by
  simp only [Handset.step] at hstep
  split at hstep
  · next activity configText serverCode asked hfirst =>
      have hlater : s.ended ≤ asked := (h.placed (mem_of_firstTask hfirst).2).1 rfl
      exact (h.without i).advance hstep nofun fun _ _ => decide_eq_true hlater
  · next activity asked hfirst =>
      have hplaced : s.Placed ⟨activity, .storeDisconnect, asked⟩ :=
        ⟨nofun, fun _ => (h.placed (mem_of_firstTask hfirst).2).2 rfl⟩
      have hset : Obeyed { s with tasks := s.tasks.set i ⟨activity, .storeDisconnect, asked⟩ } := by
        refine h.withCalls h.pending fun r hr => ?_
        rcases List.mem_or_eq_of_mem_set hr with hr | rfl
        · exact h.placed hr
        · exact hplaced
      exact hset.advance hstep nofun fun _ hraised => nomatch hraised
  · next activity asked hfirst =>
      obtain ⟨htask, hmem⟩ := mem_of_firstTask hfirst
      obtain ⟨after, hadvance, rfl⟩ := Option.map_eq_some_iff.mp hstep
      simp only [calm, htask, Bool.and_eq_true, Option.isNone_iff_eq_none, List.isEmpty_iff, List.all_eq_true,
        Bool.or_eq_true, Bool.not_eq_true', decide_eq_true_eq, Option.all_eq_true] at hcalm
      obtain ⟨⟨⟨⟨⟨hdown, hfailover⟩, hscheduling⟩, hrestores⟩, hpending⟩, hconnects⟩ := hcalm
      refine (h.without i).ends ((h.placed hmem).2 rfl) ⟨hdown, hfailover, hscheduling⟩ hrestores hpending
        (fun r hr hconnect => ?_) hadvance
      rcases hconnects r (List.mem_of_mem_eraseIdx hr) with hnot | hlater
      · rw [hconnect] at hnot
        cases hnot
      · exact hlater
  · cases hstep

theorem Obeyed.phone (h : Obeyed s) (hstep : s.step parse (.phone e) = some t) : Obeyed t := by
  have hquiet : unasked e = true → s.advance parse e false = some t → Obeyed t := by
    intro hunasked hadvance
    have hends : e ≠ .disconnectEnds := by
      rintro rfl
      cases hunasked
    refine h.advance hadvance hends fun hoff hraised => ?_
    rw [(h.silent hoff).raised_eq_none hunasked] at hraised
    cases hraised
  cases e with
  | connect | disconnect | disconnectEnds => cases hstep
  | processDies =>
      have hdead : Obeyed { s with pending := [], tasks := [] } :=
        h.withCalls (List.forall_mem_nil _) (List.forall_mem_nil _)
      exact hdead.advance hstep nofun fun _ hraised => nomatch hraised
  | restore i outcome =>
      refine h.advance hstep nofun fun _ hraised => ?_
      cases hr : s.phone.restores[i]? with
      | none =>
          cases outcome with
          | up => simp [Phone.raised, hr] at hraised
          | restored | lost => cases hraised
      | some r => exact h.restores r (List.mem_of_getElem? hr)
  | elapse | configureFailover | sample | readTunnel | schedule | failoverRuns | failoverRecords | connectEnds
  | activityStarts | serviceDestroyed => exact hquiet rfl hstep

/-- **Step.** -/
theorem Obeyed.step {event : HandsetEvent} (h : Obeyed s) (hcalm : s.calm event = true)
    (hstep : s.step parse event = some t) : Obeyed t := by
  cases event with
  | connect activity configText serverCode permitted =>
      simp only [Handset.step] at hstep
      split at hstep
      · cases hstep
        split
        · exact h
        · exact h.ask h.ended permitted
      · cases hstep
  | answered activity granted permitted =>
      simp only [Handset.step] at hstep
      split at hstep
      · next call hcall =>
          cases hstep
          have hleft : Obeyed { s with pending := s.pending.filter fun other => other.activity != activity } :=
            h.withCalls (fun other hother => h.pending other (List.mem_of_mem_filter hother)) fun r hr => h.placed hr
          split
          · exact hleft.ask (h.pending call (List.mem_of_find?_eq_some hcall)) permitted
          · exact hleft
      · cases hstep
  | disconnect activity =>
      simp only [Handset.step] at hstep
      split at hstep
      · cases hstep
        refine { h with ended := Nat.le_succ_of_le h.ended, numbered := ?_, connects := ?_ }
        · intro r hr hnot
          rcases List.mem_append.mp hr with hr | hr
          · exact Nat.lt_succ_of_lt (h.numbered r hr hnot)
          · rw [List.mem_singleton.mp hr]
            exact Nat.lt_succ_self _
        · intro r hr hconnect
          rcases List.mem_append.mp hr with hr | hr
          · exact h.connects r hr hconnect
          · rw [List.mem_singleton.mp hr] at hconnect
            cases hconnect
      · cases hstep
  | runs i outcome => exact h.runs hcalm hstep
  | phone e => exact h.phone hstep

/-- **The disconnect is final.** In every run whose disconnects are carried out when nothing is left to act, the
tunnel does not become up again before it is asked for. -/
theorem not_overruled {clock : Int} {enabled : Bool} {stored : Option String}
    (h : Reaches (step parse) (fun s e => s.calm e = true) (start clock enabled stored) s) :
    s.overruled = false := by
  have hobeyed : Obeyed s := by
    refine h.invariant ?_
      ⟨rfl, Nat.le_refl _, List.forall_mem_nil _, List.forall_mem_nil _, List.forall_mem_nil _,
        List.forall_mem_nil _, nofun⟩
    intro s e t hs hcalm hstep
    exact hs.step hcalm hstep
  exact hobeyed.overruled

end Runs

/-! ### Two runs -/

/-- The app starts, and the user connects to the first of two servers, with every text taken for its config. -/
def connectedOnce : List HandsetEvent :=
  [.phone (.activityStarts true),
    .phone (.configureFailover "fr" "fr" [Android.fr, Android.nl2] ⟨3, 180, 300, 5⟩),
    .connect 0 Android.fr.configText "fr" true, .runs 0 .up, .phone (.connectEnds 0)]

/-- The user disconnects, and the executor carries it out. -/
def disconnected : List HandsetEvent := [.disconnect 0, .runs 0 .up, .runs 0 .up]

def newHandset : Handset String := start 1700000000000 false none

/-- The failover has switched before the user disconnects, and a last sample comes after it. -/
def afterFailover : List HandsetEvent :=
  connectedOnce ++ Phone.outage.map .phone ++ [.phone (.failoverRuns .up), .phone .failoverRecords] ++ disconnected ++
    [.phone (.sample 1 false), .phone (.elapse 600000)]

theorem afterFailover_not_overruled :
    ∃ s, runEvents (step some) newHandset afterFailover = some s ∧ s.off = true ∧
      s.phone.currentTunnel = none ∧ s.overruled = false := by
  have hsummary : (runEvents (step some) newHandset afterFailover).map
      (fun s => (s.off, s.phone.currentTunnel)) = some (true, none) := by
    decide +kernel
  obtain ⟨s, hrun, hs⟩ := Option.map_eq_some_iff.mp hsummary
  have hcalm : AllAllowed (step some) (fun s e => s.calm e = true) newHandset afterFailover := by
    decide +kernel
  rw [Prod.mk.injEq] at hs
  exact ⟨s, hrun, hs.1, hs.2, not_overruled (reaches_of_runEvents afterFailover hcalm hrun)⟩

/-- The user disconnects after the failover thread was started and before its `setState`. -/
def duringFailover : List HandsetEvent :=
  connectedOnce ++ Phone.outage.map .phone ++ disconnected ++ [.phone (.failoverRuns .up)]

/-- The tunnel is up again, and nobody has asked for it. -/
theorem failover_overrules_disconnect :
    ¬∀ (clock : Int) (enabled : Bool) (stored : Option String) (s : Handset String),
      Reaches (step some) (fun _ _ => True) (start clock enabled stored) s → s.overruled = false := by
  intro hclaim
  have hsummary : (runEvents (step some) newHandset duringFailover).map
      (fun s => (s.off, s.phone.currentTunnel, s.overruled)) = some (true, some 0, true) := by
    decide +kernel
  obtain ⟨s, hrun, hs⟩ := Option.map_eq_some_iff.mp hsummary
  simp only [Prod.mk.injEq] at hs
  have hreached : Reaches (step some) (fun _ _ => True) newHandset s :=
    reaches_of_runEvents duringFailover (allAllowed_of_forall (fun _ _ => trivial) _) hrun
  have hkept : s.overruled = false := hclaim _ _ _ s hreached
  rw [hs.2.2] at hkept
  cases hkept

/-- The permission is given after a disconnect that was called later than the connect. -/
example : (runEvents (step some) newHandset
      ([.phone (.activityStarts false), .connect 0 Android.fr.configText "fr" false] ++ disconnected ++
        [.answered 0 true true, .runs 0 .up])).map
    (fun s => (s.phone.currentTunnel, s.overruled)) = some (some 0, true) := by
  decide +kernel

end Handset

end Failover
