import Router1.Keenetic.Routing
import Router1.Remote.Runs

/-!
# The progress page

`RouterSetupProgressPage.run` installs the config, waits for the handshake, applies the routing and
prepares the standby tunnel, with a call of the service or of the server awaited at each of these. The
page starts it once when it opens and again on every tap of its button, and its first line is to keep a
second execution out while one is under way: it returns when the page was started, shows no error and has
no tunnel status. What the page was opened with stays the same while it is shown.

An execution that waits is listed with the call it waits for. An event is a tap, or the end of one of the
awaited calls, and these end in any order.
-/

namespace App

open Keenetic Remote

/-- What an execution of `run` waits for: one of its calls, or, after one of them has thrown, the report
of the error. -/
inductive Waiting where
  | importAwgConfig
  | createAwgConnection
  | startAndCheckTunnel
  | routerRouteProfile
  | applyRoutingProfile
  | prepareStandby
  | sendRouterDiagnostics
  | reportError (message : String)
  deriving DecidableEq, Repr

/-- How an awaited call ends. -/
inductive Ending where
  | returned
  | checked (status : TunnelStatus)
  | threw (message : String)

structure ProgressPage where
  ready : Bool
  routingProfile : RouterRoutingProfile
  started : Bool
  imported : Bool
  created : Bool
  startedTunnel : Bool
  routingApplied : Bool
  tunnel : Option TunnelStatus
  error : Option String
  running : List Waiting

inductive ProgressEvent where
  | tap
  | ends (i : Nat) (ending : Ending)

namespace ProgressPage

/-- The fields as they are declared. `ready` says that the page has an access, a config and a paid
order. -/
def declared (ready : Bool) (routingProfile : RouterRoutingProfile) : ProgressPage where
  ready := ready
  routingProfile := routingProfile
  started := false
  imported := false
  created := false
  startedTunnel := false
  routingApplied := false
  tunnel := none
  error := none
  running := []

/-- The tunnel has a confirmed handshake. -/
def confirmed (p : ProgressPage) : Bool :=
  match p.tunnel with
  | some status => status.handshakeOk
  | none => false

def done (p : ProgressPage) : Bool := p.confirmed && p.routingApplied

/-- `run` up to its first await. -/
def run (p : ProgressPage) : ProgressPage :=
  if p.started && p.error.isNone && p.tunnel.isNone then p
  else
    let cleared := { p with
      started := true
      error := none
      imported := false
      created := false
      startedTunnel := false
      routingApplied := false
      tunnel := none }
    if p.ready then { cleared with running := cleared.running ++ [.importAwgConfig] }
    else
      { cleared with
        error := some "Не хватает данных для настройки: проверьте оплату, доступ и AWG-конфиг." }

def opened (ready : Bool) (routingProfile : RouterRoutingProfile) : ProgressPage :=
  (declared ready routingProfile).run

/-- What an execution does between two awaits: the fields it writes, and what it waits for next. An
exception of one of the first calls and of the routing ends in the report of the error; the other calls
are made in a way that no exception gets out of them. -/
def resume (p : ProgressPage) : Waiting → Ending → Option (ProgressPage × Option Waiting)
  | .importAwgConfig, .returned => some ({ p with imported := true }, some .createAwgConnection)
  | .createAwgConnection, .returned => some ({ p with created := true }, some .startAndCheckTunnel)
  | .startAndCheckTunnel, .checked status =>
      some ({ p with startedTunnel := status.active, tunnel := some status },
        if status.handshakeOk then
          if p.routingProfile = .selective then some .routerRouteProfile else some .applyRoutingProfile
        else none)
  | .routerRouteProfile, .returned | .routerRouteProfile, .threw _ => some (p, some .applyRoutingProfile)
  | .applyRoutingProfile, .returned => some ({ p with routingApplied := true }, some .prepareStandby)
  | .prepareStandby, .returned => some (p, some .sendRouterDiagnostics)
  | .sendRouterDiagnostics, .returned => some (p, none)
  | .reportError message, .returned => some ({ p with error := some message }, none)
  | .importAwgConfig, .threw message | .createAwgConnection, .threw message
  | .startAndCheckTunnel, .threw message | .applyRoutingProfile, .threw message =>
      some (p, some (.reportError message))
  | _, _ => none

/-- The button of the page: a page that is done hands over to the shell. -/
def onPrimary (p : ProgressPage) : ProgressPage := if p.done then p else p.run

def step (p : ProgressPage) : ProgressEvent → Option ProgressPage
  | .tap => some p.onPrimary
  | .ends i ending =>
      match p.running[i]? with
      | none => none
      | some waiting =>
          match p.resume waiting ending with
          | none => none
          | some (q, some next) => some { q with running := p.running.set i next }
          | some (q, none) => some { q with running := p.running.eraseIdx i }

/-- At most one execution is past the first line and not through. -/
def SingleFlight (p : ProgressPage) : Prop := p.running.length ≤ 1

instance (p : ProgressPage) : Decidable p.SingleFlight := inferInstanceAs (Decidable (_ ≤ 1))

/-- Not a tap while the tunnel is confirmed, the routing not applied yet and no error shown. -/
def Patient (p : ProgressPage) : ProgressEvent → Prop
  | .tap => ¬(p.confirmed = true ∧ p.routingApplied = false ∧ p.error = none)
  | .ends _ _ => True

/-! ### What the fields tell about the execution -/

/-- The fields an execution that waits for a call has left behind. -/
def Fits (p : ProgressPage) : Waiting → Prop
  | .importAwgConfig | .createAwgConnection | .startAndCheckTunnel =>
      p.tunnel = none ∧ p.routingApplied = false
  | .routerRouteProfile | .applyRoutingProfile => p.confirmed = true ∧ p.routingApplied = false
  | .prepareStandby | .sendRouterDiagnostics => p.confirmed = true ∧ p.routingApplied = true
  | .reportError _ => p.tunnel = none ∨ (p.confirmed = true ∧ p.routingApplied = false)

/-- Either nothing runs and the page shows how it ended, or one execution runs and the fields are those
it has left behind. -/
inductive Steady (p : ProgressPage) : Prop
  | idle (hrunning : p.running = [])
      (hended : p.error ≠ none ∨ (p.tunnel ≠ none ∧ (p.confirmed = false ∨ p.routingApplied = true)))
  | waiting (w : Waiting) (hrunning : p.running = [w]) (hready : p.ready = true)
      (hstarted : p.started = true) (herror : p.error = none) (hfits : p.Fits w)

variable {p q : ProgressPage} {i : Nat} {ending : Ending}

theorem Steady.singleFlight (hp : p.Steady) : p.SingleFlight := by
  cases hp with
  | idle hrunning hended => simp [SingleFlight, hrunning]
  | waiting w hrunning => simp [SingleFlight, hrunning]

/-- An execution that gets past the first line of a page where nothing runs. -/
theorem steady_run (hrunning : p.running = [])
    (hpasses : (p.started && p.error.isNone && p.tunnel.isNone) = false) : p.run.Steady := by
  rw [run, hpasses]
  cases hready : p.ready with
  | true => exact .waiting .importAwgConfig (by simp [hrunning]) (by simp) rfl rfl ⟨rfl, rfl⟩
  | false => exact .idle (by simp [hrunning]) (.inl (by simp))

theorem opened_steady (ready : Bool) (routingProfile : RouterRoutingProfile) :
    (opened ready routingProfile).Steady := steady_run rfl rfl

/-- While an execution waits for one of the first calls, `run` returns at once. -/
theorem run_of_early (hstarted : p.started = true) (herror : p.error = none) (htunnel : p.tunnel = none) :
    p.run = p := by
  simp [run, hstarted, herror, htunnel]

theorem confirmed_of_none (h : p.tunnel = none) : p.confirmed = false := by
  simp [confirmed, h]

theorem tunnel_of_confirmed (h : p.confirmed = true) : p.tunnel ≠ none := by
  intro htunnel
  rw [confirmed_of_none htunnel] at h
  cases h

theorem run_of_confirmed (hready : p.ready = true) (hconfirmed : p.confirmed = true) :
    p.run.running = p.running ++ [.importAwgConfig] := by
  have htunnel : p.tunnel.isNone = false := by
    simpa using Option.isSome_iff_ne_none.mpr (tunnel_of_confirmed hconfirmed)
  simp [run, htunnel, hready]

/-! ### One event -/

theorem tap_of_waiting {w : Waiting} (hrunning : p.running = [w]) (hready : p.ready = true)
    (hstarted : p.started = true) (herror : p.error = none) (hfits : p.Fits w) :
    (p.Patient .tap → p.onPrimary = p) ∧
      (¬p.Patient .tap → ¬p.onPrimary.SingleFlight) := by
  have hearly : p.tunnel = none → p.Patient .tap ∧ p.onPrimary = p := by
    intro htunnel
    have hconfirmed := confirmed_of_none htunnel
    refine ⟨by simp [Patient, hconfirmed], ?_⟩
    rw [onPrimary, done, hconfirmed]
    exact run_of_early hstarted herror htunnel
  have hlate : p.confirmed = true ∧ p.routingApplied = false →
      ¬p.Patient .tap ∧ ¬p.onPrimary.SingleFlight := by
    rintro ⟨hconfirmed, happlied⟩
    refine ⟨by simp [Patient, hconfirmed, happlied, herror], ?_⟩
    have hnot : p.done = false := by simp [done, happlied]
    rw [onPrimary, hnot]
    show ¬p.run.running.length ≤ 1
    rw [run_of_confirmed hready hconfirmed, hrunning]
    simp
  cases w with
  | importAwgConfig | createAwgConnection | startAndCheckTunnel =>
      exact ⟨fun _ => (hearly hfits.1).2, fun h => absurd (hearly hfits.1).1 h⟩
  | routerRouteProfile | applyRoutingProfile =>
      exact ⟨fun h => absurd h (hlate hfits).1, fun _ => (hlate hfits).2⟩
  | prepareStandby | sendRouterDiagnostics =>
      have hdone : p.done = true := by simp [done, hfits.1, hfits.2]
      refine ⟨fun _ => if_pos hdone, fun h => absurd ?_ h⟩
      simp [Patient, hfits.2]
  | reportError message =>
      rcases hfits with hnone | hconfirmed
      · exact ⟨fun _ => (hearly hnone).2, fun h => absurd (hearly hnone).1 h⟩
      · exact ⟨fun h => absurd h (hlate hconfirmed).1, fun _ => (hlate hconfirmed).2⟩

theorem tap_of_idle (hrunning : p.running = [])
    (hended : p.error ≠ none ∨ (p.tunnel ≠ none ∧ (p.confirmed = false ∨ p.routingApplied = true))) :
    p.Patient .tap ∧ p.onPrimary.Steady := by
  constructor
  · rintro ⟨hconfirmed, happlied, herror⟩
    rcases hended with hshown | ⟨-, hnot | hall⟩
    · exact hshown herror
    · rw [hconfirmed] at hnot
      cases hnot
    · rw [happlied] at hall
      cases hall
  · rw [onPrimary]
    split
    · exact .idle hrunning hended
    · refine steady_run hrunning ?_
      rcases hended with hshown | ⟨htunnel, -⟩
      · have herror : p.error.isNone = false := by simpa using Option.isSome_iff_ne_none.mpr hshown
        simp [herror]
      · have hnone : p.tunnel.isNone = false := by simpa using Option.isSome_iff_ne_none.mpr htunnel
        simp [hnone]

/-- The end of an awaited call takes the one execution on, or ends it. -/
theorem ends_steady {w : Waiting} (hrunning : p.running = [w]) (hready : p.ready = true)
    (hstarted : p.started = true) (herror : p.error = none) (hfits : p.Fits w)
    (h : p.step (.ends i ending) = some q) : q.Steady := by
  have hi : i = 0 ∧ p.running[0]? = some w := by
    simp only [step, hrunning] at h
    cases i with
    | zero => exact ⟨rfl, by simp [hrunning]⟩
    | succ i => simp at h
  obtain ⟨rfl, hw⟩ := hi
  simp only [step, hw] at h
  cases w with
  | importAwgConfig =>
      cases ending with
      | returned =>
          cases h
          exact .waiting .createAwgConnection (by simp [hrunning]) hready hstarted herror hfits
      | threw message =>
          cases h
          exact .waiting (.reportError message) (by simp [hrunning]) hready hstarted herror (.inl hfits.1)
      | checked status => cases h
  | createAwgConnection =>
      cases ending with
      | returned =>
          cases h
          exact .waiting .startAndCheckTunnel (by simp [hrunning]) hready hstarted herror hfits
      | threw message =>
          cases h
          exact .waiting (.reportError message) (by simp [hrunning]) hready hstarted herror (.inl hfits.1)
      | checked status => cases h
  | startAndCheckTunnel =>
      cases ending with
      | returned => cases h
      | threw message =>
          cases h
          exact .waiting (.reportError message) (by simp [hrunning]) hready hstarted herror (.inl hfits.1)
      | checked status =>
          cases hok : status.handshakeOk with
          | false =>
              simp only [resume, hok] at h
              cases h
              exact .idle (by simp [hrunning]) (.inr ⟨by simp, .inl hok⟩)
          | true =>
              simp only [resume, hok] at h
              by_cases hselective : p.routingProfile = .selective
              · simp only [hselective, if_true] at h
                cases h
                exact .waiting .routerRouteProfile (by simp [hrunning]) hready hstarted herror
                  ⟨hok, hfits.2⟩
              · simp only [hselective, if_true, if_false] at h
                cases h
                exact .waiting .applyRoutingProfile (by simp [hrunning]) hready hstarted herror
                  ⟨hok, hfits.2⟩
  | routerRouteProfile =>
      cases ending with
      | returned | threw =>
          cases h
          exact .waiting .applyRoutingProfile (by simp [hrunning]) hready hstarted herror hfits
      | checked status => cases h
  | applyRoutingProfile =>
      cases ending with
      | returned =>
          cases h
          exact .waiting .prepareStandby (by simp [hrunning]) hready hstarted herror ⟨hfits.1, rfl⟩
      | threw message =>
          cases h
          exact .waiting (.reportError message) (by simp [hrunning]) hready hstarted herror (.inr hfits)
      | checked status => cases h
  | prepareStandby =>
      cases ending with
      | returned =>
          cases h
          exact .waiting .sendRouterDiagnostics (by simp [hrunning]) hready hstarted herror hfits
      | checked | threw => cases h
  | sendRouterDiagnostics =>
      cases ending with
      | returned =>
          cases h
          exact .idle (by simp [hrunning]) (.inr ⟨tunnel_of_confirmed hfits.1, .inr hfits.2⟩)
      | checked | threw => cases h
  | reportError message =>
      cases ending with
      | returned =>
          cases h
          exact .idle (by simp [hrunning]) (.inl (by simp))
      | checked | threw => cases h

theorem Steady.step (hp : p.Steady) {e : ProgressEvent} (hpatient : p.Patient e)
    (h : p.step e = some q) : q.Steady := by
  cases e with
  | tap =>
      cases h
      cases hp with
      | idle hrunning hended => exact (tap_of_idle hrunning hended).2
      | waiting w hrunning hready hstarted herror hfits =>
          rw [(tap_of_waiting hrunning hready hstarted herror hfits).1 hpatient]
          exact .waiting w hrunning hready hstarted herror hfits
  | ends i ending =>
      cases hp with
      | idle hrunning hended => simp [ProgressPage.step, hrunning] at h
      | waiting w hrunning hready hstarted herror hfits =>
          exact ends_steady hrunning hready hstarted herror hfits h

/-- A tap that is not in time starts a second execution beside the first. -/
theorem Steady.patient (hp : p.Steady) {e : ProgressEvent}
    (hsingle : ∀ q, p.step e = some q → q.SingleFlight) : p.Patient e := by
  cases e with
  | ends i ending => trivial
  | tap =>
      cases hp with
      | idle hrunning hended => exact (tap_of_idle hrunning hended).1
      | waiting w hrunning hready hstarted herror hfits =>
          by_contra himpatient
          exact (tap_of_waiting hrunning hready hstarted herror hfits).2 himpatient (hsingle _ rfl)

/-- **One execution at a time.** Along every run of a page there is never more than one execution if and
only if no tap comes while the tunnel is confirmed and the routing not applied yet. -/
theorem singleFlight_iff (ready : Bool) (routingProfile : RouterRoutingProfile)
    (es : List ProgressEvent) :
    Throughout step SingleFlight (opened ready routingProfile) es ↔
      AllAllowed step Patient (opened ready routingProfile) es := by
  have hpossible : AllAllowed step (fun _ _ => True) (opened ready routingProfile) es :=
    allAllowed_of_forall (fun _ _ => trivial) es
  refine throughout_iff (I := Steady) (fun _ hp => hp.singleFlight) ?_ ?_
    (opened_steady ready routingProfile) es hpossible
  · exact fun _ _ _ hp _ hpatient h => hp.step hpatient h
  · exact fun _ _ hp _ hsingle => hp.patient hsingle

/-- The first execution has a handshake and applies the routing when the button is tapped. -/
def tappedWhileApplying : List ProgressEvent :=
  [.ends 0 .returned, .ends 0 .returned, .ends 0 (.checked ⟨true, true, "Handshake получен."⟩), .tap]

theorem second_execution_starts :
    ¬∀ ready routingProfile es, Throughout step SingleFlight (opened ready routingProfile) es := by
  intro hclaim
  exact absurd (hclaim true .fullTunnel tappedWhileApplying) (by decide)

end ProgressPage

end App
