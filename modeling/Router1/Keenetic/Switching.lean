import Router1.Keenetic.Batches

/-!
# Switching to the standby tunnel

What a switch leaves behind when it fails, and when it succeeds. A switch that fails puts back the two
interfaces and the record of the selected one. It does not put back the routing, nor the record of the
standby, so it is clean exactly when it fails before any of these was changed. A switch that succeeds
leaves the old tunnel without traffic exactly when the table it read did not offer that tunnel as the
healthy way to the other server.
-/

namespace Keenetic

open Dart Api Remote
open Remote.Program (Calls)

variable {net : Net} {s t m : Session} {access : KeeneticAccess} {routing : RouterRoutingProfile}
  {profile : Option Router1RouteProfile} {current standby host : String}

/-! ### The forward part -/

/-- A call of the forward part of a switch on `host`: it records no standby interface and sends no
request to save. -/
def Call.Moves (host : String) : Call → Prop
  | .exchange request => request ≠ .save
  | .lookup _ | .selected _ | .standby _ => True
  | .setSelected other _ => other = host
  | .setStandby _ _ => False

structure Session.Moved (host : String) (s t : Session) : Prop where
  selected : ∀ other, other ≠ host → t.selectedInterfaceByHost other = s.selectedInterfaceByHost other
  standby : t.standbyInterfaceByHost = s.standbyInterfaceByHost
  prefixed : s.exchanges <+: t.exchanges
  unsaved : ∀ e ∈ s.since t, e.request ≠ .save

theorem moves_of_asks {α : Type} {p : Rci α} (h : Asks (· ≠ .save) p) :
    p.Calls (Call.Moves host) := by
  refine Calls.mono h fun op hop => ?_
  cases op with
  | exchange request => exact hop
  | lookup | selected | standby => trivial
  | setSelected | setStandby => exact hop.elim

theorem moved_of_calls {α : Type} {p : Rci α} (hp : p.Calls (Call.Moves host))
    {result : Except Failure α} (h : p.run net.handle s = (result, t)) : s.Moved host t := by
  have hinv : s.Moved host (p.run net.handle s).2 := by
    refine Calls.run_invariant (I := s.Moved host) hp (fun op t hop ht => ?_)
      ⟨fun _ _ => rfl, rfl, List.prefix_rfl, by simp [since_self]⟩
    cases op with
    | exchange request =>
        refine ⟨ht.selected, ht.standby, ht.prefixed.trans (List.prefix_append _ _), ?_⟩
        intro e he
        rw [since_exchange ht.prefixed] at he
        rcases List.mem_append.mp he with he | he
        · exact ht.unsaved e he
        · rw [List.mem_singleton.mp he]
          exact hop
    | setSelected other name =>
        refine ⟨fun other' hother' => ?_, ht.standby, ht.prefixed, ht.unsaved⟩
        obtain rfl : other = host := hop
        rw [← ht.selected other' hother']
        exact Function.update_of_ne hother' _ _
    | lookup | selected | standby => exact ⟨ht.selected, ht.standby, ht.prefixed, ht.unsaved⟩
    | setStandby => exact hop.elim
  rwa [h] at hinv

theorem calls_moveToStandby (access : KeeneticAccess) (routing : RouterRoutingProfile)
    (profile : Option Router1RouteProfile) (current standby : String) :
    (moveToStandby access routing profile current standby).Calls (Call.Moves access.ip) := by
  refine (calls_bringUp (by simp [Call.Moves])).bind fun _ => ?_
  refine (calls_waitForHandshake (by simp [Call.Moves])).bind fun status => ?_
  split_ifs
  · refine Calls.bind ⟨rfl, fun _ => trivial⟩ fun _ => ?_
    have hrouting : Asks (· ≠ .save) (applyRoutingProfile access routing profile) := by
      refine (asks_applyRoutingProfile access routing profile).mono fun request hrequest => ?_
      rintro rfl
      simp [Request.ofRouting] at hrequest
    refine (moves_of_asks hrouting).bind fun _ => ?_
    exact (calls_takeDown (by simp [Call.Moves])).bind fun _ => trivial
  · trivial

/-! ### Taking a switch apart -/

theorem run_switchToStandbyTunnel (hcurrent : s.selectedInterfaceByHost access.ip = some current)
    (hstandby : s.standbyInterfaceByHost access.ip = some standby) (hne : current ≠ standby) :
    (switchToStandbyTunnel access routing profile).run net.handle s =
      (MonadExcept.tryCatch (switchOver access routing profile current standby)
        (putBack access current standby)).run net.handle s := by
  unfold switchToStandbyTunnel
  have hselected : (selectedInterface access.ip).run net.handle s = (.ok (some current), s) := by
    rw [← hcurrent]
    rfl
  have hother : (standbyInterface access.ip).run net.handle s = (.ok (some standby), s) := by
    rw [← hstandby]
    rfl
  rw [Program.run_bind_of_ok hselected, Program.run_bind_of_ok hother]
  simp only [if_neg hne]

theorem ne_of_standbyNotEnabled (hcurrent : s.selectedInterfaceByHost access.ip = some current)
    (hstandby : s.standbyInterfaceByHost access.ip = some standby) {message : String}
    (hrun : (switchToStandbyTunnel access routing profile).run net.handle s
      = (.error (.standbyNotEnabled message), t)) : current ≠ standby := by
  rintro rfl
  unfold switchToStandbyTunnel at hrun
  have hselected : (selectedInterface access.ip).run net.handle s = (.ok (some current), s) := by
    rw [← hcurrent]
    rfl
  have hother : (standbyInterface access.ip).run net.handle s = (.ok (some current), s) := by
    rw [← hstandby]
    rfl
  rw [Program.run_bind_of_ok hselected, Program.run_bind_of_ok hother] at hrun
  simp at hrun

theorem run_ignored_postRci (request : Request) (s : Session) :
    (MonadExcept.tryCatch (do let _ ← postRci request) fun _ => pure () : Rci Unit).run net.handle s =
      (.ok (), (net.handle (.exchange request) s).2) := by
  unfold postRci
  rw [Program.run_tryCatch, Program.run_bind, Program.run_bind_of_ok (run_exchange request s)]
  rcases hr : (net.answers s.exchanges.length).reply with cause | response
  · rfl
  · dsimp only
    split_ifs <;> rfl

/-- The catch block makes exactly its two requests, whatever they are answered. -/
theorem run_putBack (cause : Failure) (s : Session) :
    (putBack access current standby cause).run net.handle s =
      (.error (.standbyNotEnabled cause.toText),
        { s with
          selectedInterfaceByHost := Function.update s.selectedInterfaceByHost access.ip (some current)
          exchanges := s.exchanges ++
            [⟨.interfaceUp current, net.answers s.exchanges.length⟩,
              ⟨.interfaceDown standby, net.answers (s.exchanges.length + 1)⟩] }) := by
  unfold putBack
  rw [Program.run_bind_of_ok (run_setSelectedInterface access.ip current s),
    Program.run_bind_of_ok (run_ignored_postRci _ _), Program.run_bind_of_ok (run_ignored_postRci _ _)]
  simp [Net.handle]

/-- A try block that failed did so on the way, or in the last request to save. -/
theorem run_switchOver_error {cause : Failure}
    (h : (switchOver access routing profile current standby).run net.handle s = (.error cause, m)) :
    (s.Moved access.ip m) ∨
      (m.standbyInterfaceByHost access.ip = some current ∧ ∃ e ∈ s.since m, e.request = .save) := by
  rcases Program.run_bind_error h with hmove | ⟨status, a, hmove, hrest⟩
  · exact .inl (moved_of_calls (calls_moveToStandby ..) hmove)
  · right
    rw [Program.run_bind_of_ok (run_setStandbyInterface access.ip current a)] at hrest
    rcases Program.run_bind_error hrest with hsave | ⟨result, c, -, hpure⟩
    · refine ⟨?_, ?_⟩
      · rw [(Asks.run (R := (· = .save)) (calls_saveConfiguration rfl) hsave).standby]
        exact if_pos rfl
      · obtain ⟨e, he, hrequest⟩ := starts_saveConfiguration.run hsave
        refine ⟨e, ?_, hrequest⟩
        have hsaved := prefix_of_run hsave
        change a.exchanges <+: m.exchanges at hsaved
        rw [since_trans (prefix_of_run hmove) hsaved]
        exact List.mem_append_right _ he
    · simp at hpure

/-- What the session looks like when the catch block is through. -/
structure Session.PutBack (access : KeeneticAccess) (current standby : String) (s m t : Session)
    (up down : Exchange) : Prop where
  selected : t.selectedInterfaceByHost = Function.update m.selectedInterfaceByHost access.ip (some current)
  standbyRecord : t.standbyInterfaceByHost = m.standbyInterfaceByHost
  upRequest : up.request = .interfaceUp current
  downRequest : down.request = .interfaceDown standby
  since : s.since t = s.since m ++ [up, down]

theorem exists_putBack (hcurrent : s.selectedInterfaceByHost access.ip = some current)
    (hstandby : s.standbyInterfaceByHost access.ip = some standby) (hne : current ≠ standby)
    {error : Failure}
    (hrun : (switchToStandbyTunnel access routing profile).run net.handle s = (.error error, t)) :
    ∃ cause m up down,
      (switchOver access routing profile current standby).run net.handle s = (.error cause, m) ∧
        s.PutBack access current standby m t up down := by
  rw [run_switchToStandbyTunnel hcurrent hstandby hne] at hrun
  obtain ⟨cause, m, hfailed, hput⟩ := Program.run_tryCatch_error hrun
  rw [run_putBack] at hput
  obtain ⟨-, rfl⟩ := Prod.mk.inj hput
  refine ⟨cause, m, ⟨.interfaceUp current, net.answers m.exchanges.length⟩,
    ⟨.interfaceDown standby, net.answers (m.exchanges.length + 1)⟩, hfailed, rfl, rfl, rfl, rfl, ?_⟩
  apply since_of_append
  rw [← List.append_assoc, ← append_since (prefix_of_run hfailed)]

/-- The two compensating requests decide the state of the two interfaces. -/
theorem Session.PutBack.up_down {up down : Exchange}
    (h : s.PutBack access current standby m t up down) (hne : current ≠ standby)
    (hup : up.succeeded = true) (hdown : down.succeeded = true) (ρ : Router) :
    (ρ.after (s.since t)).up current = true ∧ (ρ.after (s.since t)).up standby = false := by
  have hswitchUp : up.request.switches = some (current, true) := by rw [h.upRequest]; rfl
  have hswitchDown : down.request.switches = some (standby, false) := by rw [h.downRequest]; rfl
  rw [h.since, Router.after_append]
  constructor
  · apply Router.after_up_of_switched
    · exact ⟨up, by simp, by rw [switched_of_succeeded hup, hswitchUp]⟩
    · simp [hswitchUp, hswitchDown, Ne.symm hne]
  · apply Router.after_up_of_switched
    · exact ⟨down, by simp, by rw [switched_of_succeeded hdown, hswitchDown]⟩
    · simp [hswitchUp, hswitchDown, hne]

/-! ### A switch that fails -/

/-- Everything the message of a failed switch promises: both records are as they were, the old tunnel
is up and the standby down, and the routing of the router, whatever it was, is unchanged. -/
structure MainRouteKept (current standby : String) (s t : Session) : Prop where
  selectedKept : t.selectedInterfaceByHost = s.selectedInterfaceByHost
  standbyKept : t.standbyInterfaceByHost = s.standbyInterfaceByHost
  currentUp : ∀ ρ : Router, (ρ.after (s.since t)).up current = true
  standbyDown : ∀ ρ : Router, (ρ.after (s.since t)).up standby = false
  routingKept : ∀ ρ : Router, (ρ.after (s.since t)).routing = ρ.routing

/-- A switch that fails keeps the main route if and only if it never asked to save and the router
carried out none of its lines about routes, groups and proxy rules. -/
theorem mainRouteKept_iff (hcurrent : s.selectedInterfaceByHost access.ip = some current)
    (hstandby : s.standbyInterfaceByHost access.ip = some standby) {message : String}
    (hrun : (switchToStandbyTunnel access routing profile).run net.handle s
      = (.error (.standbyNotEnabled message), t))
    (hback : ∀ e ∈ (s.since t).reverse.take 2, e.succeeded = true) :
    MainRouteKept current standby s t ↔
      (∀ e ∈ s.since t, e.request ≠ .save) ∧
        ∀ e ∈ s.since t, ∀ c ∈ e.executed, c.touchesRouting = false := by
  have hne := ne_of_standbyNotEnabled hcurrent hstandby hrun
  obtain ⟨cause, m, up, down, hfailed, hput⟩ := exists_putBack hcurrent hstandby hne hrun
  have hlast : up.succeeded = true ∧ down.succeeded = true := by
    rw [hput.since] at hback
    exact ⟨hback up (by simp), hback down (by simp)⟩
  have hstates := hput.up_down hne hlast.1 hlast.2
  constructor
  · intro hkept
    refine ⟨?_, ?_⟩
    · rcases run_switchOver_error hfailed with hmoved | ⟨hrecord, -⟩
      · rw [hput.since]
        simpa [hput.upRequest, hput.downRequest, or_imp, forall_and] using hmoved.unsaved
      · -- the record of the standby already names the old tunnel
        rw [← hput.standbyRecord, hkept.standbyKept, hstandby] at hrecord
        exact absurd (Option.some.inj hrecord).symm hne
    · have hall : ∀ r : Routing, r.execAll ((s.since t).flatMap Exchange.executed) = r := by
        intro r
        have hrouting := hkept.routingKept ⟨fun _ => false, fun _ => false, r⟩
        rwa [Router.after_routing] at hrouting
      intro e he c hc
      exact (Routing.execAll_eq_self_iff _).mp hall c (List.mem_flatMap.mpr ⟨e, he, hc⟩)
  · rintro ⟨hunsaved, huntouched⟩
    rcases run_switchOver_error hfailed with hmoved | ⟨-, e, he, hsave⟩
    · refine ⟨?_, hput.standbyRecord.trans hmoved.standby, fun ρ => (hstates ρ).1,
        fun ρ => (hstates ρ).2, fun ρ => ?_⟩
      · funext other
        rw [hput.selected]
        by_cases hother : other = access.ip
        · rw [hother, hcurrent]
          exact if_pos rfl
        · rw [← hmoved.selected other hother]
          exact Function.update_of_ne hother _ _
      · rw [Router.after_routing]
        apply Routing.execAll_of_not_touches
        intro c hc
        obtain ⟨e, he, hmem⟩ := List.mem_flatMap.mp hc
        exact huntouched e he c hmem
    · exfalso
      apply hunsaved e _ hsave
      rw [hput.since]
      exact List.mem_append_left _ he

/-! A router with two tunnels, and what it answers. -/

def sampleAccess : KeeneticAccess := ⟨"192.168.1.1", false⟩

def sampleSession : Session where
  selectedInterfaceByHost _ := some "Wireguard0"
  standbyInterfaceByHost _ := some "Wireguard1"
  exchanges := []
  lookups := []

/-- The n-th attempt is refused, every other one succeeds, and the second one finds the handshake. -/
def refusing (n : Nat) : Net where
  answers k :=
    if k = n then responds 500 .blank
    else if k = 1 then responds 200 (.json freshTunnel)
    else responds 200 .blank
  lookups _ := none

def sampleSwitch (routing : RouterRoutingProfile) (net : Net) : Except Failure TunnelStatus × Session :=
  (switchToStandbyTunnel sampleAccess routing none).run net.handle sampleSession

/-- The message of a switch that was put back. -/
def notEnabled? : Except Failure TunnelStatus → Option String
  | .error (.standbyNotEnabled message) => some message
  | _ => none

theorem error_of_notEnabled {result : Except Failure TunnelStatus} {message : String}
    (h : notEnabled? result = some message) : result = .error (.standbyNotEnabled message) := by
  unfold notEnabled? at h
  split at h
  · rw [Option.some.inj h]
  · cases h

/-- When only the last request to save is refused, the standby record names the old tunnel. -/
theorem mainRoute_lost_at_save :
    ∃ t message,
      (switchToStandbyTunnel sampleAccess .fullTunnel none).run (refusing 6).handle sampleSession
        = (.error (.standbyNotEnabled message), t) ∧
      (∀ e ∈ (sampleSession.since t).reverse.take 2, e.succeeded = true) ∧
      ¬ MainRouteKept "Wireguard0" "Wireguard1" sampleSession t := by
  have hswitch : notEnabled? (sampleSwitch .fullTunnel (refusing 6)).1
        = some "Keenetic ответил HTTP 500 на /rci/system/configuration/save." ∧
      (∀ e ∈ (sampleSession.since (sampleSwitch .fullTunnel (refusing 6)).2).reverse.take 2,
        e.succeeded = true) ∧
      (sampleSwitch .fullTunnel (refusing 6)).2.standbyInterfaceByHost "192.168.1.1"
        = some "Wireguard0" := by
    decide +kernel
  obtain ⟨hmessage, hback, hrecord⟩ := hswitch
  generalize hran : sampleSwitch .fullTunnel (refusing 6) = ran at hmessage hback hrecord
  obtain ⟨result, t⟩ := ran
  have hresult : result = .error (.standbyNotEnabled _) := error_of_notEnabled hmessage
  rw [hresult] at hran
  refine ⟨t, _, hran, hback, fun hkept => ?_⟩
  rw [hkept.standbyKept] at hrecord
  exact absurd hrecord (by decide)

theorem mainRoute_kept_at_up :
    ∃ t message,
      (switchToStandbyTunnel sampleAccess .fullTunnel none).run (refusing 0).handle sampleSession
        = (.error (.standbyNotEnabled message), t) ∧
      MainRouteKept "Wireguard0" "Wireguard1" sampleSession t := by
  have hswitch : notEnabled? (sampleSwitch .fullTunnel (refusing 0)).1
        = some "Keenetic ответил HTTP 500 на /rci/interface/Wireguard1/up." ∧
      (∀ e ∈ (sampleSession.since (sampleSwitch .fullTunnel (refusing 0)).2).reverse.take 2,
        e.succeeded = true) ∧
      ∀ e ∈ sampleSession.since (sampleSwitch .fullTunnel (refusing 0)).2,
        e.request ≠ .save ∧ ∀ c ∈ e.executed, c.touchesRouting = false := by
    decide +kernel
  obtain ⟨hmessage, hback, hquiet⟩ := hswitch
  generalize hran : sampleSwitch .fullTunnel (refusing 0) = ran at hmessage hback hquiet
  obtain ⟨result, t⟩ := ran
  have hresult : result = .error (.standbyNotEnabled _) := error_of_notEnabled hmessage
  rw [hresult] at hran
  refine ⟨t, _, hran, ?_⟩
  exact (mainRouteKept_iff rfl rfl hran hback).mpr
    ⟨fun e he => (hquiet e he).1, fun e he => (hquiet e he).2⟩

/-! ### A switch that succeeds -/

/-- The steps of a try block that went through, each with the sessions it starts and ends in. -/
structure Session.Steps (net : Net) (access : KeeneticAccess) (routing : RouterRoutingProfile)
    (profile : Option Router1RouteProfile) (current standby : String) (status : TunnelStatus)
    (s a b c d t : Session) : Prop where
  broughtUp : (bringUp standby).run net.handle s = (.ok (), a)
  waited : (waitForHandshake standby).run net.handle a = (.ok status, b)
  handshake : status.handshakeOk = true
  routed : (applyRoutingProfile access routing profile).run net.handle
    { b with selectedInterfaceByHost := Function.update b.selectedInterfaceByHost access.ip (some standby) } = (.ok (), c)
  tookDown : (takeDown current).run net.handle c = (.ok (), d)
  saved : saveConfiguration.run net.handle
    { d with standbyInterfaceByHost := Function.update d.standbyInterfaceByHost access.ip (some current) } = (.ok (), t)

theorem run_moveToStandby_ok {status : TunnelStatus} {d : Session}
    (h : (moveToStandby access routing profile current standby).run net.handle s = (.ok status, d)) :
    ∃ a b c, (bringUp standby).run net.handle s = (.ok (), a) ∧
      (waitForHandshake standby).run net.handle a = (.ok status, b) ∧
      status.handshakeOk = true ∧
      (applyRoutingProfile access routing profile).run net.handle
        { b with selectedInterfaceByHost := Function.update b.selectedInterfaceByHost access.ip (some standby) }
          = (.ok (), c) ∧
      (takeDown current).run net.handle c = (.ok (), d) := by
  obtain ⟨_, a, hup, h⟩ := Program.run_bind_ok h
  obtain ⟨status', b, hwait, h⟩ := Program.run_bind_ok h
  split_ifs at h with hhandshake
  · rw [Program.run_bind_of_ok (run_setSelectedInterface access.ip standby b)] at h
    obtain ⟨_, c, hroute, h⟩ := Program.run_bind_ok h
    obtain ⟨_, d', hdown, h⟩ := Program.run_bind_ok h
    obtain ⟨hstatus, rfl⟩ := Prod.mk.inj h
    obtain rfl := Except.ok.inj hstatus
    exact ⟨a, b, c, hup, hwait, hhandshake, hroute, hdown⟩
  · simp at h

theorem exists_steps (hcurrent : s.selectedInterfaceByHost access.ip = some current)
    (hstandby : s.standbyInterfaceByHost access.ip = some standby) (hne : current ≠ standby)
    {status : TunnelStatus}
    (hrun : (switchToStandbyTunnel access routing profile).run net.handle s = (.ok status, t)) :
    ∃ a b c d, Session.Steps net access routing profile current standby status s a b c d t := by
  rw [run_switchToStandbyTunnel hcurrent hstandby hne] at hrun
  rcases Program.run_tryCatch_ok hrun with h | ⟨cause, m, -, hput⟩
  · obtain ⟨status', d, hmove, h⟩ := Program.run_bind_ok h
    rw [Program.run_bind_of_ok (run_setStandbyInterface access.ip current d)] at h
    obtain ⟨_, t', hsave, h⟩ := Program.run_bind_ok h
    obtain ⟨hstatus, rfl⟩ := Prod.mk.inj h
    obtain rfl := Except.ok.inj hstatus
    obtain ⟨a, b, c, hup, hwait, hhandshake, hroute, hdown⟩ := run_moveToStandby_ok hmove
    exact ⟨a, b, c, d, hup, hwait, hhandshake, hroute, hdown, hsave⟩
  · rw [run_putBack] at hput
    cases (Prod.mk.inj hput).1

namespace Session.Steps

variable {status : TunnelStatus} {a b c d : Session}

theorem since (h : Session.Steps net access routing profile current standby status s a b c d t) :
    s.since t = s.since a ++ (a.since b ++ (b.since c ++ (c.since d ++ d.since t))) := by
  have hsa := prefix_of_run h.broughtUp
  have hab := prefix_of_run h.waited
  have hbc := prefix_of_run h.routed
  have hcd := prefix_of_run h.tookDown
  have hdt := prefix_of_run h.saved
  -- the two records are written without an exchange
  change b.exchanges <+: c.exchanges at hbc
  change d.exchanges <+: t.exchanges at hdt
  rw [since_trans hsa (hab.trans (hbc.trans (hcd.trans hdt))),
    since_trans hab (hbc.trans (hcd.trans hdt)), since_trans hbc (hcd.trans hdt),
    since_trans hcd hdt]

theorem asked (h : Session.Steps net access routing profile current standby status s a b c d t) :
    s.Asked (· = .interfaceUp standby) a ∧ a.Asked (· = .showInterface standby) b ∧
      Session.Asked Request.ofRouting
        { b with selectedInterfaceByHost := Function.update b.selectedInterfaceByHost access.ip (some standby) } c ∧
      c.Asked (· = .interfaceDown current) d ∧
      Session.Asked (· = .save)
        { d with standbyInterfaceByHost := Function.update d.standbyInterfaceByHost access.ip (some current) } t :=
  ⟨Asks.run (calls_bringUp rfl) h.broughtUp, Asks.run (calls_waitForHandshake rfl) h.waited,
    (asks_applyRoutingProfile access routing profile).run h.routed,
    Asks.run (calls_takeDown rfl) h.tookDown, Asks.run (calls_saveConfiguration rfl) h.saved⟩

theorem records (h : Session.Steps net access routing profile current standby status s a b c d t) :
    t.selectedInterfaceByHost = Function.update s.selectedInterfaceByHost access.ip (some standby) ∧
      t.standbyInterfaceByHost = Function.update s.standbyInterfaceByHost access.ip (some current) := by
  obtain ⟨hup, hwait, hroute, hdown, hsave⟩ := h.asked
  constructor
  · rw [hsave.selected, hdown.selected, hroute.selected, hwait.selected, hup.selected]
  · rw [hsave.standby, hdown.standby, hroute.standby, hwait.standby, hup.standby]

/-- A switch only ever brings the standby up and takes the old tunnel down. -/
theorem switches (h : Session.Steps net access routing profile current standby status s a b c d t)
    {e : Exchange} (he : e ∈ s.since t) {name : String} {state : Bool}
    (hswitch : e.request.switches = some (name, state)) :
    (name = standby ∧ state = true) ∨ (name = current ∧ state = false) := by
  obtain ⟨hup, hwait, hroute, hdown, hsave⟩ := h.asked
  rw [h.since] at he
  simp only [List.mem_append] at he
  rcases he with he | he | he | he | he
  · rw [hup.requests e he] at hswitch
    simp [Request.switches] at hswitch
    exact .inl ⟨hswitch.1.symm, hswitch.2⟩
  · rw [hwait.requests e he] at hswitch
    cases hswitch
  · rcases hroute.requests e he with hrequest | ⟨commands, hrequest⟩
    all_goals
      rw [hrequest] at hswitch
      cases hswitch
  · rw [hdown.requests e he] at hswitch
    simp [Request.switches] at hswitch
    exact .inr ⟨hswitch.1.symm, hswitch.2⟩
  · rw [hsave.requests e he] at hswitch
    cases hswitch

theorem up_down (h : Session.Steps net access routing profile current standby status s a b c d t)
    (hne : current ≠ standby) (ρ : Router) :
    (ρ.after (s.since t)).up standby = true ∧ (ρ.after (s.since t)).up current = false := by
  obtain ⟨up, hupmem, hup⟩ := run_bringUp_ok h.broughtUp
  obtain ⟨down, hdownmem, hdown⟩ := run_takeDown_ok h.tookDown
  constructor
  · apply Router.after_up_of_switched
    · exact ⟨up, by simp [h.since, hupmem], hup⟩
    · intro e he hswitch
      rcases h.switches he hswitch with ⟨-, hstate⟩ | ⟨hname, -⟩
      · cases hstate
      · exact hne hname.symm
  · apply Router.after_up_of_switched
    · exact ⟨down, by simp [h.since, hdownmem], hdown⟩
    · intro e he hswitch
      rcases h.switches he hswitch with ⟨hname, -⟩ | ⟨-, hstate⟩
      · exact hne hname
      · cases hstate

theorem only_routed (h : Session.Steps net access routing profile current standby status s a b c d t)
    {e : Exchange} (he : e ∈ s.since t) :
    e ∈ b.since c ∨ (e.commands = [] ∧ e.request ≠ .showInterfaces) := by
  obtain ⟨hup, hwait, hroute, hdown, hsave⟩ := h.asked
  rw [h.since] at he
  simp only [List.mem_append] at he
  rcases he with he | he | he | he | he
  · right
    simp [Exchange.commands, hup.requests e he]
  · right
    simp [Exchange.commands, hwait.requests e he]
  · exact .inl he
  · right
    simp [Exchange.commands, hdown.requests e he]
  · right
    simp [Exchange.commands, hsave.requests e he]

theorem mem_of_routed
    (h : Session.Steps net access routing profile current standby status s a b c d t) {e : Exchange}
    (he : e ∈ b.since c) : e ∈ s.since t := by
  simp [h.since, he]

end Session.Steps

/-- Everything a successful switch is for: the two records are swapped, the new tunnel is up with a
confirmed handshake, the old one is down, and no line of the call binds anything to it. -/
structure SwitchedOver (access : KeeneticAccess) (current standby : String) (status : TunnelStatus)
    (s t : Session) : Prop where
  selectedSwapped : t.selectedInterfaceByHost = Function.update s.selectedInterfaceByHost access.ip (some standby)
  standbySwapped : t.standbyInterfaceByHost = Function.update s.standbyInterfaceByHost access.ip (some current)
  handshake : status.handshakeOk = true
  standbyUp : ∀ ρ : Router, (ρ.after (s.since t)).up standby = true
  currentDown : ∀ ρ : Router, (ρ.after (s.since t)).up current = false
  unbound : ∀ e ∈ s.since t, ∀ c ∈ e.commands, c.binds ≠ some current

/-- The table shows the selected tunnel at one of the two servers and offers `other` as the first
healthy tunnel to the other one. -/
def OffersOther (table : Json) (selected other : String) : Prop :=
  let interfaceMap := table.field "interface"
  (wireGuardEndpoint interfaceMap selected = some frEndpoint ∧
    findHealthyWireGuardByEndpoint interfaceMap [nl2Endpoint] = some other) ∨
  (wireGuardEndpoint interfaceMap selected = some nl2Endpoint ∧
    findHealthyWireGuardByEndpoint interfaceMap [frEndpoint] = some other)

theorem mem_bound_iff {table : Json} {selected other : String} (hne : other ≠ selected) :
    other ∈ (Lanes.of table selected).bound ↔ OffersOther table selected other := by
  have hmedia : other = (Lanes.of table selected).mediaInterface ↔
      wireGuardEndpoint (table.field "interface") selected = some frEndpoint ∧
        findHealthyWireGuardByEndpoint (table.field "interface") [nl2Endpoint] = some other := by
    unfold Lanes.mediaInterface Lanes.of
    dsimp only
    split
    · next nl2 hnl2 =>
        rw [hnl2, Option.some.injEq]
        split_ifs with hend
        · simp [hend, eq_comm]
        · simp [hend, hne]
    · next hnl2 => simp [hnl2, hne]
  have hai : other = (Lanes.of table selected).aiInterface ↔
      wireGuardEndpoint (table.field "interface") selected = some nl2Endpoint ∧
        findHealthyWireGuardByEndpoint (table.field "interface") [frEndpoint] = some other := by
    unfold Lanes.aiInterface Lanes.of
    dsimp only
    split
    · next fr hfr =>
        rw [hfr, Option.some.injEq]
        split_ifs with hend
        · simp [hend, eq_comm]
        · simp [hend, hne]
    · next hfr => simp [hfr, hne]
  rw [Lanes.bound, List.mem_cons, List.mem_singleton, hmedia, hai]
  rfl

/-- A switch that returns has done its work if and only if it ran in the whole-tunnel mode (or did
not touch the routing at all) or no table it read offers the old tunnel for the other server. -/
theorem switchedOver_iff (hcurrent : s.selectedInterfaceByHost access.ip = some current)
    (hstandby : s.standbyInterfaceByHost access.ip = some standby) (hne : current ≠ standby)
    {status : TunnelStatus}
    (hrun : (switchToStandbyTunnel access routing profile).run net.handle s = (.ok status, t)) :
    SwitchedOver access current standby status s t ↔
      access.testMode = true ∨ routing = .fullTunnel ∨
        ∀ e ∈ s.since t, e.request = .showInterfaces → ∀ table, e.json? = some table →
          ¬ OffersOther table standby current := by
  obtain ⟨a, b, c, d, hsteps⟩ := exists_steps hcurrent hstandby hne hrun
  obtain ⟨hselected, hrecord⟩ := hsteps.records
  have hstates := hsteps.up_down hne
  have hrouted := unbound_iff_of_ok (if_pos rfl) hne hsteps.routed
  simp only [mem_bound_iff hne] at hrouted
  have hunbound : (∀ e ∈ s.since t, ∀ c ∈ e.commands, c.binds ≠ some current) ↔
      access.testMode = true ∨ routing = .fullTunnel ∨
        ∀ e ∈ s.since t, e.request = .showInterfaces → ∀ table, e.json? = some table →
          ¬ OffersOther table standby current := by
    refine Iff.trans ⟨fun h e he => h e (hsteps.mem_of_routed he), fun h e he => ?_⟩
      (hrouted.trans (or_congr_right (or_congr_right
        ⟨fun h e he hshow => ?_, fun h e he => h e (hsteps.mem_of_routed he)⟩)))
    · rcases hsteps.only_routed he with he | ⟨hempty, -⟩
      · exact h e he
      · simp [hempty]
    · rcases hsteps.only_routed he with he | ⟨-, hother⟩
      · exact h e he hshow
      · exact absurd hshow hother
  rw [← hunbound]
  exact ⟨fun h => h.unbound, fun h => ⟨hselected, hrecord, hsteps.handshake,
    fun ρ => (hstates ρ).1, fun ρ => (hstates ρ).2, h⟩⟩

/-- Both tunnels are healthy, the old one at the second server and the standby at the first. -/
def bothHealthy : Json :=
  .obj [("interface", .obj [
    ("Wireguard0", .obj [("state", .str "up"), ("connected", .str "yes"),
      ("remote-endpoint-address", .str "201.51.23.60")]),
    ("Wireguard1", .obj [("state", .str "up"), ("connected", .str "yes"),
      ("remote-endpoint-address", .str "213.176.93.13")])])]

def showingBoth : Net where
  answers k :=
    if k = 1 then responds 200 (.json freshTunnel)
    else if k = 2 then responds 200 (.json bothHealthy)
    else responds 200 .blank
  lookups _ := none

/-- The media routes of this switch are bound to the tunnel it then takes down. -/
theorem media_left_on_old_tunnel :
    ∃ status t,
      (switchToStandbyTunnel sampleAccess .selective none).run showingBoth.handle sampleSession
        = (.ok status, t) ∧
      ¬ SwitchedOver sampleAccess "Wireguard0" "Wireguard1" status sampleSession t := by
  have hswitch : (sampleSwitch .selective showingBoth).1.toOption.isSome = true ∧
      ¬ ∀ e ∈ sampleSession.since (sampleSwitch .selective showingBoth).2, ∀ c ∈ e.commands,
        c.binds ≠ some "Wireguard0" := by
    decide +kernel
  obtain ⟨hreturns, hbound⟩ := hswitch
  obtain ⟨status, hstatus⟩ := exists_ok hreturns
  refine ⟨status, (sampleSwitch .selective showingBoth).2, Prod.ext hstatus rfl, fun hswitched => ?_⟩
  exact hbound hswitched.unbound

theorem switchedOver_fullTunnel :
    ∃ status t,
      (switchToStandbyTunnel sampleAccess .fullTunnel none).run showingBoth.handle sampleSession
        = (.ok status, t) ∧
      SwitchedOver sampleAccess "Wireguard0" "Wireguard1" status sampleSession t := by
  have hreturns : (sampleSwitch .fullTunnel showingBoth).1.toOption.isSome = true := by
    decide +kernel
  obtain ⟨status, hstatus⟩ := exists_ok hreturns
  have hrun : (switchToStandbyTunnel sampleAccess .fullTunnel none).run showingBoth.handle
      sampleSession = (.ok status, (sampleSwitch .fullTunnel showingBoth).2) := Prod.ext hstatus rfl
  refine ⟨_, _, hrun, ?_⟩
  exact (switchedOver_iff rfl rfl (by decide) hrun).mpr (.inr (.inl rfl))

end Keenetic
