import Router1.Keenetic.Standby

/-!
# Other people's tunnels

A router can have WireGuard interfaces that are nobody's business: their endpoint is not a Router1 server
and the service has not imported them. The operations choose interfaces in three ways: by the endpoint,
by a name they have recorded, and, when a config is installed, by the own address of the interface. The
first never leads to such an interface, and the second only if the third did. `unmatched` is the
condition that it does not; two tunnels may well have the same address.
-/

namespace Keenetic

open Dart Api Remote
open Remote.Program (Calls)

/-- The request deletes the interface or sends it up or down. -/
def Request.touches (name : String) : Request → Bool
  | .interfaceUp other | .interfaceDown other | .deleteInterface other => other == name
  | _ => false

/-- A call that does not touch the interface and records another one, if it records any. -/
def Call.Avoids (name : String) : Call → Prop
  | .exchange request => request.touches name = false
  | .setSelected _ other | .setStandby _ other => other ≠ name
  | _ => True

/-- The interface is not recorded for the host. -/
structure Session.Avoids (host name : String) (s : Session) : Prop where
  selected : s.selectedInterfaceByHost host ≠ some name
  standby : s.standbyInterfaceByHost host ≠ some name

variable {net : Net} {s t : Session} {host name : String} {access : KeeneticAccess} {configText : String}

theorem update_ne {records : String → Option String} {other : String} (hrecords : records host ≠ some name)
    (hother : other ≠ name) (key : String) : Function.update records key (some other) host ≠ some name := by
  rw [Function.update_apply]
  split
  · intro heq
    exact hother (Option.some.inj heq)
  · exact hrecords

theorem avoids_of_calls {α : Type} {p : Rci α} (hp : p.Calls (Call.Avoids name))
    {result : Except Failure α} (h : p.run net.handle s = (result, t)) (hs : s.Avoids host name) :
    t.Avoids host name ∧ ∀ e ∈ s.since t, e.request.touches name = false := by
  have hinv : s.exchanges <+: (p.run net.handle s).2.exchanges ∧
      (p.run net.handle s).2.Avoids host name ∧
      ∀ e ∈ s.since (p.run net.handle s).2, e.request.touches name = false := by
    refine Calls.run_invariant
      (I := fun t : Session => s.exchanges <+: t.exchanges ∧ t.Avoids host name ∧
        ∀ e ∈ s.since t, e.request.touches name = false) hp
      (fun op t hop ht => ?_) ⟨List.prefix_rfl, hs, by simp [since_self]⟩
    obtain ⟨hprefixed, havoids, hrequests⟩ := ht
    cases op with
    | exchange request =>
        refine ⟨hprefixed.trans (List.prefix_append _ _), ⟨havoids.selected, havoids.standby⟩,
          fun e he => ?_⟩
        rw [since_exchange hprefixed, List.mem_append, List.mem_singleton] at he
        obtain hold | rfl := he
        · exact hrequests e hold
        · exact hop
    | setSelected key other =>
        exact ⟨hprefixed, ⟨update_ne havoids.selected hop key, havoids.standby⟩, hrequests⟩
    | setStandby key other =>
        exact ⟨hprefixed, ⟨havoids.selected, update_ne havoids.standby hop key⟩, hrequests⟩
    | lookup | selected | standby => exact ⟨hprefixed, ⟨havoids.selected, havoids.standby⟩, hrequests⟩
  rw [h] at hinv
  exact hinv.2

theorem avoids_of_asks {α : Type} {R : Request → Prop} {p : Rci α} (hp : Asks R p)
    (hR : ∀ request, R request → request.touches name = false) : p.Calls (Call.Avoids name) := by
  refine Calls.mono hp fun op hop => ?_
  cases op with
  | exchange request => exact hR request hop
  | lookup | selected | standby => trivial
  | setSelected | setStandby => exact hop.elim

/-! ### One operation -/

theorem ne_of_mem_candidates {entries : List (String × Json)} {other : String}
    (hforeign : hasEndpointIn (.obj entries) name router1Endpoints = false)
    (hother : other ∈ router1Candidates entries) : other ≠ name := by
  rintro rfl
  obtain ⟨entry, hentry, rfl⟩ := List.mem_map.mp hother
  have hendpoint := (Bool.and_eq_true_iff.mp (List.mem_filter.mp hentry).2).2
  rw [hforeign] at hendpoint
  cases hendpoint

theorem mem_candidates_of_preferred {entries : List (String × Json)} {chosen : String}
    (h : preferredCandidate entries = some chosen) : chosen ∈ router1Candidates entries := by
  rw [preferredCandidate] at h
  cases hfound : (router1Candidates entries).find? (showsUp entries) with
  | some found =>
      rw [hfound] at h
      obtain rfl : found = chosen := Option.some.inj h
      exact List.mem_of_find?_eq_some hfound
  | none =>
      rw [hfound] at h
      exact List.mem_of_head? h

theorem avoids_of_attach {result : Except Failure TunnelStatus}
    (h : (attachAndCheckExistingTunnel access).run net.handle s = (result, t))
    (hs : s.Avoids access.ip name)
    (hforeign : ∀ entries ∈ tablesOf (s.since t),
      hasEndpointIn (.obj entries) name router1Endpoints = false) :
    t.Avoids access.ip name ∧ ∀ e ∈ s.since t, e.request.touches name = false := by
  have hsends : (attachAndCheckExistingTunnel access).Calls
      (Call.Sends fun request => request.touches name = false) :=
    calls_attachAndCheckExistingTunnel rfl (fun _ => rfl) (fun _ => trivial) fun _ => trivial
  refine ⟨?_, requests_of_sends hsends h⟩
  obtain hsame | ⟨entries, hread, chosen, hchosen, hselected, hstandby⟩ := records_of_attach h
  · exact ⟨by rw [hsame.selected]; exact hs.selected, by rw [hsame.standby]; exact hs.standby⟩
  have hentries := hforeign entries hread
  constructor
  · rw [hselected]
    exact update_ne hs.selected (ne_of_mem_candidates hentries (mem_candidates_of_preferred hchosen)) _
  · rw [hstandby]
    cases hother : (router1Candidates entries).find? fun other => other != chosen with
    | none => exact hs.standby
    | some other =>
        exact update_ne hs.standby (ne_of_mem_candidates hentries (List.mem_of_find?_eq_some hother)) _

theorem Session.Chosen.ne {config : ParsedAwgConfig} {entries : List (String × Json)} {chosen : String}
    {b : Session} (h : s.Chosen configText config entries chosen b)
    (hunmatched : findMatchingWireGuardInterface entries config ≠ some name)
    (himported : ∀ e ∈ s.since b, e.created? ≠ some name) : chosen ≠ name := by
  rintro rfl
  obtain hfound | ⟨e, he, hcreated⟩ := h.found
  · exact hunmatched hfound
  · exact himported e he hcreated

theorem avoids_of_choosing {α : Type} {refusal : Failure}
    {rest : ParsedAwgConfig → List (String × Json) → String → Rci α} {result : Except Failure α}
    (h : (choosing refusal configText rest).run net.handle s = (result, t))
    (hs : s.Avoids access.ip name)
    (hforeign : ∀ entries ∈ tablesOf (s.since t),
      hasEndpointIn (.obj entries) name router1Endpoints = false)
    (himported : ∀ e ∈ s.since t, e.created? ≠ some name)
    (hunmatched : ∀ config, parseConfig configText = .ok config →
      ∀ entries ∈ tablesOf (s.since t), findMatchingWireGuardInterface entries config ≠ some name)
    (hrest : ∀ config entries chosen, hasEndpointIn (.obj entries) name router1Endpoints = false →
      chosen ≠ name → (rest config entries chosen).Calls (Call.Avoids name)) :
    t.Avoids access.ip name ∧ ∀ e ∈ s.since t, e.request.touches name = false := by
  obtain ⟨hsame, hsent⟩ | ⟨config, entries, chosen, b, hchosen, hsent, hrun⟩ :=
    run_choosing (R := fun request => request.touches name = false) rfl (fun _ => rfl) h
  · refine ⟨⟨by rw [hsame.selected]; exact hs.selected, by rw [hsame.standby]; exact hs.standby⟩, ?_⟩
    exact fun e he => (hsent e he).2
  have hbt := prefix_of_run hrun
  have hsince := since_trans hchosen.prefixed hbt
  have hread := hchosen.read_of_prefix hbt
  have hne : chosen ≠ name :=
    hchosen.ne (hunmatched config hchosen.parsed entries hread) fun e he =>
      himported e (by rw [hsince]; exact List.mem_append_left _ he)
  have hb : b.Avoids access.ip name :=
    ⟨by rw [hchosen.sameRecords.selected]; exact hs.selected,
      by rw [hchosen.sameRecords.standby]; exact hs.standby⟩
  obtain ⟨ht, hlater⟩ :=
    avoids_of_calls (hrest config entries chosen (hforeign entries hread) hne) hrun hb
  refine ⟨ht, ?_⟩
  rw [hsince, List.forall_mem_append]
  exact ⟨hsent, hlater⟩

theorem calls_establishOrRollBack {entries : List (String × Json)} {found : Option String}
    {chosen : String} (hforeign : hasEndpointIn (.obj entries) name router1Endpoints = false)
    (hchosen : chosen ≠ name) :
    (establishOrRollBack (rollbackPlan entries found chosen)).Calls (Call.Avoids name) := by
  have hcompeting : ∀ other ∈ findCompetingWireGuardInterfaces entries chosen, other ≠ name :=
    fun other hother => ne_of_mem_candidates hforeign (mem_candidates_of_mem_competing hother)
  refine Calls.tryCatch (avoids_of_asks (asks_establish _) fun request hrequest => ?_) fun error => ?_
  · cases request with
    | interfaceUp other =>
        obtain rfl : other = chosen := hrequest
        exact beq_false_of_ne hchosen
    | interfaceDown other | deleteInterface other => exact beq_false_of_ne (hcompeting other hrequest)
    | showInterfaces | showInterface | showIpRoute | cli | importConfig | save => rfl
  · refine Calls.bind (avoids_of_asks (asks_rollbackSetup _) fun request hrequest => ?_) fun _ => trivial
    cases request with
    | interfaceUp other => exact beq_false_of_ne (hcompeting other hrequest)
    | interfaceDown other | deleteInterface other =>
        obtain rfl : other = chosen := hrequest.1
        exact beq_false_of_ne hchosen
    | showInterfaces | showInterface | showIpRoute | cli | importConfig | save => rfl

theorem avoids_of_create {result : Except Failure Unit}
    (h : (createAwgConnection access configText).run net.handle s = (result, t))
    (hs : s.Avoids access.ip name)
    (hforeign : ∀ entries ∈ tablesOf (s.since t),
      hasEndpointIn (.obj entries) name router1Endpoints = false)
    (himported : ∀ e ∈ s.since t, e.created? ≠ some name)
    (hunmatched : ∀ config, parseConfig configText = .ok config →
      ∀ entries ∈ tablesOf (s.since t), findMatchingWireGuardInterface entries config ≠ some name) :
    t.Avoids access.ip name ∧ ∀ e ∈ s.since t, e.request.touches name = false := by
  cases htest : access.testMode with
  | true =>
      unfold createAwgConnection at h
      rw [if_pos htest] at h
      cases h
      exact ⟨hs, by simp [since_self]⟩
  | false =>
      rw [createAwgConnection_eq htest] at h
      refine avoids_of_choosing h hs hforeign himported hunmatched fun config entries chosen hends hne => ?_
      refine Calls.bind ((Program.calls_request _).mpr hne) fun _ => ?_
      exact calls_establishOrRollBack hends hne

theorem avoids_of_install {result : Except Failure String}
    (h : (installStandbyAwgConfig access configText).run net.handle s = (result, t))
    (hs : s.Avoids access.ip name)
    (hforeign : ∀ entries ∈ tablesOf (s.since t),
      hasEndpointIn (.obj entries) name router1Endpoints = false)
    (himported : ∀ e ∈ s.since t, e.created? ≠ some name)
    (hunmatched : ∀ config, parseConfig configText = .ok config →
      ∀ entries ∈ tablesOf (s.since t), findMatchingWireGuardInterface entries config ≠ some name) :
    t.Avoids access.ip name ∧ ∀ e ∈ s.since t, e.request.touches name = false := by
  cases htest : access.testMode with
  | true =>
      unfold installStandbyAwgConfig at h
      rw [if_pos htest] at h
      cases h
      exact ⟨hs, by simp [since_self]⟩
  | false =>
      rw [installStandbyAwgConfig_eq htest] at h
      refine avoids_of_choosing h hs hforeign himported hunmatched fun config entries chosen _ hne => ?_
      refine Calls.bind ((Program.calls_request _).mpr trivial) fun selected => ?_
      split_ifs
      · trivial
      refine Calls.bind (calls_runCliCommands (P := Call.Avoids name) rfl true) fun _ => ?_
      refine Calls.bind (calls_takeDown (beq_false_of_ne hne)) fun _ => ?_
      refine Calls.bind ((Program.calls_request _).mpr hne) fun _ => ?_
      exact Calls.bind (calls_saveConfiguration rfl) fun _ => trivial

theorem calls_switch {routing : RouterRoutingProfile} {profile : Option Router1RouteProfile}
    {current standby : String} (hcurrent : current ≠ name) (hstandby : standby ≠ name) :
    (MonadExcept.tryCatch (switchOver access routing profile current standby)
      (putBack access current standby)).Calls (Call.Avoids name) := by
  have hpost : ∀ {request : Request}, request.touches name = false →
      (MonadExcept.tryCatch (do let _ ← postRci request) fun _ => pure () : Rci Unit).Calls
        (Call.Avoids name) :=
    fun htouches => Calls.tryCatch (Calls.bind (calls_postRci htouches) fun _ => trivial) fun _ => trivial
  refine Calls.tryCatch (Calls.bind ?_ fun status => ?_) fun error => ?_
  · refine Calls.bind (calls_bringUp (beq_false_of_ne hstandby)) fun _ => ?_
    refine Calls.bind (calls_waitForHandshake rfl) fun status => ?_
    split_ifs
    · refine Calls.bind ((Program.calls_request _).mpr hstandby) fun _ => ?_
      refine Calls.bind (avoids_of_asks (asks_applyRoutingProfile access routing profile) ?_) fun _ => ?_
      · rintro request (rfl | ⟨commands, rfl⟩) <;> rfl
      · exact Calls.bind (calls_takeDown (beq_false_of_ne hcurrent)) fun _ => trivial
    · trivial
  · refine Calls.bind ((Program.calls_request _).mpr hcurrent) fun _ => ?_
    exact Calls.bind (calls_saveConfiguration rfl) fun _ => trivial
  · refine Calls.bind ((Program.calls_request _).mpr hcurrent) fun _ => ?_
    refine Calls.bind (hpost (beq_false_of_ne hcurrent)) fun _ => ?_
    exact Calls.bind (hpost (beq_false_of_ne hstandby)) fun _ => trivial

theorem avoids_of_switch {routing : RouterRoutingProfile} {profile : Option Router1RouteProfile}
    {result : Except Failure TunnelStatus}
    (h : (switchToStandbyTunnel access routing profile).run net.handle s = (result, t))
    (hs : s.Avoids access.ip name) :
    t.Avoids access.ip name ∧ ∀ e ∈ s.since t, e.request.touches name = false := by
  unfold switchToStandbyTunnel at h
  have hselected : (selectedInterface access.ip).run net.handle s
      = (.ok (s.selectedInterfaceByHost access.ip), s) := rfl
  have hstandby : (standbyInterface access.ip).run net.handle s
      = (.ok (s.standbyInterfaceByHost access.ip), s) := rfl
  rw [Program.run_bind_of_ok hselected, Program.run_bind_of_ok hstandby] at h
  have hnothing : s.Avoids access.ip name ∧ ∀ e ∈ s.since s, e.request.touches name = false :=
    ⟨hs, by simp [since_self]⟩
  split at h
  · next current standby hcurrent hother =>
      split_ifs at h with hsame
      · cases h
        exact hnothing
      · refine avoids_of_calls (calls_switch ?_ ?_) h hs
        · rintro rfl
          exact hs.selected hcurrent
        · rintro rfl
          exact hs.standby hother
  · cases h
    exact hnothing

theorem avoids_of_setSelectedTunnelEnabled {enabled : Bool} {result : Except Failure Unit}
    (h : (setSelectedTunnelEnabled access enabled).run net.handle s = (result, t))
    (hs : s.Avoids access.ip name) :
    t.Avoids access.ip name ∧ ∀ e ∈ s.since t, e.request.touches name = false := by
  unfold setSelectedTunnelEnabled at h
  have hselected : (selectedInterface access.ip).run net.handle s
      = (.ok (s.selectedInterfaceByHost access.ip), s) := rfl
  rw [Program.run_bind_of_ok hselected] at h
  split at h
  · cases h
    exact ⟨hs, by simp [since_self]⟩
  · next own hown =>
      have hne : own ≠ name := by
        rintro rfl
        exact hs.selected hown
      refine avoids_of_calls ?_ h hs
      split_ifs
      · exact Calls.bind (calls_bringUp (beq_false_of_ne hne)) fun _ => calls_saveConfiguration rfl
      · exact Calls.bind (calls_takeDown (beq_false_of_ne hne)) fun _ => calls_saveConfiguration rfl

/-! ### Every run -/

def Operation.config? : Operation → Option ParsedAwgConfig
  | createAwgConnection configText | installStandbyAwgConfig configText =>
      (parseConfig configText).toOption
  | _ => none

namespace Service

/-- No table that is read shows the interface with a Router1 endpoint, and no import makes it. -/
def foreign (access : KeeneticAccess) (name : String) (s : Service) : ServiceEvent → Bool
  | .call operation net =>
      let es := (s.run access operation net).2.exchanges
      (tablesOf es).all (fun entries => !hasEndpointIn (.obj entries) name router1Endpoints) &&
        es.all fun e => e.created? != some name
  | .ownerRemoves _ => true

/-- A config that is installed is not matched with the interface. -/
def unmatched (access : KeeneticAccess) (name : String) (s : Service) : ServiceEvent → Bool
  | .call operation net =>
      match operation.config? with
      | some config =>
          (tablesOf (s.run access operation net).2.exchanges).all fun entries =>
            findMatchingWireGuardInterface entries config != some name
      | none => true
  | .ownerRemoves _ => true

/-- The call leaves the interface alone: it does not touch it, and so it is there or not and up or down as
before. -/
structure LeavesAlone (access : KeeneticAccess) (name : String) (s : Service) (operation : Operation)
    (net : Net) : Prop where
  untouched : ∀ e ∈ (s.run access operation net).2.exchanges, e.request.touches name = false
  present : (s.router.after (s.run access operation net).2.exchanges).present name =
    s.router.present name
  up : (s.router.after (s.run access operation net).2.exchanges).up name = s.router.up name

variable {s t : Service} {operation : Operation}

theorem avoids_of_run (hs : s.session.Avoids access.ip name)
    (hforeign : s.foreign access name (.call operation net) = true)
    (hunmatched : s.unmatched access name (.call operation net) = true) :
    (s.run access operation net).2.Avoids access.ip name ∧
      ∀ e ∈ (s.run access operation net).2.exchanges, e.request.touches name = false := by
  simp only [foreign, Bool.and_eq_true, List.all_eq_true, Bool.not_eq_true', bne_iff_ne] at hforeign
  obtain ⟨hendpoints, himported⟩ := hforeign
  simp only [unmatched] at hunmatched
  have hstart : Session.Avoids access.ip name { s.session with exchanges := [], lookups := [] } :=
    ⟨hs.selected, hs.standby⟩
  rcases hrun : s.run access operation net with ⟨result, final⟩
  rw [hrun] at hendpoints himported hunmatched
  have hmatch : ∀ configText, operation.config? = (parseConfig configText).toOption →
      ∀ config, parseConfig configText = .ok config → ∀ entries ∈ tablesOf final.exchanges,
        findMatchingWireGuardInterface entries config ≠ some name := by
    intro configText hgiven config hparse entries hentries
    rw [hgiven, hparse] at hunmatched
    simp only [Except.toOption, List.all_eq_true, bne_iff_ne] at hunmatched
    exact hunmatched entries hentries
  cases operation with
  | createAwgConnection configText =>
      exact avoids_of_create hrun hstart hendpoints himported (hmatch configText rfl)
  | installStandbyAwgConfig configText =>
      obtain ⟨value, hrun⟩ := run_of_discarded hrun
      exact avoids_of_install hrun hstart hendpoints himported (hmatch configText rfl)
  | attachAndCheckExistingTunnel =>
      obtain ⟨value, hrun⟩ := run_of_discarded hrun
      exact avoids_of_attach hrun hstart hendpoints
  | switchToStandbyTunnel routing profile =>
      obtain ⟨value, hrun⟩ := run_of_discarded hrun
      exact avoids_of_switch hrun hstart
  | setSelectedTunnelEnabled enabled => exact avoids_of_setSelectedTunnelEnabled hrun hstart

theorem avoids_of_step {event : ServiceEvent} (hs : s.session.Avoids access.ip name)
    (hforeign : s.foreign access name event = true) (hunmatched : s.unmatched access name event = true)
    (hstep : s.step access event = some t) : t.session.Avoids access.ip name := by
  cases event with
  | call operation net =>
      cases hstep
      exact (avoids_of_run hs hforeign hunmatched).1
  | ownerRemoves other =>
      cases hstep
      exact hs

theorem leavesAlone_of_untouched
    (huntouched : ∀ e ∈ (s.run access operation net).2.exchanges, e.request.touches name = false)
    (himported : ∀ e ∈ (s.run access operation net).2.exchanges, e.created? ≠ some name) :
    s.LeavesAlone access name operation net where
  untouched := huntouched
  present := by
    rw [Bool.eq_iff_iff, Router.after_present himported]
    refine and_iff_left fun e he => deleted_ne_of_request fun hrequest => ?_
    have htouches := huntouched e he
    rw [hrequest] at htouches
    exact absurd (beq_self_eq_true name) (ne_true_of_eq_false htouches)
  up := by
    refine Router.after_up_of_untouched fun e he state hswitches => ?_
    have htouches := huntouched e he
    cases hrequest : e.request with
    | interfaceUp other | interfaceDown other =>
        rw [hrequest] at hswitches htouches
        cases hswitches
        exact absurd (beq_self_eq_true name) (ne_true_of_eq_false htouches)
    | showInterfaces | showInterface | showIpRoute | cli | deleteInterface | importConfig | save =>
        rw [hrequest] at hswitches
        cases hswitches

/-- **Other people's tunnels.** In every run in which no config is matched with a foreign interface, every
call leaves that interface alone. -/
theorem foreign_left_alone (router : Router)
    (h : Reaches (step access) (fun s event => s.foreign access name event = true ∧
      s.unmatched access name event = true) (start router) s)
    (hforeign : s.foreign access name (.call operation net) = true)
    (hunmatched : s.unmatched access name (.call operation net) = true) :
    s.LeavesAlone access name operation net := by
  have havoids : s.session.Avoids access.ip name :=
    h.invariant (I := fun s : Service => s.session.Avoids access.ip name)
      (fun s event t hs hallowed hstep => avoids_of_step hs hallowed.1 hallowed.2 hstep) ⟨nofun, nofun⟩
  refine leavesAlone_of_untouched (avoids_of_run havoids hforeign hunmatched).2 ?_
  simp only [foreign, Bool.and_eq_true, List.all_eq_true, bne_iff_ne] at hforeign
  exact hforeign.2

/-! A router with a tunnel of its owner, which has the address of the config or another one. -/

def ownersTunnel (address : String) : String × Json :=
  ("Wireguard2", .obj [("state", .str "down"), ("address", .str address),
    ("remote-endpoint-address", .str "198.51.100.7")])

/-- The first attempt reads the table, every later one finds the handshake. -/
def showingEntries (entries : List (String × Json)) : Net where
  answers k := responds 200 (.json (if k = 0 then .obj entries else freshTunnel))
  lookups _ := none

/-- A setup on a router with no other tunnel of that address. -/
def besideOwners : Net :=
  showingEntries
    [("Wireguard0", .obj [("state", .str "up"), ("address", .str "10.8.0.2"),
        ("remote-endpoint-address", .str "213.176.93.13")]),
      ("Wireguard1", .obj [("state", .str "up"), ("remote-endpoint-address", .str "201.51.23.60")]),
      ownersTunnel "10.9.0.2"]

/-- The setup brings up the owner's tunnel, because its address is the config's. -/
theorem foreign_brought_up :
    ¬∀ (access : KeeneticAccess) (name : String) (router : Router) (s : Service) (operation : Operation)
      (net : Net),
      Reaches (step access) (fun s event => s.foreign access name event = true) (start router) s →
        s.foreign access name (.call operation net) = true →
          s.LeavesAlone access name operation net := by
  intro hclaim
  let net := showingEntries [ownersTunnel "10.8.0.2"]
  have hfacts : (start twoPresent).foreign sampleAccess "Wireguard2"
        (.call (.createAwgConnection sampleConfigText) net) = true ∧
      ((start twoPresent).run sampleAccess (.createAwgConnection sampleConfigText) net).2.exchanges.any
        (fun e => e.request.touches "Wireguard2") = true := by
    decide +kernel
  obtain ⟨hforeign, htouched⟩ := hfacts
  have halone := hclaim sampleAccess "Wireguard2" twoPresent (start twoPresent)
    (.createAwgConnection sampleConfigText) net .refl hforeign
  obtain ⟨e, he, htouches⟩ := List.any_eq_true.mp htouched
  rw [halone.untouched e he] at htouches
  cases htouches

/-- The same setup takes down and deletes the other Router1 tunnel and leaves the owner's alone. -/
theorem owners_tunnel_left_alone :
    ∃ s, Reaches (step sampleAccess) (fun s event => s.foreign sampleAccess "Wireguard2" event = true ∧
        s.unmatched sampleAccess "Wireguard2" event = true) (start twoPresent) s ∧
      s.LeavesAlone sampleAccess "Wireguard2" (.createAwgConnection sampleConfigText) besideOwners := by
  have hfacts : (start twoPresent).foreign sampleAccess "Wireguard2"
        (.call (.createAwgConnection sampleConfigText) besideOwners) = true ∧
      (start twoPresent).unmatched sampleAccess "Wireguard2"
        (.call (.createAwgConnection sampleConfigText) besideOwners) = true := by
    decide +kernel
  exact ⟨start twoPresent, .refl, foreign_left_alone twoPresent .refl hfacts.1 hfacts.2⟩

end Service

end Keenetic
