import Router1.Keenetic.Records
import Router1.Remote.Runs

/-!
# The record of the standby

Five operations read and write the two records of a router. The calls come one after the other, each
with whatever the router answers to it, and in between the owner of the router removes interfaces.

Beside the records and the router a `Service` keeps which interfaces its own requests have deleted, and
whether the last call has returned normally.
-/

namespace Keenetic

open Dart Api Remote

inductive Operation where
  | createAwgConnection (configText : String)
  | installStandbyAwgConfig (configText : String)
  | attachAndCheckExistingTunnel
  | switchToStandbyTunnel (routing : RouterRoutingProfile) (profile : Option Router1RouteProfile)
  | setSelectedTunnelEnabled (enabled : Bool)

def Operation.program (access : KeeneticAccess) : Operation → Rci Unit
  | createAwgConnection configText => Keenetic.createAwgConnection access configText
  | installStandbyAwgConfig configText => do let _ ← Keenetic.installStandbyAwgConfig access configText
  | attachAndCheckExistingTunnel => do let _ ← Keenetic.attachAndCheckExistingTunnel access
  | switchToStandbyTunnel routing profile => do
      let _ ← Keenetic.switchToStandbyTunnel access routing profile
  | setSelectedTunnelEnabled enabled => Keenetic.setSelectedTunnelEnabled access enabled

/-- The interfaces that requests have deleted and no import has made again. -/
def deletedAfter (deleted : String → Bool) (es : List Exchange) : String → Bool :=
  es.foldl (fun deleted e name =>
    (deleted name || e.deleted? == some name) && e.created? != some name) deleted

structure Service where
  session : Session
  router : Router
  deleted : String → Bool
  returned : Bool

inductive ServiceEvent where
  | call (operation : Operation) (net : Net)
  | ownerRemoves (name : String)

namespace Service

variable (access : KeeneticAccess)

/-- Nothing is recorded yet. -/
def start (router : Router) : Service where
  session := ⟨fun _ => none, fun _ => none, [], []⟩
  router := router
  deleted _ := false
  returned := false

/-- A call, with the exchanges and lookups counted anew. -/
def run (s : Service) (operation : Operation) (net : Net) : Except Failure Unit × Session :=
  (operation.program access).run net.handle { s.session with exchanges := [], lookups := [] }

def step (s : Service) : ServiceEvent → Option Service
  | .call operation net =>
      let (result, session) := s.run access operation net
      some
        { session := session
          router := s.router.after session.exchanges
          deleted := deletedAfter s.deleted session.exchanges
          returned := result.toOption.isSome }
  | .ownerRemoves name =>
      some { s with
        router := { s.router with present := fun other => s.router.present other && other != name } }

def selected (s : Service) : Option String := s.session.selectedInterfaceByHost access.ip

def standby (s : Service) : Option String := s.session.standbyInterfaceByHost access.ip

/-- The standby is another interface than the selected one, and the service has not deleted it. -/
def Usable (s : Service) : Prop :=
  ∀ selected standby, s.selected access = some selected → s.standby access = some standby →
    selected ≠ standby ∧ s.deleted standby = false

/-- A table lists interfaces that are on the router. No call reads one after it has made or deleted an
interface. -/
def truthful (s : Service) : ServiceEvent → Bool
  | .call operation net =>
      (tablesOf (s.run access operation net).2.exchanges).all fun entries =>
        entries.all fun entry => s.router.present entry.1
  | .ownerRemoves _ => true

/-- The condition on a call. A setup is not given the recorded standby to select, and where it finds it
among the other Router1 tunnels, which it deletes, it gets no handshake. An attachment that finds one
tunnel alone does not find the recorded standby. A switch starts from a tunnel the service has not
deleted, or gets no handshake, and a request of it to save is not refused. -/
def careful (s : Service) : ServiceEvent → Bool
  | .call (.createAwgConnection configText) net =>
      let es := (s.run access (.createAwgConnection configText) net).2.exchanges
      match s.standby access, parseConfig configText with
      | some standby, .ok config =>
          (es.all fun e => e.created? != some standby) &&
            (tablesOf es).all fun entries =>
              findMatchingWireGuardInterface entries config != some standby &&
                (!(router1Candidates entries).contains standby || es.all fun e => !e.showsHandshake)
      | _, _ => true
  | .call .attachAndCheckExistingTunnel net =>
      match s.standby access with
      | some standby =>
          (tablesOf (s.run access .attachAndCheckExistingTunnel net).2.exchanges).all fun entries =>
            preferredCandidate entries != some standby ||
              (router1Candidates entries).any fun name => name != standby
      | none => true
  | .call (.switchToStandbyTunnel routing profile) net =>
      let es := (s.run access (.switchToStandbyTunnel routing profile) net).2.exchanges
      (match s.selected access with
        | some selected => !s.deleted selected || es.all fun e => !e.showsHandshake
        | none => true) &&
        es.all fun e => e.request != .save || !e.refused
  | _ => true

end Service

/-! ### Deleted interfaces -/

variable {net : Net} {s t m : Session} {es : List Exchange} {name : String} {deleted : String → Bool}

theorem deletedAfter_cons (deleted : String → Bool) (e : Exchange) (es : List Exchange) :
    deletedAfter deleted (e :: es) = deletedAfter (fun name =>
      (deleted name || e.deleted? == some name) && e.created? != some name) es := rfl

/-- An interface is not deleted when no request deletes it and it was not deleted before, or was made
again. -/
theorem deletedAfter_eq_false (hes : ∀ e ∈ es, e.deleted? ≠ some name)
    (h : deleted name = false ∨ ∃ e ∈ es, e.created? = some name) :
    deletedAfter deleted es name = false := by
  induction es generalizing deleted with
  | nil =>
      obtain hdeleted | ⟨e, he, -⟩ := h
      · exact hdeleted
      · cases he
  | cons e es ih =>
      rw [deletedAfter_cons]
      have hkept : e.deleted? ≠ some name := hes e List.mem_cons_self
      apply ih fun other hother => hes other (List.mem_cons_of_mem e hother)
      obtain hdeleted | ⟨found, hfound, hcreated⟩ := h
      · exact .inl (by simp [hdeleted, hkept])
      · rcases List.mem_cons.mp hfound with rfl | hfound
        · exact .inl (by simp [hcreated])
        · exact .inr ⟨found, hfound, hcreated⟩

theorem absent_of_deletedAfter {ρ : Router}
    (h : ∀ name, deleted name = true → ρ.present name = false) (name : String)
    (hdeleted : deletedAfter deleted es name = true) : (ρ.after es).present name = false := by
  induction es generalizing deleted ρ with
  | nil => exact h name hdeleted
  | cons e es ih =>
      rw [deletedAfter_cons] at hdeleted
      rw [Router.after_cons]
      refine ih (fun other hother => ?_) hdeleted
      simp only [Bool.and_eq_true, Bool.or_eq_true, beq_iff_eq, bne_iff_ne] at hother
      obtain ⟨hgone, hcreated⟩ := hother
      obtain hbefore | hnow := hgone
      · simp [Router.step, h other hbefore, hcreated]
      · simp [Router.step, hnow]

theorem deleted_ne_of_request {e : Exchange} (h : e.request ≠ .deleteInterface name) :
    e.deleted? ≠ some name := by
  rw [Exchange.deleted?]
  split
  · next other hrequest =>
      split
      · intro heq
        rw [hrequest, Option.some.inj heq] at h
        exact h rfl
      · exact (Option.some_ne_none name).symm
  · exact (Option.some_ne_none name).symm

/-! ### One call -/

/-- The standby that is recorded for a host is not the selected interface, and is not deleted. -/
def Session.Fit (host : String) (deleted : String → Bool) (s : Session) : Prop :=
  ∀ standby, s.standbyInterfaceByHost host = some standby →
    s.selectedInterfaceByHost host ≠ some standby ∧ deleted standby = false

theorem deletedAfter_of_spares (h : ∀ e ∈ es, e.request.Spares) (hname : deleted name = false) :
    deletedAfter deleted es name = false :=
  deletedAfter_eq_false (fun e he => deleted_ne_of_request (h e he name)) (.inl hname)

theorem fit_of_sameRecords {host : String} (hfit : s.Fit host deleted) (hsame : s.SameRecords t)
    (hspares : ∀ e ∈ s.since t, e.request.Spares) : t.Fit host (deletedAfter deleted (s.since t)) := by
  intro standby hstandby
  rw [hsame.standby] at hstandby
  obtain ⟨hne, hkept⟩ := hfit standby hstandby
  rw [hsame.selected]
  exact ⟨hne, deletedAfter_of_spares hspares hkept⟩

theorem mem_candidates_of_mem_competing {entries : List (String × Json)} {selected : String}
    (h : name ∈ findCompetingWireGuardInterfaces entries selected) : name ∈ router1Candidates entries := by
  obtain ⟨entry, hentry, rfl⟩ := List.mem_map.mp h
  obtain ⟨hmem, hcompetes⟩ := List.mem_filter.mp hentry
  simp only [Bool.and_eq_true] at hcompetes
  obtain ⟨⟨-, hname⟩, hendpoint⟩ := hcompetes
  refine List.mem_map.mpr ⟨entry, List.mem_filter.mpr ⟨hmem, ?_⟩, rfl⟩
  rw [hname, hendpoint]
  rfl

theorem fit_of_attach {result : Except Failure TunnelStatus}
    (h : (attachAndCheckExistingTunnel access).run net.handle s = (result, t))
    (hfit : s.Fit access.ip deleted)
    (hlisted : ∀ entries ∈ tablesOf (s.since t), ∀ entry ∈ entries, deleted entry.1 = false)
    (hcareful : ∀ standby, s.standbyInterfaceByHost access.ip = some standby →
      ∀ entries ∈ tablesOf (s.since t), preferredCandidate entries = some standby →
        ∃ name ∈ router1Candidates entries, name ≠ standby) :
    t.Fit access.ip (deletedAfter deleted (s.since t)) := by
  have hspares : ∀ e ∈ s.since t, e.request.Spares := requests_of_sends (spares_attach access) h
  obtain hsame | ⟨entries, hread, chosen, hchosen, hselected, hrecord⟩ := records_of_attach h
  · exact fit_of_sameRecords hfit hsame hspares
  intro standby hstandby
  have hown : t.selectedInterfaceByHost access.ip = some chosen := by
    rw [hselected]
    exact if_pos rfl
  rw [hown]
  cases hother : (router1Candidates entries).find? fun name => name != chosen with
  | some other =>
      -- the standby is the one that was found, and the table lists it
      rw [hrecord, hother] at hstandby
      obtain rfl : other = standby := by simpa using hstandby
      have hne : other ≠ chosen := by simpa using List.find?_some hother
      obtain ⟨entry, hentry, rfl⟩ := List.mem_map.mp (List.mem_of_find?_eq_some hother)
      refine ⟨fun heq => hne (Option.some.inj heq).symm, ?_⟩
      exact deletedAfter_of_spares hspares
        (hlisted entries hread entry (List.mem_of_mem_filter hentry))
  | none =>
      rw [hrecord, hother] at hstandby
      refine ⟨fun heq => ?_, deletedAfter_of_spares hspares (hfit standby hstandby).2⟩
      rw [heq] at hchosen
      obtain ⟨name, hname, hne⟩ := hcareful standby hstandby entries hread hchosen
      have hnone := List.find?_eq_none.mp hother name hname
      rw [Option.some.inj heq] at hnone
      simp [hne] at hnone

theorem fit_of_install {result : Except Failure String}
    (h : (installStandbyAwgConfig access configText).run net.handle s = (result, t))
    (hfit : s.Fit access.ip deleted)
    (hlisted : ∀ entries ∈ tablesOf (s.since t), ∀ entry ∈ entries, deleted entry.1 = false) :
    t.Fit access.ip (deletedAfter deleted (s.since t)) := by
  have hspares : ∀ e ∈ s.since t, e.request.Spares :=
    requests_of_sends (spares_installStandbyAwgConfig access configText) h
  obtain hsame | ⟨config, entries, chosen, b, hchosen, hbt, hne, hselected, hrecord⟩ :=
    records_of_install h
  · exact fit_of_sameRecords hfit hsame hspares
  intro standby hstandby
  obtain rfl : chosen = standby := by simpa [hrecord] using hstandby
  rw [hselected]
  refine ⟨hne, ?_⟩
  have hsince := since_trans hchosen.prefixed hbt
  obtain hfound | ⟨e, he, hcreated⟩ := hchosen.found
  · have hread := hchosen.read_of_prefix hbt
    obtain ⟨value, hvalue⟩ := mem_of_findMatching hfound
    exact deletedAfter_of_spares hspares (hlisted entries hread _ hvalue)
  · refine deletedAfter_eq_false (fun e he => deleted_ne_of_request (hspares e he _)) (.inr ⟨e, ?_, hcreated⟩)
    rw [hsince]
    exact List.mem_append_left _ he

theorem fit_of_create {result : Except Failure Unit}
    (h : (createAwgConnection access configText).run net.handle s = (result, t))
    (hfit : s.Fit access.ip deleted)
    (hcareful : ∀ standby config, s.standbyInterfaceByHost access.ip = some standby →
      parseConfig configText = .ok config →
        (∀ e ∈ s.since t, e.created? ≠ some standby) ∧
          ∀ entries ∈ tablesOf (s.since t),
            findMatchingWireGuardInterface entries config ≠ some standby ∧
              (standby ∉ router1Candidates entries ∨ ∀ e ∈ s.since t, e.showsHandshake = false)) :
    t.Fit access.ip (deletedAfter deleted (s.since t)) := by
  obtain ⟨hsame, hspares⟩ | ⟨config, entries, chosen, b, hchosen, hbt, hselected, hrecord, hdeletes⟩ :=
    records_of_create h
  · exact fit_of_sameRecords hfit hsame hspares
  intro standby hstandby
  rw [hrecord] at hstandby
  have hsince := since_trans hchosen.prefixed hbt
  have hread := hchosen.read_of_prefix hbt
  obtain ⟨hnew, htables⟩ := hcareful standby config hstandby hchosen.parsed
  obtain ⟨hunmatched, huncontested⟩ := htables entries hread
  have hne : chosen ≠ standby := by
    rintro rfl
    obtain hfound | ⟨e, he, hcreated⟩ := hchosen.found
    · exact hunmatched hfound
    · exact hnew e (by simp [hsince, he]) hcreated
  refine ⟨?_, ?_⟩
  · rw [hselected]
    simpa using hne
  · refine deletedAfter_eq_false (fun e he => deleted_ne_of_request fun hrequest => ?_)
      (.inl (hfit standby hstandby).2)
    obtain heq | ⟨hmem, shown, hshown, hhandshake⟩ := hdeletes e he standby hrequest
    · exact hne heq.symm
    · obtain habsent | hsilent := huncontested
      · exact habsent (mem_candidates_of_mem_competing hmem)
      · rw [hsilent shown hshown] at hhandshake
        cases hhandshake

theorem fit_of_switch {result : Except Failure TunnelStatus}
    (h : (switchToStandbyTunnel access routing profile).run net.handle s = (result, t))
    (hfit : s.Fit access.ip deleted)
    (hcareful : ∀ selected, s.selectedInterfaceByHost access.ip = some selected →
      deleted selected = false ∨ ∀ e ∈ s.since t, e.showsHandshake = false)
    (hsaved : ∀ e ∈ s.since t, e.request = .save → e.refused = false) :
    t.Fit access.ip (deletedAfter deleted (s.since t)) := by
  have hspares : ∀ e ∈ s.since t, e.request.Spares :=
    requests_of_sends (spares_switchToStandbyTunnel access routing profile) h
  obtain ⟨hselected, hrecord⟩ | ⟨current, standby, hcurrent, -, hne, hselected, hrecord, e, he, hshown⟩ :=
    records_of_switch h hsaved
  · intro standby hstandby
    rw [hrecord] at hstandby
    obtain ⟨hne, hkept⟩ := hfit standby hstandby
    rw [hselected]
    exact ⟨hne, deletedAfter_of_spares hspares hkept⟩
  · intro other hother
    obtain rfl : current = other := Option.some.inj (hrecord.symm.trans hother)
    rw [hselected]
    refine ⟨fun heq => hne (Option.some.inj heq).symm, deletedAfter_of_spares hspares ?_⟩
    obtain hkept | hsilent := hcareful current hcurrent
    · exact hkept
    · rw [hsilent e he] at hshown
      cases hshown

theorem fit_of_setSelectedTunnelEnabled {enabled : Bool} {result : Except Failure Unit}
    (h : (setSelectedTunnelEnabled access enabled).run net.handle s = (result, t))
    (hfit : s.Fit access.ip deleted) : t.Fit access.ip (deletedAfter deleted (s.since t)) := by
  have hasks := spares_setSelectedTunnelEnabled access enabled
  exact fit_of_sameRecords hfit (sameRecords_of_asks hasks h) (hasks.run h).requests

/-! ### Every run -/

namespace Service

/-- What every allowed event keeps. -/
structure Sound (access : KeeneticAccess) (s : Service) : Prop where
  fit : s.session.Fit access.ip s.deleted
  absent : ∀ name, s.deleted name = true → s.router.present name = false

variable {s t : Service}

theorem sound_start (access : KeeneticAccess) (router : Router) : (start router).Sound access :=
  ⟨nofun, nofun⟩

theorem Sound.usable (h : s.Sound access) : s.Usable access := by
  intro selected standby hselected hstandby
  obtain ⟨hne, hkept⟩ := h.fit standby hstandby
  refine ⟨fun heq => hne ?_, hkept⟩
  rw [← heq]
  exact hselected

theorem Sound.listed (h : s.Sound access) {operation : Operation} {net : Net}
    (htruthful : s.truthful access (.call operation net) = true) :
    ∀ entries ∈ tablesOf (s.run access operation net).2.exchanges, ∀ entry ∈ entries,
      s.deleted entry.1 = false := by
  intro entries hentries entry hentry
  have hpresent : s.router.present entry.1 = true := by
    simp only [truthful, List.all_eq_true] at htruthful
    exact htruthful entries hentries entry hentry
  by_contra hdeleted
  rw [h.absent entry.1 (by simpa using hdeleted)] at hpresent
  cases hpresent

theorem run_of_discarded {α : Type} {p : Rci α} {net : Net} {session final : Session}
    {result : Except Failure Unit}
    (h : (do let _ ← p : Rci Unit).run net.handle session = (result, final)) :
    ∃ value, p.run net.handle session = (value, final) := by
  obtain ⟨error, hfailed⟩ | ⟨value, m, hrun, hrest⟩ := Program.run_bind_cases h
  · exact ⟨_, hfailed⟩
  · cases hrest
    exact ⟨_, hrun⟩

theorem fit_of_call (h : s.Sound access) {operation : Operation} {net : Net}
    (htruthful : s.truthful access (.call operation net) = true)
    (hcareful : s.careful access (.call operation net) = true) :
    (s.run access operation net).2.Fit access.ip
      (deletedAfter s.deleted (s.run access operation net).2.exchanges) := by
  have hfit : Session.Fit access.ip s.deleted { s.session with exchanges := [], lookups := [] } := h.fit
  have hlisted := h.listed htruthful
  rcases hrun : s.run access operation net with ⟨result, final⟩
  rw [hrun] at hlisted
  cases operation with
  | createAwgConnection configText =>
      refine fit_of_create hrun hfit fun standby config hstandby hparse => ?_
      have hstandby' : s.standby access = some standby := hstandby
      simp only [careful, hrun, hstandby', hparse, Bool.and_eq_true, List.all_eq_true, bne_iff_ne,
        Bool.or_eq_true, Bool.not_eq_true', List.contains_eq_mem, decide_eq_false_iff_not] at hcareful
      exact hcareful
  | installStandbyAwgConfig configText =>
      obtain ⟨value, hrun⟩ := run_of_discarded hrun
      exact fit_of_install hrun hfit hlisted
  | attachAndCheckExistingTunnel =>
      obtain ⟨value, hrun'⟩ := run_of_discarded hrun
      refine fit_of_attach hrun' hfit hlisted fun standby hstandby entries hentries hpreferred => ?_
      have hstandby' : s.standby access = some standby := hstandby
      simp only [careful, hrun, hstandby', List.all_eq_true, Bool.or_eq_true, bne_iff_ne,
        List.any_eq_true] at hcareful
      exact (hcareful entries hentries).resolve_left fun hne => hne hpreferred
  | switchToStandbyTunnel routing profile =>
      obtain ⟨value, hrun'⟩ := run_of_discarded hrun
      simp only [careful, hrun, Bool.and_eq_true, List.all_eq_true, Bool.or_eq_true, bne_iff_ne,
        Bool.not_eq_true'] at hcareful
      obtain ⟨hfrom, hsave⟩ := hcareful
      refine fit_of_switch hrun' hfit (fun selected hselected => ?_) fun e he hrequest => ?_
      · have hselected' : s.selected access = some selected := hselected
        simp only [hselected', Bool.or_eq_true, Bool.not_eq_true', List.all_eq_true] at hfrom
        exact hfrom
      · exact (hsave e he).resolve_left fun hne => hne hrequest
  | setSelectedTunnelEnabled enabled => exact fit_of_setSelectedTunnelEnabled hrun hfit

theorem Sound.step (h : s.Sound access) {event : ServiceEvent}
    (htruthful : s.truthful access event = true) (hcareful : s.careful access event = true)
    (hstep : s.step access event = some t) : t.Sound access := by
  cases event with
  | call operation net =>
      cases hstep
      exact ⟨fit_of_call h htruthful hcareful, fun name hname => absent_of_deletedAfter h.absent name hname⟩
  | ownerRemoves name =>
      cases hstep
      refine ⟨h.fit, fun other hother => ?_⟩
      dsimp only
      rw [h.absent other hother]
      rfl

/-- The standby stays usable in every run whose calls are all careful, also where a call throws. -/
theorem standby_usable (router : Router)
    (h : Reaches (step access) (fun s event => s.truthful access event = true ∧
      s.careful access event = true) (start router) s) : s.Usable access := by
  have hsound : s.Sound access :=
    h.invariant (fun s event t hs hallowed hstep => hs.step hallowed.1 hallowed.2 hstep)
      (sound_start access router)
  exact hsound.usable

def tunnelTable (tunnels : List (String × String)) : Json :=
  .obj (tunnels.map fun tunnel =>
    (tunnel.1, .obj [("state", .str "up"), ("remote-endpoint-address", .str tunnel.2)]))

/-- The first attempt reads the table, every later one finds the handshake. -/
def showingTable (tunnels : List (String × String)) : Net where
  answers k := responds 200 (.json (if k = 0 then tunnelTable tunnels else freshTunnel))
  lookups _ := none

def twoPresent : Router where
  present name := name == "Wireguard0" || name == "Wireguard1"
  up _ := true
  routing := .empty

def attachedBoth : ServiceEvent :=
  .call .attachAndCheckExistingTunnel
    (showingTable [("Wireguard0", "213.176.93.13"), ("Wireguard1", "201.51.23.60")])

/-- Both tunnels are found, and the service switches from one to the other. -/
def attachedAndSwitched : List ServiceEvent :=
  [attachedBoth, .call (.switchToStandbyTunnel .fullTunnel none) (showingTable [])]

theorem standby_usable_after_switch :
    ∃ s, runEvents (step sampleAccess) (start twoPresent) attachedAndSwitched = some s ∧
      s.returned = true ∧ s.Usable sampleAccess := by
  have hreturned : (runEvents (step sampleAccess) (start twoPresent) attachedAndSwitched).map returned
      = some true := by
    decide +kernel
  obtain ⟨s, hrun, hs⟩ := Option.map_eq_some_iff.mp hreturned
  have hcareful : AllAllowed (step sampleAccess) (fun s event => s.truthful sampleAccess event = true ∧
      s.careful sampleAccess event = true) (start twoPresent) attachedAndSwitched := by
    decide +kernel
  exact ⟨s, hrun, hs, standby_usable twoPresent (reaches_of_runEvents attachedAndSwitched hcareful hrun)⟩

/-- The owner removes the selected tunnel, and the service attaches to the one that is left. -/
def attachedAgain : List ServiceEvent :=
  [attachedBoth, .ownerRemoves "Wireguard0",
    .call .attachAndCheckExistingTunnel (showingTable [("Wireguard1", "201.51.23.60")])]

theorem standby_selected_too :
    ¬∀ (access : KeeneticAccess) (router : Router) (s : Service),
      Reaches (step access) (fun s event => s.truthful access event = true) (start router) s →
        s.returned = true → s.Usable access := by
  intro hclaim
  have hsummary : (runEvents (step sampleAccess) (start twoPresent) attachedAgain).map
      (fun s => (s.returned, s.selected sampleAccess, s.standby sampleAccess))
        = some (true, some "Wireguard1", some "Wireguard1") := by
    decide +kernel
  obtain ⟨s, hrun, hs⟩ := Option.map_eq_some_iff.mp hsummary
  simp only [Prod.mk.injEq] at hs
  obtain ⟨hreturned, hselected, hstandby⟩ := hs
  have htruthful : AllAllowed (step sampleAccess) (fun s event => s.truthful sampleAccess event = true)
      (start twoPresent) attachedAgain := by
    decide +kernel
  have husable : s.Usable sampleAccess := hclaim sampleAccess twoPresent s
    (reaches_of_runEvents attachedAgain htruthful hrun) hreturned
  exact (husable _ _ hselected hstandby).1 rfl

end Service

end Keenetic
