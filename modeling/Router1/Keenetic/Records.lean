import Router1.Keenetic.Rollback
import Router1.Keenetic.Switching

/-!
# What the operations write down

The service keeps two names for a router, that of the selected tunnel and that of the standby. Each of
the operations that write them looks only at the part it needs: a setup selects a tunnel and deletes its
competitors, an attachment selects a tunnel and names another one as the standby if there is one, a
switch exchanges the two. For each of them this says which names it can have written, whatever the
router answers, and which interfaces it can have asked to delete.
-/

namespace Keenetic

open Dart Api Remote
open Remote.Program (Calls)

/-- The tables that were read, each as the list of its entries. -/
def tablesOf (es : List Exchange) : List (List (String × Json)) :=
  es.filterMap fun e =>
    match e.request, e.json? with
    | .showInterfaces, some (.obj entries) => some entries
    | _, _ => none

/-! ### What an attempt ends with -/

/-- What `_postRci` makes of an answer that is not a success. -/
def Exchange.failure? (e : Exchange) : Option Failure :=
  match e.answer.reply with
  | .ok response =>
      if response.isSuccess then none
      else if response.statusCode = 401 ∨ response.statusCode = 403 then
        some (.notAuthorised response.statusCode e.request.path)
      else some (.httpStatus response.statusCode e.request.path)
  | .error cause => some cause.failure

/-- The attempt failed for good: it is not repeated, and a save that ends so throws. -/
def Exchange.refused (e : Exchange) : Bool :=
  match e.failure? with
  | some error => !error.isTransient
  | none => false

/-- The attempt was answered with a tunnel that has a handshake. -/
def Exchange.showsHandshake (e : Exchange) : Bool :=
  match e.request, e.json? with
  | .showInterface name, some value =>
      match tunnelStatusOf name value with
      | .ok status => status.handshakeOk
      | .error _ => false
  | _, _ => false

variable {net : Net} {s t m : Session} {es : List Exchange} {name : String}

/-! ### Requests of programs that write records -/

/-- A call with a request in `R` when it is an exchange, whatever it does to the records. -/
def Call.Sends (R : Request → Prop) : Call → Prop
  | .exchange request => R request
  | _ => True

theorem requests_of_sends {α : Type} {R : Request → Prop} {p : Rci α} (hp : p.Calls (Call.Sends R))
    {result : Except Failure α} (h : p.run net.handle s = (result, t)) :
    ∀ e ∈ s.since t, R e.request := by
  have hinv : s.exchanges <+: (p.run net.handle s).2.exchanges ∧
      ∀ e ∈ s.since (p.run net.handle s).2, R e.request := by
    refine Calls.run_invariant
      (I := fun t : Session => s.exchanges <+: t.exchanges ∧ ∀ e ∈ s.since t, R e.request) hp
      (fun op t hop ht => ?_) ⟨List.prefix_rfl, by simp [since_self]⟩
    cases op with
    | exchange request =>
        refine ⟨ht.1.trans (List.prefix_append _ _), fun e he => ?_⟩
        rw [since_exchange ht.1] at he
        rcases List.mem_append.mp he with he | he
        · exact ht.2 e he
        · rw [List.mem_singleton.mp he]
          exact hop
    | lookup | selected | setSelected | standby | setStandby => exact ht
  rw [h] at hinv
  exact hinv.2

theorem sends_of_asks {α : Type} {R : Request → Prop} {p : Rci α} (h : Asks R p) :
    p.Calls (Call.Sends R) := by
  refine Calls.mono h fun op hop => ?_
  cases op with
  | exchange request => exact hop
  | lookup | selected | setSelected | standby | setStandby => trivial

/-- A request that deletes nothing. -/
def Request.Spares (request : Request) : Prop := ∀ name, request ≠ .deleteInterface name

theorem mem_tablesOf {entries : List (String × Json)} :
    entries ∈ tablesOf es ↔
      ∃ e ∈ es, e.request = .showInterfaces ∧ e.json? = some (.obj entries) := by
  simp only [tablesOf, List.mem_filterMap]
  constructor
  · rintro ⟨e, he, hread⟩
    refine ⟨e, he, ?_⟩
    split at hread
    · next hrequest hjson =>
        cases hread
        exact ⟨hrequest, hjson⟩
    · cases hread
  · rintro ⟨e, he, hrequest, hjson⟩
    exact ⟨e, he, by simp [hrequest, hjson]⟩

/-! ### What each operation does to the records -/

variable {access : KeeneticAccess} {configText : String}

/-- The two records are as before. -/
structure Session.SameRecords (s t : Session) : Prop where
  selected : t.selectedInterfaceByHost = s.selectedInterfaceByHost
  standby : t.standbyInterfaceByHost = s.standbyInterfaceByHost

theorem sameRecords_of_asks {α : Type} {R : Request → Prop} {p : Rci α} (hp : Asks R p)
    {result : Except Failure α} (h : p.run net.handle s = (result, t)) : s.SameRecords t :=
  ⟨(hp.run h).selected, (hp.run h).standby⟩

theorem sameRecords_of_getJson {request : Request} {result : Except Failure Json}
    (h : (getJson request).run net.handle s = (result, t)) : s.SameRecords t := by
  have hasks : Asks (fun _ => True) (getJson request) := calls_getJson trivial
  exact sameRecords_of_asks hasks h

/-- A table that was read, seen from a session before and one after. -/
theorem mem_tablesOf_of_read {entries : List (String × Json)} {a : Session}
    (h : (getJson .showInterfaces).run net.handle s = (.ok (.obj entries), a))
    (hat : a.exchanges <+: t.exchanges) : entries ∈ tablesOf (s.since t) := by
  obtain ⟨⟨e, he, hrequest, hjson⟩, -⟩ := run_getJson_ok h
  refine mem_tablesOf.mpr ⟨e, ?_, hrequest, hjson⟩
  rw [since_trans (prefix_of_run h) hat]
  exact List.mem_append_left _ he

/-- An attachment writes nothing, or it has read a table and chosen from it. -/
theorem records_of_attach {result : Except Failure TunnelStatus}
    (h : (attachAndCheckExistingTunnel access).run net.handle s = (result, t)) :
    s.SameRecords t ∨
      ∃ entries ∈ tablesOf (s.since t), ∃ chosen, preferredCandidate entries = some chosen ∧
        t.selectedInterfaceByHost = Function.update s.selectedInterfaceByHost access.ip (some chosen) ∧
        t.standbyInterfaceByHost =
          match (router1Candidates entries).find? fun name => name != chosen with
          | some other => Function.update s.standbyInterfaceByHost access.ip (some other)
          | none => s.standbyInterfaceByHost := by
  unfold attachAndCheckExistingTunnel at h
  rcases hread : (getJson .showInterfaces).run net.handle s with ⟨error | value, a⟩
  · rw [Program.run_bind, hread] at h
    cases h
    exact .inl (sameRecords_of_getJson hread)
  · rw [Program.run_bind_of_ok hread] at h
    have hsame := sameRecords_of_getJson hread
    cases value with
    | null | bool | int | double | str | arr =>
        cases h
        exact .inl hsame
    | obj entries =>
        dsimp only at h
        split at h
        · cases h
          exact .inl hsame
        · next chosen hchosen =>
            rw [Program.run_bind_of_ok (run_setSelectedInterface access.ip chosen a)] at h
            have hasks : Asks (fun _ => True) (readTunnelStatus chosen) :=
              calls_readTunnelStatus trivial
            split at h
            · next other hother =>
                rw [Program.run_bind_of_ok (run_setStandbyInterface access.ip other _)] at h
                have hasked := hasks.run h
                refine .inr ⟨entries, mem_tablesOf_of_read hread hasked.prefixed, chosen, hchosen,
                  ?_, ?_⟩
                · rw [hasked.selected, hsame.selected]
                · rw [hasked.standby, hsame.standby, hother]
            · next hnone =>
                have hasked := hasks.run h
                refine .inr ⟨entries, mem_tablesOf_of_read hread hasked.prefixed, chosen, hchosen,
                  ?_, ?_⟩
                · rw [hasked.selected, hsame.selected]
                · rw [hasked.standby, hsame.standby, hnone]

theorem mem_of_findMatching {entries : List (String × Json)} {config : ParsedAwgConfig}
    (h : findMatchingWireGuardInterface entries config = some name) :
    ∃ value, (name, value) ∈ entries := by
  unfold findMatchingWireGuardInterface at h
  split at h
  · obtain ⟨⟨found, value⟩, hfound, rfl⟩ := Option.map_eq_some_iff.mp h
    exact ⟨value, List.mem_of_find?_eq_some hfound⟩
  · cases h

theorem asks_foundOrImported {R : Request → Prop} (found : Option String) (configText : String)
    (config : ParsedAwgConfig) (himport : R (.importConfig configText (importFilename config))) :
    Asks R (foundOrImported found configText config) := by
  cases found with
  | some name => trivial
  | none =>
      have hexchange : Asks R (exchange (.importConfig configText (importFilename config))) :=
        calls_exchange (P := Call.Asks R) himport
      refine hexchange.bind fun reply => ?_
      rcases reply with cause | response
      · cases cause with
        | timeout | socket | http | other => trivial
      · dsimp only
        split_ifs
        · refine Asks.bind (calls_jsonDecode _) fun value => ?_
          cases value with
          | null | bool | int | double | str | arr => trivial
          | obj fields =>
              dsimp only
              split
              · trivial
              · trivial
              · trivial
        · trivial

/-- The common beginning of a setup and of the installation of a standby: the config is parsed, the table
read and the interface found in it or imported. -/
def choosing {α : Type} (refusal : Failure) (configText : String)
    (rest : ParsedAwgConfig → List (String × Json) → String → Rci α) : Rci α := do
  let config ← Program.ofExcept (parseConfig configText)
  match ← getJson .showInterfaces with
  | .obj entries =>
      let chosen ← foundOrImported (findMatchingWireGuardInterface entries config) configText config
      rest config entries chosen
  | _ => throw refusal

/-- How far the beginning has come when it has chosen an interface. -/
structure Session.Chosen (configText : String) (config : ParsedAwgConfig)
    (entries : List (String × Json)) (chosen : String) (s b : Session) : Prop where
  parsed : parseConfig configText = .ok config
  prefixed : s.exchanges <+: b.exchanges
  read : entries ∈ tablesOf (s.since b)
  sameRecords : s.SameRecords b
  spares : ∀ e ∈ s.since b, e.request.Spares
  found : findMatchingWireGuardInterface entries config = some chosen ∨
    ∃ e ∈ s.since b, e.created? = some chosen

theorem Session.Chosen.read_of_prefix {config : ParsedAwgConfig} {entries : List (String × Json)}
    {chosen : String} {b : Session} (h : s.Chosen configText config entries chosen b)
    (hbt : b.exchanges <+: t.exchanges) : entries ∈ tablesOf (s.since t) := by
  obtain ⟨e, he, hshow⟩ := mem_tablesOf.mp h.read
  refine mem_tablesOf.mpr ⟨e, ?_, hshow⟩
  rw [since_trans h.prefixed hbt]
  exact List.mem_append_left _ he

/-- Whatever is true of reading the table and of importing a config is true of the beginning. -/
theorem run_choosing {α : Type} {R : Request → Prop} {refusal : Failure}
    {rest : ParsedAwgConfig → List (String × Json) → String → Rci α} {result : Except Failure α}
    (hshow : R .showInterfaces) (himport : ∀ filename, R (.importConfig configText filename))
    (h : (choosing refusal configText rest).run net.handle s = (result, t)) :
    (s.SameRecords t ∧ ∀ e ∈ s.since t, e.request.Spares ∧ R e.request) ∨
      ∃ config entries chosen b, s.Chosen configText config entries chosen b ∧
        (∀ e ∈ s.since b, R e.request) ∧
        (rest config entries chosen).run net.handle b = (result, t) := by
  let sent (request : Request) : Prop := request.Spares ∧ R request
  unfold choosing at h
  rcases hparse : parseConfig configText with error | config
  · rw [hparse] at h
    cases h
    exact .inl ⟨⟨rfl, rfl⟩, by simp [since_self]⟩
  have hconfig : (Program.ofExcept (parseConfig configText) : Rci ParsedAwgConfig).run net.handle s
      = (.ok config, s) := by rw [hparse, Program.run_ofExcept]
  rw [Program.run_bind_of_ok hconfig] at h
  have hreads : Asks sent (getJson .showInterfaces) :=
    calls_getJson (P := Call.Asks sent) ⟨nofun, hshow⟩
  rcases hread : (getJson .showInterfaces).run net.handle s with ⟨error | value, a⟩
  · rw [Program.run_bind, hread] at h
    cases h
    exact .inl ⟨sameRecords_of_asks hreads hread, (hreads.run hread).requests⟩
  rw [Program.run_bind_of_ok hread] at h
  have hsa := hreads.run hread
  cases value with
  | null | bool | int | double | str | arr =>
      cases h
      exact .inl ⟨⟨hsa.selected, hsa.standby⟩, hsa.requests⟩
  | obj entries =>
      dsimp only at h
      rcases hchoice : (foundOrImported (findMatchingWireGuardInterface entries config) configText
        config).run net.handle a with ⟨error | chosen, b⟩
      all_goals
        have hfinds : Asks sent (foundOrImported (findMatchingWireGuardInterface entries config)
            configText config) := asks_foundOrImported _ _ _ ⟨nofun, himport _⟩
        have hab := hfinds.run hchoice
        have hsame : s.SameRecords b :=
          ⟨hab.selected.trans hsa.selected, hab.standby.trans hsa.standby⟩
        have hsent : ∀ e ∈ s.since b, sent e.request := by
          rw [since_trans hsa.prefixed hab.prefixed, List.forall_mem_append]
          exact ⟨hsa.requests, hab.requests⟩
      · rw [Program.run_bind, hchoice] at h
        cases h
        exact .inl ⟨hsame, hsent⟩
      · rw [Program.run_bind_of_ok hchoice] at h
        refine .inr ⟨config, entries, chosen, b, ⟨hparse, hsa.prefixed.trans hab.prefixed,
          mem_tablesOf_of_read hread hab.prefixed, hsame, fun e he => (hsent e he).1, ?_⟩,
          fun e he => (hsent e he).2, h⟩
        obtain ⟨-, -, himported, hfound⟩ := run_foundOrImported_ok hchoice
        cases hcase : findMatchingWireGuardInterface entries config with
        | some name => exact .inl (by rw [hfound name hcase])
        | none =>
            obtain ⟨e, he, hcreated⟩ := himported (by rw [hcase]; rfl)
            refine .inr ⟨e, ?_, hcreated⟩
            rw [since_trans hsa.prefixed hab.prefixed]
            exact List.mem_append_right _ he

theorem createAwgConnection_eq (htest : access.testMode = false) :
    createAwgConnection access configText =
      choosing .noInterfaceList configText (fun config entries chosen => do
        setSelectedInterface access.ip chosen
        establishOrRollBack
          (rollbackPlan entries (findMatchingWireGuardInterface entries config) chosen)) := by
  unfold createAwgConnection
  rw [if_neg (by simp [htest])]
  rfl

theorem installStandbyAwgConfig_eq (htest : access.testMode = false) :
    installStandbyAwgConfig access configText =
      choosing .noStandbyInterfaceList configText (fun _ _ standby => do
        if (← selectedInterface access.ip) = some standby then throw .standbyIsMain
        else
          runCliCommands [.noIpGlobal standby, .noIpv6Global standby, .mtu1280 standby] true
          takeDown standby
          setStandbyInterface access.ip standby
          saveConfiguration
          pure standby) := by
  unfold installStandbyAwgConfig
  rw [if_neg (by simp [htest])]
  rfl

theorem Session.SameRecords.trans {u : Session} (hst : s.SameRecords t) (htu : t.SameRecords u) :
    s.SameRecords u := ⟨htu.selected.trans hst.selected, htu.standby.trans hst.standby⟩

theorem records_of_install {result : Except Failure String}
    (h : (installStandbyAwgConfig access configText).run net.handle s = (result, t)) :
    s.SameRecords t ∨
      ∃ config entries chosen b, s.Chosen configText config entries chosen b ∧
        b.exchanges <+: t.exchanges ∧ s.selectedInterfaceByHost access.ip ≠ some chosen ∧
        t.selectedInterfaceByHost = s.selectedInterfaceByHost ∧
        t.standbyInterfaceByHost = Function.update s.standbyInterfaceByHost access.ip (some chosen) := by
  cases htest : access.testMode with
  | true =>
      unfold installStandbyAwgConfig at h
      rw [if_pos htest] at h
      cases h
      exact .inl ⟨rfl, rfl⟩
  | false =>
      rw [installStandbyAwgConfig_eq htest] at h
      obtain ⟨hsame, -⟩ | ⟨config, entries, chosen, b, hchosen, -, hrest⟩ :=
        run_choosing (R := fun _ => True) trivial (fun _ => trivial) h
      · exact .inl hsame
      have hsame := hchosen.sameRecords
      have hbt := prefix_of_run hrest
      have hown : (selectedInterface access.ip).run net.handle b
          = (.ok (s.selectedInterfaceByHost access.ip), b) := by
        rw [← hsame.selected]
        rfl
      rw [Program.run_bind_of_ok hown] at hrest
      split_ifs at hrest with hmain
      · cases hrest
        exact .inl hsame
      have hlines : Asks (fun _ => True)
          (runCliCommands [.noIpGlobal chosen, .noIpv6Global chosen, .mtu1280 chosen] true) :=
        calls_runCliCommands (P := Call.Asks fun _ => True) trivial true
      have hdown : Asks (fun _ => True) (takeDown chosen) := calls_takeDown trivial
      have hsave : Asks (fun _ => True) (saveConfiguration >>= fun _ => (pure chosen : Rci String)) :=
        Asks.bind (calls_saveConfiguration trivial) fun _ => trivial
      obtain ⟨error, hfailed⟩ | ⟨_, c, hset, hrest⟩ := Program.run_bind_cases hrest
      · exact .inl (hsame.trans (sameRecords_of_asks hlines hfailed))
      have hc := hsame.trans (sameRecords_of_asks hlines hset)
      obtain ⟨error, hfailed⟩ | ⟨_, d, hlowered, hrest⟩ := Program.run_bind_cases hrest
      · exact .inl (hc.trans (sameRecords_of_asks hdown hfailed))
      have hd := hc.trans (sameRecords_of_asks hdown hlowered)
      rw [Program.run_bind_of_ok (run_setStandbyInterface access.ip chosen d)] at hrest
      have hsaved := sameRecords_of_asks hsave hrest
      refine .inr ⟨config, entries, chosen, b, hchosen, hbt, hmain, ?_, ?_⟩
      · rw [hsaved.selected, hd.selected]
      · rw [hsaved.standby, hd.standby]

theorem shown_of_readTunnelStatus {status : TunnelStatus}
    (h : (readTunnelStatus name).run net.handle s = (.ok status, t)) (hok : status.handshakeOk = true) :
    ∃ e ∈ s.since t, e.showsHandshake = true := by
  obtain ⟨value, m, hread, hrest⟩ := Program.run_bind_ok h
  rw [Program.run_ofExcept] at hrest
  obtain ⟨hstatus, rfl⟩ := Prod.mk.inj hrest
  obtain ⟨⟨e, he, hrequest, hjson⟩, -⟩ := run_getJson_ok hread
  exact ⟨e, he, by simp only [Exchange.showsHandshake, hrequest, hjson, hstatus, hok]⟩

theorem shown_of_waitFrom {attempts : Nat} {last status : TunnelStatus} (hlast : last.handshakeOk = false)
    (h : (waitFrom name attempts last).run net.handle s = (.ok status, t))
    (hok : status.handshakeOk = true) : ∃ e ∈ s.since t, e.showsHandshake = true := by
  induction attempts generalizing s last with
  | zero =>
      cases h
      rw [hlast] at hok
      cases hok
  | succ attempts ih =>
      obtain ⟨next, m, hread, hrest⟩ := Program.run_bind_ok h
      split_ifs at hrest with hnext
      · cases hrest
        exact shown_of_readTunnelStatus hread hok
      · obtain ⟨e, he, hshown⟩ := ih (by simpa using hnext) hrest
        refine ⟨e, ?_, hshown⟩
        rw [since_trans (prefix_of_run hread) (prefix_of_run hrest)]
        exact List.mem_append_right _ he

theorem shown_of_waitForHandshake {status : TunnelStatus}
    (h : (waitForHandshake name).run net.handle s = (.ok status, t)) (hok : status.handshakeOk = true) :
    ∃ e ∈ s.since t, e.showsHandshake = true := shown_of_waitFrom rfl h hok

/-- The try block of a setup deletes nothing unless it has been shown a handshake. -/
theorem spares_of_establish {plan : KeeneticRollbackPlan} {result : Except Failure Unit}
    (h : (establish plan).run net.handle s = (result, t)) :
    (∀ e ∈ s.since t, e.request.Spares) ∨ ∃ e ∈ s.since t, e.showsHandshake = true := by
  have hlines : Asks Request.Spares
      (runCliCommands [.noIpGlobal plan.selectedInterface, .mtu1280 plan.selectedInterface] false) :=
    calls_runCliCommands (P := Call.Asks Request.Spares) nofun false
  have hup : Asks Request.Spares (bringUp plan.selectedInterface) :=
    calls_bringUp (P := Call.Asks Request.Spares) nofun
  have hdown : Asks Request.Spares (plan.competingInterfaces.forM takeDown) :=
    Calls.forM fun name _ => calls_takeDown (P := Call.Asks Request.Spares) nofun
  have hwait : Asks Request.Spares (waitForHandshake plan.selectedInterface) :=
    calls_waitForHandshake (P := Call.Asks Request.Spares) nofun
  obtain ⟨error, hfailed⟩ | ⟨_, a, hset, h⟩ := Program.run_bind_cases h
  · exact .inl (hlines.run hfailed).requests
  have ha := hlines.run hset
  obtain ⟨error, hfailed⟩ | ⟨_, b, hraised, h⟩ := Program.run_bind_cases h
  · exact .inl (ha.trans (hup.run hfailed)).requests
  have hb := ha.trans (hup.run hraised)
  obtain ⟨error, hfailed⟩ | ⟨_, c, hlowered, h⟩ := Program.run_bind_cases h
  · exact .inl (hb.trans (hdown.run hfailed)).requests
  have hc := hb.trans (hdown.run hlowered)
  obtain ⟨error, hfailed⟩ | ⟨status, d, hwaited, h⟩ := Program.run_bind_cases h
  · exact .inl (hc.trans (hwait.run hfailed)).requests
  have hd := hc.trans (hwait.run hwaited)
  split_ifs at h with hok
  · obtain ⟨e, he, hshown⟩ := shown_of_waitForHandshake hwaited hok
    refine .inr ⟨e, ?_, hshown⟩
    rw [since_trans hc.prefixed ((prefix_of_run hwaited).trans (prefix_of_run h)),
      since_trans (prefix_of_run hwaited) (prefix_of_run h)]
    exact List.mem_append_right _ (List.mem_append_left _ he)
  · cases h
    exact .inl hd.requests

/-- A setup that goes on with a plan deletes only the interface the plan is about, or competitors of it
after it has been shown a handshake. -/
theorem deletes_of_establishOrRollBack {plan : KeeneticRollbackPlan} {result : Except Failure Unit}
    (h : (establishOrRollBack plan).run net.handle s = (result, t)) :
    ∀ e ∈ s.since t, ∀ name, e.request = .deleteInterface name →
      name = plan.selectedInterface ∨
        name ∈ plan.competingInterfaces ∧ ∃ e ∈ s.since t, e.showsHandshake = true := by
  have htry : ∀ {first : Except Failure Unit} {m : Session},
      (establish plan).run net.handle s = (first, m) →
      ∀ e ∈ s.since m, ∀ name, e.request = .deleteInterface name →
        name ∈ plan.competingInterfaces ∧ ∃ e ∈ s.since m, e.showsHandshake = true := by
    intro first m hrun e he name hrequest
    have hestablishes := ((asks_establish plan).run hrun).requests e he
    rw [hrequest] at hestablishes
    refine ⟨hestablishes, ?_⟩
    obtain hspares | hshown := spares_of_establish hrun
    · exact absurd hrequest (hspares e he name)
    · exact hshown
  unfold establishOrRollBack at h
  rw [Program.run_tryCatch] at h
  rcases hrun : (establish plan).run net.handle s with ⟨error | value, m⟩
  · rw [hrun] at h
    have hback : Asks plan.RollsBack (rollbackSetup plan >>= fun _ =>
        (throw (.notApplied (error.message?.getD error.toText)) : Rci Unit)) :=
      Asks.bind (asks_rollbackSetup plan) fun _ => trivial
    have hasked := hback.run h
    rw [since_trans (prefix_of_run hrun) hasked.prefixed, List.forall_mem_append]
    refine ⟨fun e he name hrequest => ?_, fun e he name hrequest => ?_⟩
    · obtain ⟨hmem, found, hfound, hshown⟩ := htry hrun e he name hrequest
      exact .inr ⟨hmem, found, List.mem_append_left _ hfound, hshown⟩
    · have hrolls := hasked.requests e he
      rw [hrequest] at hrolls
      exact .inl hrolls.1
  · rw [hrun] at h
    cases h
    exact fun e he name hrequest => .inr (htry hrun e he name hrequest)

/-- A setup writes nothing and deletes nothing, or it has chosen an interface and deletes only its
competitors, once it has been shown a handshake, and the interface itself, when it rolls back. -/
theorem records_of_create {result : Except Failure Unit}
    (h : (createAwgConnection access configText).run net.handle s = (result, t)) :
    (s.SameRecords t ∧ ∀ e ∈ s.since t, e.request.Spares) ∨
      ∃ config entries chosen b, s.Chosen configText config entries chosen b ∧
        b.exchanges <+: t.exchanges ∧
        t.selectedInterfaceByHost = Function.update s.selectedInterfaceByHost access.ip (some chosen) ∧
        t.standbyInterfaceByHost = s.standbyInterfaceByHost ∧
        ∀ e ∈ s.since t, ∀ name, e.request = .deleteInterface name →
          name = chosen ∨ name ∈ findCompetingWireGuardInterfaces entries chosen ∧
            ∃ e ∈ s.since t, e.showsHandshake = true := by
  cases htest : access.testMode with
  | true =>
      unfold createAwgConnection at h
      rw [if_pos htest] at h
      cases h
      exact .inl ⟨⟨rfl, rfl⟩, by simp [since_self]⟩
  | false =>
      rw [createAwgConnection_eq htest] at h
      obtain ⟨hsame, hnothing⟩ | ⟨config, entries, chosen, b, hchosen, -, hrest⟩ :=
        run_choosing (R := fun _ => True) trivial (fun _ => trivial) h
      · exact .inl ⟨hsame, fun e he => (hnothing e he).1⟩
      rw [Program.run_bind_of_ok (run_setSelectedInterface access.ip chosen b)] at hrest
      have hasks : Asks (fun _ => True) (establishOrRollBack
          (rollbackPlan entries (findMatchingWireGuardInterface entries config) chosen)) := by
        refine Calls.tryCatch ((asks_establish _).mono fun _ _ => trivial) fun error => ?_
        exact Asks.bind ((asks_rollbackSetup _).mono fun _ _ => trivial) fun _ => trivial
      have hasked := hasks.run hrest
      have hbt : b.exchanges <+: t.exchanges := hasked.prefixed
      refine .inr ⟨config, entries, chosen, b, hchosen, hbt, ?_, ?_, ?_⟩
      · rw [hasked.selected, hchosen.sameRecords.selected]
      · rw [hasked.standby, hchosen.sameRecords.standby]
      · rw [since_trans hchosen.prefixed hbt, List.forall_mem_append]
        refine ⟨fun e he name hrequest => absurd hrequest (hchosen.spares e he name),
          fun e he name hrequest => ?_⟩
        obtain hself | ⟨hmem, found, hfound, hshown⟩ :=
          deletes_of_establishOrRollBack hrest e he name hrequest
        · exact .inl hself
        · exact .inr ⟨hmem, found, List.mem_append_right _ hfound, hshown⟩

/-! ### A switch whose save is not refused -/

variable {routing : RouterRoutingProfile} {profile : Option Router1RouteProfile}
  {current standby : String}

theorem run_postRci_error {request : Request} {error : Failure}
    (h : (postRci request).run net.handle s = (.error error, t)) :
    ∃ e ∈ s.since t, e.request = request ∧ e.failure? = some error := by
  unfold postRci at h
  rw [Program.run_bind_of_ok (run_exchange request s)] at h
  have hsince : s.since { s with exchanges := s.exchanges ++
      [⟨request, net.answers s.exchanges.length⟩] } = [⟨request, net.answers s.exchanges.length⟩] :=
    since_of_append rfl
  rcases hr : (net.answers s.exchanges.length).reply with cause | response
  · rw [hr] at h
    cases h
    rw [hsince]
    exact ⟨_, List.mem_singleton_self _, rfl, by simp [Exchange.failure?, hr]⟩
  · rw [hr] at h
    dsimp only at h
    split_ifs at h with hsuccess hauth
    · cases h
    · cases h
      rw [hsince]
      exact ⟨_, List.mem_singleton_self _, rfl, by simp [Exchange.failure?, hr, hsuccess, hauth]⟩
    · cases h
      rw [hsince]
      exact ⟨_, List.mem_singleton_self _, rfl, by simp [Exchange.failure?, hr, hsuccess, hauth]⟩

theorem run_retryFrom_postRci_error {request : Request} {error : Failure} {attempts : Nat}
    (h : (retryFrom (postRci request) attempts).run net.handle s = (.error error, t)) :
    ∃ e ∈ s.since t, e.request = request ∧ e.failure? = some error := by
  induction attempts generalizing s with
  | zero => exact run_postRci_error h
  | succ attempts ih =>
      obtain ⟨cause, m, hfailed, hretried⟩ := Program.run_tryCatch_error h
      split_ifs at hretried with htransient
      · obtain ⟨e, he, hfound⟩ := ih hretried
        refine ⟨e, ?_, hfound⟩
        rw [since_trans (prefix_of_run hfailed) (prefix_of_run hretried)]
        exact List.mem_append_right _ he
      · cases hretried
        exact run_postRci_error hfailed

theorem refused_of_save {error : Failure}
    (h : saveConfiguration.run net.handle s = (.error error, t)) :
    ∃ e ∈ s.since t, e.request = .save ∧ e.refused = true := by
  obtain ⟨cause, m, hfailed, hrest⟩ := Program.run_tryCatch_error h
  split_ifs at hrest with htransient
  · cases hrest
  · cases hrest
    obtain hfailed | ⟨_, _, -, hpure⟩ := Program.run_bind_error hfailed
    · obtain ⟨e, he, hrequest, hfailure⟩ := run_retryFrom_postRci_error hfailed
      exact ⟨e, he, hrequest, by simpa [Exchange.refused, hfailure] using htransient⟩
    · cases hpure

theorem standby_of_switchOver_error {cause : Failure}
    (h : (switchOver access routing profile current standby).run net.handle s = (.error cause, m))
    (hsaved : ∀ e ∈ s.since m, e.request = .save → e.refused = false) :
    m.standbyInterfaceByHost = s.standbyInterfaceByHost := by
  obtain hmove | ⟨status, a, hmove, hrest⟩ := Program.run_bind_error h
  · exact (moved_of_calls (calls_moveToStandby ..) hmove).standby
  · rw [Program.run_bind_of_ok (run_setStandbyInterface access.ip current a)] at hrest
    obtain hfailed | ⟨_, _, -, hpure⟩ := Program.run_bind_error hrest
    · obtain ⟨e, he, hrequest, hrefused⟩ := refused_of_save hfailed
      have hprefix := prefix_of_run hfailed
      change a.exchanges <+: m.exchanges at hprefix
      have hmem : e ∈ s.since m := by
        rw [since_trans (prefix_of_run hmove) hprefix]
        exact List.mem_append_right _ he
      rw [hsaved e hmem hrequest] at hrefused
      cases hrefused
    · cases hpure

theorem records_of_switch {result : Except Failure TunnelStatus}
    (h : (switchToStandbyTunnel access routing profile).run net.handle s = (result, t))
    (hsaved : ∀ e ∈ s.since t, e.request = .save → e.refused = false) :
    (t.selectedInterfaceByHost access.ip = s.selectedInterfaceByHost access.ip ∧
        t.standbyInterfaceByHost = s.standbyInterfaceByHost) ∨
      ∃ current standby, s.selectedInterfaceByHost access.ip = some current ∧
        s.standbyInterfaceByHost access.ip = some standby ∧ current ≠ standby ∧
        t.selectedInterfaceByHost access.ip = some standby ∧
        t.standbyInterfaceByHost access.ip = some current ∧
        ∃ e ∈ s.since t, e.showsHandshake = true := by
  have hselected : (selectedInterface access.ip).run net.handle s
      = (.ok (s.selectedInterfaceByHost access.ip), s) := rfl
  have hstandby : (standbyInterface access.ip).run net.handle s
      = (.ok (s.standbyInterfaceByHost access.ip), s) := rfl
  by_cases hboth : ∃ current standby, s.selectedInterfaceByHost access.ip = some current ∧
      s.standbyInterfaceByHost access.ip = some standby ∧ current ≠ standby
  · obtain ⟨current, standby, hcurrent, hother, hne⟩ := hboth
    rcases result with error | status
    · obtain ⟨cause, m, up, down, hfailed, hput⟩ := exists_putBack hcurrent hother hne h
      refine .inl ⟨?_, ?_⟩
      · rw [hput.selected, hcurrent]
        exact if_pos rfl
      · rw [hput.standbyRecord]
        refine standby_of_switchOver_error hfailed fun e he => hsaved e ?_
        rw [hput.since]
        exact List.mem_append_left _ he
    · obtain ⟨a, b, c, d, hsteps⟩ := exists_steps hcurrent hother hne h
      obtain ⟨hswapped, hrecord⟩ := hsteps.records
      refine .inr ⟨current, standby, hcurrent, hother, hne, ?_, ?_, ?_⟩
      · rw [hswapped]
        exact if_pos rfl
      · rw [hrecord]
        exact if_pos rfl
      · obtain ⟨e, he, hshown⟩ := shown_of_waitForHandshake hsteps.waited hsteps.handshake
        exact ⟨e, by simp [hsteps.since, he], hshown⟩
  · have hsame : t = s := by
      unfold switchToStandbyTunnel at h
      rw [Program.run_bind_of_ok hselected, Program.run_bind_of_ok hstandby] at h
      cases hcurrent : s.selectedInterfaceByHost access.ip with
      | none =>
          rw [hcurrent] at h
          cases h
          rfl
      | some current =>
          cases hother : s.standbyInterfaceByHost access.ip with
          | none =>
              rw [hcurrent, hother] at h
              cases h
              rfl
          | some standby =>
              have heq : current = standby := by
                by_contra hne
                exact hboth ⟨current, standby, hcurrent, hother, hne⟩
              rw [hcurrent, hother] at h
              dsimp only at h
              rw [if_pos heq] at h
              cases h
              rfl
    rw [hsame]
    exact .inl ⟨rfl, rfl⟩

/-! ### Operations that delete nothing -/

theorem spares_attach (access : KeeneticAccess) :
    (attachAndCheckExistingTunnel access).Calls (Call.Sends Request.Spares) :=
  calls_attachAndCheckExistingTunnel nofun (fun _ => nofun) (fun _ => trivial) fun _ => trivial

theorem spares_setSelectedTunnelEnabled (access : KeeneticAccess) (enabled : Bool) :
    Asks Request.Spares (setSelectedTunnelEnabled access enabled) := by
  refine Calls.bind ((Program.calls_request _).mpr trivial) fun selected => ?_
  cases selected with
  | none => trivial
  | some name =>
      have hsave : Asks Request.Spares saveConfiguration :=
        calls_saveConfiguration (P := Call.Asks Request.Spares) nofun
      cases enabled with
      | true => exact Asks.bind (calls_bringUp (P := Call.Asks Request.Spares) nofun) fun _ => hsave
      | false => exact Asks.bind (calls_takeDown (P := Call.Asks Request.Spares) nofun) fun _ => hsave

theorem spares_installStandbyAwgConfig (access : KeeneticAccess) (configText : String) :
    (installStandbyAwgConfig access configText).Calls (Call.Sends Request.Spares) := by
  unfold installStandbyAwgConfig
  split_ifs
  · trivial
  refine Calls.bind (Program.calls_ofExcept _) fun config => ?_
  refine Calls.bind (p := getJson .showInterfaces) (calls_getJson nofun) fun value => ?_
  split
  · refine Calls.bind (sends_of_asks (asks_foundOrImported _ _ _ nofun)) fun chosen => ?_
    refine Calls.bind ((Program.calls_request _).mpr trivial) fun selected => ?_
    split_ifs
    · trivial
    refine Calls.bind (calls_runCliCommands nofun true) fun _ => ?_
    refine Calls.bind (calls_takeDown nofun) fun _ => ?_
    refine Calls.bind ((Program.calls_request _).mpr trivial) fun _ => ?_
    exact Calls.bind (calls_saveConfiguration nofun) fun _ => trivial
  · trivial

theorem spares_switchToStandbyTunnel (access : KeeneticAccess) (routing : RouterRoutingProfile)
    (profile : Option Router1RouteProfile) :
    (switchToStandbyTunnel access routing profile).Calls (Call.Sends Request.Spares) := by
  have hpost : ∀ {request : Request}, request.Spares →
      (MonadExcept.tryCatch (do let _ ← postRci request) fun _ => pure () : Rci Unit).Calls
        (Call.Sends Request.Spares) :=
    fun hspares => Calls.tryCatch (Calls.bind (calls_postRci hspares) fun _ => trivial) fun _ => trivial
  refine Calls.bind ((Program.calls_request _).mpr trivial) fun selected => ?_
  refine Calls.bind ((Program.calls_request _).mpr trivial) fun standby => ?_
  split
  · split_ifs
    · trivial
    refine Calls.tryCatch ?_ fun error => ?_
    · refine Calls.bind ?_ fun status => ?_
      · refine Calls.bind (calls_bringUp (fun _ h => by cases h)) fun _ => ?_
        refine Calls.bind (calls_waitForHandshake (fun _ h => by cases h)) fun status => ?_
        split_ifs
        · refine Calls.bind ((Program.calls_request _).mpr trivial) fun _ => ?_
          have hrouting := asks_applyRoutingProfile access routing profile
          refine Calls.bind (sends_of_asks (hrouting.mono fun request hrequest => ?_)) fun _ => ?_
          · rintro name rfl
            simp [Request.ofRouting] at hrequest
          · exact Calls.bind (calls_takeDown (fun _ h => by cases h)) fun _ => trivial
        · trivial
      · refine Calls.bind ((Program.calls_request _).mpr trivial) fun _ => ?_
        exact Calls.bind (calls_saveConfiguration (fun _ h => by cases h)) fun _ => trivial
    · refine Calls.bind ((Program.calls_request _).mpr trivial) fun _ => ?_
      refine Calls.bind (hpost (fun _ h => by cases h)) fun _ => ?_
      exact Calls.bind (hpost (fun _ h => by cases h)) fun _ => trivial
  · trivial

end Keenetic
