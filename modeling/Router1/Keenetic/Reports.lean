import Router1.Keenetic.History

/-!
# What a normal return tells

A router that takes part in the conversation answers every batch with one status list for each line,
and the list has an error exactly when the line was not carried out. The batch of the groups is sent
with an eye on these errors, so a call that returns has installed all of it. The batches with routes are
sent with `ignoreErrors`: a line that is refused is passed over, and only the lines that were accepted
are known to be installed.
-/

namespace Keenetic

open Dart Api Remote

variable {net : Net} {s t : Session} {access : KeeneticAccess} {selected : String}
  {profile : Option Router1RouteProfile} {lanes : Lanes} {r : Routing}

/-! ### Lines that are installed -/

/-- The entry that a line adds is on the router. -/
def Routing.Has (r : Routing) : Command → Prop
  | .addRoute destination interface => r.routes destination interface = true
  | .addGroup group => r.groups group = true
  | .addDomain group domain => r.domains group domain = true
  | .addDnsRoute group interface => r.dnsRoutes group interface = true
  | _ => True

theorem Routing.has_exec (r : Routing) (c : Command) : (r.exec c).Has c := by
  cases c <;> simp [Routing.Has, Routing.exec]

/-- A line that takes nothing away leaves every entry in place. -/
theorem Routing.Has.exec {c c' : Command} (h : r.Has c) (hkept : c'.removes = false) :
    (r.exec c').Has c := by
  cases c' with
  | removeRoute | removeRouteVia | removeGroup | removeDomain | removeDnsRoute => cases hkept
  | ipGlobal | noIpGlobal | ipv6Global | noIpv6Global | mtu1280 | saveConfiguration => exact h
  | addRoute | addGroup | addDomain | addDnsRoute =>
      cases c <;> simp_all [Routing.Has, Routing.exec]

theorem Routing.Has.execAll {c : Command} {cs : List Command} (h : r.Has c)
    (hkept : ∀ c' ∈ cs, c'.removes = false) : (r.execAll cs).Has c := by
  induction cs generalizing r with
  | nil => exact h
  | cons c' cs ih =>
      exact ih (h.exec (hkept c' List.mem_cons_self))
        fun other hother => hkept other (List.mem_cons_of_mem c' hother)

theorem Routing.has_execAll {c : Command} {cs : List Command} (hc : c ∈ cs)
    (hkept : ∀ c' ∈ cs, c'.removes = false) : (r.execAll cs).Has c := by
  obtain ⟨before, after, rfl⟩ := List.append_of_mem hc
  rw [Routing.execAll_append, Routing.execAll_cons]
  refine (Routing.has_exec _ c).execAll fun c' hc' => hkept c' ?_
  exact List.mem_append_right before (List.mem_cons_of_mem c hc')

/-! ### Replies with one status list for each line -/

/-- The item of a reply reports an error. -/
def IsError (item : Json) : Prop :=
  ∃ statuses, (item.field "parse").field "status" = .arr statuses ∧
    ∃ status ∈ statuses, (status.field "status").isText "error" = true

/-- The reply to a batch tells for every line whether it was carried out. -/
def Exchange.Reports (e : Exchange) : Prop :=
  ∀ commands, e.request = .cli commands →
    ∃ response items, e.answer.reply = .ok response ∧ response.isSuccess = true ∧
      response.body = .json (.arr items) ∧ items.length = commands.length ∧
      ∀ k item, items[k]? = some item → (IsError item ↔ e.answer.carriedOut k = false)

theorem firstStatusError_eq_none {statuses : List Json} (h : firstStatusError statuses = none) :
    ∀ status ∈ statuses, (status.field "status").isText "error" = false := by
  induction statuses with
  | nil => simp
  | cons status statuses ih =>
      unfold firstStatusError at h
      split_ifs at h with herror
      rw [List.forall_mem_cons]
      exact ⟨by simpa using herror, ih h⟩

theorem firstError_eq_none {items : List Json} (h : firstError items = none) :
    ∀ item ∈ items, ¬IsError item := by
  induction items with
  | nil => simp
  | cons item items ih =>
      rw [List.forall_mem_cons]
      unfold firstError at h
      split at h
      · rename_i statuses hstatuses
        rw [Option.orElse_eq_orElse, Option.orElse_eq_or, Option.or_eq_none_iff] at h
        obtain ⟨hnone, hrest⟩ := h
        refine ⟨?_, ih hrest⟩
        rintro ⟨other, hother, status, hstatus, herror⟩
        rw [hstatuses] at hother
        obtain rfl := Json.arr.inj hother
        rw [firstStatusError_eq_none hnone status hstatus] at herror
        cases herror
      · rename_i hno
        exact ⟨fun ⟨statuses, hstatuses, _⟩ => hno statuses hstatuses, ih h⟩

theorem executed_sublist (e : Exchange) : e.executed.Sublist e.commands := by
  have hsublist := (List.filter_sublist (p := fun c => e.answer.carriedOut c.2)
    (l := e.commands.zipIdx)).map Prod.fst
  rwa [List.zipIdx_map_fst] at hsublist

theorem executed_of_all {e : Exchange} (h : ∀ k < e.commands.length, e.answer.carriedOut k = true) :
    e.executed = e.commands := by
  rw [Exchange.executed, List.filter_eq_self.mpr, List.zipIdx_map_fst]
  rintro ⟨c, k⟩ hmem
  have hk := List.snd_lt_of_mem_zipIdx hmem
  exact h k (by omega)

/-! ### Batches with reports -/

/-- A batch that is reported on is sent once. Its accepted lines are carried out in order, and if the
service looks at the errors these are all of them. -/
theorem run_reported_batch {commands : List Command} {ignoreErrors : Bool}
    (h : (runCliCommands commands ignoreErrors).run net.handle s = (.ok (), t))
    (hreports : ∀ e ∈ s.since t, e.Reports) :
    ∃ accepted, t.carriedOut = s.carriedOut ++ accepted ∧ accepted.Sublist commands ∧
      (ignoreErrors = false → accepted = commands) := by
  by_cases hempty : commands = []
  · subst hempty
    obtain ⟨-, rfl⟩ := Prod.mk.inj h
    exact ⟨[], by rw [List.append_nil], List.Sublist.refl _, fun _ => rfl⟩
  · set sent : Exchange := ⟨.cli commands, net.answers s.exchanges.length⟩ with hsent
    obtain ⟨response, items, hreply, hsuccess, hbody, hlength, hitems⟩ :=
      hreports sent ((starts_runCliCommands hempty ignoreErrors).first_mem h) commands rfl
    have hpost : (retryKeenetic (postRci (.cli commands))).run net.handle s
        = (.ok (.json (.arr items)), (net.handle (.exchange (.cli commands)) s).2) := by
      unfold retryKeenetic retryFrom postRci
      rw [Program.run_tryCatch, Program.run_bind_of_ok (run_exchange _ s), hreply]
      dsimp only
      rw [if_pos hsuccess, hbody]
      rfl
    unfold runCliCommands at h
    rw [if_neg (by simpa using hempty), Program.run_bind_of_ok hpost] at h
    have hcarried : ∀ m : Session, m.exchanges = s.exchanges ++ [sent] →
        m.carriedOut = s.carriedOut ++ sent.executed := by
      intro m hm
      rw [Session.carriedOut, hm, List.flatMap_append, List.flatMap_singleton]
      rfl
    cases ignoreErrors with
    | true =>
        obtain ⟨-, rfl⟩ := Prod.mk.inj h
        exact ⟨sent.executed, hcarried _ rfl, executed_sublist sent, by simp⟩
    | false =>
        -- the items are looked at, and none of them is an error
        dsimp only at h
        have hdecode : (jsonDecode (.json (.arr items))).run net.handle
            (net.handle (.exchange (.cli commands)) s).2
              = (.ok (.arr items), (net.handle (.exchange (.cli commands)) s).2) := rfl
        rw [Program.run_bind_of_ok hdecode] at h
        dsimp only at h
        cases herror : firstError items with
        | some message =>
            rw [herror] at h
            cases h
        | none =>
            rw [herror] at h
            obtain ⟨-, rfl⟩ := Prod.mk.inj h
            refine ⟨sent.executed, hcarried _ rfl, executed_sublist sent, fun _ => ?_⟩
            apply executed_of_all
            intro k hk
            have hk' : k < items.length := by rw [hlength]; exact hk
            have hitem := hitems k items[k] (List.getElem?_eq_getElem hk')
            have hfine := firstError_eq_none herror items[k] (List.getElem_mem hk')
            simpa [hitem] using hfine

/-! ### What a call has carried out -/

/-- The lines carried out between the two sessions: first some that add no route, then some that take
nothing away, with all of the required ones among them. -/
def Session.Applied (s t : Session) (required : List Command) : Prop :=
  ∃ first added, t.carriedOut = s.carriedOut ++ (first ++ added) ∧
    (∀ d i, .addRoute d i ∉ first) ∧ (∀ c ∈ added, c.removes = false) ∧ ∀ c ∈ required, c ∈ added

theorem Session.Applied.has {required : List Command} (h : s.Applied t required)
    (hs : s.carriedOut = []) (r : Routing) :
    (∀ d i, .addRoute d i ∈ t.carriedOut → (r.execAll t.carriedOut).routes d i = true) ∧
      ∀ c ∈ required, (r.execAll t.carriedOut).Has c := by
  obtain ⟨first, added, hcarried, hfirst, hkept, hrequired⟩ := h
  rw [hs, List.nil_append] at hcarried
  have hhas : ∀ c ∈ added, (r.execAll t.carriedOut).Has c := by
    intro c hc
    rw [hcarried, Routing.execAll_append]
    exact Routing.has_execAll hc hkept
  refine ⟨fun d i hroute => ?_, fun c hc => hhas c (hrequired c hc)⟩
  rw [hcarried] at hroute
  exact hhas _ ((List.mem_append.mp hroute).resolve_left (hfirst d i))

theorem reports_parts {m : Session} (hsm : s.exchanges <+: m.exchanges)
    (hmt : m.exchanges <+: t.exchanges) (h : ∀ e ∈ s.since t, e.Reports) :
    (∀ e ∈ s.since m, e.Reports) ∧ ∀ e ∈ m.since t, e.Reports := by
  rw [since_trans hsm hmt] at h
  exact List.forall_mem_append.mp h

theorem applied_sendFullTunnel (htest : access.testMode = false)
    (h : (sendFullTunnel access profile selected).run net.handle s = (.ok (), t))
    (hreports : ∀ e ∈ s.since t, e.Reports) : s.Applied t [] := by
  obtain ⟨_, a, hclear, h⟩ := Program.run_bind_ok h
  obtain ⟨_, b, hroutes, hsave⟩ := Program.run_bind_ok h
  rw [clearRouter1Routing, if_neg (by simp [htest])] at hclear
  obtain ⟨hra, hrest⟩ := reports_parts (prefix_of_run hclear) (prefix_of_run h) hreports
  obtain ⟨hrb, hrt⟩ := reports_parts (prefix_of_run hroutes) (prefix_of_run hsave) hrest
  obtain ⟨cleared, ha, hcleared, -⟩ := run_reported_batch hclear hra
  obtain ⟨routed, hb, hrouted, -⟩ := run_reported_batch hroutes hrb
  obtain ⟨saved, ht, hsaved, -⟩ := run_reported_batch hsave hrt
  -- the batch of the routes starts with four lines that add none
  obtain ⟨settings, halves, rfl, hsettings, hhalves⟩ : ∃ settings halves, routed = settings ++ halves ∧
      settings.Sublist ((fullTunnelCommands selected).take 4) ∧
      halves.Sublist ((fullTunnelCommands selected).drop 4) := by
    rw [← List.take_append_drop 4 (fullTunnelCommands selected), List.sublist_append_iff] at hrouted
    exact hrouted
  refine ⟨cleared ++ settings, halves ++ saved, ?_, ?_, ?_, by simp⟩
  · rw [ht, hb, ha]
    simp only [List.append_assoc]
  · intro d i hmem
    rcases List.mem_append.mp hmem with hmem | hmem
    · cases clearCommands_clears profile _ (hcleared.subset hmem)
    · simpa [fullTunnelCommands] using hsettings.subset hmem
  · intro c hc
    rcases List.mem_append.mp hc with hc | hc
    · have hhalf := hhalves.subset hc
      simp only [fullTunnelCommands, List.drop_succ_cons, List.drop_zero, List.mem_cons,
        List.not_mem_nil, or_false] at hhalf
      rcases hhalf with rfl | rfl | rfl | rfl <;> rfl
    · rw [List.mem_singleton.mp (hsaved.subset hc)]
      rfl

theorem applied_sendSelective (htest : access.testMode = false) (hlookups : s.lookups = [])
    (h : (sendSelective access profile lanes).run net.handle s = (.ok (), t))
    (hreports : ∀ e ∈ s.since t, e.Reports) : s.Applied t (groupCommands profile lanes) := by
  obtain ⟨a, b, c, d, e, f, hclear, hprepare, hgroups, hstatic, hexchanges, hhosts, hsave⟩ :=
    RoutingCall.stages_of_sendSelective htest hlookups h
  have he : e.carriedOut = d.carriedOut := by rw [Session.carriedOut, hexchanges, Session.carriedOut]
  have hf : f.exchanges <+: t.exchanges := prefix_of_run hsave
  have hd : d.exchanges <+: t.exchanges := hexchanges ▸ (prefix_of_run hhosts).trans hf
  have hc : c.exchanges <+: t.exchanges := (prefix_of_run hstatic).trans hd
  have hb : b.exchanges <+: t.exchanges := (prefix_of_run hgroups).trans hc
  have ha : a.exchanges <+: t.exchanges := (prefix_of_run hprepare).trans hb
  obtain ⟨hra, hreports⟩ := reports_parts (prefix_of_run hclear) ha hreports
  obtain ⟨hrb, hreports⟩ := reports_parts (prefix_of_run hprepare) hb hreports
  obtain ⟨hrc, hreports⟩ := reports_parts (prefix_of_run hgroups) hc hreports
  obtain ⟨hrd, hreports⟩ := reports_parts (prefix_of_run hstatic) hd hreports
  have hsame : d.since t = e.since t := by rw [Session.since, Session.since, hexchanges]
  rw [hsame] at hreports
  obtain ⟨hrf, hrt⟩ := reports_parts (prefix_of_run hhosts) hf hreports
  obtain ⟨cleared, hca, hcleared, -⟩ := run_reported_batch hclear hra
  obtain ⟨prepared, hcb, hprepared, -⟩ := run_reported_batch hprepare hrb
  obtain ⟨grouped, hcc, -, hgrouped⟩ := run_reported_batch hgroups hrc
  obtain ⟨routed, hcd, hrouted, -⟩ := run_reported_batch hstatic hrd
  obtain ⟨hosted, hcf, hhosted, -⟩ := run_reported_batch hhosts hrf
  obtain ⟨saved, hct, hsaved, -⟩ := run_reported_batch hsave hrt
  obtain rfl := hgrouped rfl
  refine ⟨cleared ++ prepared, groupCommands profile lanes ++ (routed ++ (hosted ++ saved)), ?_, ?_, ?_,
    fun command hcommand => List.mem_append_left _ hcommand⟩
  · rw [hct, hcf, he, hcd, hcc, hcb, hca]
    simp only [List.append_assoc]
  · intro d i hmem
    rcases List.mem_append.mp hmem with hmem | hmem
    · cases clearCommands_clears profile _ (hcleared.subset hmem)
    · cases prepareCommands_binds lanes _ (hprepared.subset hmem)
  · simp only [List.forall_mem_append]
    refine ⟨RoutingCall.groupCommands_kept profile lanes, ?_, ?_, ?_⟩
    · exact fun c hc => RoutingCall.staticCommands_kept profile lanes c (hrouted.subset hc)
    · exact fun c hc => RoutingCall.hostRoutes_kept profile lanes _ c (hhosted.subset hc)
    · intro c hc
      rw [List.mem_singleton.mp (hsaved.subset hc)]
      rfl

/-! ### Calls that return -/

/-- Both groups are there with all their domains, and each has its rule. -/
structure Routing.ServesGroups (r : Routing) (profile : Option Router1RouteProfile) (lanes : Lanes) :
    Prop where
  groups : ∀ g, r.groups g = true
  domains : ∀ domain ∈ managedMediaDomains profile ++ managedAiDomains profile,
    r.domains (if domain ∈ managedAiDomains profile then .ai else .media) domain = true
  media : r.dnsRoutes .media lanes.mediaInterface = true
  ai : r.dnsRoutes .ai lanes.aiInterface = true

theorem servesGroups_of_has (h : ∀ c ∈ groupCommands profile lanes, r.Has c) :
    r.ServesGroups profile lanes where
  groups g := by cases g <;> exact h (.addGroup _) (by simp [groupCommands])
  domains domain hdomain := h (includeDomain profile domain)
    (List.mem_append_left _ (List.mem_append_right _ (List.mem_map_of_mem hdomain)))
  media := h (.addDnsRoute .media lanes.mediaInterface) (by simp [groupCommands])
  ai := h (.addDnsRoute .ai lanes.aiInterface) (by simp [groupCommands])

theorem carriedOut_getJson {result : Except Failure Json}
    (h : (getJson .showInterfaces).run net.handle s = (result, t)) : t.carriedOut = s.carriedOut := by
  have hasked := Asks.run (R := (· = .showInterfaces)) (calls_getJson rfl) h
  have hnone : (s.since t).flatMap Exchange.executed = [] := by
    rw [List.flatMap_eq_nil_iff]
    intro e he
    rw [Exchange.executed, Exchange.commands, hasked.requests e he]
    rfl
  rw [Session.carriedOut, append_since hasked.prefixed, List.flatMap_append, hnone, List.append_nil]
  rfl

namespace RoutingCall

variable {c : RoutingCall} {table : Json}

/-- The routing of a router after the call. -/
def outcome (c : RoutingCall) (access : KeeneticAccess) (s : Session) (r : Routing) : Routing :=
  r.execAll (c.run access s).2.carriedOut

/-- The call was shown this table of interfaces. -/
def WasShown (c : RoutingCall) (access : KeeneticAccess) (s : Session) (table : Json) : Prop :=
  ∃ e ∈ (c.run access s).2.exchanges, e.request = .showInterfaces ∧ e.json? = some table

/-- What a call that returns has installed, on a router that reports on every line of every batch: in
the selective mode all groups, domains and rules, and in both modes the routes whose lines the router
has accepted. -/
structure InstalledAccepted (c : RoutingCall) (access : KeeneticAccess) (s : Session)
    (selected : String) (r : Routing) : Prop where
  routes : ∀ d i, .addRoute d i ∈ (c.run access s).2.carriedOut →
    (c.outcome access s r).routes d i = true
  groups : c.mode = .selective → ∃ table, c.WasShown access s table ∧
    (c.outcome access s r).ServesGroups c.profile (.of table selected)

/-- **A call that returns** has installed its groups and every route that was not refused. -/
theorem installed_of_ok (access : KeeneticAccess) (s : Session) (c : RoutingCall) (r : Routing)
    {selected : String} (htest : access.testMode = false)
    (hselected : s.selectedInterfaceByHost access.ip = some selected)
    (hreports : ∀ e ∈ (c.run access s).2.exchanges, e.Reports)
    (hok : (c.run access s).1 = .ok ()) : c.InstalledAccepted access s selected r := by
  set fresh : Session := { s with exchanges := [], lookups := [] } with hfresh
  have hnothing : fresh.carriedOut = [] := rfl
  have hrun : c.run access s = (.ok (), (c.run access s).2) := Prod.ext hok rfl
  set t := (c.run access s).2 with ht
  have hfreshSelected : fresh.selectedInterfaceByHost access.ip = some selected := hselected
  cases hmode : c.mode with
  | fullTunnel =>
      have hsent : (sendFullTunnel access c.profile selected).run c.net.handle fresh = (.ok (), t) := by
        rw [← run_applyFullTunnelRouting htest hfreshSelected, ← hmode]
        exact hrun
      refine ⟨((applied_sendFullTunnel htest hsent hreports).has hnothing r).1, fun hselective => ?_⟩
      rw [hmode] at hselective
      cases hselective
  | selective =>
      unfold run at hrun
      rw [hmode, applyRoutingProfile, run_applySelectiveDnsRouting htest hfreshSelected] at hrun
      obtain ⟨table, m, hread, hsend⟩ := Program.run_bind_ok hrun
      have hlookups : m.lookups = [] :=
        lookups_of_exchanges (p := getJson .showInterfaces) (calls_getJson trivial) hread
      have hreported := (reports_parts (prefix_of_run hread) (prefix_of_run hsend) hreports).2
      have happlied := (applied_sendSelective htest hlookups hsend hreported).has
        ((carriedOut_getJson hread).trans hnothing) r
      obtain ⟨e, he, hrequest, hjson⟩ := (run_getJson_ok hread).1
      have hshown : c.WasShown access s table := by
        refine ⟨e, ?_, hrequest, hjson⟩
        have hsince : t.exchanges = fresh.since m ++ m.since t :=
          since_trans (prefix_of_run hread) (prefix_of_run hsend)
        rw [← ht, hsince]
        exact List.mem_append_left _ he
      exact ⟨happlied.1, fun _ => ⟨table, hshown, servesGroups_of_has happlied.2⟩⟩

/-! A router that refuses the two half default routes of IPv4, and one that accepts every line. -/

def acceptedItem : Json := .obj [("parse", .obj [("status", .arr [.obj [("status", .str "message")]])])]

def refusedItem : Json := .obj [("parse", .obj [("status", .arr [.obj [("status", .str "error")]])])]

/-- The report on a batch of `size` lines of which the ones in `refused` are refused. -/
def report (size : Nat) (refused : List Nat) : Answer where
  reply := .ok ⟨200, .json (.arr ((List.range size).map fun k =>
    if k ∈ refused then refusedItem else acceptedItem))⟩
  carriedOut k := !decide (k ∈ refused)

theorem isError_refusedItem : IsError refusedItem := ⟨_, rfl, _, List.mem_singleton_self _, by decide⟩

theorem not_isError_acceptedItem : ¬IsError acceptedItem := by
  rintro ⟨statuses, hstatuses, status, hstatus, herror⟩
  obtain rfl := Json.arr.inj hstatuses.symm
  obtain rfl := List.mem_singleton.mp hstatus
  exact absurd herror (by decide)

theorem reports_report {request : Request} {size : Nat} {refused : List Nat}
    (hsize : ∀ commands, request = .cli commands → commands.length = size) :
    (⟨request, report size refused⟩ : Exchange).Reports := by
  intro commands hrequest
  refine ⟨_, _, rfl, rfl, rfl, by simp [hsize commands hrequest], fun k item hitem => ?_⟩
  obtain ⟨n, hn, rfl⟩ := List.getElem?_eq_some_iff.mp hitem
  simp only [List.getElem_map, List.getElem_range, report, Bool.not_eq_false', decide_eq_true_eq]
  split_ifs with hrefused
  · exact ⟨fun _ => hrefused, fun _ => isError_refusedItem⟩
  · exact ⟨fun herror => absurd herror not_isError_acceptedItem, fun h => absurd h hrefused⟩

/-- The three batches of the whole tunnel, of which the second is reported on with refusals. -/
def refusing (refused : List Nat) : Net where
  answers n :=
    match n with
    | 0 => report (clearCommands none).length []
    | 1 => report (fullTunnelCommands "Wireguard0").length refused
    | _ => report 1 []
  lookups _ := none

def tunnelCall (refused : List Nat) : RoutingCall := ⟨.fullTunnel, none, refusing refused⟩

theorem run_tunnelCall (refused : List Nat) :
    (tunnelCall refused).run homeAccess homeSession = (.ok (), { homeSession with exchanges :=
      [⟨.cli (clearCommands none), report (clearCommands none).length []⟩,
        ⟨.cli (fullTunnelCommands "Wireguard0"), report 8 refused⟩,
        ⟨.cli [.saveConfiguration], report 1 []⟩] }) := rfl

theorem tunnelCall_reports (refused : List Nat) :
    ∀ e ∈ ((tunnelCall refused).run homeAccess homeSession).2.exchanges, e.Reports := by
  rw [run_tunnelCall]
  simp only [List.forall_mem_cons, List.not_mem_nil, false_implies, implies_true, and_true]
  refine ⟨?_, ?_, ?_⟩ <;>
    exact reports_report fun commands hcommands =>
      congrArg List.length (Request.cli.inj hcommands).symm

/-- Where every line is accepted the first half goes through the tunnel. -/
theorem accepted_half_installed :
    ((tunnelCall []).outcome homeAccess homeSession .empty).routes .lowHalf "Wireguard0" = true := by
  have hselected : homeSession.selectedInterfaceByHost homeAccess.ip = some "Wireguard0" := rfl
  exact (installed_of_ok homeAccess homeSession (tunnelCall []) .empty rfl hselected
    (tunnelCall_reports []) rfl).routes .lowHalf "Wireguard0" (by decide +kernel)

/-- The call returns although both halves are refused. -/
theorem refused_halves_not_installed :
    ¬∀ (access : KeeneticAccess) (s : Session) (c : RoutingCall) (r : Routing) (selected : String),
      access.testMode = false → s.selectedInterfaceByHost access.ip = some selected →
      (∀ e ∈ (c.run access s).2.exchanges, e.Reports) → (c.run access s).1 = .ok () →
      (c.mode = .fullTunnel → (c.outcome access s r).routes .lowHalf selected = true ∧
        (c.outcome access s r).routes .highHalf selected = true) ∧
      (c.mode = .selective → ∃ table, c.WasShown access s table ∧
        (c.outcome access s r).ServesGroups c.profile (.of table selected) ∧
        ∀ command ∈ staticCommands c.profile (.of table selected), (c.outcome access s r).Has command) := by
  intro hclaim
  have hhalves := (hclaim homeAccess homeSession (tunnelCall [4, 5]) .empty "Wireguard0" rfl rfl
    (tunnelCall_reports [4, 5]) rfl).1 rfl
  exact absurd hhalves.1 (by decide +kernel)

end RoutingCall

end Keenetic
