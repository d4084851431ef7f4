import Router1.Keenetic.Exchanges

/-!
# What the batches hold

Which interfaces the lines of each batch bind something to, and which batches an operation of the
service sends. The host routes are built in a loop over profile hosts and lookup answers, and its
accumulator only ever holds routes through the interface of the loop.
-/

namespace Keenetic

open Dart Api Remote
open Remote.Program (Calls Returns)

variable {α β : Type} {net : Net} {s t u : Session} {profile : Option Router1RouteProfile}

/-- Whatever the lines bind, they bind to an interface in `names`. -/
def BindsOnly (names : List String) (commands : List Command) : Prop :=
  ∀ c ∈ commands, ∀ name, c.binds = some name → name ∈ names

theorem BindsOnly.append {names : List String} {cs cs' : List Command} (h : BindsOnly names cs)
    (h' : BindsOnly names cs') : BindsOnly names (cs ++ cs') := by
  intro c hc
  rcases List.mem_append.mp hc with hc | hc
  · exact h c hc
  · exact h' c hc

theorem bindsOnly_of_none {names : List String} {cs : List Command}
    (h : ∀ c ∈ cs, c.binds = none) : BindsOnly names cs := by
  intro c hc name hname
  rw [h c hc] at hname
  cases hname

theorem clearCommands_clears (profile : Option Router1RouteProfile) :
    ∀ c ∈ clearCommands profile, c.clears = true := by
  have hhosts : ∀ c ∈ (mediaHosts profile ++ aiHosts profile).filterMap clearHost,
      c.clears = true := by
    intro c hc
    obtain ⟨host, -, hhost⟩ := List.mem_filterMap.mp hc
    obtain ⟨type, -, rfl⟩ := Option.map_eq_some_iff.mp hhost
    rfl
  rw [clearCommands, List.forall_mem_append]
  refine ⟨?_, hhosts⟩
  simp only [List.forall_mem_append, List.forall_mem_map, List.forall_mem_cons, Command.clears,
    List.not_mem_nil, false_implies, implies_true, and_true]

theorem prepareCommands_binds (lanes : Lanes) : ∀ c ∈ prepareCommands lanes, c.binds = none := by
  have hglobal : ∀ interface, ∀ c ∈ notGlobal interface, c.binds = none := by
    intro interface
    cases interface <;> simp [notGlobal]
  rw [prepareCommands, List.forall_mem_append, List.forall_mem_append]
  refine ⟨⟨?_, hglobal lanes.fr⟩, hglobal lanes.nl2⟩
  simp

theorem bindsOnly_fullTunnelCommands (selected : String) :
    BindsOnly [selected] (fullTunnelCommands selected) := by
  simp [BindsOnly, fullTunnelCommands]

/-- The two interfaces the selective mode binds to. -/
def Lanes.bound (lanes : Lanes) : List String := [lanes.mediaInterface, lanes.aiInterface]

theorem bindsOnly_groupCommands (profile : Option Router1RouteProfile) (lanes : Lanes) :
    BindsOnly lanes.bound (groupCommands profile lanes) := by
  simp only [BindsOnly, groupCommands, List.forall_mem_append, List.forall_mem_cons,
    List.forall_mem_map, includeDomain, Command.binds]
  simp [Lanes.bound]

theorem bindsOnly_routesVia {names : List String} {interface : String} (h : interface ∈ names)
    (routes : List Ipv4Route) : BindsOnly names (routesVia interface routes) := by
  simp only [BindsOnly, routesVia, List.forall_mem_map, Command.binds, Option.some.injEq]
  rintro route - name rfl
  exact h

theorem bindsOnly_rangesVia {names : List String} {interface : String} (h : interface ∈ names)
    (ranges : List String) : BindsOnly names (rangesVia interface ranges) := by
  simp only [BindsOnly, rangesVia, List.forall_mem_map, Command.binds, Option.some.injEq]
  rintro range - name rfl
  exact h

theorem bindsOnly_staticCommands (profile : Option Router1RouteProfile) (lanes : Lanes) :
    BindsOnly lanes.bound (staticCommands profile lanes) := by
  have hmedia : lanes.mediaInterface ∈ lanes.bound := by simp [Lanes.bound]
  have hai : lanes.aiInterface ∈ lanes.bound := by simp [Lanes.bound]
  unfold staticCommands
  repeat apply BindsOnly.append
  all_goals first
    | exact bindsOnly_routesVia hmedia _
    | exact bindsOnly_routesVia hai _
    | exact bindsOnly_rangesVia hmedia _

/-! ### Host routes -/

namespace HostPlan

/-- Every line of the plan is as `P` says. -/
def Every (P : Command → Prop) (plan : HostPlan) : Prop := ∀ c ∈ plan.commands, P c

/-- The line that a host gives, if it is an address, is as `P` says. -/
def Offers (P : Command → Prop) (interface value : String) : Prop :=
  ∀ type, InternetAddress.tryParse (trim value) = some type →
    P (.addRoute (hostDestination (trim value) type) interface)

/-- Every line of the plan is a route through an interface in `names`. -/
def Through (names : List String) (plan : HostPlan) : Prop :=
  ∀ c ∈ plan.commands, ∃ destination, ∃ name ∈ names, c = .addRoute destination name

variable {P : Command → Prop} {names : List String} {interface : String} {plan : HostPlan}

theorem every_empty : Every P empty := by simp [Every, empty]

theorem Every.addAddress (h : plan.Every P) {value : String} (hoffer : Offers P interface value) :
    (plan.addAddress value interface).Every P := by
  unfold HostPlan.addAddress
  dsimp only
  split_ifs with hblank
  · exact h
  · split
    · exact h
    · rename_i type htype
      split_ifs with hseen
      · exact h
      · intro c hc
        rcases List.mem_append.mp hc with hc | hc
        · exact h c hc
        · rw [List.mem_singleton.mp hc]
          exact hoffer type htype

theorem Every.addResolved (h : plan.Every P) {addresses : List String}
    (hoffers : ∀ value ∈ addresses, Offers P interface value) :
    (addResolved interface plan addresses).Every P := by
  induction addresses generalizing plan with
  | nil => exact h
  | cons address addresses ih =>
      unfold HostPlan.addResolved
      split_ifs
      · exact h
      · exact ih (h.addAddress (hoffers address List.mem_cons_self))
          fun value hvalue => hoffers value (List.mem_cons_of_mem address hvalue)

theorem Every.addLookedUp (h : plan.Every P) (left : Nat) {addresses : List InternetAddress}
    (hoffers : ∀ address ∈ addresses, Offers P interface address.address) :
    (addLookedUp interface left plan addresses).Every P := by
  induction addresses generalizing left plan with
  | nil => cases left <;> exact h
  | cons address addresses ih =>
      have hnext := h.addAddress (hoffers address List.mem_cons_self)
      have hrest := fun other hother => hoffers other (List.mem_cons_of_mem address hother)
      cases left with
      | zero => exact h
      | succ left =>
          unfold HostPlan.addLookedUp
          dsimp only
          split_ifs
          · exact ih hnext left hrest
          · exact ih hnext (left + 1) hrest

theorem Every.addAnswer (h : plan.Every P) {answer : Option (List InternetAddress)}
    (hoffers : ∀ addresses, answer = some addresses →
      ∀ address ∈ addresses, Offers P interface address.address) :
    (plan.addAnswer interface answer).Every P := by
  cases answer with
  | none => exact h
  | some addresses => exact h.addLookedUp 4 (hoffers addresses rfl)

theorem offers_through (hmem : interface ∈ names) (value : String) :
    Offers (fun c => ∃ destination, ∃ name ∈ names, c = .addRoute destination name) interface value :=
  fun _ _ => ⟨_, interface, hmem, rfl⟩

theorem returns_addDomains (h : plan.Through names) (hmem : interface ∈ names) (limit : Nat)
    (domains : List String) : (addDomains interface limit plan domains).Returns (Through names) := by
  induction domains generalizing plan with
  | nil => exact h
  | cons domain domains ih =>
      unfold addDomains
      split_ifs
      · exact h
      · exact fun answer => ih (Every.addAnswer h fun _ _ address _ => offers_through hmem address.address)

theorem asks_addDomains (interface : String) (limit : Nat) (plan : HostPlan)
    (domains : List String) : Asks (fun _ => False) (addDomains interface limit plan domains) := by
  induction domains generalizing plan with
  | nil => trivial
  | cons domain domains ih =>
      unfold addDomains
      split_ifs
      · trivial
      · exact ⟨trivial, fun answer => ih _⟩

end HostPlan

theorem returns_buildResolvedHostRoutes (profile : Option Router1RouteProfile) (lanes : Lanes) :
    (buildResolvedHostRoutes profile lanes).Returns fun commands =>
      HostPlan.Through lanes.bound ⟨commands, []⟩ := by
  have hmedia : lanes.mediaInterface ∈ lanes.bound := by simp [Lanes.bound]
  have hai : lanes.aiInterface ∈ lanes.bound := by simp [Lanes.bound]
  have hprofile : (HostPlan.ofProfile profile lanes).Through lanes.bound :=
    (HostPlan.every_empty.addResolved fun value _ => HostPlan.offers_through hmedia value).addResolved
      fun value _ => HostPlan.offers_through hai value
  refine (HostPlan.returns_addDomains hprofile hmedia 90 _).bind fun media hthrough => ?_
  refine (HostPlan.returns_addDomains hthrough hai 170 _).bind fun plan hplan => ?_
  exact fun c hc => hplan c (List.mem_of_mem_take hc)

theorem asks_buildResolvedHostRoutes (profile : Option Router1RouteProfile) (lanes : Lanes) :
    Asks (fun _ => False) (buildResolvedHostRoutes profile lanes) :=
  (HostPlan.asks_addDomains ..).bind fun _ => (HostPlan.asks_addDomains ..).bind fun _ => trivial

theorem bindsOnly_of_through {names : List String} {commands : List Command}
    (h : HostPlan.Through names ⟨commands, []⟩) : BindsOnly names commands := by
  intro c hc name hname
  obtain ⟨destination, other, hother, rfl⟩ := h c hc
  obtain rfl := Option.some.inj hname
  exact hother

/-! ### The batches a call sends -/

/-- The request is a batch that binds only to an interface in `names`. -/
def Request.IsBatch (names : List String) (request : Request) : Prop :=
  ∃ commands, request = .cli commands ∧ BindsOnly names commands

theorem asks_batch {names : List String} {commands : List Command} (h : BindsOnly names commands)
    (ignoreErrors : Bool) :
    Asks (Request.IsBatch names) (runCliCommands commands ignoreErrors) :=
  calls_runCliCommands ⟨commands, rfl, h⟩ ignoreErrors

theorem asks_clearRouter1Routing (names : List String) (access : KeeneticAccess)
    (profile : Option Router1RouteProfile) :
    Asks (Request.IsBatch names) (clearRouter1Routing access profile) := by
  unfold clearRouter1Routing
  split_ifs
  · trivial
  · refine asks_batch (bindsOnly_of_none fun c hc => ?_) true
    exact Command.binds_of_clears (clearCommands_clears profile c hc)

theorem asks_save_line (names : List String) :
    Asks (Request.IsBatch names) (runCliCommands [.saveConfiguration] true) :=
  asks_batch (by simp [BindsOnly]) true

theorem asks_fullTunnel_lines (selected : String) :
    Asks (Request.IsBatch [selected])
      (do runCliCommands (fullTunnelCommands selected) true; runCliCommands [.saveConfiguration] true) :=
  (asks_batch (bindsOnly_fullTunnelCommands selected) true).bind fun _ => asks_save_line _

theorem asks_sendFullTunnel (access : KeeneticAccess) (profile : Option Router1RouteProfile)
    (selected : String) :
    Asks (Request.IsBatch [selected]) (sendFullTunnel access profile selected) :=
  (asks_clearRouter1Routing _ access profile).bind fun _ => asks_fullTunnel_lines selected

theorem asks_selective_lines (profile : Option Router1RouteProfile) (lanes : Lanes) :
    Asks (Request.IsBatch lanes.bound) (do
      runCliCommands (prepareCommands lanes) true
      runCliCommands (groupCommands profile lanes) false
      runCliCommands (staticCommands profile lanes) true
      let resolvedRoutes ← buildResolvedHostRoutes profile lanes
      runCliCommands resolvedRoutes true
      runCliCommands [.saveConfiguration] true) := by
  refine (asks_batch (bindsOnly_of_none (prepareCommands_binds lanes)) true).bind fun _ => ?_
  refine (asks_batch (bindsOnly_groupCommands profile lanes) false).bind fun _ => ?_
  refine (asks_batch (bindsOnly_staticCommands profile lanes) true).bind fun _ => ?_
  refine Calls.bind_returns ((asks_buildResolvedHostRoutes profile lanes).mono fun _ h => h.elim)
    (returns_buildResolvedHostRoutes profile lanes) fun commands hcommands => ?_
  refine (asks_batch (bindsOnly_of_through hcommands) true).bind fun _ => ?_
  exact asks_save_line _

theorem asks_sendSelective (access : KeeneticAccess) (profile : Option Router1RouteProfile)
    (lanes : Lanes) : Asks (Request.IsBatch lanes.bound) (sendSelective access profile lanes) :=
  (asks_clearRouter1Routing _ access profile).bind fun _ => asks_selective_lines profile lanes

/-- Applying a profile reads the interface table and sends batches, and does nothing else. -/
def Request.ofRouting (request : Request) : Prop :=
  request = .showInterfaces ∨ ∃ commands, request = .cli commands

theorem Request.ofRouting_of_isBatch {names : List String} {request : Request}
    (h : request.IsBatch names) : request.ofRouting := by
  obtain ⟨commands, hcommands, -⟩ := h
  exact .inr ⟨commands, hcommands⟩

theorem asks_applyRoutingProfile (access : KeeneticAccess) (routing : RouterRoutingProfile)
    (profile : Option Router1RouteProfile) :
    Asks Request.ofRouting (applyRoutingProfile access routing profile) := by
  cases routing with
  | fullTunnel =>
      simp only [applyRoutingProfile, applyFullTunnelRouting]
      split_ifs
      · trivial
      · refine ⟨trivial, fun selected => ?_⟩
        cases selected with
        | none => trivial
        | some selected =>
            exact (asks_sendFullTunnel access profile selected).mono
              fun _ => Request.ofRouting_of_isBatch
  | selective =>
      simp only [applyRoutingProfile, applySelectiveDnsRouting]
      split_ifs
      · trivial
      · refine ⟨trivial, fun selected => ?_⟩
        cases selected with
        | none => trivial
        | some selected =>
            have hread : Asks Request.ofRouting (getJson .showInterfaces) :=
              calls_getJson (Or.inl rfl)
            refine hread.bind fun interfaces => ?_
            exact (asks_sendSelective access profile (.of interfaces selected)).mono
              fun _ => Request.ofRouting_of_isBatch

/-! ### Runs of a call on a known interface -/

variable {access : KeeneticAccess} {selected name : String}

theorem run_selectedInterface {value : Option String}
    (hselected : s.selectedInterfaceByHost access.ip = value) :
    (selectedInterface access.ip).run net.handle s = (.ok value, s) := by
  rw [← hselected]
  rfl

/-- Without a selected interface a call fails and sends nothing. -/
theorem run_of_unselected (htest : access.testMode = false)
    (hnone : s.selectedInterfaceByHost access.ip = none) (mode : RouterRoutingProfile) :
    ∃ failure, (applyRoutingProfile access mode profile).run net.handle s = (.error failure, s) := by
  have hread : (selectedInterface access.ip).run net.handle s = (.ok none, s) :=
    run_selectedInterface hnone
  cases mode with
  | fullTunnel =>
      simp only [applyRoutingProfile, applyFullTunnelRouting, htest, Bool.false_eq_true, if_false]
      exact ⟨.notSelectedForFullTunnel, by rw [Program.run_bind_of_ok hread]; rfl⟩
  | selective =>
      simp only [applyRoutingProfile, applySelectiveDnsRouting, htest, Bool.false_eq_true, if_false]
      exact ⟨.notSelectedForRouting, by rw [Program.run_bind_of_ok hread]; rfl⟩

theorem session_of_idle (h : access.testMode = true ∨ s.selectedInterfaceByHost access.ip = none)
    (mode : RouterRoutingProfile) :
    ((applyRoutingProfile access mode profile).run net.handle s).2 = s := by
  cases htest : access.testMode with
  | true =>
      cases mode with
      | fullTunnel => simp [applyRoutingProfile, applyFullTunnelRouting, htest]
      | selective => simp [applyRoutingProfile, applySelectiveDnsRouting, htest]
  | false =>
      have hnone : s.selectedInterfaceByHost access.ip = none := h.resolve_left (by simp [htest])
      obtain ⟨failure, hrun⟩ :
          ∃ failure, (applyRoutingProfile access mode profile).run net.handle s = (.error failure, s) :=
        run_of_unselected htest hnone mode
      rw [hrun]

theorem run_applyFullTunnelRouting (htest : access.testMode = false)
    (hselected : s.selectedInterfaceByHost access.ip = some selected) :
    (applyRoutingProfile access .fullTunnel profile).run net.handle s
      = (sendFullTunnel access profile selected).run net.handle s := by
  simp only [applyRoutingProfile, applyFullTunnelRouting, htest, Bool.false_eq_true, if_false]
  rw [Program.run_bind_of_ok (run_selectedInterface hselected)]

theorem run_applySelectiveDnsRouting (htest : access.testMode = false)
    (hselected : s.selectedInterfaceByHost access.ip = some selected) :
    (applySelectiveDnsRouting access profile).run net.handle s
      = (do
          let interfaces ← getJson .showInterfaces
          sendSelective access profile (.of interfaces selected)).run net.handle s := by
  simp only [applySelectiveDnsRouting, htest, Bool.false_eq_true, if_false]
  rw [Program.run_bind_of_ok (run_selectedInterface hselected)]

theorem not_bound_of_isBatch {names : List String} {es : List Exchange}
    (h : ∀ e ∈ es, e.request.IsBatch names) (hname : name ∉ names) :
    ∀ e ∈ es, ∀ c ∈ e.commands, c.binds ≠ some name := by
  intro e he c hc hbinds
  obtain ⟨commands, hrequest, hbound⟩ := h e he
  rw [Exchange.commands, hrequest] at hc
  exact hname (hbound c hc name hbinds)

/-- The batch of the domain groups is certainly sent by a call that returns. -/
theorem groups_sent_of_ok {lanes : Lanes}
    (h : (sendSelective access profile lanes).run net.handle s = (.ok (), t)) :
    ∃ e ∈ s.since t, e.request = .cli (groupCommands profile lanes) := by
  obtain ⟨_, a, hclear, h⟩ := Program.run_bind_ok h
  obtain ⟨_, b, hprepare, h⟩ := Program.run_bind_ok h
  obtain ⟨_, c, hgroups, h⟩ := Program.run_bind_ok h
  obtain ⟨e, he, hrequest⟩ := (starts_runCliCommands (by simp [groupCommands]) false).run hgroups
  refine ⟨e, ?_, hrequest⟩
  have hsb : s.exchanges <+: b.exchanges := (prefix_of_run hclear).trans (prefix_of_run hprepare)
  have hbt : b.exchanges <+: t.exchanges := (prefix_of_run hgroups).trans (prefix_of_run h)
  rw [since_trans hsb hbt, since_trans (prefix_of_run hgroups) (prefix_of_run h)]
  exact List.mem_append_right _ (List.mem_append_left _ he)

theorem bound_sent_of_ok {lanes : Lanes} (hname : name ∈ lanes.bound)
    (h : (sendSelective access profile lanes).run net.handle s = (.ok (), t)) :
    ∃ e ∈ s.since t, ∃ c ∈ e.commands, c.binds = some name := by
  obtain ⟨e, he, hrequest⟩ := groups_sent_of_ok h
  refine ⟨e, he, ?_⟩
  rw [Exchange.commands, hrequest]
  rcases List.mem_cons.mp hname with rfl | hname
  · exact ⟨.addDnsRoute .media lanes.mediaInterface, by simp [groupCommands], rfl⟩
  · obtain rfl := List.mem_singleton.mp hname
    exact ⟨.addDnsRoute .ai lanes.aiInterface, by simp [groupCommands], rfl⟩

theorem unbound_iff_of_ok {routing : RouterRoutingProfile}
    (hselected : s.selectedInterfaceByHost access.ip = some selected) (hname : name ≠ selected)
    (h : (applyRoutingProfile access routing profile).run net.handle s = (.ok (), t)) :
    (∀ e ∈ s.since t, ∀ c ∈ e.commands, c.binds ≠ some name) ↔
      access.testMode = true ∨ routing = .fullTunnel ∨
        ∀ e ∈ s.since t, e.request = .showInterfaces → ∀ table, e.json? = some table →
          name ∉ (Lanes.of table selected).bound := by
  cases htest : access.testMode with
  | true =>
      obtain rfl : s = t := by
        cases routing <;>
          simpa [applyRoutingProfile, applyFullTunnelRouting, applySelectiveDnsRouting, htest] using h
      simp [since_self]
  | false =>
      cases routing with
      | fullTunnel =>
          rw [run_applyFullTunnelRouting htest hselected] at h
          have hbatches := ((asks_sendFullTunnel access profile selected).run h).requests
          simpa using not_bound_of_isBatch hbatches (by simpa using hname)
      | selective =>
          rw [applyRoutingProfile, run_applySelectiveDnsRouting htest hselected] at h
          obtain ⟨table, m, hread, hsend⟩ := Program.run_bind_ok h
          have hasked := Asks.run (R := (· = .showInterfaces)) (calls_getJson rfl) hread
          have hbatches := (asks_sendSelective access profile (.of table selected)).run hsend
          obtain ⟨⟨e, he, hrequest, hjson⟩, honly⟩ := run_getJson_ok hread
          rw [since_trans hasked.prefixed hbatches.prefixed]
          simp only [Bool.false_eq_true, false_or, reduceCtorEq]
          constructor
          · intro hunbound e' he' hshow other hother hmem
            rcases List.mem_append.mp he' with he' | he'
            · rw [honly e' he' other hother] at hmem
              obtain ⟨sent, hsent, c, hc, hbinds⟩ := bound_sent_of_ok hmem hsend
              exact hunbound sent (List.mem_append_right _ hsent) c hc hbinds
            · obtain ⟨commands, hcli, -⟩ := hbatches.requests e' he'
              rw [hshow] at hcli
              cases hcli
          · intro hunoffered e' he' c hc
            rcases List.mem_append.mp he' with he' | he'
            · rw [Exchange.commands, hasked.requests e' he'] at hc
              cases hc
            · have hmem := hunoffered e (List.mem_append_left _ he) hrequest table hjson
              exact not_bound_of_isBatch hbatches.requests hmem e' he' c hc

end Keenetic
