import Router1.Keenetic.History

/-!
# A routing call that fails

Applying a profile clears first and adds afterwards, in several batches, and nothing takes the lines
back that were carried out when a later batch fails. A router on which an earlier call was applied is
compared before and after a call that throws.
-/

namespace Keenetic

open Dart Api Remote

variable {net : Net} {s t : Session}

/-! ### A net in which every call returns -/

/-- Everything is carried out and answered with an empty document, and no name is looked up. -/
def agreeing : Net where
  answers _ := ⟨.ok ⟨200, .json .null⟩, fun _ => true⟩
  lookups _ := none

theorem agreeing_works : agreeing.Works := ⟨fun _ => ⟨_, rfl, rfl⟩, fun _ _ => rfl⟩

/-- The operation returns, whatever the session. -/
def Agrees {α : Type} (p : Rci α) : Prop := ∀ s, ∃ value t, p.run agreeing.handle s = (.ok value, t)

theorem agrees_pure {α : Type} (value : α) : Agrees (pure value : Rci α) := fun s => ⟨value, s, rfl⟩

theorem Agrees.bind {α β : Type} {p : Rci α} {next : α → Rci β} (hp : Agrees p)
    (hnext : ∀ value, Agrees (next value)) : Agrees (p >>= next) := by
  intro s
  obtain ⟨value, m, hm⟩ := hp s
  rw [Program.run_bind_of_ok hm]
  exact hnext value m

theorem agrees_runCliCommands (commands : List Command) (ignoreErrors : Bool) :
    Agrees (runCliCommands commands ignoreErrors) := by
  intro s
  unfold runCliCommands
  split_ifs
  · exact ⟨_, _, rfl⟩
  · cases ignoreErrors with
    | true => exact ⟨_, _, rfl⟩
    | false => exact ⟨_, _, rfl⟩

theorem agrees_getJson (request : Request) : Agrees (getJson request) := fun _ => ⟨_, _, rfl⟩

theorem agrees_clearRouter1Routing (access : KeeneticAccess) (profile : Option Router1RouteProfile) :
    Agrees (clearRouter1Routing access profile) := by
  unfold clearRouter1Routing
  split_ifs
  · exact agrees_pure ()
  · exact agrees_runCliCommands _ true

theorem agrees_buildResolvedHostRoutes (profile : Option Router1RouteProfile) (lanes : Lanes) :
    Agrees (buildResolvedHostRoutes profile lanes) := by
  have hdomains : ∀ interface limit plan domains,
      Agrees (HostPlan.addDomains interface limit plan domains) := by
    intro interface limit plan domains s
    obtain ⟨t, hrun, -⟩ := run_addDomains agreeing interface limit plan domains s
    exact ⟨_, t, hrun⟩
  exact (hdomains _ _ _ _).bind fun media => (hdomains _ _ _ _).bind fun plan => agrees_pure _

theorem agrees_sendFullTunnel (access : KeeneticAccess) (profile : Option Router1RouteProfile)
    (selected : String) : Agrees (sendFullTunnel access profile selected) :=
  (agrees_clearRouter1Routing access profile).bind fun _ =>
    (agrees_runCliCommands _ true).bind fun _ => agrees_runCliCommands _ true

theorem agrees_sendSelective (access : KeeneticAccess) (profile : Option Router1RouteProfile)
    (lanes : Lanes) : Agrees (sendSelective access profile lanes) :=
  (agrees_clearRouter1Routing access profile).bind fun _ =>
    (agrees_runCliCommands _ true).bind fun _ =>
      (agrees_runCliCommands _ false).bind fun _ =>
        (agrees_runCliCommands _ true).bind fun _ =>
          (agrees_buildResolvedHostRoutes profile lanes).bind fun _ =>
            (agrees_runCliCommands _ true).bind fun _ => agrees_runCliCommands _ true

/-! ### What an applied profile leaves -/

/-- The routing of a router on which a call has returned and all it asked for was carried out. -/
def LeftByApply (r : Routing) : Prop :=
  ∃ (c : RoutingCall) (access : KeeneticAccess) (s : Session) (before : Routing),
    access.testMode = false ∧ c.net.Works ∧ (c.run access s).1 = .ok () ∧
      r = before.execAll (c.run access s).2.carriedOut

/-- The call on an interface, from nothing. -/
def appliedOn (mode : RouterRoutingProfile) (profile : Option Router1RouteProfile)
    (selected : String) : Routing :=
  let c : RoutingCall := ⟨mode, profile, agreeing⟩
  Routing.empty.execAll ((c.commands selected).1 ++ (c.commands selected).2)

theorem leftByApply_appliedOn (mode : RouterRoutingProfile) (profile : Option Router1RouteProfile)
    (selected : String) : LeftByApply (appliedOn mode profile selected) := by
  let c : RoutingCall := ⟨mode, profile, agreeing⟩
  let access : KeeneticAccess := ⟨"192.168.1.1", false⟩
  let s : Session := ⟨fun _ => some selected, fun _ => none, [], []⟩
  have hselected : s.selectedInterfaceByHost access.ip = some selected := rfl
  have hrun : ∃ t, c.run access s = (.ok (), t) := by
    cases mode with
    | fullTunnel =>
        obtain ⟨_, t, hsend⟩ := agrees_sendFullTunnel access profile selected s
        exact ⟨t, (run_applyFullTunnelRouting rfl hselected).trans hsend⟩
    | selective =>
        have hagrees := (agrees_getJson .showInterfaces).bind fun interfaces =>
          agrees_sendSelective access profile (.of interfaces selected)
        obtain ⟨_, t, hsend⟩ := hagrees s
        exact ⟨t, (run_applySelectiveDnsRouting rfl hselected).trans hsend⟩
  obtain ⟨t, ht⟩ := hrun
  refine ⟨c, access, s, .empty, rfl, agreeing_works, by rw [ht], ?_⟩
  rw [ht, RoutingCall.carriedOut_of_run agreeing_works rfl hselected ht]
  rfl

/-- The lines that make a group, a domain or a proxy rule. -/
def Command.opensGroup : Command → Bool
  | .addGroup _ | .addDomain _ _ | .addDnsRoute _ _ => true
  | _ => false

theorem sameGroups_empty_execAll {r : Routing} (h : r.SameGroups .empty) {cs : List Command}
    (hcs : ∀ c ∈ cs, c.opensGroup = false) : (r.execAll cs).SameGroups .empty := by
  induction cs generalizing r with
  | nil => exact h
  | cons c cs ih =>
      refine ih ?_ fun other hother => hcs other (List.mem_cons_of_mem c hother)
      have hc := hcs c List.mem_cons_self
      obtain ⟨hgroups, hdomains, hdns⟩ := h
      cases c with
      | addGroup | addDomain | addDnsRoute => cases hc
      | removeGroup | removeDomain | removeDnsRoute =>
          constructor
          · simp [Routing.exec, hgroups, Routing.empty]
          · simp [Routing.exec, hdomains, Routing.empty]
          · simp [Routing.exec, hdns, Routing.empty]
      | addRoute | removeRoute | removeRouteVia | ipGlobal | noIpGlobal | ipv6Global | noIpv6Global
      | mtu1280 | saveConfiguration => exact ⟨hgroups, hdomains, hdns⟩

theorem appliedOn_fullTunnel_groups (selected : String) :
    (appliedOn .fullTunnel none selected).SameGroups .empty := by
  refine sameGroups_empty_execAll ⟨rfl, rfl, rfl⟩ ?_
  rw [List.forall_mem_append]
  constructor
  · intro c hc
    have hclear : ∀ c ∈ clearCommands none, c.opensGroup = false := by
      intro c hc
      have hclears := clearCommands_clears none c hc
      cases c with
      | addGroup | addDomain | addDnsRoute => cases hclears
      | _ => rfl
    have hprepare : ∀ c ∈ (fullTunnelCommands selected).take 4, c.opensGroup = false := by
      simp [fullTunnelCommands, Command.opensGroup]
    rcases List.mem_append.mp hc with hc | hc
    · exact hclear c hc
    · exact hprepare c hc
  · simp [RoutingCall.commands, RoutingCall.routes, Command.opensGroup]

theorem mem_entries {r : Routing} {destination : Destination} {name : String} :
    (destination, name) ∈ r.entries ↔ r.routes destination name = true := Iff.rfl

theorem entries_appliedOn (mode : RouterRoutingProfile) (profile : Option Router1RouteProfile)
    (selected : String) :
    (appliedOn mode profile selected).entries
      = ((⟨mode, profile, agreeing⟩ : RoutingCall).patch selected).apply ∅ := by
  have hempty : Routing.empty.entries = ∅ := by
    ext x
    simp [Routing.entries, Routing.empty]
  rw [appliedOn, RoutingCall.entries_execAll_commands, hempty]

theorem appliedOn_fullTunnel_routes {selected name : String} (hne : name ≠ selected)
    (destination : Destination) :
    (appliedOn .fullTunnel none selected).routes destination name = false := by
  rw [Bool.eq_false_iff]
  intro hroute
  have hmem := mem_entries.mpr hroute
  rw [entries_appliedOn] at hmem
  rcases Patch.mem_apply.mp hmem with ⟨hempty, -⟩ | hadds
  · exact hempty.elim
  · simp [RoutingCall.patch, RoutingCall.routes, hne] at hadds

/-- Every entry of the first router is one of the second. -/
structure Routing.Le (r r' : Routing) : Prop where
  routes : ∀ d i, r.routes d i = true → r'.routes d i = true
  groups : ∀ g, r.groups g = true → r'.groups g = true
  domains : ∀ g d, r.domains g d = true → r'.domains g d = true
  dnsRoutes : ∀ g i, r.dnsRoutes g i = true → r'.dnsRoutes g i = true

theorem le_exec (r : Routing) {c : Command} (h : c.removes = false) : r.Le (r.exec c) := by
  cases c with
  | removeRoute | removeRouteVia | removeGroup | removeDomain | removeDnsRoute => cases h
  | _ => constructor <;> simp +contextual [Routing.exec]

theorem le_execAll (r : Routing) {cs : List Command} (h : ∀ c ∈ cs, c.removes = false) :
    r.Le (r.execAll cs) := by
  induction cs generalizing r with
  | nil => exact ⟨fun _ _ h => h, fun _ h => h, fun _ _ h => h, fun _ _ h => h⟩
  | cons c cs ih =>
      have hfirst := le_exec r (h c List.mem_cons_self)
      have hrest := ih (r.exec c) fun other hother => h other (List.mem_cons_of_mem c hother)
      exact ⟨fun d i hr => hrest.routes d i (hfirst.routes d i hr),
        fun g hr => hrest.groups g (hfirst.groups g hr),
        fun g d hr => hrest.domains g d (hfirst.domains g d hr),
        fun g i hr => hrest.dnsRoutes g i (hfirst.dnsRoutes g i hr)⟩

/-- What a line adds is there after lines that take nothing away. -/
theorem exec_le_appliedOn {mode : RouterRoutingProfile} {profile : Option Router1RouteProfile}
    {selected : String} {c : Command}
    (hc : c ∈ ((⟨mode, profile, agreeing⟩ : RoutingCall).commands selected).2) :
    ∃ r : Routing, (r.exec c).Le (appliedOn mode profile selected) := by
  have hkept := RoutingCall.additions_kept ⟨mode, profile, agreeing⟩ selected
  obtain ⟨before, after, hsplit⟩ := List.append_of_mem hc
  rw [appliedOn, Routing.execAll_append, hsplit, Routing.execAll_append, Routing.execAll_cons]
  refine ⟨_, le_execAll _ fun other hother => hkept other ?_⟩
  rw [hsplit]
  exact List.mem_append_right _ (List.mem_cons_of_mem c hother)

/-- The selective mode leaves a group for both kinds of traffic. -/
theorem appliedOn_selective_groups (profile : Option Router1RouteProfile) (selected : String)
    (group : FqdnGroup) : (appliedOn .selective profile selected).groups group = true := by
  have hline : Command.addGroup group ∈
      ((⟨.selective, profile, agreeing⟩ : RoutingCall).commands selected).2 := by
    cases group with
    | media | ai => simp [RoutingCall.commands, groupCommands]
  obtain ⟨r, hle⟩ := exec_le_appliedOn hline
  exact hle.groups group (by simp [Routing.exec])

/-- And a rule for both, bound to the selected interface here. -/
theorem appliedOn_selective_dnsRoutes (profile : Option Router1RouteProfile) (selected : String)
    (group : FqdnGroup) : (appliedOn .selective profile selected).dnsRoutes group selected = true := by
  have hline : Command.addDnsRoute group selected ∈
      ((⟨.selective, profile, agreeing⟩ : RoutingCall).commands selected).2 := by
    have hmedia : ((⟨.selective, profile, agreeing⟩ : RoutingCall).lanes selected).mediaInterface
        = selected := rfl
    have hai : ((⟨.selective, profile, agreeing⟩ : RoutingCall).lanes selected).aiInterface
        = selected := rfl
    cases group with
    | media | ai => simp [RoutingCall.commands, groupCommands, hmedia, hai]
  obtain ⟨r, hle⟩ := exec_le_appliedOn hline
  exact hle.dnsRoutes group selected (by simp [Routing.exec])

theorem appliedOn_selective_domains {profile : Router1RouteProfile} {selected domain : String}
    {group : FqdnGroup}
    (hdomain : domain ∈ managedMediaDomains (some profile) ++ managedAiDomains (some profile))
    (hgroup : includeDomain (some profile) domain = .addDomain group domain) :
    (appliedOn .selective (some profile) selected).domains group domain = true := by
  have hline : Command.addDomain group domain ∈
      ((⟨.selective, some profile, agreeing⟩ : RoutingCall).commands selected).2 := by
    rw [← hgroup]
    refine List.mem_append_left _ (List.mem_append_left _ (List.mem_append_right _ ?_))
    exact List.mem_map_of_mem hdomain
  obtain ⟨r, hle⟩ := exec_le_appliedOn hline
  exact hle.domains group domain (by simp [Routing.exec])

theorem appliedOn_selective_routes {profile : Router1RouteProfile} {selected : String}
    {destination : Destination}
    (hroute : .addRoute destination selected ∈
      (⟨.selective, some profile, agreeing⟩ : RoutingCall).routes selected) :
    (appliedOn .selective (some profile) selected).routes destination selected = true := by
  have hline : Command.addRoute destination selected ∈
      ((⟨.selective, some profile, agreeing⟩ : RoutingCall).commands selected).2 :=
    List.mem_append_right _ (List.mem_append_left _ hroute)
  obtain ⟨r, hle⟩ := exec_le_appliedOn hline
  exact hle.routes destination selected (by simp [Routing.exec])

/-! ### Every line that touches the routing changes one of them -/

def emptyProfile : Router1RouteProfile := ⟨"", "", [], [], [], [], [], [], [], [], [], []⟩

theorem append_zero_ne (name : String) : name ≠ name ++ "0" := by
  intro h
  have hlength := congrArg String.length h
  rw [String.length_append] at hlength
  simp at hlength

theorem exists_left_route (destination : Destination) (interface : String) :
    ∃ r, LeftByApply r ∧ r.routes destination interface = true := by
  cases destination with
  | ipv4 network mask =>
      refine ⟨_, leftByApply_appliedOn .selective
        (some { emptyProfile with mediaIpv4Routes := [⟨network, mask⟩] }) interface,
        appliedOn_selective_routes (List.mem_append_left _ ?_)⟩
      have hroute : Command.addRoute (.ipv4 network mask) interface ∈
          routesVia interface [⟨network, mask⟩] := List.mem_singleton.mpr rfl
      simp only [staticCommands, List.mem_append]
      exact .inl (.inl (.inl (.inr hroute)))
  | ipv6 range =>
      refine ⟨_, leftByApply_appliedOn .selective
        (some { emptyProfile with telegramIpv6Routes := [range] }) interface,
        appliedOn_selective_routes (List.mem_append_left _ ?_)⟩
      have hroute : Command.addRoute (.ipv6 range) interface ∈ rangesVia interface [range] :=
        List.mem_singleton.mpr rfl
      simp only [staticCommands, List.mem_append]
      exact .inr hroute

theorem exists_left_domain (group : FqdnGroup) (domain : String) :
    ∃ r, LeftByApply r ∧ r.domains group domain = true := by
  cases group with
  | media =>
      let profile := { emptyProfile with mediaDomains := [domain], aiDomains := [domain ++ "0"] }
      refine ⟨_, leftByApply_appliedOn .selective (some profile) "Wireguard0",
        appliedOn_selective_domains (List.mem_append_left _ (List.mem_singleton.mpr rfl)) ?_⟩
      have hother : domain ∉ managedAiDomains (some profile) := by
        intro hmem
        exact append_zero_ne domain (List.mem_singleton.mp hmem)
      rw [includeDomain, if_neg hother]
  | ai =>
      let profile := { emptyProfile with aiDomains := [domain] }
      have hmem : domain ∈ managedAiDomains (some profile) := List.mem_singleton.mpr rfl
      refine ⟨_, leftByApply_appliedOn .selective (some profile) "Wireguard0",
        appliedOn_selective_domains (List.mem_append_right _ hmem) ?_⟩
      rw [includeDomain, if_pos hmem]

theorem exists_left_changed {c : Command} (h : c.touchesRouting = true) (cs : List Command) :
    ∃ r, LeftByApply r ∧ (r.execAll cs).exec c ≠ r := by
  have hfull := leftByApply_appliedOn .fullTunnel none
  have hgroups := appliedOn_fullTunnel_groups "Wireguard0"
  have hselective := leftByApply_appliedOn .selective none "Wireguard0"
  cases c with
  | addRoute d i =>
      refine ⟨_, hfull (i ++ "0"), fun heq => ?_⟩
      have hroute := appliedOn_fullTunnel_routes (append_zero_ne i) d
      rw [← heq] at hroute
      simp [Routing.exec] at hroute
  | removeRoute d =>
      obtain ⟨r, hr, hroute⟩ := exists_left_route d "Wireguard0"
      refine ⟨r, hr, fun heq => ?_⟩
      rw [← heq] at hroute
      simp [Routing.exec] at hroute
  | removeRouteVia d i =>
      obtain ⟨r, hr, hroute⟩ := exists_left_route d i
      refine ⟨r, hr, fun heq => ?_⟩
      rw [← heq] at hroute
      simp [Routing.exec] at hroute
  | addGroup g =>
      refine ⟨_, hfull "Wireguard0", fun heq => ?_⟩
      have hgroup := congrFun hgroups.groups g
      rw [← heq] at hgroup
      simp [Routing.exec, Routing.empty] at hgroup
  | removeGroup g =>
      refine ⟨_, hselective, fun heq => ?_⟩
      have hgroup := appliedOn_selective_groups none "Wireguard0" g
      rw [← heq] at hgroup
      simp [Routing.exec] at hgroup
  | addDomain g d =>
      refine ⟨_, hfull "Wireguard0", fun heq => ?_⟩
      have hdomain := congrFun (congrFun hgroups.domains g) d
      rw [← heq] at hdomain
      simp [Routing.exec, Routing.empty] at hdomain
  | removeDomain g d =>
      obtain ⟨r, hr, hdomain⟩ := exists_left_domain g d
      refine ⟨r, hr, fun heq => ?_⟩
      rw [← heq] at hdomain
      simp [Routing.exec] at hdomain
  | addDnsRoute g i =>
      refine ⟨_, hfull "Wireguard0", fun heq => ?_⟩
      have hrule := congrFun (congrFun hgroups.dnsRoutes g) i
      rw [← heq] at hrule
      simp [Routing.exec, Routing.empty] at hrule
  | removeDnsRoute g =>
      refine ⟨_, hselective, fun heq => ?_⟩
      have hrule := appliedOn_selective_dnsRoutes none "Wireguard0" g
      rw [← heq] at hrule
      simp [Routing.exec] at hrule
  | ipGlobal | noIpGlobal | ipv6Global | noIpv6Global | mtu1280 | saveConfiguration => cases h

/-! ### The call that fails -/

variable {access : KeeneticAccess} {mode : RouterRoutingProfile} {profile : Option Router1RouteProfile}
  {error : Failure}

/-- A router that an earlier call has left is as it was. -/
def ModeKept (s t : Session) : Prop :=
  ∀ ρ : Router, LeftByApply ρ.routing → (ρ.after (s.since t)).routing = ρ.routing

/-- The clearing batch was not sent, or every attempt at it failed and had no line carried out. -/
def ClearingUndone (profile : Option Router1RouteProfile) (s t : Session) : Prop :=
  ∀ e ∈ s.since t, e.request = .cli (clearCommands profile) →
    e.succeeded = false ∧ e.executed = []

theorem clearCommands_ne_nil (profile : Option Router1RouteProfile) : clearCommands profile ≠ [] := by
  simp [clearCommands]

theorem run_runCliCommands_ok {commands : List Command} (hne : commands ≠ []) {ignoreErrors : Bool}
    (h : (runCliCommands commands ignoreErrors).run net.handle s = (.ok (), t)) :
    ∃ e ∈ s.since t, e.request = .cli commands ∧ e.succeeded = true := by
  unfold runCliCommands at h
  rw [if_neg (by simpa using hne)] at h
  obtain ⟨body, m, hpost, hrest⟩ := Program.run_bind_ok h
  obtain ⟨e, he, hsent⟩ := run_retryKeenetic_postRci_ok hpost
  refine ⟨e, ?_, hsent⟩
  rw [since_trans (prefix_of_run hpost) (prefix_of_run hrest)]
  exact List.mem_append_left _ he

theorem nothing_executed_of_clearing {rest : Unit → Rci Unit} (htest : access.testMode = false)
    (h : (clearRouter1Routing access profile >>= rest).run net.handle s = (.error error, t))
    (hundone : ClearingUndone profile s t) : ∀ e ∈ s.since t, e.executed = [] := by
  rw [clearRouter1Routing, if_neg (by simp [htest])] at h
  obtain hfailed | ⟨_, m, hcleared, hrest⟩ := Program.run_bind_error h
  · have hasks : Asks (· = .cli (clearCommands profile)) (runCliCommands (clearCommands profile) true) :=
      calls_runCliCommands (P := Call.Asks (· = .cli (clearCommands profile))) rfl true
    intro e he
    exact (hundone e he ((hasks.run hfailed).requests e he)).2
  · obtain ⟨e, he, hrequest, hsucceeded⟩ := run_runCliCommands_ok (clearCommands_ne_nil profile) hcleared
    have hmem : e ∈ s.since t := by
      rw [since_trans (prefix_of_run hcleared) (prefix_of_run hrest)]
      exact List.mem_append_left _ he
    rw [(hundone e hmem hrequest).1] at hsucceeded
    cases hsucceeded

theorem executed_of_show {e : Exchange} (h : e.request = .showInterfaces) : e.executed = [] := by
  simp [Exchange.executed, Exchange.commands, h]

theorem nothing_executed_of_undone
    (hfails : (applyRoutingProfile access mode profile).run net.handle s = (.error error, t))
    (hundone : ClearingUndone profile s t) : ∀ e ∈ s.since t, e.executed = [] := by
  cases htest : access.testMode with
  | true =>
      cases mode <;>
        simp [applyRoutingProfile, applyFullTunnelRouting, applySelectiveDnsRouting, htest] at hfails
  | false =>
      cases hselected : s.selectedInterfaceByHost access.ip with
      | none =>
          have hsame : s = t := by
            obtain ⟨failure, hrun⟩ := run_of_unselected htest hselected mode
            exact congrArg Prod.snd (hrun.symm.trans hfails)
          rw [← hsame, since_self]
          exact List.forall_mem_nil _
      | some selected =>
          cases mode with
          | fullTunnel =>
              rw [run_applyFullTunnelRouting htest hselected] at hfails
              exact nothing_executed_of_clearing htest hfails hundone
          | selective =>
              rw [applyRoutingProfile, run_applySelectiveDnsRouting htest hselected] at hfails
              obtain hunread | ⟨table, m, hread, hsend⟩ := Program.run_bind_error hfails
              · have hasked := Asks.run (R := (· = .showInterfaces)) (calls_getJson rfl) hunread
                exact fun e he => executed_of_show (hasked.requests e he)
              · have hasked := Asks.run (R := (· = .showInterfaces)) (calls_getJson rfl) hread
                have hsince := since_trans (prefix_of_run hread) (prefix_of_run hsend)
                have hlater : ClearingUndone profile m t := by
                  intro e he
                  exact hundone e (by rw [hsince]; exact List.mem_append_right _ he)
                intro e he
                rw [hsince] at he
                rcases List.mem_append.mp he with he | he
                · exact executed_of_show (hasked.requests e he)
                · exact nothing_executed_of_clearing htest hsend hlater e he

theorem touches_of_clears {c : Command} (h : c.clears = true) : c.touchesRouting = true := by
  cases c with
  | removeRoute | removeGroup | removeDomain | removeDnsRoute => rfl
  | _ => cases h

/-- A call that fails leaves every router with an applied profile as it was if and only if its clearing
batch was not sent or every attempt at it failed with no line carried out. The router is taken to carry
out the lines of a clearing batch that it answers with success. -/
theorem modeKept_iff
    (hfails : (applyRoutingProfile access mode profile).run net.handle s = (.error error, t))
    (hcleared : ∀ e ∈ s.since t, e.request = .cli (clearCommands profile) → e.succeeded = true →
      e.executed = e.commands) :
    ModeKept s t ↔ ClearingUndone profile s t := by
  have hlines : ModeKept s t ↔
      ∀ c ∈ (s.since t).flatMap Exchange.executed, c.touchesRouting = false := by
    rw [← Routing.execAll_eq_self_iff_of fun c cs h => exists_left_changed h cs]
    constructor
    · intro h r hr
      have hkept := h ⟨fun _ => true, fun _ => true, r⟩ hr
      rwa [Router.after_routing] at hkept
    · intro h ρ hρ
      rw [Router.after_routing]
      exact h ρ.routing hρ
  rw [hlines]
  constructor
  · intro huntouched e he hrequest
    have hcommands : e.commands = clearCommands profile := by rw [Exchange.commands, hrequest]
    have hnone : e.executed = [] := by
      rw [List.eq_nil_iff_forall_not_mem]
      intro c hc
      have hsent : c ∈ e.commands := by
        obtain ⟨⟨c', k⟩, hk, rfl⟩ := List.mem_map.mp hc
        exact List.fst_mem_of_mem_zipIdx (List.mem_filter.mp hk).1
      rw [hcommands] at hsent
      have htouches := touches_of_clears (clearCommands_clears profile c hsent)
      rw [huntouched c (List.mem_flatMap.mpr ⟨e, he, hc⟩)] at htouches
      cases htouches
    refine ⟨?_, hnone⟩
    rw [Bool.eq_false_iff]
    intro hsucceeded
    have hall := hcleared e he hrequest hsucceeded
    rw [hnone, hcommands] at hall
    exact clearCommands_ne_nil profile hall.symm
  · intro hundone c hc
    obtain ⟨e, he, hexecuted⟩ := List.mem_flatMap.mp hc
    rw [nothing_executed_of_undone hfails hundone e he] at hexecuted
    cases hexecuted

/-- A router that drops every connection from the n-th attempt on, and carries out everything before. -/
def droppingFrom (n : Nat) : Net where
  answers k :=
    if k < n then ⟨.ok ⟨200, .json .null⟩, fun _ => true⟩ else ⟨.error .http, fun _ => false⟩
  lookups _ := none

/-- The change of the mode to the whole tunnel, or back, when the router drops out. -/
def modeChange (mode : RouterRoutingProfile) (n : Nat) : Except Failure Unit × Session :=
  (applyRoutingProfile RoutingCall.homeAccess mode none).run (droppingFrom n).handle
    RoutingCall.homeSession

theorem fails_of_not_ok (result : Except Failure Unit × Session) (h : result.1.toOption = none) :
    ∃ error, result = (.error error, result.2) := by
  obtain ⟨_ | value, t⟩ := result
  · exact ⟨_, rfl⟩
  · cases h

/-- Nobody answers, and the old mode stays. -/
theorem unreachable_router_kept :
    ∃ error, modeChange .fullTunnel 0 = (.error error, (modeChange .fullTunnel 0).2) ∧
      ModeKept RoutingCall.homeSession (modeChange .fullTunnel 0).2 := by
  obtain ⟨error, hfails⟩ := fails_of_not_ok (modeChange .fullTunnel 0) (by decide +kernel)
  refine ⟨error, hfails, (modeKept_iff hfails ?_).mpr ?_⟩
  · decide +kernel
  · unfold ClearingUndone
    decide +kernel

def wholeTunnel : Router :=
  ⟨fun _ => true, fun _ => true, appliedOn .fullTunnel none "Wireguard0"⟩

/-- The router drops out after the clearing batch of a change from the whole tunnel to the selective
mode. The call throws, and the halves of the address space lead through the tunnel no longer. -/
theorem cleared_mode_lost :
    ¬∀ (access : KeeneticAccess) (mode : RouterRoutingProfile) (profile : Option Router1RouteProfile)
      (net : Net) (s t : Session) (error : Failure),
      (applyRoutingProfile access mode profile).run net.handle s = (.error error, t) →
        ModeKept s t := by
  intro hclaim
  obtain ⟨error, hfails⟩ := fails_of_not_ok (modeChange .selective 2) (by decide +kernel)
  have hleft : LeftByApply wholeTunnel.routing := by
    simp only [wholeTunnel]
    exact leftByApply_appliedOn .fullTunnel none "Wireguard0"
  have hkept := hclaim RoutingCall.homeAccess .selective none (droppingFrom 2) RoutingCall.homeSession _
    error hfails wholeTunnel hleft
  have hbefore : wholeTunnel.routing.routes .lowHalf "Wireguard0" = true := by decide +kernel
  have hafter : (wholeTunnel.after (RoutingCall.homeSession.since
      (modeChange .selective 2).2)).routing.routes .lowHalf "Wireguard0" = false := by decide +kernel
  have hsame : false = true := by
    rw [← hafter, ← hbefore]
    exact congrArg (fun r => r.routes .lowHalf "Wireguard0") hkept
  cases hsame

end Keenetic
