import Router1.Dart.Lines
import Router1.Keenetic.History

/-!
# Clearing after applying

The lines that add routes and the lines that take them away are written down separately. Family by
family they name the same destinations, so clearing with the profile of a call takes away all that the
call has added. Host routes are the one family that is not copied from a list: a host is trimmed before
a route is made for it, and it is cleared as it stands in the profile. The decoder of profiles trims
every host, so the two agree on every profile it makes.
-/

namespace Keenetic

open Dart Api Remote

variable {profile : Option Router1RouteProfile} {lanes : Lanes}
  {answers : Nat → Option (List InternetAddress)} {r r' : Routing}

/-! ### Where host routes come from -/

namespace HostPlan

theorem Every.lookUp {P : Command → Prop} {interface : String} {plan : HostPlan} (h : plan.Every P)
    (hoffers : ∀ n addresses, answers n = some addresses →
      ∀ address ∈ addresses, Offers P interface address.address)
    (limit n : Nat) (domains : List String) :
    (lookUp answers interface limit plan n domains).1.Every P := by
  induction domains generalizing plan n with
  | nil => exact h
  | cons domain domains ih =>
      unfold HostPlan.lookUp
      split_ifs
      · exact h
      · exact ih (h.addAnswer (hoffers n)) (n + 1)

end HostPlan

theorem hostRoutes_every {P : Command → Prop}
    (hmedia : ∀ host ∈ mediaHosts profile, HostPlan.Offers P lanes.mediaInterface host)
    (hai : ∀ host ∈ aiHosts profile, HostPlan.Offers P lanes.aiInterface host)
    (hanswers : ∀ interface ∈ lanes.bound, ∀ n addresses, answers n = some addresses →
      ∀ address ∈ addresses, HostPlan.Offers P interface address.address) :
    ∀ c ∈ hostRoutes profile lanes answers, P c := by
  have hprofile : (HostPlan.ofProfile profile lanes).Every P :=
    (HostPlan.every_empty.addResolved hmedia).addResolved hai
  have hlookedUp := hprofile.lookUp (hanswers lanes.mediaInterface (by simp [Lanes.bound])) 90 0
    (mediaProbes profile)
  have hall := hlookedUp.lookUp (hanswers lanes.aiInterface (by simp [Lanes.bound])) 170
    (HostPlan.lookUp answers lanes.mediaInterface 90 (.ofProfile profile lanes) 0
      (mediaProbes profile)).2 (aiProbes profile)
  exact fun c hc => hall c (List.mem_of_mem_take hc)

/-! ### Every route is cleared -/

def profileHosts (profile : Option Router1RouteProfile) : List String :=
  mediaHosts profile ++ aiHosts profile

/-- Whatever host of the profile is an address once it is trimmed is listed in that form. -/
def HostsListed (profile : Option Router1RouteProfile) : Prop :=
  ∀ host ∈ profileHosts profile, (InternetAddress.tryParse (trim host)).isSome →
    trim host ∈ profileHosts profile

/-- The answers name only hosts of the profile, in its spelling. -/
def AnswersListed (profile : Option Router1RouteProfile)
    (answers : Nat → Option (List InternetAddress)) : Prop :=
  ∀ n addresses, answers n = some addresses →
    ∀ address ∈ addresses, address.address ∈ profileHosts profile

/-- The line adds a route that clearing with the profile takes away. -/
def ClearedWith (profile : Option Router1RouteProfile) (c : Command) : Prop :=
  ∃ destination interface, c = .addRoute destination interface ∧
    .removeRoute destination ∈ clearCommands profile

theorem mem_clearCommands_of_host {host : String} {type : InternetAddressType}
    (hhost : host ∈ profileHosts profile) (htype : InternetAddress.tryParse host = some type) :
    .removeRoute (hostDestination host type) ∈ clearCommands profile := by
  have hclear : clearHost host = some (.removeRoute (hostDestination host type)) := by
    rw [clearHost, htype]
    rfl
  exact List.mem_append_right _ (List.mem_filterMap.mpr ⟨host, hhost, hclear⟩)

theorem offers_clearedWith (hlisted : HostsListed profile) {host : String}
    (hhost : host ∈ profileHosts profile) (interface : String) :
    HostPlan.Offers (ClearedWith profile) interface host := by
  intro type htype
  have htrimmed : trim host ∈ profileHosts profile := hlisted host hhost (by rw [htype]; rfl)
  exact ⟨_, interface, rfl, mem_clearCommands_of_host htrimmed htype⟩

theorem hostRoutes_clearedWith (hlisted : HostsListed profile)
    (hanswers : AnswersListed profile answers) :
    ∀ c ∈ hostRoutes profile lanes answers, ClearedWith profile c := by
  apply hostRoutes_every
  · intro host hhost
    exact offers_clearedWith hlisted (List.mem_append_left _ hhost) _
  · intro host hhost
    exact offers_clearedWith hlisted (List.mem_append_right _ hhost) _
  · intro interface _ n addresses hanswer address haddress
    exact offers_clearedWith hlisted (hanswers n addresses hanswer address haddress) interface

theorem staticCommands_clearedWith :
    ∀ c ∈ staticCommands profile lanes, ClearedWith profile c := by
  have hroutes : ∀ routes interface,
      (∀ route ∈ routes, .removeRoute route.destination ∈ clearCommands profile) →
        ∀ c ∈ routesVia interface routes, ClearedWith profile c := by
    intro routes interface hcleared c hc
    obtain ⟨route, hroute, rfl⟩ := List.mem_map.mp hc
    exact ⟨_, interface, rfl, hcleared route hroute⟩
  have hranges : ∀ ranges interface,
      (∀ range ∈ ranges, .removeRoute (.ipv6 range) ∈ clearCommands profile) →
        ∀ c ∈ rangesVia interface ranges, ClearedWith profile c := by
    intro ranges interface hcleared c hc
    obtain ⟨range, hrange, rfl⟩ := List.mem_map.mp hc
    exact ⟨_, interface, rfl, hcleared range hrange⟩
  simp only [staticCommands, List.forall_mem_append]
  refine ⟨⟨⟨⟨⟨⟨⟨hroutes _ _ ?_, hroutes _ _ ?_⟩, hroutes _ _ ?_⟩, hroutes _ _ ?_⟩, hroutes _ _ ?_⟩,
    hroutes _ _ ?_⟩, hranges _ _ ?_⟩, hranges _ _ ?_⟩
  all_goals
    intro entry hentry
    simp only [clearCommands, profileIpv4Routes, profileIpv6Routes, List.map_append, List.mem_append]
    simp only [List.mem_map_of_mem hentry, true_or, or_true]

/-! ### Profiles of the decoder -/

theorem trim_of_mem_stringList {json : Json} {item : String}
    (h : item ∈ Router1RouteProfile.stringList json) : trim item = item := by
  cases json with
  | arr items =>
      obtain ⟨source, -, rfl⟩ := List.mem_map.mp (List.mem_filter.mp h).1
      exact trim_trim _
  | null | bool | int | double | str | obj => cases h

theorem trim_of_mem_hostMap (json : Json) :
    ∀ entry ∈ Router1RouteProfile.hostMap json, ∀ host ∈ entry.2, trim host = host := by
  cases json with
  | null | bool | int | double | str | arr => simp [Router1RouteProfile.hostMap]
  | obj fields =>
      unfold Router1RouteProfile.hostMap
      refine List.foldlRecOn (motive := fun result : List (String × List String) =>
        ∀ entry ∈ result, ∀ host ∈ entry.2, trim host = host) fields _ (by simp)
          fun result hresult field _ => ?_
      dsimp only
      split_ifs
      · intro entry hentry host hhost
        rcases mem_put hentry with rfl | hentry
        · exact trim_of_mem_stringList hhost
        · exact hresult entry hentry host hhost
      · exact hresult

/-- The decoder trims every host, so whatever profile it makes lists its hosts as they are looked for. -/
theorem hostsListed_fromJson (json : List (String × Json)) :
    HostsListed (some (Router1RouteProfile.fromJson json)) := by
  intro host hhost _
  have htrimmed : trim host = host := by
    rcases List.mem_append.mp hhost with hhost | hhost <;>
      obtain ⟨entry, hentry, hmem⟩ := List.mem_flatMap.mp hhost <;>
      exact trim_of_mem_hostMap _ entry hentry host hmem
  rw [htrimmed]
  exact hhost

/-! ### A router without groups -/

/-- No group, no domain and no proxy rule of the service is on the router. -/
structure Routing.NoGroups (r : Routing) : Prop where
  groups : ∀ g, r.groups g = false
  domains : ∀ g d, r.domains g d = false
  dnsRoutes : ∀ g i, r.dnsRoutes g i = false

theorem Routing.NoGroups.exec (h : r.NoGroups) {c : Command} (hclears : c.clears = true) :
    (r.exec c).NoGroups := by
  obtain ⟨hgroups, hdomains, hdns⟩ := h
  cases c with
  | addGroup | addDomain | addRoute | addDnsRoute | removeRouteVia | ipGlobal | noIpGlobal
  | ipv6Global | noIpv6Global | mtu1280 | saveConfiguration => cases hclears
  | removeRoute | removeGroup | removeDomain | removeDnsRoute =>
      constructor <;> simp [Routing.exec, hgroups, hdomains, hdns]

theorem Routing.NoGroups.execAll (h : r.NoGroups) {cs : List Command}
    (hclears : ∀ c ∈ cs, c.clears = true) : (r.execAll cs).NoGroups := by
  induction cs generalizing r with
  | nil => exact h
  | cons c cs ih =>
      exact ih (h.exec (hclears c List.mem_cons_self))
        fun other hother => hclears other (List.mem_cons_of_mem c hother)

theorem Routing.SameGroups.trans {r'' : Routing} (h : r.SameGroups r') (h' : r'.SameGroups r'') :
    r.SameGroups r'' :=
  ⟨h.groups.trans h'.groups, h.domains.trans h'.domains, h.dnsRoutes.trans h'.dnsRoutes⟩

theorem Routing.NoGroups.sameGroups (h : r.NoGroups) (h' : r'.NoGroups) : r.SameGroups r' where
  groups := funext fun g => by rw [h.groups, h'.groups]
  domains := funext fun g => funext fun d => by rw [h.domains, h'.domains]
  dnsRoutes := funext fun g => funext fun i => by rw [h.dnsRoutes, h'.dnsRoutes]

/-! ### A call and a clearing -/

namespace RoutingCall

variable {access : KeeneticAccess} {selected : String} {c : RoutingCall} {s : Session}

/-- No entry of the service is on the router: no group and no proxy rule, no route to a destination
that clearing with the profile names, and no default route through the selected interface. -/
structure Untouched (profile : Option Router1RouteProfile) (selected : String) (r : Routing) : Prop where
  noGroups : r.NoGroups
  notCleared : ∀ d i, r.routes d i = true → .removeRoute d ∉ clearCommands profile
  noDefault : r.routes .everything selected = false ∧ r.routes .everything6 selected = false

/-- The session after the call and then `clearRouter1Routing` with the same profile, the requests
of the clearing counted anew. -/
def clear (c : RoutingCall) (access : KeeneticAccess) (clearing : Net) (s : Session) :
    Except Failure Unit × Session :=
  (clearRouter1Routing access c.profile).run clearing.handle
    { (c.run access s).2 with exchanges := [], lookups := [] }

/-- The routing after a call and a clearing with its profile. -/
def clearedAfter (c : RoutingCall) (access : KeeneticAccess) (clearing : Net) (s : Session)
    (r : Routing) : Routing :=
  (r.execAll (c.run access s).2.carriedOut).execAll (c.clear access clearing s).2.carriedOut

theorem adds_cleared (hlisted : HostsListed c.profile)
    (hanswers : AnswersListed c.profile c.net.lookups) {x : Destination × String}
    (hx : x ∈ (c.patch selected).adds) : .removeRoute x.1 ∈ clearCommands c.profile := by
  have hcleared : ClearedWith c.profile (.addRoute x.1 x.2) := by
    have hroute : .addRoute x.1 x.2 ∈ c.routes selected := hx
    unfold routes at hroute
    cases hmode : c.mode with
    | fullTunnel =>
        rw [hmode] at hroute
        simp only [List.mem_cons, List.not_mem_nil, or_false, Command.addRoute.injEq] at hroute
        refine ⟨x.1, x.2, rfl, ?_⟩
        rcases hroute with ⟨hd, -⟩ | ⟨hd, -⟩ | ⟨hd, -⟩ | ⟨hd, -⟩ <;> rw [hd] <;> simp [clearCommands]
    | selective =>
        rw [hmode] at hroute
        rcases List.mem_append.mp hroute with hroute | hroute
        · exact staticCommands_clearedWith _ hroute
        · exact hostRoutes_clearedWith hlisted hanswers _ hroute
  obtain ⟨destination, interface, heq, hmem⟩ := hcleared
  rw [(Command.addRoute.inj heq).1]
  exact hmem

/-- On the routes: what was there is not touched, and what is added is taken away. -/
theorem entries_apply_clear (hlisted : HostsListed c.profile)
    (hanswers : AnswersListed c.profile c.net.lookups) (hr : Untouched c.profile selected r) :
    (c.patch selected).apply r.entries \ {x | .removeRoute x.1 ∈ clearCommands c.profile}
      = r.entries := by
  ext ⟨d, i⟩
  constructor
  · rintro ⟨hkept | hadded, hcleared⟩
    · exact hkept.1
    · exact absurd (adds_cleared hlisted hanswers hadded) hcleared
  · intro hentry
    have hnot : .removeRoute d ∉ clearCommands c.profile := hr.notCleared d i hentry
    have hentry' : r.routes d i = true := hentry
    refine ⟨.inl ⟨hentry, ?_⟩, hnot⟩
    rintro (hcleared | ⟨rfl, rfl | ⟨-, rfl⟩⟩)
    · exact hnot hcleared
    · rw [hr.noDefault.1] at hentry'
      cases hentry'
    · rw [hr.noDefault.2] at hentry'
      cases hentry'

theorem exists_selected_of_ok (htest : access.testMode = false) (hok : (c.run access s).1 = .ok ()) :
    ∃ selected, s.selectedInterfaceByHost access.ip = some selected := by
  cases hselected : s.selectedInterfaceByHost access.ip with
  | some selected => exact ⟨selected, rfl⟩
  | none =>
      set fresh : Session := { s with exchanges := [], lookups := [] } with hfresh
      have hnone : fresh.selectedInterfaceByHost access.ip = none := hselected
      obtain ⟨failure, hrun⟩ := run_of_unselected htest hnone c.mode
      rw [run, hrun] at hok
      cases hok

theorem carriedOut_clear {clearing : Net} (hclearing : clearing.Works)
    (htest : access.testMode = false) (c : RoutingCall) (s : Session) :
    (c.clear access clearing s).2.carriedOut = clearCommands c.profile := by
  obtain ⟨t, hrun⟩ := hclearing.succeeds.run_runCliCommands (clearCommands c.profile)
    { (c.run access s).2 with exchanges := [], lookups := [] }
  have hclear : c.clear access clearing s = (.ok (), t) := by
    rw [clear, clearRouter1Routing, if_neg (by simp [htest])]
    exact hrun
  rw [hclear]
  exact (run_clearRouter1Routing hclearing htest hclear).1

/-- **Clearing undoes a call.** The profile lists its hosts as they are looked for, which the decoder
sees to, and nothing of the service was on the router before. -/
theorem clear_undoes (access : KeeneticAccess) (s : Session) (c : RoutingCall) (clearing : Net)
    (r : Routing) (hworks : c.net.Works) (hclearing : clearing.Works)
    (hok : (c.run access s).1 = .ok ()) (hlisted : HostsListed c.profile)
    (hanswers : AnswersListed c.profile c.net.lookups)
    (hr : ∀ selected, s.selectedInterfaceByHost access.ip = some selected →
      Untouched c.profile selected r) :
    c.clearedAfter access clearing s r = r := by
  unfold clearedAfter
  cases htest : access.testMode with
  | true =>
      have hnothing : (c.clear access clearing s).2.carriedOut = [] := by
        simp [clear, clearRouter1Routing, htest, Session.carriedOut]
      rw [carriedOut_of_testMode htest, hnothing, Routing.execAll_nil, Routing.execAll_nil]
  | false =>
      obtain ⟨selected, hselected⟩ := exists_selected_of_ok htest hok
      have huntouched := hr selected hselected
      have happlied : (c.run access s).2.carriedOut
          = (c.commands selected).1 ++ (c.commands selected).2 :=
        carriedOut_of_run hworks htest hselected (Prod.ext hok rfl)
      have hcleared := carriedOut_clear hclearing htest c s
      rw [happlied, hcleared]
      apply Routing.eq_of_sameGroups
      · -- the groups are removed whatever they were, and there were none before
        refine (sameGroups_clearCommands c.profile _ r).trans ?_
        exact (huntouched.noGroups.execAll (clearCommands_clears c.profile)).sameGroups
          huntouched.noGroups
      · rw [entries_execAll_of_unbound (fun command hcommand =>
            Command.binds_of_clears (clearCommands_clears c.profile command hcommand)),
          entries_execAll_commands]
        simp only [mem_drops_clearCommands]
        exact entries_apply_clear hlisted hanswers huntouched

/-! A profile with one media host, written as it is or with a blank before it. -/

def profileWithHost (host : String) : Router1RouteProfile :=
  { Router1RouteProfile.fromJson [] with mediaResolvedHosts := [("example.org", [host])] }

def hostCall (host : String) : RoutingCall := ⟨.selective, some (profileWithHost host), obliging⟩

/-- The router accepts everything and no lookup is answered. -/
def silent : Net := { obliging with lookups := fun _ => none }

theorem silent_works : silent.Works := ⟨fun _ => ⟨_, rfl, rfl⟩, fun _ _ => rfl⟩

def silentCall (host : String) : RoutingCall := { hostCall host with net := silent }

theorem untouched_empty (profile : Option Router1RouteProfile) (selected : String) :
    Untouched profile selected .empty where
  noGroups := ⟨fun _ => rfl, fun _ _ => rfl, fun _ _ => rfl⟩
  notCleared _ _ hroute := by cases hroute
  noDefault := ⟨rfl, rfl⟩

theorem answersListed_obliging : AnswersListed (some (profileWithHost "203.0.113.7")) obliging.lookups := by
  intro n addresses hanswer address haddress
  simp only [obliging] at hanswer
  split_ifs at hanswer
  obtain rfl := Option.some.inj hanswer
  obtain rfl := List.mem_singleton.mp haddress
  decide

/-- The route of a listed host is gone after the clearing. -/
theorem listed_host_cleared :
    (hostCall "203.0.113.7").clearedAfter homeAccess obliging homeSession .empty = .empty := by
  have hlisted : HostsListed (hostCall "203.0.113.7").profile := by
    intro host hhost _
    obtain rfl : host = "203.0.113.7" := List.mem_singleton.mp hhost
    decide
  exact clear_undoes homeAccess homeSession (hostCall "203.0.113.7") obliging .empty obliging_works
    obliging_works rfl hlisted answersListed_obliging fun selected _ => untouched_empty _ selected

/-- With a blank before it the host gets a route that no line clears. -/
theorem blank_host_not_cleared :
    ¬∀ (access : KeeneticAccess) (s : Session) (c : RoutingCall) (clearing : Net) (r : Routing),
      c.net.Works → clearing.Works → (c.run access s).1 = .ok () →
      AnswersListed c.profile c.net.lookups →
      (∀ selected, s.selectedInterfaceByHost access.ip = some selected →
        Untouched c.profile selected r) →
      c.clearedAfter access clearing s r = r := by
  intro hclaim
  have hanswers : AnswersListed (silentCall " 203.0.113.7").profile silent.lookups :=
    fun n addresses hanswer => by cases hanswer
  have hcleared := hclaim homeAccess homeSession (silentCall " 203.0.113.7") silent .empty silent_works
    silent_works rfl hanswers fun selected _ => untouched_empty _ selected
  have hroute : ((silentCall " 203.0.113.7").clearedAfter homeAccess silent homeSession .empty).routes
      (hostDestination "203.0.113.7" .ipv4) "Wireguard0" = true := by decide +kernel
  rw [hcleared] at hroute
  cases hroute

end RoutingCall

end Keenetic
