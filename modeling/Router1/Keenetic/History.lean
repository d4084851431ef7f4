import Mathlib.Order.BooleanAlgebra.Set
import Router1.Keenetic.Batches
import Router1.Remote.Patch

/-!
# Applying one profile after another

What is left on a router after a sequence of routing calls. On the routes a call is a patch: it drops
what its clearing lines name and adds its own routes. The groups and proxy rules of an earlier call
are always cleared. A route of an earlier call outlives a later one when the later profile does not
name its destination, and the built-in lists do not either.
-/

namespace Keenetic

open Dart Api Remote
open Remote.Program (Calls)

variable {net : Net} {s t : Session} {r r' : Routing}

/-! ### Lines as patches of the routes -/

def Routing.entries (r : Routing) : Set (Destination × String) := {x | r.routes x.1 x.2 = true}

/-- The routes a line takes away. -/
def Command.drops : Command → Set (Destination × String)
  | .removeRoute destination => {x | x.1 = destination}
  | .removeRouteVia destination interface => {x | x.1 = destination ∧ x.2 = interface}
  | _ => ∅

theorem entries_exec_of_unbound {c : Command} (h : c.binds = none) (r : Routing) :
    (r.exec c).entries = r.entries \ c.drops := by
  ext ⟨d, i⟩
  cases c with
  | addRoute | addDnsRoute => cases h
  | removeRoute destination => simp [Routing.exec, Routing.entries, Command.drops]
  | removeRouteVia destination interface =>
      simp only [Routing.exec, Routing.entries, Command.drops, Set.mem_ofPred_eq, Set.mem_sdiff,
        Bool.and_eq_true, Bool.not_eq_true', Bool.and_eq_false_iff, beq_eq_false_iff_ne, not_and_or]
  | addGroup | removeGroup | addDomain | removeDomain | removeDnsRoute | ipGlobal | noIpGlobal
  | ipv6Global | noIpv6Global | mtu1280 | saveConfiguration =>
      simp [Routing.exec, Routing.entries, Command.drops]

theorem entries_exec_of_kept {c : Command} (h : c.removes = false) (r : Routing) :
    (r.exec c).entries = r.entries ∪ {x | c = .addRoute x.1 x.2} := by
  ext ⟨d, i⟩
  cases c with
  | addRoute destination interface =>
      simp [Routing.exec, Routing.entries, @eq_comm _ d destination, @eq_comm _ i interface]
  | removeRoute | removeRouteVia | removeGroup | removeDomain | removeDnsRoute => cases h
  | addGroup | addDomain | addDnsRoute | ipGlobal | noIpGlobal | ipv6Global | noIpv6Global
  | mtu1280 | saveConfiguration => simp [Routing.exec, Routing.entries]

theorem entries_execAll_of_unbound {cs : List Command} (h : ∀ c ∈ cs, c.binds = none) (r : Routing) :
    (r.execAll cs).entries = r.entries \ {x | ∃ c ∈ cs, x ∈ c.drops} := by
  induction cs generalizing r with
  | nil => simp
  | cons c cs ih =>
      rw [Routing.execAll_cons, ih fun other hother => h other (List.mem_cons_of_mem c hother),
        entries_exec_of_unbound (h c List.mem_cons_self)]
      ext x
      simp [and_assoc]

theorem entries_execAll_of_kept {cs : List Command} (h : ∀ c ∈ cs, c.removes = false)
    (r : Routing) : (r.execAll cs).entries = r.entries ∪ {x | .addRoute x.1 x.2 ∈ cs} := by
  induction cs generalizing r with
  | nil => simp
  | cons c cs ih =>
      rw [Routing.execAll_cons, ih fun other hother => h other (List.mem_cons_of_mem c hother),
        entries_exec_of_kept (h c List.mem_cons_self)]
      ext x
      simp [or_assoc, eq_comm]

/-! ### Groups and proxy rules -/

/-- The two routers agree on everything but the routes. -/
structure Routing.SameGroups (r r' : Routing) : Prop where
  groups : r.groups = r'.groups
  domains : r.domains = r'.domains
  dnsRoutes : r.dnsRoutes = r'.dnsRoutes

theorem Routing.SameGroups.exec (h : r.SameGroups r') (c : Command) :
    (r.exec c).SameGroups (r'.exec c) := by
  obtain ⟨hgroups, hdomains, hdns⟩ := h
  cases c <;> constructor <;> simp [Routing.exec, hgroups, hdomains, hdns]

theorem Routing.SameGroups.execAll (h : r.SameGroups r') (cs : List Command) :
    (r.execAll cs).SameGroups (r'.execAll cs) := by
  induction cs generalizing r r' with
  | nil => exact h
  | cons c cs ih => exact ih (h.exec c)

/-- Once the groups and the rules are removed, the past of the router is not seen in them. -/
theorem sameGroups_clearCommands (profile : Option Router1RouteProfile) (r r' : Routing) :
    (r.execAll (clearCommands profile)).SameGroups (r'.execAll (clearCommands profile)) := by
  have hfirst : ∃ rest, clearCommands profile = [.removeDnsRoute .media, .removeDnsRoute .ai,
      .removeGroup .media, .removeGroup .ai] ++ rest := by
    unfold clearCommands
    simp only [List.append_assoc]
    exact ⟨_, rfl⟩
  obtain ⟨rest, hrest⟩ := hfirst
  rw [hrest, Routing.execAll_append, Routing.execAll_append]
  apply Routing.SameGroups.execAll
  constructor
  · funext g
    cases g <;> simp [Routing.exec]
  · funext g d
    cases g <;> simp [Routing.exec]
  · funext g i
    cases g <;> simp [Routing.exec]

theorem Routing.eq_of_sameGroups (h : r.SameGroups r') (hentries : r.entries = r'.entries) :
    r = r' := by
  apply Routing.ext
  · intro d i
    have hmem : (d, i) ∈ r.entries ↔ (d, i) ∈ r'.entries := by rw [hentries]
    exact Bool.eq_iff_iff.mpr hmem
  · exact congrFun h.groups
  · exact fun g d => congrFun (congrFun h.domains g) d
  · exact fun g i => congrFun (congrFun h.dnsRoutes g) i

/-! ### Runs in which everything succeeds -/

/-- Every attempt is answered with success and every line of a batch is carried out. -/
structure Net.Works (net : Net) : Prop where
  succeeds : net.Succeeds
  carriedOut : ∀ n k, (net.answers n).carriedOut k = true

/-- The lines the router has carried out so far. -/
def Session.carriedOut (s : Session) : List Command := s.exchanges.flatMap Exchange.executed

theorem Net.Works.executed (h : net.Works) (request : Request) (n : Nat) :
    (⟨request, net.answers n⟩ : Exchange).executed
      = (⟨request, net.answers n⟩ : Exchange).commands := by
  simp [Exchange.executed, h.carriedOut n]

/-- No lookup, and no record written. -/
def Call.IsExchange : Call → Prop
  | .exchange _ => True
  | _ => False

theorem lookups_of_exchanges {α : Type} {p : Rci α} (hp : p.Calls Call.IsExchange)
    {result : Except Failure α} (h : p.run net.handle s = (result, t)) : t.lookups = s.lookups := by
  have hinv : (p.run net.handle s).2.lookups = s.lookups := by
    refine Calls.run_invariant (I := fun t : Session => t.lookups = s.lookups) hp
      (fun op t hop ht => ?_) rfl
    cases op with
    | exchange request => exact ht
    | lookup | selected | setSelected | standby | setStandby => exact hop.elim
  rwa [h] at hinv

theorem lookups_of_batch {commands : List Command} {ignoreErrors : Bool} {result : Except Failure Unit}
    (h : (runCliCommands commands ignoreErrors).run net.handle s = (result, t)) : t.lookups = s.lookups :=
  lookups_of_exchanges (calls_runCliCommands trivial ignoreErrors) h

/-- A batch that the service is content with was carried out once, as a whole. -/
theorem Net.Works.run_runCliCommands (h : net.Works) {commands : List Command}
    {ignoreErrors : Bool} (hrun : (runCliCommands commands ignoreErrors).run net.handle s
      = (.ok (), t)) :
    t.carriedOut = s.carriedOut ++ commands ∧ t.lookups = s.lookups := by
  refine ⟨?_, lookups_of_batch hrun⟩
  unfold runCliCommands at hrun
  split_ifs at hrun with hempty
  · obtain ⟨-, rfl⟩ := Prod.mk.inj hrun
    rw [List.isEmpty_iff.mp hempty, List.append_nil]
  · obtain ⟨body, hbody⟩ := h.succeeds.run_retryKeenetic_postRci (.cli commands) s
    rw [Program.run_bind_of_ok hbody] at hrun
    have hquiet : t.exchanges = s.exchanges ++
        [⟨.cli commands, net.answers s.exchanges.length⟩] := by
      split at hrun
      · exact congrArg Session.exchanges (Prod.mk.inj hrun).2.symm
      · exact congrArg Session.exchanges (Prod.mk.inj hrun).2.symm
      · obtain ⟨value, m, hdecode, hrest⟩ := Program.run_bind_ok hrun
        have hm : m = (net.handle (.exchange (.cli commands)) s).2 := by
          unfold jsonDecode at hdecode
          split at hdecode <;> exact (Prod.mk.inj hdecode).2.symm
        subst hm
        split at hrest
        · split at hrest <;> exact congrArg Session.exchanges (Prod.mk.inj hrest).2.symm
        · exact congrArg Session.exchanges (Prod.mk.inj hrest).2.symm
    rw [Session.carriedOut, hquiet, List.flatMap_append, List.flatMap_singleton, h.executed]
    rfl

def Answer.table (answer : Answer) : Json :=
  match answer.reply with
  | .ok ⟨_, .json value⟩ => value
  | _ => .null

theorem Net.Works.run_getJson (h : net.Works) {value : Json}
    (hrun : (getJson .showInterfaces).run net.handle s = (.ok value, t)) :
    value = (net.answers s.exchanges.length).table ∧ t.carriedOut = s.carriedOut ∧
      t.lookups = s.lookups := by
  obtain ⟨response, hreply, hsuccess⟩ := h.succeeds s.exchanges.length
  have hget : (retryKeenetic (get .showInterfaces)).run net.handle s
      = (.ok response, (net.handle (.exchange .showInterfaces) s).2) := by
    unfold retryKeenetic retryFrom get
    rw [Program.run_tryCatch, Program.run_bind_of_ok (run_exchange _ s), hreply]
    rfl
  have hdecoded : response.body = .json value ∧
      (net.handle (.exchange .showInterfaces) s).2 = t := by
    unfold getJson at hrun
    rw [Program.run_bind_of_ok hget, if_pos hsuccess] at hrun
    rcases hbody : response.body with _ | _ | decoded
    · simp [hbody, jsonDecode] at hrun
    · simp [hbody, jsonDecode] at hrun
    · simpa [hbody, jsonDecode] using hrun
  refine ⟨?_, ?_, lookups_of_exchanges (calls_getJson trivial) hrun⟩
  · obtain ⟨status, body⟩ := response
    obtain rfl : body = .json value := hdecoded.1
    simp [Answer.table, hreply]
  · obtain ⟨-, rfl⟩ := hdecoded
    show (s.exchanges ++ [_]).flatMap Exchange.executed = _
    rw [List.flatMap_append, List.flatMap_singleton, h.executed]
    exact List.append_nil _

/-! ### Host routes without the session -/

/-- One of the two lookup loops, on the stream of answers from the n-th one on. -/
def HostPlan.lookUp (answers : Nat → Option (List InternetAddress)) (interface : String)
    (limit : Nat) : HostPlan → Nat → List String → HostPlan × Nat
  | plan, n, [] => (plan, n)
  | plan, n, _ :: domains =>
      if limit ≤ plan.commands.length then (plan, n)
      else lookUp answers interface limit (plan.addAnswer interface (answers n)) (n + 1) domains

/-- What `_buildResolvedHostRoutes` returns when its lookups are answered by the stream. -/
def hostRoutes (profile : Option Router1RouteProfile) (lanes : Lanes)
    (answers : Nat → Option (List InternetAddress)) : List Command :=
  let media := HostPlan.lookUp answers lanes.mediaInterface 90 (.ofProfile profile lanes) 0
    (mediaProbes profile)
  let all := HostPlan.lookUp answers lanes.aiInterface 170 media.1 media.2 (aiProbes profile)
  all.1.commands.take 170

theorem run_addDomains (net : Net) (interface : String) (limit : Nat) (plan : HostPlan) (domains : List String)
    (s : Session) :
    ∃ t, (HostPlan.addDomains interface limit plan domains).run net.handle s
        = (.ok (HostPlan.lookUp net.lookups interface limit plan s.lookups.length domains).1, t) ∧
      t.exchanges = s.exchanges ∧
      t.lookups.length
        = (HostPlan.lookUp net.lookups interface limit plan s.lookups.length domains).2 := by
  induction domains generalizing plan s with
  | nil => exact ⟨s, rfl, rfl, rfl⟩
  | cons domain domains ih =>
      unfold HostPlan.addDomains HostPlan.lookUp
      split_ifs with hlimit
      · exact ⟨s, rfl, rfl, rfl⟩
      · have hlookup : (lookup domain).run net.handle s
            = (.ok (net.lookups s.lookups.length), (net.handle (.lookup domain) s).2) := rfl
        rw [Program.run_bind_of_ok hlookup]
        obtain ⟨t, hrun, hexchanges, hlength⟩ :=
          ih (plan.addAnswer interface (net.lookups s.lookups.length))
            (net.handle (.lookup domain) s).2
        have hnext : (net.handle (.lookup domain) s).2.lookups.length = s.lookups.length + 1 := by
          simp [Net.handle]
        rw [hnext] at hrun hlength
        exact ⟨t, hrun, hexchanges, hlength⟩

theorem run_buildResolvedHostRoutes (net : Net) (profile : Option Router1RouteProfile) (lanes : Lanes)
    (hlookups : s.lookups = []) :
    ∃ t, (buildResolvedHostRoutes profile lanes).run net.handle s
        = (.ok (hostRoutes profile lanes net.lookups), t) ∧ t.exchanges = s.exchanges := by
  obtain ⟨a, hmedia, hexchanges, hlength⟩ := run_addDomains net lanes.mediaInterface 90
    (.ofProfile profile lanes) (mediaProbes profile) s
  obtain ⟨b, hai, hexchanges', -⟩ := run_addDomains net lanes.aiInterface 170
    (HostPlan.lookUp net.lookups lanes.mediaInterface 90 (.ofProfile profile lanes)
      s.lookups.length (mediaProbes profile)).1 (aiProbes profile) a
  refine ⟨b, ?_, hexchanges'.trans hexchanges⟩
  unfold buildResolvedHostRoutes hostRoutes
  rw [Program.run_bind_of_ok hmedia, Program.run_bind_of_ok hai, hlength, hlookups]
  rfl

/-! ### One call -/

/-- One routing call with everything it depends on besides the selected interface. -/
structure RoutingCall where
  mode : RouterRoutingProfile
  profile : Option Router1RouteProfile
  net : Net

namespace RoutingCall

variable {access : KeeneticAccess} {selected : String} {c : RoutingCall}

/-- The call, with the exchanges and lookups counted anew. -/
def run (c : RoutingCall) (access : KeeneticAccess) (s : Session) : Except Failure Unit × Session :=
  (applyRoutingProfile access c.mode c.profile).run c.net.handle
    { s with exchanges := [], lookups := [] }

/-- The interfaces the call chooses from the first answer it gets. -/
def lanes (c : RoutingCall) (selected : String) : Lanes := .of (c.net.answers 0).table selected

def routes (c : RoutingCall) (selected : String) : List Command :=
  match c.mode with
  | .fullTunnel =>
      [.addRoute .lowHalf selected, .addRoute .highHalf selected, .addRoute .lowHalf6 selected,
        .addRoute .highHalf6 selected]
  | .selective =>
      staticCommands c.profile (c.lanes selected) ++
        hostRoutes c.profile (c.lanes selected) c.net.lookups

/-- The patch of a call: it clears the destinations of the built-in lists and of its own profile, and
the default route through the selected interface. -/
def patch (c : RoutingCall) (selected : String) : Patch (Destination × String) where
  drops := {x | .removeRoute x.1 ∈ clearCommands c.profile ∨
    (x.2 = selected ∧ (x.1 = .everything ∨ (c.mode = .selective ∧ x.1 = .everything6)))}
  adds := {x | .addRoute x.1 x.2 ∈ c.routes selected}

/-- Everything the call sends, in order: first the lines that take away, then those that add. -/
def commands (c : RoutingCall) (selected : String) : List Command × List Command :=
  match c.mode with
  | .fullTunnel =>
      (clearCommands c.profile ++ (fullTunnelCommands selected).take 4,
        c.routes selected ++ [.saveConfiguration])
  | .selective =>
      (clearCommands c.profile ++ prepareCommands (c.lanes selected),
        groupCommands c.profile (c.lanes selected) ++ (c.routes selected ++ [.saveConfiguration]))

theorem hostRoutes_through (profile : Option Router1RouteProfile) (lanes : Lanes)
    (answers : Nat → Option (List InternetAddress)) :
    HostPlan.Through lanes.bound ⟨hostRoutes profile lanes answers, []⟩ := by
  let net : Net := ⟨fun _ => ⟨.error .timeout, fun _ => false⟩, answers⟩
  let start : Session := ⟨fun _ => none, fun _ => none, [], []⟩
  have hnone : start.lookups = [] := rfl
  obtain ⟨t, hrun, -⟩ := run_buildResolvedHostRoutes net profile lanes hnone
  exact (returns_buildResolvedHostRoutes profile lanes).run_ok hrun

theorem removals_unbound (c : RoutingCall) (selected : String) :
    ∀ command ∈ (c.commands selected).1, command.binds = none := by
  have hclear : ∀ command ∈ clearCommands c.profile, command.binds = none :=
    fun command hcommand => Command.binds_of_clears (clearCommands_clears c.profile command hcommand)
  unfold commands
  cases c.mode with
  | fullTunnel =>
      rw [List.forall_mem_append]
      exact ⟨hclear, by simp [fullTunnelCommands]⟩
  | selective =>
      rw [List.forall_mem_append]
      exact ⟨hclear, prepareCommands_binds _⟩

theorem groupCommands_kept (profile : Option Router1RouteProfile) (lanes : Lanes) :
    ∀ command ∈ groupCommands profile lanes, command.removes = false := by
  simp only [groupCommands, List.forall_mem_append, List.forall_mem_cons, List.forall_mem_map,
    includeDomain, Command.removes]
  simp

theorem staticCommands_kept (profile : Option Router1RouteProfile) (lanes : Lanes) :
    ∀ command ∈ staticCommands profile lanes, command.removes = false := by
  simp only [staticCommands, routesVia, rangesVia, List.forall_mem_append, List.forall_mem_map,
    Command.removes, implies_true, and_true]

theorem hostRoutes_kept (profile : Option Router1RouteProfile) (lanes : Lanes)
    (answers : Nat → Option (List InternetAddress)) :
    ∀ command ∈ hostRoutes profile lanes answers, command.removes = false := by
  intro command hcommand
  obtain ⟨destination, name, -, rfl⟩ := hostRoutes_through profile lanes answers command hcommand
  rfl

theorem additions_kept (c : RoutingCall) (selected : String) :
    ∀ command ∈ (c.commands selected).2, command.removes = false := by
  unfold commands routes
  cases c.mode with
  | fullTunnel => simp
  | selective =>
      simp only [List.forall_mem_append, List.forall_mem_cons, List.not_mem_nil, Command.removes,
        false_implies, implies_true, and_true]
      exact ⟨groupCommands_kept _ _, staticCommands_kept _ _, hostRoutes_kept _ _ _⟩

theorem mem_drops_clearCommands (profile : Option Router1RouteProfile) (x : Destination × String) :
    (∃ command ∈ clearCommands profile, x ∈ command.drops) ↔
      .removeRoute x.1 ∈ clearCommands profile := by
  constructor
  · rintro ⟨command, hcommand, hx⟩
    have hclears := clearCommands_clears profile command hcommand
    cases command with
    | removeRoute destination =>
        obtain rfl : x.1 = destination := hx
        exact hcommand
    | removeRouteVia | addRoute | addGroup | addDomain | addDnsRoute | ipGlobal | noIpGlobal
    | ipv6Global | noIpv6Global | mtu1280 | saveConfiguration => cases hclears
    | removeGroup | removeDomain | removeDnsRoute => exact hx.elim
  · intro hmem
    exact ⟨_, hmem, rfl⟩

theorem removals_drop (c : RoutingCall) (selected : String) :
    {x | ∃ command ∈ (c.commands selected).1, x ∈ command.drops} = (c.patch selected).drops := by
  ext ⟨d, i⟩
  have hclear := mem_drops_clearCommands c.profile (d, i)
  unfold commands patch
  cases hmode : c.mode with
  | fullTunnel =>
      simp only [List.mem_append, or_and_right, exists_or, Set.mem_ofPred_eq, reduceCtorEq,
        false_and, or_false]
      refine or_congr hclear ?_
      simp [fullTunnelCommands, Command.drops, and_comm]
  | selective =>
      simp only [List.mem_append, or_and_right, exists_or, Set.mem_ofPred_eq, true_and]
      refine or_congr hclear ?_
      have hglobal : ∀ interface, ¬ ∃ command ∈ notGlobal interface, (d, i) ∈ command.drops := by
        intro interface
        cases interface <;> simp [notGlobal, Command.drops]
      simp only [prepareCommands, List.mem_append, or_and_right, exists_or, hglobal, or_false]
      simp [Command.drops, lanes, Lanes.of, and_comm, and_or_left]

theorem additions_add (c : RoutingCall) (selected : String) :
    {x : Destination × String | Command.addRoute x.1 x.2 ∈ (c.commands selected).2}
      = (c.patch selected).adds := by
  ext ⟨d, i⟩
  unfold commands patch
  cases hmode : c.mode with
  | fullTunnel => simp
  | selective => simp [groupCommands, includeDomain]

theorem entries_execAll_commands (c : RoutingCall) (selected : String) (r : Routing) :
    (r.execAll ((c.commands selected).1 ++ (c.commands selected).2)).entries
      = (c.patch selected).apply r.entries := by
  rw [Routing.execAll_append, entries_execAll_of_kept (c.additions_kept selected),
    entries_execAll_of_unbound (c.removals_unbound selected), c.removals_drop selected,
    c.additions_add selected]
  rfl

theorem sameGroups_execAll_commands (c : RoutingCall) (selected : String) (r r' : Routing) :
    (r.execAll ((c.commands selected).1 ++ (c.commands selected).2)).SameGroups
      (r'.execAll ((c.commands selected).1 ++ (c.commands selected).2)) := by
  have hclear : ∃ rest, (c.commands selected).1 = clearCommands c.profile ++ rest := by
    unfold commands
    cases c.mode <;> exact ⟨_, rfl⟩
  obtain ⟨rest, hrest⟩ := hclear
  rw [hrest, List.append_assoc, Routing.execAll_append r, Routing.execAll_append r']
  exact (sameGroups_clearCommands c.profile r r').execAll _

theorem run_clearRouter1Routing (hworks : net.Works) (htest : access.testMode = false)
    {profile : Option Router1RouteProfile}
    (h : (clearRouter1Routing access profile).run net.handle s = (.ok (), t)) :
    t.carriedOut = s.carriedOut ++ clearCommands profile ∧ t.lookups = s.lookups := by
  rw [clearRouter1Routing, if_neg (by simp [htest])] at h
  exact hworks.run_runCliCommands h

theorem run_sendFullTunnel (hworks : net.Works) (htest : access.testMode = false)
    {profile : Option Router1RouteProfile}
    (h : (sendFullTunnel access profile selected).run net.handle s = (.ok (), t)) :
    t.carriedOut = s.carriedOut ++
      (clearCommands profile ++ (fullTunnelCommands selected ++ [.saveConfiguration])) := by
  obtain ⟨_, a, hclear, h⟩ := Program.run_bind_ok h
  obtain ⟨_, b, hroutes, hsave⟩ := Program.run_bind_ok h
  rw [(hworks.run_runCliCommands hsave).1, (hworks.run_runCliCommands hroutes).1,
    (run_clearRouter1Routing hworks htest hclear).1]
  simp only [List.append_assoc]

/-- A selective call that returns is its batches one after another, with the lookups before the last two. -/
theorem stages_of_sendSelective (htest : access.testMode = false)
    {profile : Option Router1RouteProfile} {lanes : Lanes} (hlookups : s.lookups = [])
    (h : (sendSelective access profile lanes).run net.handle s = (.ok (), t)) :
    ∃ a b c d e f,
      (runCliCommands (clearCommands profile) true).run net.handle s = (.ok (), a) ∧
      (runCliCommands (prepareCommands lanes) true).run net.handle a = (.ok (), b) ∧
      (runCliCommands (groupCommands profile lanes) false).run net.handle b = (.ok (), c) ∧
      (runCliCommands (staticCommands profile lanes) true).run net.handle c = (.ok (), d) ∧
      e.exchanges = d.exchanges ∧
      (runCliCommands (hostRoutes profile lanes net.lookups) true).run net.handle e = (.ok (), f) ∧
      (runCliCommands [.saveConfiguration] true).run net.handle f = (.ok (), t) := by
  obtain ⟨_, a, hclear, h⟩ := Program.run_bind_ok h
  obtain ⟨_, b, hprepare, h⟩ := Program.run_bind_ok h
  obtain ⟨_, c, hgroups, h⟩ := Program.run_bind_ok h
  obtain ⟨_, d, hstatic, h⟩ := Program.run_bind_ok h
  rw [clearRouter1Routing, if_neg (by simp [htest])] at hclear
  have hnone : d.lookups = [] := by
    rw [lookups_of_batch hstatic, lookups_of_batch hgroups, lookups_of_batch hprepare,
      lookups_of_batch hclear, hlookups]
  obtain ⟨e, hresolve, hexchanges⟩ := run_buildResolvedHostRoutes net profile lanes hnone
  rw [Program.run_bind_of_ok hresolve] at h
  obtain ⟨_, f, hhosts, hsave⟩ := Program.run_bind_ok h
  exact ⟨a, b, c, d, e, f, hclear, hprepare, hgroups, hstatic, hexchanges, hhosts, hsave⟩

theorem run_sendSelective (hworks : net.Works) (htest : access.testMode = false)
    {profile : Option Router1RouteProfile} {lanes : Lanes} (hlookups : s.lookups = [])
    (h : (sendSelective access profile lanes).run net.handle s = (.ok (), t)) :
    t.carriedOut = s.carriedOut ++ (clearCommands profile ++ (prepareCommands lanes ++
      (groupCommands profile lanes ++ (staticCommands profile lanes ++
        (hostRoutes profile lanes net.lookups ++ [.saveConfiguration]))))) := by
  obtain ⟨a, b, c, d, e, f, hclear, hprepare, hgroups, hstatic, hexchanges, hhosts, hsave⟩ :=
    stages_of_sendSelective htest hlookups h
  have he : e.carriedOut = d.carriedOut := by rw [Session.carriedOut, hexchanges, Session.carriedOut]
  rw [(hworks.run_runCliCommands hsave).1, (hworks.run_runCliCommands hhosts).1, he,
    (hworks.run_runCliCommands hstatic).1, (hworks.run_runCliCommands hgroups).1,
    (hworks.run_runCliCommands hprepare).1, (hworks.run_runCliCommands hclear).1]
  simp only [List.append_assoc]

theorem carriedOut_of_run (hworks : c.net.Works) (htest : access.testMode = false)
    (hselected : s.selectedInterfaceByHost access.ip = some selected)
    (h : c.run access s = (.ok (), t)) :
    t.carriedOut = (c.commands selected).1 ++ (c.commands selected).2 := by
  unfold run at h
  unfold commands routes lanes
  set fresh : Session := { s with exchanges := [], lookups := [] } with hfresh
  have hfreshSelected : fresh.selectedInterfaceByHost access.ip = some selected := hselected
  have hnothing : fresh.carriedOut = [] := rfl
  cases hmode : c.mode with
  | fullTunnel =>
      rw [hmode, run_applyFullTunnelRouting htest hfreshSelected] at h
      rw [run_sendFullTunnel hworks htest h, hnothing]
      simp [fullTunnelCommands]
  | selective =>
      rw [hmode, applyRoutingProfile, run_applySelectiveDnsRouting htest hfreshSelected] at h
      obtain ⟨table, m, hread, hsend⟩ := Program.run_bind_ok h
      obtain ⟨htable, hm, hlookups⟩ := hworks.run_getJson hread
      have hlanes : Lanes.of table selected = Lanes.of (c.net.answers 0).table selected := by
        rw [htable]
        rfl
      rw [run_sendSelective hworks htest hlookups hsend, hm, hnothing, hlanes]
      simp only [List.nil_append, List.append_assoc]

/-! ### A sequence of calls -/

/-- The routing after the calls, each of them on the session the one before has left. -/
def applyAll (access : KeeneticAccess) : List RoutingCall → Session → Routing → Routing
  | [], _, r => r
  | c :: calls, s, r =>
      applyAll access calls (c.run access s).2 (r.execAll (c.run access s).2.carriedOut)

/-- A call neither reads nor writes anything of the session but the selected interface. -/
theorem run_congr (h : t.selectedInterfaceByHost = s.selectedInterfaceByHost)
    (h' : t.standbyInterfaceByHost = s.standbyInterfaceByHost) (c : RoutingCall) :
    c.run access t = c.run access s := by
  unfold run
  rw [h, h']

theorem records_of_run (c : RoutingCall) (access : KeeneticAccess) (s : Session) :
    (c.run access s).2.selectedInterfaceByHost = s.selectedInterfaceByHost ∧
      (c.run access s).2.standbyInterfaceByHost = s.standbyInterfaceByHost := by
  have hrun : (applyRoutingProfile access c.mode c.profile).run c.net.handle
      { s with exchanges := [], lookups := [] } = ((c.run access s).1, (c.run access s).2) := rfl
  have hasked := (asks_applyRoutingProfile access c.mode c.profile).run hrun
  exact ⟨hasked.selected, hasked.standby⟩

/-- The calls of a history all return normally, and the router does all they ask. -/
def AllSucceed (access : KeeneticAccess) (s : Session) (calls : List RoutingCall) : Prop :=
  ∀ c ∈ calls, c.net.Works ∧ (c.run access s).1 = .ok ()

theorem AllSucceed.tail {calls : List RoutingCall} (h : AllSucceed access s (c :: calls)) :
    AllSucceed access (c.run access s).2 calls := by
  obtain ⟨hselected, hstandby⟩ := records_of_run c access s
  intro other hother
  rw [run_congr hselected hstandby other]
  exact h other (List.mem_cons_of_mem c hother)

theorem AllSucceed.carriedOut {calls : List RoutingCall} (h : AllSucceed access s (c :: calls))
    (htest : access.testMode = false)
    (hselected : s.selectedInterfaceByHost access.ip = some selected) :
    (c.run access s).2.carriedOut = (c.commands selected).1 ++ (c.commands selected).2 := by
  obtain ⟨hworks, hok⟩ := h c List.mem_cons_self
  exact carriedOut_of_run hworks htest hselected (Prod.ext hok rfl)

theorem entries_applyAll {calls : List RoutingCall} (h : AllSucceed access s calls)
    (htest : access.testMode = false)
    (hselected : s.selectedInterfaceByHost access.ip = some selected) (r : Routing) :
    (applyAll access calls s r).entries
      = Patch.applyAll (calls.map (·.patch selected)) r.entries := by
  induction calls generalizing s r with
  | nil => rfl
  | cons c calls ih =>
      have hnext : (c.run access s).2.selectedInterfaceByHost access.ip = some selected := by
        rw [(records_of_run c access s).1, hselected]
      rw [applyAll, ih h.tail hnext, h.carriedOut htest hselected, entries_execAll_commands]
      rfl

theorem sameGroups_applyAll {calls : List RoutingCall} (hne : calls ≠ [])
    (h : AllSucceed access s calls) (htest : access.testMode = false)
    (hselected : s.selectedInterfaceByHost access.ip = some selected) (r r' : Routing) :
    (applyAll access calls s r).SameGroups (applyAll access calls s r') := by
  induction calls generalizing s r r' with
  | nil => exact absurd rfl hne
  | cons c calls ih =>
      have hnext : (c.run access s).2.selectedInterfaceByHost access.ip = some selected := by
        rw [(records_of_run c access s).1, hselected]
      have hstep := sameGroups_execAll_commands c selected r r'
      rw [← h.carriedOut htest hselected] at hstep
      cases calls with
      | nil => exact hstep
      | cons c' calls => exact ih (by simp) h.tail hnext _ _

theorem applyAll_append (access : KeeneticAccess) (calls : List RoutingCall) (last : RoutingCall)
    (s : Session) (r : Routing) :
    applyAll access (calls ++ [last]) s r
      = applyAll access [last] s (applyAll access calls s r) := by
  induction calls generalizing s r with
  | nil => rfl
  | cons c calls ih =>
      obtain ⟨hselected, hstandby⟩ := records_of_run c access s
      rw [List.cons_append, applyAll, ih]
      simp only [applyAll, run_congr hselected hstandby last]

theorem carriedOut_of_testMode (htest : access.testMode = true) (c : RoutingCall) (s : Session) :
    (c.run access s).2.carriedOut = [] := by
  unfold run applyRoutingProfile
  cases c.mode <;> simp [applyFullTunnelRouting, applySelectiveDnsRouting, htest, Session.carriedOut]

theorem applyAll_of_testMode (htest : access.testMode = true) (calls : List RoutingCall)
    (s : Session) (r : Routing) : applyAll access calls s r = r := by
  induction calls generalizing s with
  | nil => rfl
  | cons c calls ih => rw [applyAll, carriedOut_of_testMode htest, Routing.execAll_nil, ih]

/-- The last of the calls decides alone if and only if every route that an earlier call adds is
dropped by a later one or added by the last one again. -/
theorem last_call_decides_iff (access : KeeneticAccess) (s : Session) {selected : String}
    (hselected : s.selectedInterfaceByHost access.ip = some selected)
    (calls : List RoutingCall) (last : RoutingCall)
    (hsucceed : AllSucceed access s (calls ++ [last])) :
    applyAll access (calls ++ [last]) s .empty = applyAll access [last] s .empty ↔
      access.testMode = true ∨
        ∀ pre c post, calls = pre ++ c :: post → ∀ x ∈ (c.patch selected).adds,
          (∃ c' ∈ post ++ [last], x ∈ (c'.patch selected).drops) ∨ x ∈ (last.patch selected).adds := by
  cases htest : access.testMode with
  | true => simp [applyAll_of_testMode htest]
  | false =>
      have hlast : AllSucceed access s [last] := fun c hc => hsucceed c (List.mem_append_right _ hc)
      have hempty : Routing.empty.entries = ∅ := by
        ext x
        simp [Routing.entries, Routing.empty]
      have hgroups : (applyAll access (calls ++ [last]) s .empty).SameGroups
          (applyAll access [last] s .empty) := by
        rw [applyAll_append]
        exact sameGroups_applyAll (by simp) hlast htest hselected _ _
      have hentries : applyAll access (calls ++ [last]) s .empty = applyAll access [last] s .empty ↔
          (applyAll access (calls ++ [last]) s .empty).entries
            = (applyAll access [last] s .empty).entries :=
        ⟨fun h => by rw [h], fun h => Routing.eq_of_sameGroups hgroups h⟩
      rw [hentries, entries_applyAll hsucceed htest hselected,
        entries_applyAll hlast htest hselected, hempty, List.map_append, List.map_singleton,
        Patch.applyAll_append_singleton_eq_iff]
      simp only [Bool.false_eq_true, false_or]
      constructor
      · intro h pre c post hsplit x hx
        have hdropped := h (pre.map (·.patch selected)) (c.patch selected)
          (post.map (·.patch selected)) (by rw [hsplit, List.map_append, List.map_cons]) x hx
        simpa [or_and_right, exists_or] using hdropped
      · intro h pre p post hsplit x hx
        obtain ⟨pre', rest, hcalls, rfl, hrest⟩ := List.map_eq_append_iff.mp hsplit
        obtain ⟨c, post', rfl, rfl, rfl⟩ := List.map_eq_cons_iff.mp hrest
        have hdropped := h pre' c post' hcalls x hx
        simpa [or_and_right, exists_or] using hdropped

/-! A phone whose first lookup is answered with one address, and a router that accepts everything. -/

def obliging : Net where
  answers _ := ⟨.ok ⟨200, .json .null⟩, fun _ => true⟩
  lookups n := if n = 0 then some [⟨"203.0.113.7", .ipv4⟩] else none

theorem obliging_works : obliging.Works := ⟨fun _ => ⟨_, rfl, rfl⟩, fun _ _ => rfl⟩

def homeAccess : KeeneticAccess := ⟨"192.168.1.1", false⟩

def homeSession : Session := ⟨fun _ => some "Wireguard0", fun _ => none, [], []⟩

def selectiveCall : RoutingCall := ⟨.selective, none, obliging⟩

def fullTunnelCall : RoutingCall := ⟨.fullTunnel, none, obliging⟩

theorem both_succeed : AllSucceed homeAccess homeSession [selectiveCall, fullTunnelCall] := by
  intro c hc
  simp only [List.mem_cons, List.not_mem_nil, or_false] at hc
  rcases hc with rfl | rfl
  · exact ⟨obliging_works, rfl⟩
  · exact ⟨obliging_works, rfl⟩

/-- The host route of a lookup outlives the change to the whole tunnel. -/
theorem looked_up_route_survives :
    AllSucceed homeAccess homeSession ([selectiveCall] ++ [fullTunnelCall]) ∧
      applyAll homeAccess ([selectiveCall] ++ [fullTunnelCall]) homeSession .empty
        ≠ applyAll homeAccess [fullTunnelCall] homeSession .empty := by
  refine ⟨both_succeed, fun heq => ?_⟩
  have hroute : (applyAll homeAccess ([selectiveCall] ++ [fullTunnelCall]) homeSession .empty).routes
      (hostDestination "203.0.113.7" .ipv4) "Wireguard0" = true := by decide +kernel
  rw [heq] at hroute
  exact absurd hroute (by decide +kernel)

theorem last_call_decides_after_fullTunnel :
    applyAll homeAccess ([fullTunnelCall] ++ [selectiveCall]) homeSession .empty
      = applyAll homeAccess [selectiveCall] homeSession .empty := by
  have hselected : homeSession.selectedInterfaceByHost homeAccess.ip = some "Wireguard0" := rfl
  refine (last_call_decides_iff homeAccess homeSession hselected [fullTunnelCall] selectiveCall
    ?_).mpr (.inr ?_)
  · intro c hc
    exact both_succeed c (by simpa [or_comm] using hc)
  · intro pre c post hsplit x hx
    obtain ⟨rfl, rfl, rfl⟩ : pre = [] ∧ c = fullTunnelCall ∧ post = [] := by
      cases pre with
      | nil => simpa [eq_comm] using hsplit
      | cons first rest => simp at hsplit
    refine .inl ⟨selectiveCall, by simp, .inl ?_⟩
    simp only [patch, routes, fullTunnelCall, Set.mem_ofPred_eq, List.mem_cons, Command.addRoute.injEq,
      List.not_mem_nil, or_false] at hx
    rcases hx with ⟨hd, -⟩ | ⟨hd, -⟩ | ⟨hd, -⟩ | ⟨hd, -⟩ <;> rw [hd] <;> simp [clearCommands]

end RoutingCall

end Keenetic
