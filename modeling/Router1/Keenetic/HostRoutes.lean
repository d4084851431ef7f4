import Router1.Dart.Cidr
import Router1.Keenetic.History
import Router1.Remote.Passes

/-!
# Planning the host routes

`_buildResolvedHostRoutes` with any arguments. Four loops add routes to one list: over the resolved hosts of
the two kinds of traffic, as long as there are fewer than 170 routes, and over the domains of the two kinds,
which are looked up as long as there are fewer than 90 or 170. One lookup adds at most four. A route is
added unless its key is there, where a key is the address and the interface with a colon in between. So a
plan is a list of hosts with different keys, and every loop adds the hosts that are new.
-/

namespace Keenetic

open Dart Api Remote Cidr

/-- The arguments of `_buildResolvedHostRoutes`. -/
structure HostSources where
  mediaDomains : List String
  mediaInterface : String
  aiDomains : List String
  aiInterface : String
  mediaResolvedHosts : List (String × List String)
  aiResolvedHosts : List (String × List String)

namespace HostSources

def interfaceOf (h : HostSources) : FqdnGroup → String
  | .media => h.mediaInterface
  | .ai => h.aiInterface

/-- The values of one of the maps, in the order in which the two nested loops come to them. -/
def values (h : HostSources) : FqdnGroup → List String
  | .media => h.mediaResolvedHosts.flatMap Prod.snd
  | .ai => h.aiResolvedHosts.flatMap Prod.snd

/-- `addResolvedMap` for both maps. Its return ends both of its loops. -/
def resolved (h : HostSources) : HostPlan :=
  HostPlan.addResolved h.aiInterface
    (HostPlan.addResolved h.mediaInterface .empty (h.values .media)) (h.values .ai)

/-- `_buildResolvedHostRoutes`. -/
def build (h : HostSources) : Rci (List Command) := do
  let media ← HostPlan.addDomains h.mediaInterface 90 h.resolved h.mediaDomains
  let plan ← HostPlan.addDomains h.aiInterface 170 media h.aiDomains
  pure (plan.commands.take 170)

/-- The arguments that `applySelectiveDnsRouting` passes. -/
def ofProfile (profile : Option Router1RouteProfile) (lanes : Lanes) : HostSources where
  mediaDomains := mediaProbes profile
  mediaInterface := lanes.mediaInterface
  aiDomains := aiProbes profile
  aiInterface := lanes.aiInterface
  mediaResolvedHosts := listOf profile (·.mediaResolvedHosts)
  aiResolvedHosts := listOf profile (·.aiResolvedHosts)

theorem build_ofProfile (profile : Option Router1RouteProfile) (lanes : Lanes) :
    (ofProfile profile lanes).build = buildResolvedHostRoutes profile lanes := by
  cases profile <;> rfl

end HostSources

/-! ### Hosts -/

/-- An address with the interface that its route goes through. -/
structure Host where
  address : String
  interface : String
  type : InternetAddressType
  parsed : InternetAddress.tryParse address = some type

namespace Host

def key (h : Host) : String := HostPlan.hostKey h.address h.interface h.type

def route (h : Host) : Command := .addRoute (hostDestination h.address h.type) h.interface

def pair (h : Host) : String × String := (h.address, h.interface)

/-- The key that an address and an interface have. -/
def keyOf (pair : String × String) : String :=
  ((InternetAddress.tryParse pair.1).map (HostPlan.hostKey pair.1 pair.2)).getD ""

theorem key_eq_keyOf (h : Host) : h.key = keyOf h.pair := by
  rw [keyOf, pair, h.parsed]
  rfl

/-- The keys are no more than the addresses with their interfaces. -/
theorem card_keys_le (hosts : List Host) :
    (hosts.map key).toFinset.card ≤ (hosts.map pair).toFinset.card := by
  have hkeys : hosts.map key = (hosts.map pair).map keyOf := by
    rw [List.map_map]
    exact List.map_congr_left fun host _ => host.key_eq_keyOf
  have himage : (hosts.map key).toFinset = (hosts.map pair).toFinset.image keyOf := by
    rw [hkeys]
    ext key
    simp only [List.mem_toFinset, List.mem_map, Finset.mem_image]
  rw [himage]
  exact Finset.card_image_le

/-- The host of a value, if the value without the white space around it is an address. -/
def ofValue (interface value : String) : Option Host :=
  match h : InternetAddress.tryParse (trim value) with
  | some type => some ⟨trim value, interface, type, h⟩
  | none => none

variable {interface value : String} {host : Host}

theorem of_ofValue (h : ofValue interface value = some host) :
    host.address = trim value ∧ host.interface = interface := by
  unfold ofValue at h
  split at h
  · cases h
    exact ⟨rfl, rfl⟩
  · cases h

theorem tryParse_of_ofValue (h : ofValue interface value = some host) :
    InternetAddress.tryParse (trim value) = some host.type := by
  rw [← (of_ofValue h).1]
  exact host.parsed

theorem ofValue_eq_none_iff :
    ofValue interface value = none ↔ InternetAddress.tryParse (trim value) = none := by
  unfold ofValue
  split
  · next hparsed => simp [hparsed]
  · next hnone => simp [hnone]

end Host

/-- The plan that the hosts stand for. -/
def HostPlan.ofHosts (hosts : List Host) : HostPlan where
  commands := hosts.map Host.route
  seen := (hosts.map Host.key).reverse

namespace HostPlan

variable {hosts : List Host} {interface value : String} {host : Host}

theorem length_ofHosts (hosts : List Host) : (ofHosts hosts).commands.length = hosts.length :=
  List.length_map _

theorem addAddress_none (h : Host.ofValue interface value = none) (plan : HostPlan) :
    plan.addAddress value interface = plan := by
  unfold addAddress
  dsimp only
  rw [Host.ofValue_eq_none_iff.mp h]
  exact ite_self _

theorem addAddress_some (h : Host.ofValue interface value = some host) (hosts : List Host) :
    (ofHosts hosts).addAddress value interface =
      if host.key ∈ hosts.map Host.key then ofHosts hosts else ofHosts (hosts ++ [host]) := by
  have hparsed := Host.tryParse_of_ofValue h
  obtain ⟨haddress, hinterface⟩ := Host.of_ofValue h
  have hvisible : ¬(trim value).isEmpty = true := by
    intro hblank
    rw [String.isEmpty_iff.mp hblank] at hparsed
    cases hparsed
  have hkey : hostKey (trim value) interface host.type = host.key := by
    rw [Host.key, haddress, hinterface]
  have hseen : host.key ∈ (ofHosts hosts).seen ↔ host.key ∈ hosts.map Host.key := List.mem_reverse
  unfold addAddress
  dsimp only
  rw [if_neg hvisible, hparsed]
  dsimp only
  rw [hkey]
  simp only [hseen]
  split_ifs
  · rfl
  · simp [ofHosts, Host.route, haddress, hinterface]

/-- The hosts of some values. -/
def hostsOf (interface : String) (values : List String) : List Host :=
  values.filterMap (Host.ofValue interface)

theorem exists_of_mem_hostsOf {values : List String} (h : host ∈ hostsOf interface values) :
    ∃ value ∈ values, Host.ofValue interface value = some host :=
  List.mem_filterMap.mp h

theorem interface_of_mem_hostsOf {values : List String} (h : host ∈ hostsOf interface values) :
    host.interface = interface := by
  obtain ⟨value, -, hvalue⟩ := exists_of_mem_hostsOf h
  exact (Host.of_ofValue hvalue).2

theorem addResolved_ofHosts (interface : String) (hosts : List Host) (values : List String) :
    addResolved interface (ofHosts hosts) values =
      ofHosts (hosts ++ fresh Host.key (170 - hosts.length) hosts (hostsOf interface values)) := by
  induction values generalizing hosts with
  | nil => simp [addResolved, hostsOf, fresh_nil]
  | cons value values ih =>
      unfold addResolved
      rw [length_ofHosts]
      split_ifs with hfull
      · rw [Nat.sub_eq_zero_of_le hfull, fresh, List.append_nil]
      · obtain ⟨left, hleft⟩ : ∃ left, 170 - hosts.length = left + 1 := ⟨169 - hosts.length, by omega⟩
        cases hhost : Host.ofValue interface value with
        | none =>
            rw [addAddress_none hhost, ih, hostsOf, hostsOf, List.filterMap_cons_none hhost]
        | some host =>
            rw [addAddress_some hhost, hostsOf, List.filterMap_cons_some hhost, hleft, fresh]
            split_ifs with hseen
            · rw [ih, hleft]
              rfl
            · have hnext : 170 - (hosts ++ [host]).length = left := by
                rw [List.length_append, List.length_singleton]
                omega
              rw [ih, hnext, List.append_assoc, List.singleton_append]
              rfl

/-- The loop over the answers of a lookup adds the new ones, up to so many. -/
theorem addLookedUp_ofHosts (interface : String) (left : Nat) (hosts : List Host)
    (addresses : List InternetAddress) :
    addLookedUp interface left (ofHosts hosts) addresses =
      ofHosts (hosts ++ fresh Host.key left hosts (hostsOf interface (addresses.map (·.address)))) := by
  induction addresses generalizing left hosts with
  | nil =>
      rw [List.map_nil, hostsOf, List.filterMap_nil, fresh_nil, List.append_nil]
      cases left <;> rfl
  | cons address addresses ih =>
      cases left with
      | zero =>
          rw [fresh, List.append_nil]
          rfl
      | succ left =>
          unfold addLookedUp
          dsimp only
          rw [List.map_cons, hostsOf]
          cases hhost : Host.ofValue interface address.address with
          | none =>
              rw [addAddress_none hhost, if_neg (Nat.lt_irrefl _), ih, List.filterMap_cons_none hhost]
              rfl
          | some host =>
              rw [addAddress_some hhost, List.filterMap_cons_some hhost, fresh]
              split_ifs with hseen hless hmore
              · exact absurd hless (Nat.lt_irrefl _)
              · rw [ih]
                rfl
              · rw [ih, List.append_assoc, List.singleton_append]
                rfl
              · simp [length_ofHosts] at hmore

end HostPlan

/-! ### What the lookups contribute -/

/-- One lookup, made for a kind of traffic, and the hosts it adds. -/
structure HostContribution where
  kind : FqdnGroup
  lookup : Lookup
  hosts : List Host

namespace HostContribution

/-- What was asked. -/
def question (c : HostContribution) : FqdnGroup × String := (c.kind, c.lookup.domain)

def lines (c : HostContribution) : List String := c.hosts.map fun host => host.route.text

end HostContribution

/-- The hosts of an answer; a lookup that has failed has none. -/
def answeredHosts (interface : String) (answer : Option (List InternetAddress)) : List Host :=
  HostPlan.hostsOf interface ((answer.getD []).map (·.address))

theorem addAnswer_ofHosts (interface : String) (hosts : List Host)
    (answer : Option (List InternetAddress)) :
    (HostPlan.ofHosts hosts).addAnswer interface answer =
      .ofHosts (hosts ++ fresh Host.key 4 hosts (answeredHosts interface answer)) := by
  cases answer with
  | some addresses => exact HostPlan.addLookedUp_ofHosts interface 4 hosts addresses
  | none =>
      rw [answeredHosts, Option.getD_none, List.map_nil, HostPlan.hostsOf, List.filterMap_nil, fresh_nil,
        List.append_nil]
      rfl

/-- What one of the loops over domains contributes, from the n-th answer on. -/
def contributions (answers : Nat → Option (List InternetAddress)) (kind : FqdnGroup) (interface : String)
    (limit : Nat) : List Host → Nat → List String → List HostContribution
  | _, _, [] => []
  | hosts, n, domain :: domains =>
      if limit ≤ hosts.length then []
      else
        let new := fresh Host.key 4 hosts (answeredHosts interface (answers n))
        ⟨kind, ⟨domain, answers n⟩, new⟩ ::
          contributions answers kind interface limit (hosts ++ new) (n + 1) domains

section Contributions

variable {answers : Nat → Option (List InternetAddress)} {kind : FqdnGroup} {interface : String}
  {limit n : Nat} {hosts : List Host} {domains : List String} {c : HostContribution}

theorem run_addDomains_ofHosts (net : Net) (kind : FqdnGroup) (interface : String) (limit : Nat)
    (hosts : List Host) (domains : List String) (s : Session) :
    ∃ t, (HostPlan.addDomains interface limit (.ofHosts hosts) domains).run net.handle s =
        (.ok (.ofHosts (hosts ++
          (contributions net.lookups kind interface limit hosts s.lookups.length domains).flatMap (·.hosts))),
          t) ∧
      t.lookups = s.lookups ++
        (contributions net.lookups kind interface limit hosts s.lookups.length domains).map (·.lookup) := by
  induction domains generalizing hosts s with
  | nil => exact ⟨s, by simp [HostPlan.addDomains, contributions], by simp [contributions]⟩
  | cons domain domains ih =>
      unfold HostPlan.addDomains contributions
      rw [HostPlan.length_ofHosts]
      split_ifs with hlimit
      · exact ⟨s, by simp, by simp⟩
      · have hlookup : (lookup domain).run net.handle s
            = (.ok (net.lookups s.lookups.length), (net.handle (.lookup domain) s).2) := rfl
        rw [Program.run_bind_of_ok hlookup, addAnswer_ofHosts]
        obtain ⟨t, hrun, hlookups⟩ := ih
          (hosts ++ fresh Host.key 4 hosts (answeredHosts interface (net.lookups s.lookups.length)))
          (net.handle (.lookup domain) s).2
        have hnext : (net.handle (.lookup domain) s).2.lookups =
            s.lookups ++ [⟨domain, net.lookups s.lookups.length⟩] := rfl
        rw [hnext, List.length_append, List.length_singleton] at hrun hlookups
        refine ⟨t, ?_, ?_⟩
        · rw [hrun]
          simp
        · rw [hlookups]
          simp

theorem nodup_contributions (h : (hosts.map Host.key).Nodup) :
    ((hosts ++ (contributions answers kind interface limit hosts n domains).flatMap (·.hosts)).map
      Host.key).Nodup := by
  induction domains generalizing hosts n with
  | nil => simpa [contributions] using h
  | cons domain domains ih =>
      unfold contributions
      split_ifs
      · simpa using h
      · have hrest := ih (n := n + 1) (nodup_fresh Host.key 4 h (answeredHosts interface (answers n)))
        rw [List.append_assoc] at hrest
        exact hrest

/-- Every domain is looked up at most once, in the order of the list. -/
theorem contributions_sublist :
    ((contributions answers kind interface limit hosts n domains).map HostContribution.question).Sublist
      (domains.map (kind, ·)) := by
  induction domains generalizing hosts n with
  | nil => exact List.Sublist.slnil
  | cons domain domains ih =>
      unfold contributions
      split_ifs
      · exact List.nil_sublist _
      · exact List.Sublist.cons_cons _ ih

theorem of_mem_contributions (h : c ∈ contributions answers kind interface limit hosts n domains) :
    c.kind = kind ∧ c.hosts.length ≤ 4 ∧
      ∀ host ∈ c.hosts, host ∈ answeredHosts interface c.lookup.answer := by
  induction domains generalizing hosts n with
  | nil => cases h
  | cons domain domains ih =>
      unfold contributions at h
      split_ifs at h
      · cases h
      · rcases List.mem_cons.mp h with rfl | h
        · exact ⟨rfl, length_fresh_le Host.key 4 _ _,
            fun host hhost => (fresh_sublist Host.key 4 _ _).subset hhost⟩
        · exact ih h

end Contributions

/-! ### Lines and keys -/

/-- The command for an address. -/
def routeLine (address interface : String) : InternetAddressType → String
  | .ipv4 => s!"ip route {address} 255.255.255.255 {interface} auto"
  | .ipv6 => s!"ipv6 route {address}/128 {interface} auto"

section Lines

variable {address interface address' interface' : String} {type type' : InternetAddressType} {c : Char}

theorem text_route (host : Host) : host.route.text = routeLine host.address host.interface host.type := by
  unfold Host.route
  cases host.type with
  | ipv4 =>
      have htext : (Command.addRoute (hostDestination host.address .ipv4) host.interface).text =
          "ip route " ++ host.address ++ " " ++ hostMask ++ " " ++ host.interface ++ " auto" := rfl
      have hline : routeLine host.address host.interface .ipv4 =
          "ip route " ++ host.address ++ " 255.255.255.255 " ++ host.interface ++ " auto" := rfl
      have hmask (rest : String) : " " ++ (hostMask ++ (" " ++ rest)) = " 255.255.255.255 " ++ rest := by
        unfold hostMask
        rw [← String.append_assoc, ← String.append_assoc]
        simp only [String.reduceAppend]
      rw [htext, hline]
      simp only [String.append_assoc, hmask]
  | ipv6 =>
      have htext : (Command.addRoute (hostDestination host.address .ipv6) host.interface).text =
          "ipv6 route " ++ (host.address ++ "/128") ++ " " ++ host.interface ++ " auto" := rfl
      have hline : routeLine host.address host.interface .ipv6 =
          "ipv6 route " ++ host.address ++ "/128 " ++ host.interface ++ " auto" := rfl
      have hlength (rest : String) : "/128" ++ (" " ++ rest) = "/128 " ++ rest := by
        rw [← String.append_assoc]
        simp only [String.reduceAppend]
      rw [htext, hline]
      simp only [String.append_assoc, hlength]

theorem toList_routeLine_ipv4 (address interface : String) :
    (routeLine address interface .ipv4).toList =
      "ip route ".toList ++ (address.toList ++
        ' ' :: ("255.255.255.255 ".toList ++ (interface.toList ++ " auto".toList))) := by
  simp [routeLine, toString]

theorem toList_routeLine_ipv6 (address interface : String) :
    (routeLine address interface .ipv6).toList =
      "ipv6 route ".toList ++ (address.toList ++
        '/' :: ("128 ".toList ++ (interface.toList ++ " auto".toList))) := by
  simp [routeLine, toString]

theorem toList_hostKey (address interface : String) (type : InternetAddressType) :
    (HostPlan.hostKey address interface type).toList =
      (match type with
        | .ipv4 => '4'
        | .ipv6 => '6') :: ':' :: (address.toList ++ ':' :: interface.toList) := by
  cases type with
  | ipv4 => simp [HostPlan.hostKey, toString]
  | ipv6 => simp [HostPlan.hostKey, toString]

theorem isAddressChar_of_tryParse (h : InternetAddress.tryParse address = some type)
    (hc : c ∈ address.toList) : isAddressChar c = true := by
  unfold InternetAddress.tryParse at h
  split_ifs at h with hipv4 hipv6
  · exact isAddressChar_of_ipv4 hipv4 hc
  · exact isAddressChar_of_ipv6 hipv6 hc

theorem routeLine_inj (h : InternetAddress.tryParse address = some type)
    (h' : InternetAddress.tryParse address' = some type')
    (hline : routeLine address interface type = routeLine address' interface' type') :
    address = address' ∧ interface = interface' ∧ type = type' := by
  have hspace {address : String} {type} (hparsed : InternetAddress.tryParse address = some type) :
      ' ' ∉ address.toList :=
    fun hmem => absurd (isAddressChar_of_tryParse hparsed hmem) (by decide)
  have hslash {address : String} {type} (hparsed : InternetAddress.tryParse address = some type) :
      '/' ∉ address.toList :=
    fun hmem => absurd (isAddressChar_of_tryParse hparsed hmem) (by decide)
  have hchars := congrArg String.toList hline
  cases type with
  | ipv4 =>
      cases type' with
      | ipv4 =>
          rw [toList_routeLine_ipv4, toList_routeLine_ipv4, List.append_cancel_left_eq] at hchars
          obtain ⟨haddress, hrest⟩ := append_cons_inj (hspace h) (hspace h') hchars
          rw [List.append_cancel_left_eq, List.append_cancel_right_eq] at hrest
          exact ⟨String.toList_inj.mp haddress, String.toList_inj.mp hrest, rfl⟩
      | ipv6 =>
          rw [toList_routeLine_ipv4, toList_routeLine_ipv6] at hchars
          simp at hchars
  | ipv6 =>
      cases type' with
      | ipv4 =>
          rw [toList_routeLine_ipv4, toList_routeLine_ipv6] at hchars
          simp at hchars
      | ipv6 =>
          rw [toList_routeLine_ipv6, toList_routeLine_ipv6, List.append_cancel_left_eq] at hchars
          obtain ⟨haddress, hrest⟩ := append_cons_inj (hslash h) (hslash h') hchars
          rw [List.append_cancel_left_eq, List.append_cancel_right_eq] at hrest
          exact ⟨String.toList_inj.mp haddress, String.toList_inj.mp hrest, rfl⟩

/-- Two keys are the same only for the same host, unless one interface ends in a colon and the other. -/
theorem hostKey_inj (hends : ¬ ':' :: interface.toList <:+ interface'.toList)
    (hends' : ¬ ':' :: interface'.toList <:+ interface.toList)
    (hkey : HostPlan.hostKey address interface type = HostPlan.hostKey address' interface' type') :
    address = address' ∧ interface = interface' ∧ type = type' := by
  have hchars := congrArg String.toList hkey
  rw [toList_hostKey, toList_hostKey, List.cons.injEq, List.cons.injEq] at hchars
  obtain ⟨htype, -, hrest⟩ := hchars
  have hinterface : interface = interface' := by
    have hend : ':' :: interface.toList <:+ address'.toList ++ ':' :: interface'.toList := ⟨_, hrest⟩
    -- Both are what the key ends in, so one of them ends in the other.
    rcases List.suffix_or_suffix_of_suffix hend (List.suffix_append _ _) with hend | hend
    · rcases List.suffix_cons_iff.mp hend with heq | hend
      · exact String.toList_inj.mp (List.cons.inj heq).2
      · exact absurd hend hends
    · rcases List.suffix_cons_iff.mp hend with heq | hend
      · exact (String.toList_inj.mp (List.cons.inj heq).2).symm
      · exact absurd hend hends'
  subst hinterface
  rw [List.append_cancel_right_eq] at hrest
  refine ⟨String.toList_inj.mp hrest, rfl, ?_⟩
  cases type with
  | ipv4 =>
      cases type' with
      | ipv4 => rfl
      | ipv6 => exact absurd htype (by decide)
  | ipv6 =>
      cases type' with
      | ipv4 => exact absurd htype (by decide)
      | ipv6 => rfl

end Lines

theorem key_eq_of_text {host host' : Host} (h : host.route.text = host'.route.text) :
    host.key = host'.key := by
  rw [text_route, text_route] at h
  obtain ⟨haddress, hinterface, htype⟩ := routeLine_inj host.parsed host'.parsed h
  rw [Host.key, Host.key, haddress, hinterface, htype]

theorem nodup_text {hosts : List Host} (h : (hosts.map Host.key).Nodup) :
    (hosts.map fun host => host.route.text).Nodup := by
  rw [List.Nodup, List.pairwise_map] at h ⊢
  exact h.imp fun hne htext => hne (key_eq_of_text htext)

/-- The line is the route of the address that the value is. -/
def IsRoute (line value interface : String) : Prop :=
  ∃ type, InternetAddress.tryParse (trim value) = some type ∧ line = routeLine (trim value) interface type

theorem isRoute_of_mem_hostsOf {interface : String} {values : List String} {host : Host}
    (h : host ∈ HostPlan.hostsOf interface values) :
    ∃ value ∈ values, IsRoute host.route.text value interface := by
  obtain ⟨value, hvalue, hhost⟩ := HostPlan.exists_of_mem_hostsOf h
  obtain ⟨haddress, hinterface⟩ := Host.of_ofValue hhost
  refine ⟨value, hvalue, host.type, Host.tryParse_of_ofValue hhost, ?_⟩
  rw [text_route, haddress, hinterface]

theorem exists_of_isRoute {interface value line : String} {values : List String} (hvalue : value ∈ values)
    (h : IsRoute line value interface) :
    ∃ host ∈ HostPlan.hostsOf interface values, host.route.text = line := by
  obtain ⟨type, hparsed, rfl⟩ := h
  cases hhost : Host.ofValue interface value with
  | none =>
      rw [Host.ofValue_eq_none_iff.mp hhost] at hparsed
      cases hparsed
  | some host =>
      obtain ⟨haddress, hinterface⟩ := Host.of_ofValue hhost
      have htype : type = host.type := by
        rw [Host.tryParse_of_ofValue hhost] at hparsed
        exact (Option.some.inj hparsed).symm
      refine ⟨host, List.mem_filterMap.mpr ⟨value, hvalue, hhost⟩, ?_⟩
      rw [text_route, haddress, hinterface, htype]

/-! ### The plan -/

namespace HostSources

/-- The hosts in one of the maps. -/
def hosts (h : HostSources) (kind : FqdnGroup) : List Host :=
  HostPlan.hostsOf (h.interfaceOf kind) (h.values kind)

/-- The addresses in both maps, each with its interface. -/
def pairs (h : HostSources) : List (String × String) := (h.hosts .media ++ h.hosts .ai).map Host.pair

/-- What the two maps add. -/
def listed (h : HostSources) : List Host :=
  let media := fresh Host.key 170 [] (h.hosts .media)
  media ++ fresh Host.key (170 - media.length) media (h.hosts .ai)

theorem resolved_eq (h : HostSources) : h.resolved = .ofHosts h.listed := by
  have hempty : HostPlan.empty = .ofHosts [] := rfl
  unfold resolved
  rw [hempty, HostPlan.addResolved_ofHosts, List.nil_append, HostPlan.addResolved_ofHosts]
  rfl

theorem length_listed_le (h : HostSources) : h.listed.length ≤ 170 := by
  have hmedia := length_fresh_le Host.key 170 [] (h.hosts .media)
  have hai := length_fresh_le Host.key (170 - (fresh Host.key 170 [] (h.hosts .media)).length)
    (fresh Host.key 170 [] (h.hosts .media)) (h.hosts .ai)
  unfold listed
  dsimp only
  rw [List.length_append]
  omega

theorem nodup_listed (h : HostSources) : (h.listed.map Host.key).Nodup := by
  have hnone : (([] : List Host).map Host.key).Nodup := List.nodup_nil
  exact nodup_fresh Host.key _ (nodup_fresh Host.key 170 hnone (h.hosts .media)) (h.hosts .ai)

theorem mem_of_mem_listed {h : HostSources} {host : Host} (hlisted : host ∈ h.listed) :
    ∃ kind, host ∈ h.hosts kind := by
  rcases List.mem_append.mp hlisted with hmedia | hai
  · exact ⟨.media, (fresh_sublist Host.key _ _ _).subset hmedia⟩
  · exact ⟨.ai, (fresh_sublist Host.key _ _ _).subset hai⟩

/-- Neither interface ends in a colon and the other. -/
def Unambiguous (h : HostSources) : Prop :=
  ∀ kind kind', ¬ ':' :: (h.interfaceOf kind).toList <:+ (h.interfaceOf kind').toList

/-- If there are at most 170 addresses with their interfaces, every one of them has its key. -/
theorem key_mem_listed {h : HostSources} (hfew : h.pairs.toFinset.card ≤ 170) {kind : FqdnGroup} {host : Host}
    (hhost : host ∈ h.hosts kind) : host.key ∈ h.listed.map Host.key := by
  have hkeys : ((h.hosts .media ++ h.hosts .ai).map Host.key).toFinset.card ≤ 170 :=
    (Host.card_keys_le _).trans hfew
  have hnone : (([] : List Host).map Host.key).Nodup := List.nodup_nil
  have hmedia : ∀ host ∈ h.hosts .media,
      host.key ∈ (fresh Host.key 170 [] (h.hosts .media)).map Host.key := by
    refine key_mem_fresh Host.key hnone (le_trans (Finset.card_le_card ?_) hkeys)
    intro key hkey
    rw [List.nil_append, List.mem_toFinset] at hkey
    rw [List.map_append, List.mem_toFinset]
    exact List.mem_append_left _ hkey
  unfold listed
  dsimp only
  cases kind with
  | media =>
      rw [List.map_append]
      exact List.mem_append_left _ (hmedia host hhost)
  | ai =>
      refine key_mem_fresh Host.key (nodup_fresh Host.key 170 hnone (h.hosts .media)) ?_ host hhost
      have hlength := length_fresh_le Host.key 170 [] (h.hosts .media)
      rw [List.nil_append, Nat.add_sub_cancel' hlength]
      refine le_trans (Finset.card_le_card ?_) hkeys
      intro key hkey
      simp only [List.mem_toFinset, List.map_append, List.mem_append] at hkey ⊢
      refine hkey.imp_left fun hkey => ?_
      exact ((fresh_sublist Host.key 170 [] (h.hosts .media)).map Host.key).subset hkey

theorem text_mem_listed {h : HostSources} (hclear : h.Unambiguous) (hfew : h.pairs.toFinset.card ≤ 170)
    {kind : FqdnGroup} {host : Host} (hhost : host ∈ h.hosts kind) :
    host.route.text ∈ h.listed.map fun host => host.route.text := by
  obtain ⟨other, hlisted, hkey⟩ := List.mem_map.mp (key_mem_listed hfew hhost)
  obtain ⟨kind', hother⟩ := mem_of_mem_listed hlisted
  have hinterface := HostPlan.interface_of_mem_hostsOf hhost
  have hinterface' := HostPlan.interface_of_mem_hostsOf hother
  have hends : ¬ ':' :: other.interface.toList <:+ host.interface.toList := by
    rw [hinterface, hinterface']
    exact hclear kind' kind
  have hends' : ¬ ':' :: host.interface.toList <:+ other.interface.toList := by
    rw [hinterface, hinterface']
    exact hclear kind kind'
  obtain ⟨haddress, hsame, htype⟩ := hostKey_inj hends hends' hkey
  refine List.mem_map.mpr ⟨other, hlisted, ?_⟩
  rw [text_route, text_route, haddress, hsame, htype]

/-- What the lookups add, from the n-th answer on. -/
def contributed (h : HostSources) (answers : Nat → Option (List InternetAddress)) (n : Nat) :
    List HostContribution :=
  let media := contributions answers .media h.mediaInterface 90 h.listed n h.mediaDomains
  media ++ contributions answers .ai h.aiInterface 170 (h.listed ++ media.flatMap (·.hosts))
    (n + media.length) h.aiDomains

/-- All hosts of the plan, before it is cut off. -/
def planned (h : HostSources) (answers : Nat → Option (List InternetAddress)) (n : Nat) : List Host :=
  h.listed ++ (h.contributed answers n).flatMap (·.hosts)

theorem run_build (h : HostSources) (net : Net) (s : Session) :
    ∃ t, h.build.run net.handle s =
        (.ok (((h.planned net.lookups s.lookups.length).map Host.route).take 170), t) ∧
      t.lookups = s.lookups ++ (h.contributed net.lookups s.lookups.length).map (·.lookup) := by
  obtain ⟨u, hmedia, hlookups⟩ :=
    run_addDomains_ofHosts net .media h.mediaInterface 90 h.listed h.mediaDomains s
  obtain ⟨t, hai, hlookups'⟩ := run_addDomains_ofHosts net .ai h.aiInterface 170
    (h.listed ++ (contributions net.lookups .media h.mediaInterface 90 h.listed s.lookups.length
      h.mediaDomains).flatMap (·.hosts)) h.aiDomains u
  rw [hlookups, List.length_append, List.length_map] at hai hlookups'
  refine ⟨t, ?_, ?_⟩
  · unfold build
    rw [resolved_eq, Program.run_bind_of_ok hmedia, Program.run_bind_of_ok hai, planned, contributed,
      List.flatMap_append, List.append_assoc]
    rfl
  · rw [hlookups', contributed, List.map_append, List.append_assoc]

theorem nodup_planned (h : HostSources) (answers : Nat → Option (List InternetAddress)) (n : Nat) :
    ((h.planned answers n).map Host.key).Nodup := by
  unfold planned contributed
  rw [List.flatMap_append, ← List.append_assoc]
  exact nodup_contributions (nodup_contributions h.nodup_listed)

theorem text_planned (h : HostSources) (answers : Nat → Option (List InternetAddress)) (n : Nat) :
    ((h.planned answers n).map fun host => host.route.text) =
      (h.listed.map fun host => host.route.text) ++ (h.contributed answers n).flatMap (·.lines) := by
  rw [planned, List.map_append, List.map_flatMap]
  rfl

/-- All questions that can be asked. -/
def questions (h : HostSources) : List (FqdnGroup × String) :=
  h.mediaDomains.map (.media, ·) ++ h.aiDomains.map (.ai, ·)

theorem contributed_sublist (h : HostSources) (answers : Nat → Option (List InternetAddress)) (n : Nat) :
    ((h.contributed answers n).map HostContribution.question).Sublist h.questions := by
  unfold contributed questions
  rw [List.map_append]
  exact contributions_sublist.append contributions_sublist

theorem of_mem_contributed {h : HostSources} {answers : Nat → Option (List InternetAddress)} {n : Nat}
    {c : HostContribution} (hc : c ∈ h.contributed answers n) :
    c.hosts.length ≤ 4 ∧ ∀ host ∈ c.hosts, host ∈ answeredHosts (h.interfaceOf c.kind) c.lookup.answer := by
  rcases List.mem_append.mp hc with hmedia | hai
  · obtain ⟨hkind, hfew, hanswered⟩ := of_mem_contributions hmedia
    rw [hkind]
    exact ⟨hfew, hanswered⟩
  · obtain ⟨hkind, hfew, hanswered⟩ := of_mem_contributions hai
    rw [hkind]
    exact ⟨hfew, hanswered⟩

/-- What the lines of a plan are: `listed` are those of the maps, and `looked` has those of the lookups. -/
structure Plans (h : HostSources) (lines listed : List String) (looked : List HostContribution) : Prop where
  parts : lines = (listed ++ looked.flatMap (·.lines)).take 170
  listed_first : listed <+: lines
  length_le : lines.length ≤ 170
  nodup : lines.Nodup
  of_listed : ∀ line ∈ listed, ∃ kind, ∃ value ∈ h.values kind, IsRoute line value (h.interfaceOf kind)
  of_looked : ∀ c ∈ looked, ∀ line ∈ c.lines, ∃ address ∈ c.lookup.answer.getD [],
    IsRoute line address.address (h.interfaceOf c.kind)
  asked : (looked.map HostContribution.question).Sublist h.questions
  contribution_le : ∀ c ∈ looked, c.lines.length ≤ 4
  all_listed : h.Unambiguous → h.pairs.toFinset.card ≤ 170 →
    ∀ kind, ∀ value ∈ h.values kind, ∀ line, IsRoute line value (h.interfaceOf kind) → line ∈ listed

/-- **The host routes.** Every run returns a plan, made of the maps and the lookups of the run. -/
theorem host_routes_planned (h : HostSources) (net : Net) (s : Session) :
    ∃ routes t listed looked, h.build.run net.handle s = (.ok routes, t) ∧
      t.lookups = s.lookups ++ looked.map HostContribution.lookup ∧
      h.Plans (routes.map Command.text) listed looked := by
  obtain ⟨t, hrun, hlookups⟩ := run_build h net s
  refine ⟨_, t, h.listed.map fun host => host.route.text, h.contributed net.lookups s.lookups.length, hrun,
    hlookups, ?_⟩
  have hlines : (((h.planned net.lookups s.lookups.length).map Host.route).take 170).map Command.text =
      ((h.planned net.lookups s.lookups.length).map fun host => host.route.text).take 170 := by
    rw [List.map_take, List.map_map]
    rfl
  have hparts := hlines
  rw [text_planned] at hparts
  constructor
  case parts => exact hparts
  case listed_first =>
    rw [hparts]
    refine List.prefix_take_iff.mpr ⟨List.prefix_append _ _, ?_⟩
    rw [List.length_map]
    exact h.length_listed_le
  case length_le =>
    rw [hparts]
    exact List.length_take_le _ _
  case nodup =>
    rw [hlines]
    exact (nodup_text (h.nodup_planned _ _)).sublist (List.take_sublist _ _)
  case of_listed =>
    intro line hline
    obtain ⟨host, hhost, rfl⟩ := List.mem_map.mp hline
    obtain ⟨kind, hhost⟩ := mem_of_mem_listed hhost
    exact ⟨kind, isRoute_of_mem_hostsOf hhost⟩
  case of_looked =>
    intro c hc line hline
    obtain ⟨host, hhost, rfl⟩ := List.mem_map.mp hline
    obtain ⟨value, hvalue, hroute⟩ := isRoute_of_mem_hostsOf ((of_mem_contributed hc).2 host hhost)
    obtain ⟨address, haddress, rfl⟩ := List.mem_map.mp hvalue
    exact ⟨address, haddress, hroute⟩
  case asked => exact h.contributed_sublist _ _
  case contribution_le =>
    intro c hc
    rw [HostContribution.lines, List.length_map]
    exact (of_mem_contributed hc).1
  case all_listed =>
    intro hclear hfew kind value hvalue line hroute
    obtain ⟨host, hhost, rfl⟩ := exists_of_isRoute hvalue hroute
    exact text_mem_listed hclear hfew hhost

/-- One host for each kind, and a domain that is not looked up successfully. -/
def twoHosts : HostSources where
  mediaDomains := ["youtube.com"]
  mediaInterface := "Wireguard0"
  aiDomains := []
  aiInterface := "Wireguard1"
  mediaResolvedHosts := [("youtube.com", [" 8.8.8.8 ", "none"])]
  aiResolvedHosts := [("openai.com", ["::1"])]

def offline (lookups : Nat → Option (List InternetAddress)) : Net where
  answers _ := ⟨.error .timeout, fun _ => false⟩
  lookups := lookups

def unused : Session := ⟨fun _ => none, fun _ => none, [], []⟩

theorem twoHosts_planned :
    ∃ routes t, twoHosts.build.run (offline fun _ => none).handle unused = (.ok routes, t) ∧
      "ip route 8.8.8.8 255.255.255.255 Wireguard0 auto" ∈ routes.map Command.text ∧
      "ipv6 route ::1/128 Wireguard1 auto" ∈ routes.map Command.text := by
  obtain ⟨routes, t, listed, looked, hrun, -, hplan⟩ :=
    host_routes_planned twoHosts (offline fun _ => none) unused
  have hclear : twoHosts.Unambiguous := by
    intro kind kind'
    cases kind <;> cases kind' <;> decide
  have hfew : twoHosts.pairs.toFinset.card ≤ 170 := by decide
  refine ⟨routes, t, hrun, ?_, ?_⟩
  · refine hplan.listed_first.subset (hplan.all_listed hclear hfew .media " 8.8.8.8 " (by decide) _ ?_)
    exact ⟨.ipv4, by decide, by decide⟩
  · refine hplan.listed_first.subset (hplan.all_listed hclear hfew .ai "::1" (by decide) _ ?_)
    exact ⟨.ipv6, by decide, by decide⟩

def colonInterface : HostSources where
  mediaDomains := []
  mediaInterface := "2:Wireguard1"
  aiDomains := []
  aiInterface := "Wireguard1"
  mediaResolvedHosts := [("youtube.com", ["::1"])]
  aiResolvedHosts := [("openai.com", ["::1:2"])]

/-- A domain that stands twice in a list. -/
def repeatedDomain : HostSources where
  mediaDomains := ["youtube.com", "youtube.com"]
  mediaInterface := "Wireguard0"
  aiDomains := []
  aiInterface := "Wireguard1"
  mediaResolvedHosts := []
  aiResolvedHosts := []

/-- Every lookup has four addresses, and the second one other addresses than the first. -/
def eightAddresses (n : Nat) : Option (List InternetAddress) :=
  if n = 0 then some [⟨"1.0.0.1", .ipv4⟩, ⟨"1.0.0.2", .ipv4⟩, ⟨"1.0.0.3", .ipv4⟩, ⟨"1.0.0.4", .ipv4⟩]
  else some [⟨"1.0.0.5", .ipv4⟩, ⟨"1.0.0.6", .ipv4⟩, ⟨"1.0.0.7", .ipv4⟩, ⟨"1.0.0.8", .ipv4⟩]

/-- The two addresses with their interfaces have one key, so only one route is added; and the one domain has
eight. -/
theorem host_left_out :
    (colonInterface.pairs.toFinset.card ≤ 170 ∧
      ("::1:2", "Wireguard1") ∈ colonInterface.pairs ∧
      ∃ routes t, colonInterface.build.run (offline fun _ => none).handle unused = (.ok routes, t) ∧
        "ipv6 route ::1:2/128 Wireguard1 auto" ∉ routes.map Command.text) ∧
    (repeatedDomain.pairs = [] ∧ (∀ question ∈ repeatedDomain.questions, question = (.media, "youtube.com")) ∧
      ∃ routes t, repeatedDomain.build.run (offline eightAddresses).handle unused = (.ok routes, t) ∧
        routes.length = 8) := by
  refine ⟨⟨by decide, by decide, ?_⟩, by decide, by decide, ?_⟩
  · obtain ⟨t, hrun, -⟩ := run_build colonInterface (offline fun _ => none) unused
    exact ⟨_, t, hrun, by decide⟩
  · obtain ⟨t, hrun, -⟩ := run_build repeatedDomain (offline eightAddresses) unused
    exact ⟨_, t, hrun, by decide⟩

end HostSources

end Keenetic
