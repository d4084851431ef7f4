import Router1.Awg.Handles
import Router1.Awg.Userspace

/-!
# What a tunnel is started with

Before a tunnel starts, the names of its endpoints are resolved, the settings of the device are written, and the
interface of the phone is described to the system.
-/

namespace Awg

open Text Java

/-- What the native library keeps of a device. -/
structure TunnelHandle where
  name : List Char
  settings : List Char
  deriving DecidableEq

/-! ### The names of the endpoints -/

def dnsResolutionRetries : Nat := 10

section Names

variable {P : Platform}

/-- What the endpoints of a config remember, by the places of their peers. -/
abbrev Memory := Nat → Resolution

/-- One round: the first host that does not resolve ends it. -/
def resolvePeers (lookups : Nat → Lookup P) : List (Peer P × Nat) → Memory → Option (List Char) × Memory
  | [], memory => (none, memory)
  | x :: peers, memory =>
      match x.1.endpoint with
      | none => resolvePeers lookups peers memory
      | some e =>
          let answer := e.getResolved P (memory x.2) (lookups x.2)
          if answer.1.isNone then (some e.host, Function.update memory x.2 answer.2)
          else resolvePeers lookups peers (Function.update memory x.2 answer.2)

/-- The loop `dnsRetry`, with the rounds that are left: the last host that did not resolve. -/
def dnsRetry (lookups : Nat → Nat → Lookup P) (peers : List (Peer P × Nat)) :
    Nat → Nat → Memory → Option (List Char) × Memory
  | 0, _, memory => (none, memory)
  | left + 1, i, memory =>
      match resolvePeers (lookups i) peers memory with
      | (none, memory) => (none, memory)
      | (some host, memory) =>
          if left = 0 then (some host, memory) else dnsRetry lookups peers left (i + 1) memory

/-- The answers while the settings are written. -/
def Memory.answers (memory : Memory) (P : Platform) (lookups : Nat → Lookup P) (k : Nat) (e : InetEndpoint) :
    Option InetEndpoint :=
  (e.getResolved P (memory k) (lookups k)).1

/-- What is remembered after the settings were written. -/
def Memory.written (memory : Memory) (lookups : Nat → Lookup P) (c : Config P) : Memory := fun k =>
  match c.peers[k]?.bind Peer.endpoint with
  | some e => (e.getResolved P (memory k) (lookups k)).2
  | none => memory k

/-- An endpoint that can be written. -/
def InetEndpoint.Known (e : InetEndpoint) (r : Resolution) : Prop := e.isResolved = true ∨ r.resolved.isSome = true

theorem InetEndpoint.known_of_answer {e : InetEndpoint} {r : Resolution} {l : Lookup P}
    (h : (e.getResolved P r l).1.isNone = false) : e.Known (e.getResolved P r l).2 := by
  revert h
  rw [getResolved]
  split
  next hresolved => exact fun _ => .inl hresolved
  next =>
    split
    next =>
      split
      next => exact fun _ => .inr rfl
      next =>
        intro h
        cases h
    next =>
      intro h
      rw [Option.isNone_eq_false_iff] at h
      exact .inr h

/-- A known endpoint is written, unless its address is too old and its name is not known any more. -/
theorem InetEndpoint.answer_of_known {e : InetEndpoint} {r : Resolution} (h : e.Known r) (l : Lookup P) :
    (e.getResolved P r l).1 = none ↔
      e.isResolved = false ∧ expired r l = true ∧ l.getAllByName e.host = none := by
  rw [getResolved]
  split
  next hresolved => simp [hresolved]
  next hresolved =>
    have hsome : r.resolved.isSome = true := h.resolve_left hresolved
    split
    next hexpired =>
      split
      next hname => simp [hname]
      next hname => simp [hresolved, hexpired, hname]
    next hexpired =>
      rw [Option.isSome_iff_ne_none] at hsome
      simp [hsome, hexpired]

variable {lookups : Nat → Lookup P} {peers : List (Peer P × Nat)} {memory memory' : Memory}

theorem known_of_resolvePeers (hplaces : (peers.map Prod.snd).Nodup)
    (h : resolvePeers lookups peers memory = (none, memory')) :
    (∀ k, k ∉ peers.map Prod.snd → memory' k = memory k) ∧
      ∀ x ∈ peers, ∀ e, x.1.endpoint = some e → e.Known (memory' x.2) := by
  induction peers generalizing memory with
  | nil =>
      cases h
      exact ⟨fun _ _ => rfl, List.forall_mem_nil _⟩
  | cons x peers ih =>
      rw [List.map_cons, List.nodup_cons] at hplaces
      rw [resolvePeers] at h
      split at h
      next hnone =>
        obtain ⟨hkept, hknown⟩ := ih hplaces.2 h
        refine ⟨fun k hk => hkept k fun hmem => hk (List.mem_cons_of_mem _ hmem), ?_⟩
        refine List.forall_mem_cons.mpr ⟨fun e he => ?_, hknown⟩
        rw [hnone] at he
        cases he
      next e he =>
        simp only at h
        split at h
        next => cases h
        next hanswer =>
          obtain ⟨hkept, hknown⟩ := ih hplaces.2 h
          refine ⟨fun k hk => ?_, List.forall_mem_cons.mpr ⟨fun e' he' => ?_, hknown⟩⟩
          · rw [List.map_cons, List.mem_cons, not_or] at hk
            rw [hkept k hk.2, Function.update_of_ne hk.1]
          · rw [he] at he'
            cases he'
            rw [hkept x.2 hplaces.1, Function.update_self]
            exact InetEndpoint.known_of_answer (Bool.not_eq_true _ ▸ hanswer)

theorem known_of_dnsRetry {lookups : Nat → Nat → Lookup P} (hplaces : (peers.map Prod.snd).Nodup) {left i : Nat}
    (hleft : 0 < left) (h : dnsRetry lookups peers left i memory = (none, memory')) :
    ∀ x ∈ peers, ∀ e, x.1.endpoint = some e → e.Known (memory' x.2) := by
  induction left generalizing i memory with
  | zero => exact absurd hleft (lt_irrefl 0)
  | succ left ih =>
      rw [dnsRetry] at h
      split at h
      next heq =>
        cases h
        exact (known_of_resolvePeers hplaces heq).2
      next =>
        split at h
        next => cases h
        next hmore => exact ih (Nat.pos_of_ne_zero hmore) h

theorem numeric_of_resolvePeers (lookups : Nat → Lookup P) (hpeers : ∀ x ∈ peers, x.1.Ok)
    (hmemory : ∀ k, (memory k).Numeric P) :
    ∀ k, ((resolvePeers lookups peers memory).2 k).Numeric P := by
  induction peers generalizing memory with
  | nil => exact hmemory
  | cons x peers ih =>
      obtain ⟨hx, hpeers⟩ := List.forall_mem_cons.mp hpeers
      rw [resolvePeers]
      split
      next => exact ih hpeers hmemory
      next e he =>
        have hupdate : ∀ k, (Function.update memory x.2 (e.getResolved P (memory x.2) (lookups x.2)).2 k).Numeric P := by
          intro k
          rcases eq_or_ne k x.2 with rfl | hk
          · rw [Function.update_self]
            exact (InetEndpoint.getResolved_numeric (hx e he) (hmemory _) _).2
          · rw [Function.update_of_ne hk]
            exact hmemory k
        simp only
        split
        next => exact hupdate
        next => exact ih hpeers hupdate

theorem numeric_of_dnsRetry (lookups : Nat → Nat → Lookup P) (left i : Nat) (hpeers : ∀ x ∈ peers, x.1.Ok)
    (hmemory : ∀ k, (memory k).Numeric P) : ∀ k, ((dnsRetry lookups peers left i memory).2 k).Numeric P := by
  induction left generalizing i memory with
  | zero => exact hmemory
  | succ left ih =>
      have hround := numeric_of_resolvePeers (lookups i) hpeers hmemory
      rw [dnsRetry]
      split
      next heq =>
        rw [heq] at hround
        exact hround
      next heq =>
        rw [heq] at hround
        split
        next => exact hround
        next => exact ih (i + 1) hround

theorem Memory.numeric_written (lookups : Nat → Lookup P) {c : Config P} (hc : c.Parsed)
    (hmemory : ∀ k, (memory k).Numeric P) :
    ∀ k, (memory.written lookups c k).Numeric P := by
  intro k
  rw [written]
  split
  next e he =>
    obtain ⟨p, hp, he⟩ := Option.bind_eq_some_iff.mp he
    exact (InetEndpoint.getResolved_numeric (hc.peers p (List.mem_of_getElem? hp) e he) (hmemory k) _).2
  next => exact hmemory k

theorem Memory.resolves_answers {c : Config P} (hc : c.Parsed) (hmemory : ∀ k, (memory k).Numeric P) :
    c.Resolves (memory.answers P lookups) := by
  intro k p hp e answer he
  exact (InetEndpoint.getResolved_numeric (hc.peers p (List.mem_of_getElem? hp) e he) (hmemory k) _).1 answer

/-- The endpoints of a config can be written. -/
def Config.Known (c : Config P) (memory : Memory) : Prop :=
  ∀ (k : Nat) (p : Peer P) (e : InetEndpoint), c.peers[k]? = some p → p.endpoint = some e → e.Known (memory k)

theorem Config.known_of_dnsRetry {c : Config P} {lookups : Nat → Nat → Lookup P}
    (h : dnsRetry lookups c.peers.zipIdx dnsResolutionRetries 0 memory = (none, memory')) : c.Known memory' := by
  intro k p e hp he
  have hplaces : (c.peers.zipIdx.map Prod.snd).Nodup := by
    rw [List.zipIdx_map_snd]
    exact List.nodup_range'
  exact Awg.known_of_dnsRetry hplaces (Nat.succ_pos 9) h (p, k) (List.mem_zipIdx_iff_getElem?.mpr hp) e he

/-- After the loop, an endpoint is left out of the settings exactly if it is a name whose address has become too old
since and which is not known any more. -/
theorem Config.endpoint_left_out_iff {c : Config P} (hknown : c.Known memory) {k : Nat} {p : Peer P}
    {e : InetEndpoint} (hp : c.peers[k]? = some p) (he : p.endpoint = some e) :
    valuesOf "endpoint".toList (p.settings (memory.answers P lookups k)) = [] ↔
      e.isResolved = false ∧ InetEndpoint.expired (memory k) (lookups k) = true ∧
        (lookups k).getAllByName e.host = none := by
  rw [(p.valuesOf_settings _).2.1, he, ← InetEndpoint.answer_of_known (hknown k p e hp he), List.map_eq_nil_iff,
    Option.toList_eq_nil_iff]
  rfl

end Names

/-! ### The interface of the phone -/

section Interface

variable {P : Platform}

/-- The calls of `VpnService.Builder`. -/
inductive BuilderCall (P : Platform) where
  | setSession (name : List Char)
  | addDisallowedApplication (app : List Char)
  | addAllowedApplication (app : List Char)
  | addAddress (network : InetNetwork P)
  | addDnsServer (host : List Char)
  | addSearchDomain (domain : List Char)
  | addRoute (network : InetNetwork P)
  | allowInet
  | allowInet6
  | setMtu (mtu : Nat)
  | notMetered
  | setBlocking

/-- `Build.VERSION_CODES.Q` -/
def versionQ : Nat := 29

def Config.sawDefaultRoute (c : Config P) : Bool :=
  c.peers.any fun p => p.allowedIps.elements.any fun network => network.mask == 0

/-- The calls for a config, for a tunnel with a name, on a system of a version. -/
def Config.builderCalls (c : Config P) (name : List Char) (version : Nat) : List (BuilderCall P) :=
  .setSession name ::
    c.interfaze.excludedApplications.elements.map .addDisallowedApplication ++
    c.interfaze.includedApplications.elements.map .addAllowedApplication ++
    c.interfaze.addresses.elements.map .addAddress ++
    c.interfaze.dnsServers.elements.map (fun address => .addDnsServer (P.getHostAddress address)) ++
    c.interfaze.dnsSearchDomains.elements.map .addSearchDomain ++
    c.peers.flatMap (fun p => p.allowedIps.elements.map .addRoute) ++
    (if c.sawDefaultRoute && c.peers.length == 1 then [] else [.allowInet, .allowInet6]) ++
    .setMtu (((c.interfaze.number .mtu).map fun n => n.val).getD 1280) ::
    (if versionQ ≤ version then [.notMetered] else []) ++ [.setBlocking]

/-- The network that a call routes into the tunnel. -/
def BuilderCall.route : BuilderCall P → Option (InetNetwork P)
  | .addRoute network => some network
  | _ => none

theorem filterMap_route_of_none {calls : List (BuilderCall P)} (h : ∀ call ∈ calls, call.route = none) :
    calls.filterMap BuilderCall.route = [] :=
  List.filterMap_eq_nil_iff.mpr h

theorem filterMap_route_map {α : Type} (call : α → BuilderCall P) (h : ∀ x, (call x).route = none) (xs : List α) :
    (xs.map call).filterMap BuilderCall.route = [] := by
  refine filterMap_route_of_none fun c hc => ?_
  obtain ⟨x, -, rfl⟩ := List.mem_map.mp hc
  exact h x

theorem filterMap_route_addRoute (networks : List (InetNetwork P)) :
    (networks.map BuilderCall.addRoute).filterMap BuilderCall.route = networks := by
  rw [List.filterMap_map]
  exact List.filterMap_some

theorem Config.filterMap_route_builderCalls (c : Config P) (name : List Char) (version : Nat) :
    (c.builderCalls name version).filterMap BuilderCall.route = c.peers.flatMap fun p => p.allowedIps.elements := by
  have hfamilies : (if c.sawDefaultRoute && c.peers.length == 1 then []
      else [BuilderCall.allowInet, .allowInet6] : List (BuilderCall P)).filterMap BuilderCall.route = [] := by
    split
    next => rfl
    next => rfl
  have hmetered : (if versionQ ≤ version then [BuilderCall.notMetered] else [] :
      List (BuilderCall P)).filterMap BuilderCall.route = [] := by
    split
    next => rfl
    next => rfl
  have hroutes : (c.peers.flatMap fun p => p.allowedIps.elements.map BuilderCall.addRoute).filterMap
      BuilderCall.route = c.peers.flatMap fun p => p.allowedIps.elements := by
    rw [List.filterMap_flatMap]
    simp only [filterMap_route_addRoute]
  rw [builderCalls]
  simp only [List.filterMap_append, List.cons_append, List.filterMap_cons, BuilderCall.route,
    filterMap_route_map .addDisallowedApplication (fun _ => rfl),
    filterMap_route_map .addAllowedApplication (fun _ => rfl),
    filterMap_route_map .addAddress (fun _ => rfl),
    filterMap_route_map .addSearchDomain (fun _ => rfl), hfamilies, hmetered, hroutes]
  rw [filterMap_route_map _ (fun _ => rfl)]
  simp

theorem Config.allowedIps_device (c : Config P) (getResolved : Nat → InetEndpoint → Option InetEndpoint) :
    ((c.device getResolved).peers.flatMap fun peer => valuesOf "allowed_ip".toList peer.2) =
      (c.peers.flatMap fun p => p.allowedIps.elements).map InetNetwork.toString := by
  have hpeer : ∀ x : Peer P × Nat, valuesOf "allowed_ip".toList (x.1.settings (getResolved x.2)) =
      x.1.allowedIps.elements.map InetNetwork.toString := fun x => (x.1.valuesOf_settings _).1
  rw [Config.device, List.flatMap_map]
  simp only [hpeer]
  rw [List.map_flatMap, ← List.flatMap_map (f := Prod.fst)
    (g := fun p : Peer P => p.allowedIps.elements.map InetNetwork.toString), List.zipIdx_map_fst]

/-- **The phone and the device agree.** For a config that was read, the networks that the phone routes into the
tunnel are those that the device lets through, in their order; applications are let in or kept out, never both; and
both address families are let past the tunnel unless there is one peer and it takes all addresses. -/
theorem Config.interface_of_text {text : List Char} {c : Config P} (h : Config.parse P text = .ok c)
    (earlier : Nat → List (Lookup P)) (last : Nat → Lookup P) (name : List Char) (version : Nat) :
    (∃ device, readDevice (c.toAwgUserspaceString (Awg.answers P earlier last)) = some device ∧
      ((c.builderCalls name version).filterMap BuilderCall.route).map InetNetwork.toString =
        device.peers.flatMap fun peer => valuesOf "allowed_ip".toList peer.2) ∧
      (∀ app app', BuilderCall.addAllowedApplication app ∈ c.builderCalls name version →
        BuilderCall.addDisallowedApplication app' ∉ c.builderCalls name version) ∧
      ∀ family ∈ [BuilderCall.allowInet, .allowInet6], (family ∈ c.builderCalls name version ↔
        ¬ ∃ p, c.peers = [p] ∧ ∃ network ∈ p.allowedIps.elements, network.mask = 0) := by
  have hc := Config.parsed_of_parse h
  refine ⟨⟨_, readDevice_toAwgUserspaceString hc (resolves_answers hc earlier last), ?_⟩, fun app app' hin hout => ?_,
    ?_⟩
  · rw [filterMap_route_builderCalls, allowedIps_device]
  · have hallowed : app ∈ c.interfaze.includedApplications.elements := by
      simpa [builderCalls] using hin
    have hdisallowed : app' ∈ c.interfaze.excludedApplications.elements := by
      simpa [builderCalls] using hout
    rcases hc.applications with hempty | hempty
    · rw [LinkedHashSet.eq_empty hempty] at hallowed
      cases hallowed
    · rw [LinkedHashSet.eq_empty hempty] at hdisallowed
      cases hdisallowed
  · intro family hfamily
    have hfamilies : family ∈ c.builderCalls name version ↔
        ¬ (c.sawDefaultRoute = true ∧ c.peers.length = 1) := by
      rcases List.mem_pair.mp hfamily with rfl | rfl <;> simp [builderCalls]
    rw [hfamilies, List.length_eq_one_iff, not_iff_not, sawDefaultRoute]
    constructor
    · rintro ⟨hroute, p, hp⟩
      rw [hp] at hroute
      refine ⟨p, hp, ?_⟩
      simpa using hroute
    · rintro ⟨p, hp, hroute⟩
      refine ⟨?_, p, hp⟩
      rw [hp]
      simpa using hroute

theorem Config.sample_interface_of_text : ∃ c, Config.parse ascii sampleText = .ok c ∧
    BuilderCall.allowInet ∉ c.builderCalls "Router1".toList versionQ := by
  cases h : Config.parse ascii sampleText with
  | error e =>
      have hok := sampleText_isOk
      rw [h] at hok
      cases hok
  | ok c =>
      have hpeer : (Config.parse ascii sampleText).toOption.any (fun c =>
          c.sawDefaultRoute && c.peers.length == 1) = true := by decide +kernel
      rw [h] at hpeer
      obtain ⟨hroute, hone⟩ := Bool.and_eq_true_iff.mp hpeer
      obtain ⟨p, hp⟩ := List.length_eq_one_iff.mp (beq_iff_eq.mp hone)
      refine ⟨c, rfl, fun hmem => ?_⟩
      refine ((Config.interface_of_text h (fun _ => []) (fun _ => sampleLookup) "Router1".toList
        versionQ).2.2 _ List.mem_cons_self).mp hmem ⟨p, hp, ?_⟩
      rw [Config.sawDefaultRoute, hp] at hroute
      simpa using hroute

end Interface

end Awg
