import Mathlib.Data.List.Induction
import Router1.Dart.Text

/-!
# The router's command line

The lines the service sends to KeeneticOS and what they do to the part of the router that the app
manages: static routes, the two domain groups and the proxy rules of the groups. A routing table is
a set of entries, so a route is bound to an interface or not, and `no ip route` for a destination
unbinds it from every interface. The lines about an interface's own settings touch none of this.
-/

namespace Keenetic

/-- The two domain groups the app owns. -/
inductive FqdnGroup where
  | media
  | ai
  deriving DecidableEq, Repr

def FqdnGroup.name : FqdnGroup → String
  | media => "router1vpn0"
  | ai => "router1ai0"

/-- What a static route leads to: an IPv4 network with its mask, or an IPv6 range. -/
inductive Destination where
  | ipv4 (network mask : String)
  | ipv6 (range : String)
  deriving DecidableEq, Repr

namespace Destination

/-- The part of a route command that names the destination. -/
def text : Destination → String
  | ipv4 network mask => s!"ip route {network} {mask}"
  | ipv6 range => s!"ipv6 route {range}"

def lowHalf : Destination := ipv4 "0.0.0.0" "128.0.0.0"
def highHalf : Destination := ipv4 "128.0.0.0" "128.0.0.0"
def lowHalf6 : Destination := ipv6 "::/1"
def highHalf6 : Destination := ipv6 "8000::/1"
def everything : Destination := ipv4 "0.0.0.0" "0.0.0.0"
def everything6 : Destination := ipv6 "::/0"

end Destination

inductive Command where
  | addRoute (destination : Destination) (interface : String)
  | removeRoute (destination : Destination)
  | removeRouteVia (destination : Destination) (interface : String)
  | addGroup (group : FqdnGroup)
  | removeGroup (group : FqdnGroup)
  | addDomain (group : FqdnGroup) (domain : String)
  | removeDomain (group : FqdnGroup) (domain : String)
  | addDnsRoute (group : FqdnGroup) (interface : String)
  | removeDnsRoute (group : FqdnGroup)
  | ipGlobal (interface : String)
  | noIpGlobal (interface : String)
  | ipv6Global (interface : String)
  | noIpv6Global (interface : String)
  | mtu1280 (interface : String)
  | saveConfiguration
  deriving DecidableEq, Repr

namespace Command

/-- The line as the service writes it. -/
def text : Command → String
  | addRoute destination interface => s!"{destination.text} {interface} auto"
  | removeRoute destination => s!"no {destination.text}"
  | removeRouteVia destination interface => s!"no {destination.text} {interface}"
  | addGroup group => s!"object-group fqdn {group.name}"
  | removeGroup group => s!"no object-group fqdn {group.name}"
  | addDomain group domain => s!"object-group fqdn {group.name} include {domain}"
  | removeDomain group domain => s!"no object-group fqdn {group.name} include {domain}"
  | addDnsRoute group interface => s!"dns-proxy route object-group {group.name} {interface} auto"
  | removeDnsRoute group => s!"no dns-proxy route object-group {group.name}"
  | ipGlobal interface => s!"interface {interface} ip global"
  | noIpGlobal interface => s!"interface {interface} no ip global"
  | ipv6Global interface => s!"interface {interface} ipv6 global"
  | noIpv6Global interface => s!"interface {interface} no ipv6 global"
  | mtu1280 interface => s!"interface {interface} ip mtu 1280"
  | saveConfiguration => "system configuration save"

/-- The interface a route or a proxy rule is bound to by the line. -/
@[simp] def binds : Command → Option String
  | addRoute _ interface => some interface
  | addDnsRoute _ interface => some interface
  | _ => none

/-- The lines that take an entry away. -/
@[simp] def removes : Command → Bool
  | removeRoute _ | removeRouteVia _ _ | removeGroup _ | removeDomain _ _ | removeDnsRoute _ => true
  | _ => false

/-- The lines that take an entry away, whatever interface it is bound to. -/
@[simp] def clears : Command → Bool
  | removeRoute _ | removeGroup _ | removeDomain _ _ | removeDnsRoute _ => true
  | _ => false

theorem binds_of_clears {c : Command} (h : c.clears = true) : c.binds = none := by
  cases c <;> simp_all

end Command

/-! ### The managed part of the router -/

/-- The routing the app manages, as the set of its entries. -/
structure Routing where
  routes : Destination → String → Bool
  groups : FqdnGroup → Bool
  domains : FqdnGroup → String → Bool
  dnsRoutes : FqdnGroup → String → Bool

namespace Routing

@[ext] theorem ext {r r' : Routing} (hroutes : ∀ d i, r.routes d i = r'.routes d i)
    (hgroups : ∀ g, r.groups g = r'.groups g) (hdomains : ∀ g d, r.domains g d = r'.domains g d)
    (hdns : ∀ g i, r.dnsRoutes g i = r'.dnsRoutes g i) : r = r' := by
  obtain ⟨routes, groups, domains, dnsRoutes⟩ := r
  obtain ⟨routes', groups', domains', dnsRoutes'⟩ := r'
  have h₁ : routes = routes' := funext fun d => funext fun i => hroutes d i
  have h₂ : groups = groups' := funext hgroups
  have h₃ : domains = domains' := funext fun g => funext fun d => hdomains g d
  have h₄ : dnsRoutes = dnsRoutes' := funext fun g => funext fun i => hdns g i
  rw [h₁, h₂, h₃, h₄]

/-- No route, no group, no rule. -/
def empty : Routing where
  routes _ _ := false
  groups _ := false
  domains _ _ := false
  dnsRoutes _ _ := false

/-- What one accepted line does. Adding a domain opens its group, dropping a group drops its domains. -/
def exec (r : Routing) : Command → Routing
  | .addRoute destination interface =>
      { r with routes := fun d i => r.routes d i || (d == destination && i == interface) }
  | .removeRoute destination => { r with routes := fun d i => r.routes d i && d != destination }
  | .removeRouteVia destination interface =>
      { r with routes := fun d i => r.routes d i && !(d == destination && i == interface) }
  | .addGroup group => { r with groups := fun g => r.groups g || g == group }
  | .removeGroup group =>
      { r with
        groups := fun g => r.groups g && g != group
        domains := fun g d => r.domains g d && g != group }
  | .addDomain group domain =>
      { r with
        groups := fun g => r.groups g || g == group
        domains := fun g d => r.domains g d || (g == group && d == domain) }
  | .removeDomain group domain =>
      { r with domains := fun g d => r.domains g d && !(g == group && d == domain) }
  | .addDnsRoute group interface =>
      { r with dnsRoutes := fun g i => r.dnsRoutes g i || (g == group && i == interface) }
  | .removeDnsRoute group => { r with dnsRoutes := fun g i => r.dnsRoutes g i && g != group }
  | .ipGlobal _ | .noIpGlobal _ | .ipv6Global _ | .noIpv6Global _ | .mtu1280 _
  | .saveConfiguration => r

def execAll (r : Routing) (commands : List Command) : Routing := commands.foldl exec r

@[simp] theorem execAll_nil (r : Routing) : r.execAll [] = r := rfl

@[simp] theorem execAll_cons (r : Routing) (c : Command) (cs : List Command) :
    r.execAll (c :: cs) = (r.exec c).execAll cs := rfl

theorem execAll_append (r : Routing) (cs cs' : List Command) :
    r.execAll (cs ++ cs') = (r.execAll cs).execAll cs' := List.foldl_append

end Routing

/-- The lines that change the managed routing of some router. -/
def Command.touchesRouting : Command → Bool
  | .ipGlobal _ | .noIpGlobal _ | .ipv6Global _ | .noIpv6Global _ | .mtu1280 _
  | .saveConfiguration => false
  | _ => true

namespace Routing

theorem exec_of_not_touches (r : Routing) {c : Command} (h : c.touchesRouting = false) :
    r.exec c = r := by
  cases c <;> first | rfl | simp [Command.touchesRouting] at h

theorem execAll_of_not_touches (r : Routing) {cs : List Command}
    (h : ∀ c ∈ cs, c.touchesRouting = false) : r.execAll cs = r := by
  induction cs with
  | nil => rfl
  | cons c cs ih =>
      rw [execAll_cons, exec_of_not_touches r (h c List.mem_cons_self)]
      exact ih fun other hother => h other (List.mem_cons_of_mem c hother)

/-- A line that touches the routing forces one entry to a fixed value, so some table changes. -/
theorem exists_exec_changes {c : Command} (h : c.touchesRouting = true) (cs : List Command) :
    ∃ r : Routing, (r.execAll cs).exec c ≠ r := by
  cases c with
  | addRoute d i =>
      refine ⟨empty, fun heq => ?_⟩
      simpa [exec, empty] using congrArg (fun r => r.routes d i) heq
  | removeRoute d =>
      refine ⟨{ empty with routes := fun _ _ => true }, fun heq => ?_⟩
      simpa [exec] using congrArg (fun r => r.routes d "") heq
  | removeRouteVia d i =>
      refine ⟨{ empty with routes := fun _ _ => true }, fun heq => ?_⟩
      simpa [exec] using congrArg (fun r => r.routes d i) heq
  | addGroup g =>
      refine ⟨empty, fun heq => ?_⟩
      simpa [exec, empty] using congrArg (fun r => r.groups g) heq
  | removeGroup g =>
      refine ⟨{ empty with groups := fun _ => true }, fun heq => ?_⟩
      simpa [exec] using congrArg (fun r => r.groups g) heq
  | addDomain g d =>
      refine ⟨empty, fun heq => ?_⟩
      simpa [exec, empty] using congrArg (fun r => r.domains g d) heq
  | removeDomain g d =>
      refine ⟨{ empty with domains := fun _ _ => true }, fun heq => ?_⟩
      simpa [exec] using congrArg (fun r => r.domains g d) heq
  | addDnsRoute g i =>
      refine ⟨empty, fun heq => ?_⟩
      simpa [exec, empty] using congrArg (fun r => r.dnsRoutes g i) heq
  | removeDnsRoute g =>
      refine ⟨{ empty with dnsRoutes := fun _ _ => true }, fun heq => ?_⟩
      simpa [exec] using congrArg (fun r => r.dnsRoutes g "") heq
  | ipGlobal i | noIpGlobal i | ipv6Global i | noIpv6Global i | mtu1280 i =>
      simp [Command.touchesRouting] at h
  | saveConfiguration => simp [Command.touchesRouting] at h

/-- The last line that touches the routing is not undone by the lines after it. So lines leave every
router of a kind as it was if and only if none of them touches the routing, as long as the kind has a
router that any given touching line changes. -/
theorem execAll_eq_self_iff_of {Kind : Routing → Prop}
    (hkind : ∀ (c : Command) (cs : List Command), c.touchesRouting = true →
      ∃ r, Kind r ∧ (r.execAll cs).exec c ≠ r) (cs : List Command) :
    (∀ r, Kind r → r.execAll cs = r) ↔ ∀ c ∈ cs, c.touchesRouting = false := by
  refine ⟨fun h => ?_, fun h r _ => execAll_of_not_touches r h⟩
  induction cs using List.reverseRecOn with
  | nil => simp
  | append_singleton cs c ih =>
      have hlast : c.touchesRouting = false := by
        rw [Bool.eq_false_iff]
        intro htouches
        obtain ⟨r, hr, hchanges⟩ := hkind c cs htouches
        apply hchanges
        have hkept := h r hr
        rwa [execAll_append] at hkept
      have hinit : ∀ r, Kind r → r.execAll cs = r := by
        intro r hr
        have hkept := h r hr
        rwa [execAll_append, execAll_cons, execAll_nil, exec_of_not_touches _ hlast] at hkept
      intro other hother
      rcases List.mem_append.mp hother with hother | hother
      · exact ih hinit other hother
      · rw [List.mem_singleton.mp hother]
        exact hlast

theorem execAll_eq_self_iff (cs : List Command) :
    (∀ r : Routing, r.execAll cs = r) ↔ ∀ c ∈ cs, c.touchesRouting = false := by
  have hany := execAll_eq_self_iff_of (fun c cs htouches => by
    obtain ⟨r, hr⟩ := exists_exec_changes htouches cs
    exact ⟨r, trivial, hr⟩) cs
  simpa using hany

end Routing

end Keenetic
