import Router1.Dart.Json
import Router1.Dart.LinkedMap
import Router1.Keenetic.Tables

/-!
# Route profiles

A route profile is what the server sends for one product mode: the domains and addresses that go
through the tunnel. `fromJson` accepts any JSON map. A list that is absent, or is not a list, is read
as the empty list, and entries that are empty after trimming are dropped.
-/

namespace Api

open Dart Keenetic

structure Router1RouteProfile where
  profileId : String
  version : String
  mediaDomains : List String
  aiDomains : List String
  mediaProbeDomains : List String
  aiProbeDomains : List String
  mediaResolvedHosts : List (String × List String)
  aiResolvedHosts : List (String × List String)
  mediaIpv4Routes : List Ipv4Route
  aiIpv4Routes : List Ipv4Route
  telegramIpv4Routes : List Ipv4Route
  telegramIpv6Routes : List String

namespace Router1RouteProfile

def stringList : Json → List String
  | .arr items => (items.map fun item => trim item.toText).filter fun item => !item.isEmpty
  | _ => []

def hostMap : Json → List (String × List String)
  | .obj fields =>
      fields.foldl (fun result entry =>
        let key := trim entry.1
        let values := stringList entry.2
        if !key.isEmpty && !values.isEmpty then put key values result else result) []
  | _ => []

def ipv4Route : Json → Option Ipv4Route
  | .arr (first :: second :: _) => keep (trim first.toText) (trim second.toText)
  | .obj fields =>
      keep (trim (((Json.get fields "network").toText?).getD ""))
        (trim (((Json.get fields "mask").toText?).getD ""))
  | _ => none
where
  keep (network mask : String) : Option Ipv4Route :=
    if !network.isEmpty && !mask.isEmpty then some ⟨network, mask⟩ else none

def ipv4Routes : Json → List Ipv4Route
  | .arr items => items.filterMap ipv4Route
  | _ => []

def fromJson (json : List (String × Json)) : Router1RouteProfile where
  profileId := ((Json.get json "profile_id").toText?).getD "router-default"
  version := ((Json.get json "version").toText?).getD ""
  mediaDomains := stringList (Json.get json "media_domains")
  aiDomains := stringList (Json.get json "ai_domains")
  mediaProbeDomains := stringList (Json.get json "media_probe_domains")
  aiProbeDomains := stringList (Json.get json "ai_probe_domains")
  mediaResolvedHosts := hostMap (Json.get json "media_resolved_hosts")
  aiResolvedHosts := hostMap (Json.get json "ai_resolved_hosts")
  mediaIpv4Routes := ipv4Routes (Json.get json "media_ipv4_routes")
  aiIpv4Routes := ipv4Routes (Json.get json "ai_ipv4_routes")
  telegramIpv4Routes := ipv4Routes (Json.get json "telegram_ipv4_routes")
  telegramIpv6Routes := stringList (Json.get json "telegram_ipv6_routes")

end Router1RouteProfile

end Api
