import Mathlib.Algebra.GroupWithZero.Nat
import Router1.Api.RouteProfile
import Router1.Dart.Value
import Router1.Keenetic.Routing

/-!
# What the diagnostics tell

`collectDiagnostics` sends the router's own answers to the server, after `_redactDiagnostics` took the
values of the sensitive keys out. Two answers that differ only there make the same diagnostics, and
nothing else of an answer is lost but the end of long strings. Which upper case letters `toLowerCase`
knows makes no difference to that, so it is a parameter here.
-/

namespace Keenetic

open Api Dart

section

variable (toLowerCase : Units → Units)

/-- The test of `_redactDiagnostics` on a key. -/
def sensitiveKey (key : Units) : Bool :=
  let normalized := toLowerCase key
  normalized.contains (units "password") ||
    normalized.contains (units "private") ||
    normalized.contains (units "preshared") ||
    normalized == units "key" ||
    normalized.endsWith (units "-key")

def redactedText : Value := .string (units "<redacted>")

mutual

def redactValue : Value → Value
  | .map entries => .map (ofEntries (redactEntries entries))
  | .list items => .list (redactItems items)
  | .string s => .string (s.shortened 8000)
  | value => value

def redactItems : List Value → List Value
  | [] => []
  | item :: items => redactValue item :: redactItems items

/-- What the loop over the entries of a map assigns. -/
def redactEntries : List (Units × Value) → List (Units × Value)
  | [] => []
  | (key, value) :: entries =>
      (key, if sensitiveKey toLowerCase key then redactedText else redactValue value) ::
        redactEntries entries

end

/-! ### Two runs -/

mutual

/-- Two values are equal but for what stands under sensitive keys, at any depth. -/
def Agree : Value → Value → Prop
  | .map entries, .map others => AgreeEntries entries others
  | .list items, .list others => AgreeItems items others
  | value, other => value = other

def AgreeItems : List Value → List Value → Prop
  | [], [] => True
  | item :: items, other :: others => Agree item other ∧ AgreeItems items others
  | _, _ => False

def AgreeEntries : List (Units × Value) → List (Units × Value) → Prop
  | [], [] => True
  | (key, value) :: entries, (otherKey, other) :: others =>
      key = otherKey ∧ (sensitiveKey toLowerCase key = true ∨ Agree value other) ∧
        AgreeEntries entries others
  | _, _ => False

end

mutual

theorem redactValue_eq_of_agree {value other : Value} (h : Agree toLowerCase value other) :
    redactValue toLowerCase value = redactValue toLowerCase other := by
  cases value with
  | map entries =>
      cases other with
      | map others =>
          rw [Agree] at h
          rw [redactValue, redactValue, redactEntries_eq_of_agree h]
      | _ => cases h
  | list items =>
      cases other with
      | list others =>
          rw [Agree] at h
          rw [redactValue, redactValue, redactItems_eq_of_agree h]
      | _ => cases h
  | _ => cases h; rfl

theorem redactItems_eq_of_agree {items others : List Value} (h : AgreeItems toLowerCase items others) :
    redactItems toLowerCase items = redactItems toLowerCase others := by
  cases items with
  | nil =>
      cases others with
      | nil => rfl
      | cons other others => cases h
  | cons item items =>
      cases others with
      | nil => cases h
      | cons other others =>
          rw [AgreeItems] at h
          rw [redactItems, redactItems, redactValue_eq_of_agree h.1, redactItems_eq_of_agree h.2]

theorem redactEntries_eq_of_agree {entries others : List (Units × Value)}
    (h : AgreeEntries toLowerCase entries others) :
    redactEntries toLowerCase entries = redactEntries toLowerCase others := by
  cases entries with
  | nil =>
      cases others with
      | nil => rfl
      | cons other others => cases h
  | cons entry entries =>
      cases others with
      | nil => cases h
      | cons other others =>
          obtain ⟨key, value⟩ := entry
          obtain ⟨otherKey, other⟩ := other
          rw [AgreeEntries] at h
          obtain ⟨rfl, hvalue, hentries⟩ := h
          rw [redactEntries, redactEntries, redactEntries_eq_of_agree hentries]
          obtain hsensitive | hvalue := hvalue
          · rw [if_pos hsensitive, if_pos hsensitive]
          · rw [redactValue_eq_of_agree hvalue]

end

/-! ### What is kept -/

@[simp]
theorem keys_redactEntries (entries : List (Units × Value)) :
    keys (redactEntries toLowerCase entries) = keys entries := by
  induction entries with
  | nil => rfl
  | cons entry entries ih => rw [redactEntries, keys_cons, keys_cons, ih]

theorem redactValue_map {entries : List (Units × Value)} (h : (keys entries).Nodup) :
    redactValue toLowerCase (.map entries) = .map (redactEntries toLowerCase entries) := by
  rw [redactValue, ofEntries_of_nodup]
  rw [keys_redactEntries]
  exact h

mutual

/-- The second value is the first as redaction leaves it: the same keys and lengths, and the same leaves,
up to the end of a long string, wherever no sensitive key is above. -/
def Redacted : Value → Value → Prop
  | .map entries, .map others => RedactedEntries entries others
  | .list items, .list others => RedactedItems items others
  | .string s, other =>
      other = .string (if 8000 < s.length then s.take 8000 ++ units "..." else s)
  | value, other => other = value

def RedactedItems : List Value → List Value → Prop
  | [], [] => True
  | item :: items, other :: others => Redacted item other ∧ RedactedItems items others
  | _, _ => False

def RedactedEntries : List (Units × Value) → List (Units × Value) → Prop
  | [], [] => True
  | (key, value) :: entries, (otherKey, other) :: others =>
      otherKey = key ∧
        (if sensitiveKey toLowerCase key then other = redactedText else Redacted value other) ∧
        RedactedEntries entries others
  | _, _ => False

end

mutual

theorem redacted_redactValue {value : Value} (h : value.Distinct) :
    Redacted toLowerCase value (redactValue toLowerCase value) := by
  cases value with
  | map entries =>
      rw [Value.Distinct] at h
      rw [redactValue_map toLowerCase h.1, Redacted]
      exact redacted_redactEntries h.2
  | list items =>
      rw [Value.Distinct] at h
      rw [redactValue, Redacted]
      exact redacted_redactItems h
  | string s =>
      rw [redactValue, Redacted, Units.shortened]
  | _ => rw [redactValue, Redacted] <;> nofun

theorem redacted_redactItems {items : List Value} (h : Value.DistinctItems items) :
    RedactedItems toLowerCase items (redactItems toLowerCase items) := by
  cases items with
  | nil => trivial
  | cons item items =>
      rw [Value.DistinctItems] at h
      rw [redactItems, RedactedItems]
      exact ⟨redacted_redactValue h.1, redacted_redactItems h.2⟩

theorem redacted_redactEntries {entries : List (Units × Value)} (h : Value.DistinctEntries entries) :
    RedactedEntries toLowerCase entries (redactEntries toLowerCase entries) := by
  cases entries with
  | nil => trivial
  | cons entry entries =>
      obtain ⟨key, value⟩ := entry
      rw [Value.DistinctEntries] at h
      rw [redactEntries, RedactedEntries]
      refine ⟨rfl, ?_, redacted_redactEntries h.2⟩
      split
      · rfl
      · exact redacted_redactValue h.1

end

mutual

theorem distinct_redactValue {value : Value} (h : value.Distinct) :
    (redactValue toLowerCase value).Distinct := by
  cases value with
  | map entries =>
      rw [Value.Distinct] at h
      rw [redactValue_map toLowerCase h.1, Value.Distinct, keys_redactEntries]
      exact ⟨h.1, distinct_redactEntries h.2⟩
  | list items =>
      rw [Value.Distinct] at h
      rw [redactValue, Value.Distinct]
      exact distinct_redactItems h
  | _ => trivial

theorem distinct_redactItems {items : List Value} (h : Value.DistinctItems items) :
    Value.DistinctItems (redactItems toLowerCase items) := by
  cases items with
  | nil => trivial
  | cons item items =>
      rw [Value.DistinctItems] at h
      rw [redactItems, Value.DistinctItems]
      exact ⟨distinct_redactValue h.1, distinct_redactItems h.2⟩

theorem distinct_redactEntries {entries : List (Units × Value)} (h : Value.DistinctEntries entries) :
    Value.DistinctEntries (redactEntries toLowerCase entries) := by
  cases entries with
  | nil => trivial
  | cons entry entries =>
      obtain ⟨key, value⟩ := entry
      rw [Value.DistinctEntries] at h
      rw [redactEntries, Value.DistinctEntries]
      refine ⟨?_, distinct_redactEntries h.2⟩
      split
      · trivial
      · exact distinct_redactValue h.1

end

mutual

theorem redactValue_redactValue {value : Value} (h : value.Distinct) :
    redactValue toLowerCase (redactValue toLowerCase value) = redactValue toLowerCase value := by
  cases value with
  | map entries =>
      rw [Value.Distinct] at h
      have hkeys : (keys (redactEntries toLowerCase entries)).Nodup := by
        rw [keys_redactEntries]
        exact h.1
      rw [redactValue_map toLowerCase h.1, redactValue_map toLowerCase hkeys,
        redactEntries_redactEntries h.2]
  | list items =>
      rw [Value.Distinct] at h
      rw [redactValue, redactValue, redactItems_redactItems h]
  | string s => rw [redactValue, redactValue, Units.shortened_shortened]
  | _ => rfl

theorem redactItems_redactItems {items : List Value} (h : Value.DistinctItems items) :
    redactItems toLowerCase (redactItems toLowerCase items) = redactItems toLowerCase items := by
  cases items with
  | nil => rfl
  | cons item items =>
      rw [Value.DistinctItems] at h
      rw [redactItems, redactItems, redactValue_redactValue h.1, redactItems_redactItems h.2]

theorem redactEntries_redactEntries {entries : List (Units × Value)}
    (h : Value.DistinctEntries entries) :
    redactEntries toLowerCase (redactEntries toLowerCase entries) =
      redactEntries toLowerCase entries := by
  cases entries with
  | nil => rfl
  | cons entry entries =>
      obtain ⟨key, value⟩ := entry
      rw [Value.DistinctEntries] at h
      rw [redactEntries, redactEntries, redactEntries_redactEntries h.2]
      by_cases hsensitive : sensitiveKey toLowerCase key = true
      · rw [if_pos hsensitive, if_pos hsensitive]
      · rw [if_neg hsensitive, if_neg hsensitive, redactValue_redactValue h.1]

end

mutual

theorem agree_refl : ∀ value : Value, Agree toLowerCase value value
  | .map entries => by
      rw [Agree]
      exact agreeEntries_refl entries
  | .list items => by
      rw [Agree]
      exact agreeItems_refl items
  | .null | .bool _ | .int _ | .double _ | .string _ => rfl

theorem agreeItems_refl : ∀ items : List Value, AgreeItems toLowerCase items items
  | [] => trivial
  | item :: items => ⟨agree_refl item, agreeItems_refl items⟩

theorem agreeEntries_refl : ∀ entries : List (Units × Value), AgreeEntries toLowerCase entries entries
  | [] => trivial
  | (_, value) :: entries => ⟨rfl, .inr (agree_refl value), agreeEntries_refl entries⟩

end

theorem agreeEntries_append (before : List (Units × Value)) {entries others : List (Units × Value)}
    (h : AgreeEntries toLowerCase entries others) :
    AgreeEntries toLowerCase (before ++ entries) (before ++ others) := by
  induction before with
  | nil => exact h
  | cons entry before ih => exact ⟨rfl, .inr (agree_refl toLowerCase entry.2), ih⟩

theorem agreeEntries_map {α : Type} {f g : α → Value} (key : α → Units) (items : List α)
    (h : ∀ item, Agree toLowerCase (f item) (g item)) :
    AgreeEntries toLowerCase (items.map fun item => (key item, f item))
      (items.map fun item => (key item, g item)) := by
  induction items with
  | nil => trivial
  | cons item items ih => exact ⟨rfl, .inr (h item), ih⟩

def redactDiagnostics (json : JsonValue) : JsonValue where
  value := redactValue toLowerCase json.value
  distinct := distinct_redactValue toLowerCase json.distinct

/-- **Redaction.** It makes the same of values that agree outside the sensitive keys, keeps what is
outside of them, and changes nothing the second time. -/
theorem redactDiagnostics_hides_and_keeps :
    (∀ json other : JsonValue, Agree toLowerCase json.value other.value →
      redactDiagnostics toLowerCase json = redactDiagnostics toLowerCase other) ∧
    ∀ json : JsonValue,
      Redacted toLowerCase json.value (redactDiagnostics toLowerCase json).value ∧
      redactDiagnostics toLowerCase (redactDiagnostics toLowerCase json) =
        redactDiagnostics toLowerCase json := by
  refine ⟨fun json other hagree => ?_, fun json => ⟨?_, ?_⟩⟩
  · rw [redactDiagnostics, redactDiagnostics, JsonValue.mk.injEq]
    exact redactValue_eq_of_agree toLowerCase hagree
  · exact redacted_redactValue toLowerCase json.distinct
  · rw [redactDiagnostics, JsonValue.mk.injEq]
    exact redactValue_redactValue toLowerCase json.distinct

/-- Lower case for the letters without accents. -/
def lowerAscii (s : Units) : Units :=
  s.map fun unit => if 0x41 ≤ unit ∧ unit ≤ 0x5A then unit + 32 else unit

/-- A list of tunnels as the router shows it, with a key in it. -/
def shownTunnels (privateKey : String) : JsonValue where
  value := .list [.map [(units "id", .string (units "Wireguard0")),
    (units "Private-Key", .string (units privateKey))]]
  distinct := ⟨⟨by simp only [keys_cons, keys_nil]; decide, trivial, trivial, trivial⟩, trivial⟩

theorem shownTunnels_redacted :
    redactDiagnostics lowerAscii (shownTunnels "q83vEjRWeJA=") =
      redactDiagnostics lowerAscii (shownTunnels "AAECAwQFBgc=") :=
  (redactDiagnostics_hides_and_keeps lowerAscii).1 (shownTunnels "q83vEjRWeJA=")
    (shownTunnels "AAECAwQFBgc=") ⟨⟨rfl, .inr rfl, rfl, .inl (by decide), trivial⟩, trivial⟩

/-! ### The diagnostics -/

/-- How a diagnostic request ends, after its retries. -/
inductive DiagnosticReply where
  | failed (error : Units)
  | answered (statusCode : Int) (body : Units)

/-- The arguments of `collectDiagnostics`, and the interface selected for the router. -/
structure DiagnosticsCall where
  host : Units
  model : Units
  hostname : Option Units
  firmware : Option Units
  testMode : Bool
  selected : Option Units
  routingProfile : RouterRoutingProfile
  routeProfile : Option Router1RouteProfile
  appVersion : Units
  stage : Units
  error : Option Units

def RouterRoutingProfile.name : RouterRoutingProfile → String
  | selective => "selective"
  | fullTunnel => "fullTunnel"

def optionalText : Option Units → Value
  | none => .null
  | some s => .string s

def count (n : Nat) : Value := .int n

/-- The part of the diagnostics about a route profile: how much is in it. -/
def serverProfile (profile : Router1RouteProfile) : Value :=
  .map [(units "profile_id", .string (units profile.profileId)),
    (units "version", .string (units profile.version)),
    (units "media_domains", count profile.mediaDomains.length),
    (units "ai_domains", count profile.aiDomains.length),
    (units "media_resolved_hosts", count (profile.mediaResolvedHosts.map (·.2.length)).sum),
    (units "ai_resolved_hosts", count (profile.aiResolvedHosts.map (·.2.length)).sum),
    (units "media_ipv4_routes", count profile.mediaIpv4Routes.length),
    (units "ai_ipv4_routes", count profile.aiIpv4Routes.length),
    (units "telegram_ipv4_routes", count profile.telegramIpv4Routes.length),
    (units "telegram_ipv6_routes", count profile.telegramIpv6Routes.length)]

/-- What is known before the router is asked. -/
def DiagnosticsCall.known (call : DiagnosticsCall) : List (Units × Value) :=
  [(units "stage", .string call.stage),
    (units "error", optionalText call.error),
    (units "app", .map [(units "version", .string call.appVersion)]),
    (units "router", .map [(units "host", .string call.host),
      (units "model", .string call.model),
      (units "hostname", optionalText call.hostname),
      (units "firmware", optionalText call.firmware)]),
    (units "routing_profile", .string (units call.routingProfile.name)),
    (units "selected_interface", optionalText call.selected),
    (units "server_profile", (call.routeProfile.map serverProfile).getD .null)]

/-- The paths asked, each with the name of its answer; the path of the selected interface is empty, and
passed over, when none is selected. -/
def DiagnosticsCall.paths (call : DiagnosticsCall) : List (Units × Units) :=
  [(units "version", units "/rci/show/version"),
    (units "interfaces", units "/rci/show/interface"),
    (units "selected_interface",
      match call.selected with
      | none => []
      | some name => units "/rci/show/interface/" ++ name),
    (units "ip_route", units "/rci/show/ip/route"),
    (units "ipv6_route", units "/rci/show/ipv6/route"),
    (units "dns_proxy", units "/rci/show/dns-proxy"),
    (units "object_group", units "/rci/show/object-group")].filter fun entry => !entry.2.isEmpty

section

-- The decoder of the language, and what the router answers to each path.
variable (jsonDecode : Units → Option JsonValue) (replies others : Units → DiagnosticReply)

def diagnosticGet : DiagnosticReply → Value
  | .failed error => .map [(units "ok", .bool false), (units "error", .string error)]
  | .answered statusCode body =>
      .map [(units "ok", .bool (200 ≤ statusCode && statusCode < 300)),
        (units "status", .int statusCode),
        (units "body",
          match jsonDecode body with
          | some json => json.value
          | none => .string (body.shortened 4000))]

def collectDiagnostics (call : DiagnosticsCall) : Value :=
  if call.testMode then .map (call.known ++ [(units "checks", .map [])])
  else
    let checks := call.paths.map fun entry => (entry.1, diagnosticGet jsonDecode (replies entry.2))
    redactValue toLowerCase (.map (call.known ++ [(units "checks", .map checks)]))

/-- Two replies tell the same, but for the values under sensitive keys of their JSON. -/
def AgreeReplies : DiagnosticReply → DiagnosticReply → Prop
  | .answered statusCode body, .answered otherCode otherBody =>
      statusCode = otherCode ∧
        match jsonDecode body, jsonDecode otherBody with
        | some json, some other => Agree toLowerCase json.value other.value
        | none, none => body = otherBody
        | _, _ => False
  | reply, other => reply = other

theorem agree_diagnosticGet {reply other : DiagnosticReply}
    (h : AgreeReplies toLowerCase jsonDecode reply other) :
    Agree toLowerCase (diagnosticGet jsonDecode reply) (diagnosticGet jsonDecode other) := by
  cases reply with
  | failed error =>
      cases other with
      | failed _ =>
          cases h
          exact agree_refl toLowerCase _
      | answered _ _ => cases h
  | answered statusCode body =>
      cases other with
      | failed _ => cases h
      | answered otherCode otherBody =>
          obtain ⟨rfl, hbody⟩ := h
          refine ⟨rfl, .inr rfl, rfl, .inr rfl, rfl, .inr ?_, trivial⟩
          cases hdecoded : jsonDecode body with
          | none =>
              cases hother : jsonDecode otherBody with
              | none =>
                  simp only [hdecoded, hother] at hbody
                  rw [hbody]
                  exact agree_refl toLowerCase _
              | some other => simp only [hdecoded, hother] at hbody
          | some json =>
              cases hother : jsonDecode otherBody with
              | none => simp only [hdecoded, hother] at hbody
              | some other =>
                  simp only [hdecoded, hother] at hbody
                  exact hbody

/-- What a router keeps under sensitive keys does not show in the diagnostics. -/
theorem collectDiagnostics_eq_of_agree (call : DiagnosticsCall)
    (h : ∀ path, AgreeReplies toLowerCase jsonDecode (replies path) (others path)) :
    collectDiagnostics toLowerCase jsonDecode replies call =
      collectDiagnostics toLowerCase jsonDecode others call := by
  rw [collectDiagnostics, collectDiagnostics]
  split
  · rfl
  · apply redactValue_eq_of_agree
    rw [Agree]
    apply agreeEntries_append
    refine ⟨rfl, .inr ?_, trivial⟩
    rw [Agree]
    exact agreeEntries_map toLowerCase Prod.fst _ fun entry =>
      agree_diagnosticGet toLowerCase jsonDecode (h entry.2)

end

end

end Keenetic
