import Router1.Dart.JsonText

/-!
# Failover bundles

A failover bundle as the server sends it and as the app stores it. The decoder is lenient: numbers that
are missing have defaults, an entry of the health map that is not a map, or has no state, is unknown, and
a node without a code or a config is dropped. Whatever it accepts, it accepts again in the shape `toJson`
writes, with the same result.
-/

namespace Api

open Dart

structure Router1FailoverNode where
  role : String
  serverCode : String
  configText : String
  deriving DecidableEq, Repr

structure Router1FailoverPolicy where
  failureSamples : Int64
  handshakeStaleSeconds : Int64
  switchCooldownSeconds : Int64
  failbackHealthySamples : Int64
  deriving DecidableEq

/-- A bundle. The health map holds no code twice, and every node has a code and a config. -/
@[ext]
structure Router1FailoverBundle where
  deviceId : Int64
  primaryServer : String
  recommendedServer : String
  health : List (String × String)
  nodes : List Router1FailoverNode
  policy : Router1FailoverPolicy
  health_nodup : (keys health).Nodup
  nodes_ne : ∀ node ∈ nodes, node.serverCode ≠ "" ∧ node.configText ≠ ""

/-- `(value as num?)?.toInt() ?? missing`: what is neither a number nor null is a type error, and an
infinite number has no integer part. A double beyond 64 bits gives the nearest integer. -/
def intOr (missing : Int64) : Json → Option Int64
  | .null => some missing
  | .int value => some (Int64.ofIntClamp value)
  | .double value => value.toInt.map Int64.ofIntClamp
  | _ => none

/-- `value?.toString() ?? missing`. -/
def textOr (missing : String) (value : Json) : String := value.toText?.getD missing

/-- `value as Map<String, dynamic>? ?? const {}`. -/
def mapOr : Json → Option (List (String × Json))
  | .null => some []
  | .obj fields => some fields
  | _ => none

/-- `value as List? ?? const []`. -/
def listOr : Json → Option (List Json)
  | .null => some []
  | .arr items => some items
  | _ => none

namespace Router1FailoverNode

def fromJson (json : List (String × Json)) : Router1FailoverNode where
  role := textOr "standby" (Json.get json "role")
  serverCode := textOr "" (Json.get json "server_code")
  configText := textOr "" (Json.get json "config_text")

def toJson (node : Router1FailoverNode) : Json :=
  .obj [("role", .str node.role), ("server_code", .str node.serverCode),
    ("config_text", .str node.configText)]

end Router1FailoverNode

namespace Router1FailoverPolicy

def fromJson (json : List (String × Json)) : Option Router1FailoverPolicy := do
  let failureSamples ← intOr 3 (Json.get json "failure_samples")
  let handshakeStaleSeconds ← intOr 180 (Json.get json "handshake_stale_seconds")
  let switchCooldownSeconds ← intOr 300 (Json.get json "switch_cooldown_seconds")
  let failbackHealthySamples ← intOr 5 (Json.get json "failback_healthy_samples")
  some ⟨failureSamples, handshakeStaleSeconds, switchCooldownSeconds, failbackHealthySamples⟩

/-- The fields of `toJson`. -/
def fields (policy : Router1FailoverPolicy) : List (String × Json) :=
  [("failure_samples", .int policy.failureSamples.toInt),
    ("handshake_stale_seconds", .int policy.handshakeStaleSeconds.toInt),
    ("switch_cooldown_seconds", .int policy.switchCooldownSeconds.toInt),
    ("failback_healthy_samples", .int policy.failbackHealthySamples.toInt)]

def toJson (policy : Router1FailoverPolicy) : Json := .obj policy.fields

end Router1FailoverPolicy

namespace Router1FailoverBundle

/-- The state in an entry of the health map. -/
def healthState : Json → String
  | .obj fields => textOr "unknown" (Json.get fields "state")
  | _ => "unknown"

def healthMap (fields : List (String × Json)) : List (String × String) :=
  ofEntries (fields.map fun entry => (entry.1, healthState entry.2))

/-- The node of an item of the list, unless the item is no map or the node is not complete. -/
def nodeOf : Json → Option Router1FailoverNode
  | .obj fields =>
      let node := Router1FailoverNode.fromJson fields
      if node.serverCode ≠ "" ∧ node.configText ≠ "" then some node else none
  | _ => none

theorem complete_of_nodeOf {item : Json} {node : Router1FailoverNode} (h : nodeOf item = some node) :
    node.serverCode ≠ "" ∧ node.configText ≠ "" := by
  cases item with
  | obj fields =>
      rw [nodeOf] at h
      simp only [Option.ite_none_right_eq_some, Option.some.injEq] at h
      obtain ⟨hcomplete, rfl⟩ := h
      exact hcomplete
  | _ => cases h

def fromJson (json : List (String × Json)) : Option Router1FailoverBundle := do
  let health ← mapOr (Json.get json "health")
  let nodes ← listOr (Json.get json "nodes")
  let deviceId ← intOr 0 (Json.get json "device_id")
  let policyJson ← mapOr (Json.get json "policy")
  let policy ← Router1FailoverPolicy.fromJson policyJson
  some
    { deviceId := deviceId
      primaryServer := textOr "" (Json.get json "primary_server")
      recommendedServer := textOr "" (Json.get json "recommended_server")
      health := healthMap health
      nodes := nodes.filterMap nodeOf
      policy := policy
      health_nodup := nodup_keys_ofEntries _
      nodes_ne := fun node hnode => by
        obtain ⟨item, -, hitem⟩ := List.mem_filterMap.mp hnode
        exact complete_of_nodeOf hitem }

/-- The fields of `toJson`. -/
def fields (bundle : Router1FailoverBundle) : List (String × Json) :=
  [("device_id", .int bundle.deviceId.toInt),
    ("primary_server", .str bundle.primaryServer),
    ("recommended_server", .str bundle.recommendedServer),
    ("health", .obj (bundle.health.map fun entry => (entry.1, .obj [("state", .str entry.2)]))),
    ("nodes", .arr (bundle.nodes.map Router1FailoverNode.toJson)),
    ("policy", bundle.policy.toJson)]

def toJson (bundle : Router1FailoverBundle) : Json := .obj bundle.fields

/-! ### The shape `toJson` writes -/

theorem intOr_toInt (missing value : Int64) : intOr missing (.int value.toInt) = some value := by
  rw [intOr, Int64.ofIntClamp_toInt]

theorem fitsInt64_toInt (value : Int64) : fitsInt64 value.toInt = true := by
  rw [fitsInt64, Bool.and_eq_true, decide_eq_true_iff, decide_eq_true_iff]
  exact ⟨value.le_toInt, value.toInt_lt⟩

theorem nodeOf_toJson {node : Router1FailoverNode}
    (h : node.serverCode ≠ "" ∧ node.configText ≠ "") : nodeOf node.toJson = some node := by
  have hnode : Router1FailoverNode.fromJson [("role", .str node.role),
      ("server_code", .str node.serverCode), ("config_text", .str node.configText)] = node := rfl
  rw [Router1FailoverNode.toJson, nodeOf, hnode]
  exact if_pos h

theorem filterMap_nodeOf (bundle : Router1FailoverBundle) :
    (bundle.nodes.map Router1FailoverNode.toJson).filterMap nodeOf = bundle.nodes := by
  have hnodes : ∀ node ∈ bundle.nodes, (nodeOf ∘ Router1FailoverNode.toJson) node = some node :=
    fun node hnode => nodeOf_toJson (bundle.nodes_ne node hnode)
  rw [List.filterMap_map, List.filterMap_congr hnodes, List.filterMap_some]

theorem healthMap_toJson (bundle : Router1FailoverBundle) :
    healthMap (bundle.health.map fun entry => (entry.1, .obj [("state", .str entry.2)])) =
      bundle.health := by
  rw [healthMap, List.map_map]
  show ofEntries (bundle.health.map fun entry => (entry.1, entry.2)) = bundle.health
  rw [List.map_id', ofEntries_of_nodup bundle.health_nodup]

theorem policy_fromJson_fields (policy : Router1FailoverPolicy) :
    Router1FailoverPolicy.fromJson policy.fields = some policy := by
  have hfailure : Json.get policy.fields "failure_samples" = .int policy.failureSamples.toInt := rfl
  have hstale : Json.get policy.fields "handshake_stale_seconds" =
      .int policy.handshakeStaleSeconds.toInt := rfl
  have hcooldown : Json.get policy.fields "switch_cooldown_seconds" =
      .int policy.switchCooldownSeconds.toInt := rfl
  have hfailback : Json.get policy.fields "failback_healthy_samples" =
      .int policy.failbackHealthySamples.toInt := rfl
  rw [Router1FailoverPolicy.fromJson, hfailure, hstale, hcooldown, hfailback, intOr_toInt, intOr_toInt,
    intOr_toInt, intOr_toInt]
  rfl

/-- A bundle is read back from its fields, in every one of its own fields. -/
theorem fromJson_fields (bundle : Router1FailoverBundle) : fromJson bundle.fields = some bundle := by
  have hhealth : mapOr (Json.get bundle.fields "health") =
      some (bundle.health.map fun entry => (entry.1, .obj [("state", .str entry.2)])) := rfl
  have hnodes : listOr (Json.get bundle.fields "nodes") =
      some (bundle.nodes.map Router1FailoverNode.toJson) := rfl
  have hdevice : Json.get bundle.fields "device_id" = .int bundle.deviceId.toInt := rfl
  have hpolicy : mapOr (Json.get bundle.fields "policy") = some bundle.policy.fields := rfl
  rw [fromJson, hhealth, hnodes, hdevice, hpolicy, intOr_toInt]
  simp only [Option.bind_eq_bind, Option.bind_some, policy_fromJson_fields, Option.some.injEq]
  apply Router1FailoverBundle.ext
  · rfl
  · rfl
  · rfl
  · exact healthMap_toJson bundle
  · exact filterMap_nodeOf bundle
  · rfl

theorem exact_health (health : List (String × String)) :
    Json.ExactFields (health.map fun entry => (entry.1, .obj [("state", .str entry.2)])) := by
  induction health with
  | nil => trivial
  | cons entry health ih => exact ⟨⟨List.nodup_singleton "state", trivial, trivial⟩, ih⟩

theorem exact_nodes (nodes : List Router1FailoverNode) :
    Json.ExactItems (nodes.map Router1FailoverNode.toJson) := by
  induction nodes with
  | nil => trivial
  | cons node nodes ih =>
      refine ⟨⟨?_, trivial, trivial, trivial, trivial⟩, ih⟩
      simp only [keys_cons, keys_nil]
      decide

theorem exact_policy (policy : Router1FailoverPolicy) : policy.toJson.Exact := by
  refine ⟨?_, fitsInt64_toInt _, fitsInt64_toInt _, fitsInt64_toInt _, fitsInt64_toInt _, trivial⟩
  simp only [Router1FailoverPolicy.fields, keys_cons, keys_nil]
  decide

/-- A bundle is written without doubles and without a key twice. -/
theorem exact_toJson (bundle : Router1FailoverBundle) : bundle.toJson.Exact := by
  have hhealth : (keys (bundle.health.map fun entry =>
      (entry.1, Json.obj [("state", .str entry.2)]))).Nodup := by
    rw [keys, List.map_map]
    exact bundle.health_nodup
  refine ⟨?_, fitsInt64_toInt _, trivial, trivial, ⟨hhealth, exact_health _⟩, exact_nodes _,
    exact_policy _, trivial⟩
  simp only [fields, keys_cons, keys_nil]
  decide

def cacheText (bundle : Router1FailoverBundle) : Option String := jsonEncode bundle.toJson

/-- `Router1FailoverBundle.fromJson(jsonDecode(text) as Map<String, dynamic>)`. -/
def ofCacheText (parseDouble : String → Double) (text : String) : Option Router1FailoverBundle := do
  match ← jsonDecode parseDouble text with
  | .obj fields => fromJson fields
  | _ => none

theorem exists_cacheText (bundle : Router1FailoverBundle) : ∃ text, bundle.cacheText = some text :=
  ⟨_, by rw [cacheText, jsonEncode, Json.isFinite_of_exact bundle.exact_toJson, if_pos rfl]⟩

theorem ofCacheText_cacheText (parseDouble : String → Double) (bundle : Router1FailoverBundle) :
    bundle.cacheText >>= ofCacheText parseDouble = some bundle := by
  have hround := Json.jsonDecode_jsonEncode parseDouble bundle.exact_toJson
  obtain ⟨text, htext⟩ := exists_cacheText bundle
  rw [cacheText] at htext
  rw [htext, Option.bind_eq_bind, Option.bind_some] at hround
  rw [cacheText, htext, Option.bind_eq_bind, Option.bind_some, ofCacheText, hround]
  exact fromJson_fields bundle

end Router1FailoverBundle

/-- `fetchFailoverBundle`, with the answer of the server: a bundle of another device, or without nodes, is
not complete. -/
def fetchFailoverBundle (deviceId : Int64) (json : List (String × Json)) :
    Option Router1FailoverBundle := do
  let bundle ← Router1FailoverBundle.fromJson json
  if bundle.deviceId ≠ deviceId ∨ bundle.nodes.isEmpty then none else some bundle

end Api
