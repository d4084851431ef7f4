import Router1.Api.FailoverBundle
import Router1.Failover.Evaluations

/-!
# The stored bundle

The preferences hold a bundle as JSON text. `refreshBundle` writes the text of the bundle it fetched, and
`initialize` reads it back. What the controller reads of a bundle is `held`; the life of a controller in
`Evaluations` keeps bundles in that form, which is right because the text gives back the whole bundle.
-/

namespace Failover

open Dart Api.Router1FailoverBundle

/-- What the controller reads of a bundle. -/
def held (bundle : Api.Router1FailoverBundle) : Router1FailoverBundle where
  primaryServer := bundle.primaryServer
  health := bundle.health
  nodes := bundle.nodes.pmap (fun node hnode => ⟨node.serverCode, node.configText, hnode.1, hnode.2⟩)
    bundle.nodes_ne
  policy :=
    { failureSamples := bundle.policy.failureSamples.toInt
      handshakeStaleSeconds := bundle.policy.handshakeStaleSeconds.toInt
      switchCooldownSeconds := bundle.policy.switchCooldownSeconds.toInt
      failbackHealthySamples := bundle.policy.failbackHealthySamples.toInt }

/-- The stored values of a device, as they are stored. -/
structure StoredPrefs where
  cache : Option String
  server : Option String
  switchedAt : Option Int
  deriving DecidableEq, Repr

section

variable (parseDouble : String → Double)

namespace StoredPrefs

/-- The bundle `initialize` takes from the cache; a text it cannot read gives none. -/
def cachedBundle (prefs : StoredPrefs) : Option Api.Router1FailoverBundle :=
  match prefs.cache with
  | none => none
  | some text => if text.isEmpty then none else ofCacheText parseDouble text

/-- What `initialize` leaves in the preferences: a cache it cannot read is removed. -/
def cleaned (prefs : StoredPrefs) : StoredPrefs :=
  match prefs.cache with
  | none => prefs
  | some text =>
      if text.isEmpty = false ∧ (ofCacheText parseDouble text).isNone then { prefs with cache := none }
      else prefs

/-- The stored values as the controller reads them. -/
def read (prefs : StoredPrefs) : FailoverPrefs where
  cache := (prefs.cachedBundle parseDouble).map held
  server := prefs.server
  switchedAt := prefs.switchedAt

end StoredPrefs

/-- `refreshBundle` with the answer of the server, none for an exception. -/
def AwgFailoverController.refreshStored (c : AwgFailoverController) (deviceId : Int64) (force : Bool)
    (now : Int) (answer : Option (List (String × Json))) (prefs : StoredPrefs) :
    AwgFailoverController × StoredPrefs :=
  if force || c.refreshDue now then
    match answer.bind (Api.fetchFailoverBundle deviceId) with
    | some value =>
        let taken := (c.refreshing now).refreshed (held value)
        match value.cacheText with
        | some text => (taken, { prefs with cache := some text, server := some taken.activeServer })
        | none => (taken, prefs)
    | none => (c.refreshing now, prefs)
  else (c, prefs)

/-! ### The text stands for the bundle -/

theorem StoredPrefs.cachedBundle_of_cacheText {prefs : StoredPrefs} {bundle : Api.Router1FailoverBundle}
    {text : String} (htext : bundle.cacheText = some text) (h : prefs.cache = some text) :
    prefs.cachedBundle parseDouble = some bundle := by
  have hread := ofCacheText_cacheText parseDouble bundle
  rw [htext, Option.bind_eq_bind, Option.bind_some] at hread
  have hempty : text.isEmpty = false := by
    cases hcases : text.isEmpty with
    | false => rfl
    | true =>
        rw [String.isEmpty_iff.mp hcases] at hread
        cases hread
  rw [cachedBundle, h]
  simp only [hempty, Bool.false_eq_true, if_false]
  exact hread

theorem StoredPrefs.cleaned_of_cachedBundle {prefs : StoredPrefs} {bundle : Api.Router1FailoverBundle}
    (h : prefs.cachedBundle parseDouble = some bundle) : prefs.cleaned parseDouble = prefs := by
  rw [cachedBundle] at h
  rw [cleaned]
  split
  · rfl
  · next text hcache =>
      rw [hcache] at h
      simp only [Option.ite_none_left_eq_some] at h
      rw [if_neg]
      rw [h.2]
      exact fun hremoved => Bool.false_ne_true hremoved.2

theorem AwgFailoverController.refreshStored_read (c : AwgFailoverController) (deviceId : Int64)
    (force : Bool) (now : Int) (answer : Option (List (String × Json))) (prefs : StoredPrefs) :
    (c.refreshStored deviceId force now answer prefs).1 =
        (c.refreshBundle force now ((answer.bind (Api.fetchFailoverBundle deviceId)).map held)).1 ∧
      (c.refreshStored deviceId force now answer prefs).2.read parseDouble =
        (c.refreshBundle force now ((answer.bind (Api.fetchFailoverBundle deviceId)).map held)).2.foldl
          FailoverPrefs.write (prefs.read parseDouble) := by
  unfold refreshStored refreshBundle
  split
  · cases answer.bind (Api.fetchFailoverBundle deviceId) with
    | none => exact ⟨rfl, rfl⟩
    | some value =>
        obtain ⟨text, htext⟩ := exists_cacheText value
        simp only [Option.map_some, htext, true_and]
        rw [StoredPrefs.read, StoredPrefs.cachedBundle_of_cacheText parseDouble htext rfl]
        rfl
  · exact ⟨rfl, rfl⟩

theorem AwgFailoverController.refreshStored_of_fetched {c : AwgFailoverController} {deviceId : Int64}
    {force : Bool} {now : Int} {json : List (String × Json)} {bundle : Api.Router1FailoverBundle}
    {text : String} (prefs : StoredPrefs) (hdue : (force || c.refreshDue now) = true)
    (hfetched : Api.fetchFailoverBundle deviceId json = some bundle)
    (htext : bundle.cacheText = some text) :
    c.refreshStored deviceId force now (some json) prefs =
      ((c.refreshing now).refreshed (held bundle),
        { prefs with
          cache := some text
          server := some ((c.refreshing now).refreshed (held bundle)).activeServer }) := by
  rw [refreshStored, if_pos hdue, Option.bind_some, hfetched]
  simp only [htext]

/-- **The cache is faithful.** Every bundle that was read from an answer of the server is read back from
the text it is stored as, in all its fields. After a refresh took such a bundle over, a later
`initialize`, whatever server and switch are stored by then, keeps the cache and starts a controller that
evaluates every status as one does that starts with the bundle in memory. -/
theorem bundle_cache_faithful (json : List (String × Json)) (bundle : Api.Router1FailoverBundle)
    (h : fromJson json = some bundle) :
    bundle.cacheText >>= ofCacheText parseDouble = fromJson json ∧
    ∀ (c : AwgFailoverController) (deviceId : Int64) (force : Bool) (now : Int) (prefs : StoredPrefs),
      (force || c.refreshDue now) = true → Api.fetchFailoverBundle deviceId json = some bundle →
      ∃ live stored, c.refreshStored deviceId force now (some json) prefs = (live, stored) ∧
        live.bundle = some (held bundle) ∧ stored.server = some live.activeServer ∧
        ∀ (server : Option String) (switchedAt : Option Int) (later : Int)
          (fetch : Option Router1FailoverBundle) (x : Sample),
          StoredPrefs.cleaned parseDouble ⟨stored.cache, server, switchedAt⟩ =
              ⟨stored.cache, server, switchedAt⟩ ∧
            (AwgFailoverController.started
              (StoredPrefs.read parseDouble ⟨stored.cache, server, switchedAt⟩) later fetch).1.evaluate x =
            (AwgFailoverController.started ⟨live.bundle, server, switchedAt⟩ later fetch).1.evaluate x := by
  refine ⟨(ofCacheText_cacheText parseDouble bundle).trans h.symm, ?_⟩
  intro c deviceId force now prefs hdue hfetched
  obtain ⟨text, htext⟩ := exists_cacheText bundle
  refine ⟨_, _, AwgFailoverController.refreshStored_of_fetched prefs hdue hfetched htext, rfl, rfl, ?_⟩
  intro server switchedAt later fetch x
  have hcached : StoredPrefs.cachedBundle parseDouble ⟨some text, server, switchedAt⟩ = some bundle :=
    StoredPrefs.cachedBundle_of_cacheText parseDouble htext rfl
  refine ⟨StoredPrefs.cleaned_of_cachedBundle parseDouble hcached, ?_⟩
  rw [StoredPrefs.read, hcached]
  rfl

end

/-- The answer of the server in the app's own test. -/
def testJson : List (String × Json) :=
  [("device_id", .int 126), ("primary_server", .str "fr"), ("recommended_server", .str "nl2"),
    ("health", .obj [("fr", .obj [("state", .str "down")]), ("nl2", .obj [("state", .str "healthy")])]),
    ("nodes", .arr [
      .obj [("role", .str "primary"), ("server_code", .str "fr"), ("config_text", .str "primary")],
      .obj [("role", .str "standby"), ("server_code", .str "nl2"), ("config_text", .str "standby")]]),
    ("policy", .obj [("failure_samples", .int 3), ("handshake_stale_seconds", .int 180),
      ("switch_cooldown_seconds", .int 300), ("failback_healthy_samples", .int 5)])]

def testBundle : Api.Router1FailoverBundle where
  deviceId := 126
  primaryServer := "fr"
  recommendedServer := "nl2"
  health := [("fr", "down"), ("nl2", "healthy")]
  nodes := [⟨"primary", "fr", "primary"⟩, ⟨"standby", "nl2", "standby"⟩]
  policy := ⟨3, 180, 300, 5⟩
  health_nodup := by decide
  nodes_ne := by decide

theorem testBundle_cached :
    testBundle.cacheText >>= ofCacheText (fun text => ⟨none, text⟩) = fromJson testJson ∧
      ∃ live stored, (AwgFailoverController.initialized ⟨none, none, none⟩).refreshStored 126 true 0
        (some testJson) ⟨none, none, none⟩ = (live, stored) ∧ live.bundle = some (held testBundle) := by
  have hread : fromJson testJson = some testBundle := by rfl
  have hfetched : Api.fetchFailoverBundle 126 testJson = some testBundle := by rfl
  obtain ⟨hround, hstored⟩ :=
    bundle_cache_faithful (fun text => ⟨none, text⟩) testJson testBundle hread
  obtain ⟨live, stored, hrefresh, hbundle, -⟩ := hstored
    (AwgFailoverController.initialized ⟨none, none, none⟩) 126 true 0 ⟨none, none, none⟩ rfl hfetched
  exact ⟨hround, live, stored, hrefresh, hbundle⟩

end Failover
