import Router1.Keenetic.Batches

/-!
# A profile without AI

The server sends an empty list of AI domains for the modes that are sold without neural networks. The
selective mode takes an empty list, like a missing profile, for the wish to use the built-in one, so
the AI domains are routed by every call that reaches the router.
-/

namespace Keenetic

open Dart Api Remote

variable {net : Net} {s t : Session} {access : KeeneticAccess} {json : List (String × Json)}

/-! ### What a call issues and looks up -/

/-- The command lines sent between two sessions. -/
def Session.issued (s t : Session) : List Command := (s.since t).flatMap Exchange.commands

/-- The lookups made between two sessions. -/
def Session.lookedUp (s t : Session) : List Lookup := t.lookups.drop s.lookups.length

/-- The lookup was answered with the address. -/
def Lookup.Found (l : Lookup) (address : String) : Prop :=
  ∃ addresses, l.answer = some addresses ∧ ∃ found ∈ addresses, trim found.address = address

/-- The address was found for an AI probe domain, and neither for a media one nor in the profile. -/
def OnlyFromAiProbes (profile : Option Router1RouteProfile) (lookups : List Lookup)
    (address : String) : Prop :=
  (∃ l ∈ lookups, l.domain ∈ aiProbes profile ∧ l.Found address) ∧
    (∀ l ∈ lookups, l.domain ∈ mediaProbes profile → ¬ l.Found address) ∧
    ∀ host ∈ mediaHosts profile ++ aiHosts profile, trim host ≠ address

/-- No domain is put into the AI group, and no host route is there for the sake of an AI probe. -/
structure NoAiTraffic (profile : Option Router1RouteProfile) (s t : Session) : Prop where
  domains : ∀ domain, Command.addDomain .ai domain ∉ s.issued t
  hosts : ∀ address, OnlyFromAiProbes profile (s.lookedUp t) address → ∀ type interface,
    Command.addRoute (hostDestination address type) interface ∉ s.issued t

/-! ### The group batch -/

theorem mem_groupCommands_of_mem {profile : Option Router1RouteProfile} {domain : String}
    (h : domain ∈ managedAiDomains profile) (lanes : Lanes) :
    .addDomain .ai domain ∈ groupCommands profile lanes := by
  have hinclude : includeDomain profile domain = .addDomain .ai domain := by
    rw [includeDomain, if_pos h]
  unfold groupCommands
  rw [← hinclude]
  simp only [List.mem_append, List.mem_map]
  exact .inl (.inr ⟨domain, .inr h, rfl⟩)

theorem managedAiDomains_of_empty {profile : Router1RouteProfile} (h : profile.aiDomains = []) :
    managedAiDomains (some profile) = aiDomains := by
  simp [managedAiDomains, orBuiltIn, h]

theorem group_batch_sent (hsucceeds : net.Succeeds) (htest : access.testMode = false)
    {profile : Option Router1RouteProfile} {lanes : Lanes} {result : Except Failure Unit}
    (h : (sendSelective access profile lanes).run net.handle s = (result, t)) :
    ∃ e ∈ s.since t, e.request = .cli (groupCommands profile lanes) := by
  have hclear : ∃ a, (clearRouter1Routing access profile).run net.handle s = (.ok (), a) := by
    rw [clearRouter1Routing, if_neg (by simp [htest])]
    exact hsucceeds.run_runCliCommands _ s
  obtain ⟨a, hclear⟩ := hclear
  obtain ⟨b, hprepare⟩ := hsucceeds.run_runCliCommands (prepareCommands lanes) a
  unfold sendSelective at h
  rw [Program.run_bind_of_ok hclear, Program.run_bind_of_ok hprepare] at h
  have hstarts : Starts (.cli (groupCommands profile lanes))
      (runCliCommands (groupCommands profile lanes) false) :=
    starts_runCliCommands (by simp [groupCommands]) false
  obtain ⟨e, he, hrequest⟩ := (hstarts.bind _).run h
  refine ⟨e, ?_, hrequest⟩
  have hsb : s.exchanges <+: b.exchanges := (prefix_of_run hclear).trans (prefix_of_run hprepare)
  rw [since_trans hsb (prefix_of_run h)]
  exact List.mem_append_right _ he

theorem ai_domains_issued (hsucceeds : net.Succeeds) (htest : access.testMode = false)
    {selected : String} (hselected : s.selectedInterfaceByHost access.ip = some selected)
    {status : Nat} {table : Json}
    (htable : (net.answers s.exchanges.length).reply = .ok ⟨status, .json table⟩)
    {profile : Router1RouteProfile} (hempty : profile.aiDomains = []) {result : Except Failure Unit}
    (h : (applySelectiveDnsRouting access (some profile)).run net.handle s = (result, t)) :
    ∀ domain ∈ aiDomains, .addDomain .ai domain ∈ s.issued t := by
  rw [run_applySelectiveDnsRouting htest hselected] at h
  have hread : (getJson .showInterfaces).run net.handle s
      = (.ok table, (net.handle (.exchange .showInterfaces) s).2) := by
    obtain ⟨response, hreply, hsuccess⟩ := hsucceeds s.exchanges.length
    rw [htable] at hreply
    obtain rfl := Except.ok.inj hreply
    have hget : (retryKeenetic (get .showInterfaces)).run net.handle s
        = (.ok ⟨status, .json table⟩, (net.handle (.exchange .showInterfaces) s).2) := by
      unfold retryKeenetic retryFrom get
      rw [Program.run_tryCatch, Program.run_bind_of_ok (run_exchange _ s), htable]
      rfl
    unfold getJson
    rw [Program.run_bind_of_ok hget, if_pos hsuccess]
    rfl
  rw [Program.run_bind_of_ok hread] at h
  obtain ⟨e, he, hrequest⟩ := group_batch_sent hsucceeds htest h
  intro domain hdomain
  rw [← managedAiDomains_of_empty hempty] at hdomain
  refine List.mem_flatMap.mpr ⟨e, ?_, ?_⟩
  · rw [since_trans (prefix_of_run hread) (prefix_of_run h)]
    exact List.mem_append_right _ he
  · rw [Exchange.commands, hrequest]
    exact mem_groupCommands_of_mem hdomain _

/-! ### When no AI traffic is routed -/

theorem noAiTraffic_of_nothing {profile : Option Router1RouteProfile} (h : s.since t = []) :
    NoAiTraffic profile s t := by
  constructor <;> simp [Session.issued, h]

/-- For a profile with an empty list of AI domains, whatever the table and the lookups are, a call
routes no AI traffic if and only if it does nothing at all: in test mode, or without a selected
interface. -/
theorem noAiTraffic_iff (hempty : (Router1RouteProfile.fromJson json).aiDomains = [])
    (hsucceeds : net.Succeeds) {status : Nat} {table : Json}
    (htable : (net.answers s.exchanges.length).reply = .ok ⟨status, .json table⟩) :
    NoAiTraffic (some (.fromJson json)) s
        ((applySelectiveDnsRouting access (some (.fromJson json))).run net.handle s).2 ↔
      access.testMode = true ∨ s.selectedInterfaceByHost access.ip = none := by
  constructor
  · intro hnone
    by_contra hreal
    push Not at hreal
    obtain ⟨selected, hselected⟩ := Option.ne_none_iff_exists'.mp hreal.2
    have hissued := ai_domains_issued hsucceeds (by simpa using hreal.1) hselected htable hempty rfl
    exact hnone.domains "chatgpt.com" (hissued "chatgpt.com" (by simp [aiDomains]))
  · intro hidle
    apply noAiTraffic_of_nothing
    have hsame : ((applySelectiveDnsRouting access (some (.fromJson json))).run net.handle s).2 = s :=
      session_of_idle hidle .selective
    rw [hsame]
    exact since_self s

/-- The payload of the mode that is sold as media only. -/
def goldStandard : List (String × Json) :=
  [("profile_id", .str "gold_standard"), ("version", .str "2026-07-08.2"),
    ("media_domains", .arr [.str "youtube.com", .str "telegram.org", .str "whatsapp.com"]),
    ("ai_domains", .arr []), ("media_probe_domains", .arr [.str "www.youtube.com"]),
    ("ai_probe_domains", .arr []),
    ("media_ipv4_routes", .arr [.arr [.str "91.108.0.0", .str "255.255.0.0"]])]

/-- Every attempt is answered with an empty table. -/
def emptyTables : Net where
  answers _ := responds 200 (.json (.obj []))
  lookups _ := none

theorem emptyTables_succeeds : emptyTables.Succeeds := fun _ => ⟨_, rfl, rfl⟩

theorem goldStandard_routes_ai :
    (Router1RouteProfile.fromJson goldStandard).aiDomains = [] ∧
      ¬ NoAiTraffic (some (.fromJson goldStandard)) ⟨fun _ => some "Wireguard0", fun _ => none, [], []⟩
        ((applySelectiveDnsRouting ⟨"192.168.1.1", false⟩ (some (.fromJson goldStandard))).run
          emptyTables.handle ⟨fun _ => some "Wireguard0", fun _ => none, [], []⟩).2 := by
  have hempty : (Router1RouteProfile.fromJson goldStandard).aiDomains = [] := by rfl
  refine ⟨hempty, fun hnone => hnone.domains "chatgpt.com" ?_⟩
  exact ai_domains_issued emptyTables_succeeds rfl rfl rfl hempty rfl "chatgpt.com"
    (by simp [aiDomains])

theorem goldStandard_idle :
    NoAiTraffic (some (.fromJson goldStandard)) ⟨fun _ => none, fun _ => none, [], []⟩
      ((applySelectiveDnsRouting ⟨"192.168.1.1", false⟩ (some (.fromJson goldStandard))).run
        emptyTables.handle ⟨fun _ => none, fun _ => none, [], []⟩).2 := by
  have hempty : (Router1RouteProfile.fromJson goldStandard).aiDomains = [] := rfl
  exact (noAiTraffic_iff hempty emptyTables_succeeds rfl).mpr (.inr rfl)

end Keenetic
