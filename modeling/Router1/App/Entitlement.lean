import Router1.App.Shell

/-!
# Skipping the payment

A customer who already has a router config does not pay again. Which config that is `recommendedConfig`
decides: the first recommended router config of the list, or else the first router config. Whether a
config is still paid for is what the dashboard asks with `isCurrentConfig`. Neither of the two pages that
skip the payment asks it.
-/

namespace App

open Dart

/-- A config of a lookup, with what the two notions read of it. The deadline is an instant. -/
structure Router1ClientConfig where
  id : Int
  status : String
  paymentStatus : String
  hasConfig : Bool
  recommended : Bool
  routerCandidate : Bool
  isTest : Bool
  paidUntil : Option Int
  deriving DecidableEq, Repr

structure Router1Trial where
  status : String
  mode : Router1RouteProfileKind
  orderId : String
  deriving DecidableEq, Repr

def Router1Trial.active (trial : Router1Trial) : Bool :=
  ["claimed", "activating", "active", "generation_error"].contains trial.status

structure Router1ClientLookup where
  clientName : String
  recommendedConfigId : Option Int
  configs : List Router1ClientConfig
  trial : Option Router1Trial

namespace Router1ClientConfig

/-- A router config that is no test and has a text. -/
def isCandidate (config : Router1ClientConfig) : Bool :=
  config.routerCandidate && !config.isTest && config.hasConfig

/-- The test of the dashboard. -/
def isCurrentConfig (config : Router1ClientConfig) (now : Int) : Bool :=
  toLowerCase config.status == "active" &&
    ["paid", "active", "manual_grant"].contains (toLowerCase config.paymentStatus) &&
    match config.paidUntil with
    | none => true
    | some deadline => now < deadline

end Router1ClientConfig

namespace Router1ClientLookup

def isPreferred (lookup : Router1ClientLookup) (config : Router1ClientConfig) : Bool :=
  (some config.id == lookup.recommendedConfigId || config.recommended) && config.isCandidate

def recommendedConfig (lookup : Router1ClientLookup) : Option Router1ClientConfig :=
  lookup.configs.find? lookup.isPreferred <|> lookup.configs.find? (·.isCandidate)

def activeTrialConfig (lookup : Router1ClientLookup) (router : Bool) : Option Router1ClientConfig :=
  lookup.configs.find? fun config =>
    config.isTest && config.hasConfig && config.routerCandidate == router &&
      ["active", "paid"].contains config.status

end Router1ClientLookup

/-! ### The two pages -/

/-- What the two pages ask of the server; a missing answer is an exception. -/
structure Backend where
  findClientByPhone : String → Option Router1ClientLookup
  fetchClientConfigText : String → Int → Option String

/-- `phone.replaceAll(RegExp(r'\D+'), '').length < 10`. -/
def tooFewDigits (phone : String) : Bool := (phone.toList.filter isDigit).length < 10

/-- The text of a name field, or the name a customer has before one is known. -/
def nameOr (text : String) : String := if text.isEmpty then "Клиент Router1" else text

/-- How `ClientPhoneLookupPage.submit` ends. -/
inductive Submitted where
  | invalidPhone
  | existingConfig (config : Router1ClientConfig) (name phone configText : String)
  | needsPayment (name phone : String)
  deriving DecidableEq, Repr

def submit (api : Backend) (nameText phoneText : String) : Submitted :=
  let name := nameOr (trim nameText)
  let phone := trim phoneText
  if tooFewDigits phone then .invalidPhone
  else
    match api.findClientByPhone phone with
    | none => .needsPayment name phone
    | some lookup =>
        match lookup.recommendedConfig with
        | none => .needsPayment name phone
        | some config =>
            match api.fetchClientConfigText phone config.id with
            | none => .needsPayment name phone
            | some text =>
                .existingConfig config (if lookup.clientName.isEmpty then name else lookup.clientName)
                  phone text

/-- How `PaymentPage.pay` goes on after the lookup. -/
inductive Paying where
  | invalidPhone
  | existingConfig (config : Router1ClientConfig) (name phone configText : String)
  | trialConfig (config : Router1ClientConfig) (name phone configText : String)
      (mode : Option Router1RouteProfileKind)
  | restoresTrial (trial : Router1Trial)
  | createsOrder
  deriving DecidableEq, Repr

def pay (api : Backend) (testMode : Bool) (nameText phoneText : String) : Paying :=
  let phone := trim phoneText
  if phone.isEmpty || tooFewDigits phone then .invalidPhone
  else
    match api.findClientByPhone phone with
    | none => .createsOrder
    | some lookup =>
        let name := if lookup.clientName.isEmpty then nameOr (trim nameText) else lookup.clientName
        match lookup.recommendedConfig with
        | some config =>
            match api.fetchClientConfigText phone config.id with
            | some text => .existingConfig config name phone text
            | none => .createsOrder
        | none =>
            if testMode then
              match lookup.activeTrialConfig true with
              | some config =>
                  match api.fetchClientConfigText phone config.id with
                  | some text => .trialConfig config name phone text (lookup.trial.map (·.mode))
                  | none => .createsOrder
              | none =>
                  match lookup.trial with
                  | some trial =>
                      if trial.active && !trial.orderId.isEmpty then .restoresTrial trial
                      else .createsOrder
                  | none => .createsOrder
            else .createsOrder

/-! ### Which config is taken -/

/-- The first element of a list that has the property. -/
def IsFirst {α : Type} (p : α → Bool) (items : List α) (item : α) : Prop :=
  ∃ before after, items = before ++ item :: after ∧ p item = true ∧ ∀ other ∈ before, p other = false

theorem find_eq_some_iff_isFirst {α : Type} (p : α → Bool) (items : List α) (item : α) :
    items.find? p = some item ↔ IsFirst p items item := by
  rw [List.find?_eq_some_iff_append, IsFirst]
  constructor
  · rintro ⟨hitem, before, after, hsplit, hbefore⟩
    exact ⟨before, after, hsplit, hitem, fun other hother => by simpa using hbefore other hother⟩
  · rintro ⟨before, after, hsplit, hitem, hbefore⟩
    exact ⟨hitem, before, after, hsplit, fun other hother => by simp [hbefore other hother]⟩

namespace Router1ClientLookup

variable {lookup : Router1ClientLookup} {config : Router1ClientConfig} {now : Int}

theorem recommendedConfig_eq_some_iff :
    lookup.recommendedConfig = some config ↔
      IsFirst lookup.isPreferred lookup.configs config ∨
        ((∀ other ∈ lookup.configs, lookup.isPreferred other = false) ∧
          IsFirst (·.isCandidate) lookup.configs config) := by
  rw [recommendedConfig, ← find_eq_some_iff_isFirst, ← find_eq_some_iff_isFirst]
  cases hpreferred : lookup.configs.find? lookup.isPreferred with
  | some found =>
      have hsome : ¬∀ other ∈ lookup.configs, lookup.isPreferred other = false := by
        intro hnone
        have hfound := hnone found (List.mem_of_find?_eq_some hpreferred)
        rw [List.find?_some hpreferred] at hfound
        cases hfound
      simp [hsome]
  | none =>
      have hnone : ∀ other ∈ lookup.configs, lookup.isPreferred other = false := by
        simpa using hpreferred
      show lookup.configs.find? (·.isCandidate) = some config ↔ _
      exact ⟨fun h => .inr ⟨hnone, h⟩, fun h => h.elim (fun h => nomatch h) And.right⟩

theorem isCandidate_of_recommended (h : lookup.recommendedConfig = some config) :
    config.isCandidate = true := by
  rcases recommendedConfig_eq_some_iff.mp h with hfirst | ⟨-, hfirst⟩
  · obtain ⟨_, _, _, hpreferred, _⟩ := hfirst
    exact (Bool.and_eq_true_iff.mp hpreferred).2
  · obtain ⟨_, _, _, hcandidate, _⟩ := hfirst
    exact hcandidate

/-- The config is a router config of the customer, no test, and still paid for. -/
structure Entitles (config : Router1ClientConfig) (now : Int) : Prop where
  router : config.routerCandidate = true
  full : config.isTest = false
  hasText : config.hasConfig = true
  current : config.isCurrentConfig now = true

/-- Where the server answers a phone with this lookup, both pages skip the payment only for a config
that entitles to it at this instant. -/
structure SkipsOnlyIfPaid (lookup : Router1ClientLookup) (now : Int) : Prop where
  submitted : ∀ api nameText phoneText, api.findClientByPhone (trim phoneText) = some lookup →
    ∀ config name phone text,
      submit api nameText phoneText = .existingConfig config name phone text → Entitles config now
  paying : ∀ api testMode nameText phoneText, api.findClientByPhone (trim phoneText) = some lookup →
    ∀ config name phone text,
      pay api testMode nameText phoneText = .existingConfig config name phone text →
        Entitles config now

/-- The first preferred config of the list is still paid for, or, where none is preferred, the first
candidate is. -/
structure FirstIsCurrent (lookup : Router1ClientLookup) (now : Int) : Prop where
  preferred : ∀ config, IsFirst lookup.isPreferred lookup.configs config →
    config.isCurrentConfig now = true
  candidate : (∀ other ∈ lookup.configs, lookup.isPreferred other = false) →
    ∀ config, IsFirst (·.isCandidate) lookup.configs config → config.isCurrentConfig now = true

theorem recommended_of_submit {api : Backend} {nameText phoneText name phone text : String}
    (hlookup : api.findClientByPhone (trim phoneText) = some lookup)
    (h : submit api nameText phoneText = .existingConfig config name phone text) :
    lookup.recommendedConfig = some config := by
  unfold submit at h
  simp only [hlookup] at h
  split at h
  · cases h
  · split at h
    · cases h
    · next chosen hchosen =>
        split at h
        · cases h
        · cases h
          exact hchosen

theorem recommended_of_pay {api : Backend} {testMode : Bool}
    {nameText phoneText name phone text : String}
    (hlookup : api.findClientByPhone (trim phoneText) = some lookup)
    (h : pay api testMode nameText phoneText = .existingConfig config name phone text) :
    lookup.recommendedConfig = some config := by
  unfold pay at h
  simp only [hlookup] at h
  split at h
  · cases h
  · split at h
    · next chosen hchosen =>
        split at h
        · cases h
          exact hchosen
        · cases h
    · -- the branches of a customer without a config end otherwise
      repeat' split at h
      all_goals cases h

/-- Whatever config is chosen, a customer with its lookup can skip the payment for it. -/
theorem submit_of_recommended (h : lookup.recommendedConfig = some config) :
    ∃ api name phone text, api.findClientByPhone (trim "79990000001") = some lookup ∧
      submit api "" "79990000001" = .existingConfig config name phone text := by
  refine ⟨⟨fun _ => some lookup, fun _ _ => some ""⟩,
    if lookup.clientName.isEmpty then nameOr (trim "") else lookup.clientName, "79990000001", "", rfl, ?_⟩
  unfold submit
  simp only [h]
  rw [if_neg (by decide)]
  rfl

/-- **The two notions.** The payment is skipped only for a config that is still paid for if and only if
the first preferred config, or without one the first candidate, is. -/
theorem skipsOnlyIfPaid_iff (lookup : Router1ClientLookup) (now : Int) :
    lookup.SkipsOnlyIfPaid now ↔ lookup.FirstIsCurrent now := by
  constructor
  · intro h
    have hcurrent : ∀ config, lookup.recommendedConfig = some config →
        config.isCurrentConfig now = true := by
      intro config hchosen
      obtain ⟨api, name, phone, text, hlookup, hskips⟩ := submit_of_recommended hchosen
      exact (h.submitted api _ _ hlookup config name phone text hskips).current
    refine ⟨fun config hfirst => ?_, fun hnone config hfirst => ?_⟩
    · exact hcurrent config (recommendedConfig_eq_some_iff.mpr (.inl hfirst))
    · exact hcurrent config (recommendedConfig_eq_some_iff.mpr (.inr ⟨hnone, hfirst⟩))
  · intro h
    have hentitles : ∀ config, lookup.recommendedConfig = some config → Entitles config now := by
      intro config hchosen
      have hcandidate := isCandidate_of_recommended hchosen
      simp only [Router1ClientConfig.isCandidate, Bool.and_eq_true, Bool.not_eq_true'] at hcandidate
      obtain ⟨⟨hrouter, hfull⟩, htext⟩ := hcandidate
      refine ⟨hrouter, hfull, htext, ?_⟩
      rcases recommendedConfig_eq_some_iff.mp hchosen with hfirst | ⟨hnone, hfirst⟩
      · exact h.preferred config hfirst
      · exact h.candidate hnone config hfirst
    refine ⟨?_, ?_⟩
    · intro api nameText phoneText hlookup config name phone text hskips
      exact hentitles config (recommended_of_submit hlookup hskips)
    · intro api testMode nameText phoneText hlookup config name phone text hskips
      exact hentitles config (recommended_of_pay hlookup hskips)

/-- A router config whose subscription has run out. -/
def expiredConfig : Router1ClientConfig where
  id := 7
  status := "expired"
  paymentStatus := "unpaid"
  hasConfig := true
  recommended := false
  routerCandidate := true
  isTest := false
  paidUntil := some 1700000000000000

def expiredLookup : Router1ClientLookup := ⟨"A", none, [expiredConfig], none⟩

/-- A customer whose subscription ended long ago is not asked to pay. -/
theorem expired_config_skips_payment :
    ¬∀ lookup now, Router1ClientLookup.SkipsOnlyIfPaid lookup now := by
  intro hclaim
  have hchosen : expiredLookup.recommendedConfig = some expiredConfig := by decide
  obtain ⟨api, name, phone, text, hlookup, hskips⟩ := submit_of_recommended hchosen
  have hcurrent := ((hclaim expiredLookup 1800000000000000).submitted api _ _ hlookup _ name phone text
    hskips).current
  exact absurd hcurrent (by decide)

end Router1ClientLookup

end App
