import Router1.App.Entitlement

/-!
# The end of a trial

`trialPaymentRequired` tells a customer that the trial is over. Where the server has not said so itself,
it goes by the dates: one test config whose date has passed is enough. The older `DashboardPage` takes the
latest of the dates instead. With several test configs the two differ, and the first one asks for a payment
while a test config is still running.
-/

namespace App

open Dart

namespace Router1ClientLookup

variable {lookup : Router1ClientLookup} {config : Router1ClientConfig} {now later : Int}

def testDates (lookup : Router1ClientLookup) : List Int :=
  (lookup.configs.filter (·.isTest)).filterMap (·.paidUntil)

def hasFullActive (lookup : Router1ClientLookup) (now : Int) : Bool :=
  lookup.configs.any fun config => !config.isTest && config.isCurrentConfig now

def expiredByDate (lookup : Router1ClientLookup) (now : Int) : Bool :=
  lookup.testDates.any fun date => !decide (now < date)

def trialPaymentRequired (lookup : Router1ClientLookup) (now : Int) : Bool :=
  match lookup.trial with
  | none => false
  | some trial =>
      if lookup.hasFullActive now then false
      else ["blocked", "expired"].contains (toLowerCase trial.status) || lookup.expiredByDate now

/-! ### The test of the older page -/

/-- The latest of the dates. -/
def trialUntil (lookup : Router1ClientLookup) : Option Int :=
  lookup.testDates.foldl (fun latest value =>
    match latest with
    | none => some value
    | some date => if date < value then some value else some date) none

/-- `trialExpired` of `DashboardPage.build`. -/
def trialExpired (lookup : Router1ClientLookup) (now : Int) : Bool :=
  match lookup.trial with
  | none => false
  | some trial =>
      trial.status == "blocked" || trial.status == "expired" ||
        match lookup.trialUntil with
        | none => false
        | some date => date < now

/-! ### What the dates tell -/

/-- The server has not ended the trial. -/
def UndecidedByServer (lookup : Router1ClientLookup) : Prop :=
  ∀ trial, lookup.trial = some trial → ¬toLowerCase trial.status = "blocked" ∧
    ¬toLowerCase trial.status = "expired"

/-- Where payment is asked for by the dates, nothing is active, and it is asked for from then on. -/
def EndsForGood (lookup : Router1ClientLookup) (now : Int) : Prop :=
  lookup.UndecidedByServer → lookup.trialPaymentRequired now = true →
    (∀ config ∈ lookup.configs, config.isCurrentConfig now = false) ∧
      ∀ later, now ≤ later → lookup.trialPaymentRequired later = true

/-- No test config runs on when the date of a test config has passed. A trial that the server has ended,
and a customer with a full config, are not asked about. -/
def EndTogether (lookup : Router1ClientLookup) (now : Int) : Prop :=
  lookup.trial.isSome = true → lookup.UndecidedByServer →
    (∀ config ∈ lookup.configs, config.isTest = false → config.isCurrentConfig now = false) →
    (∃ config ∈ lookup.configs, config.isTest = true ∧ ∃ date, config.paidUntil = some date ∧ date ≤ now) →
    ∀ config ∈ lookup.configs, config.isTest = true → config.isCurrentConfig now = false

theorem expiredByDate_iff :
    lookup.expiredByDate now = true ↔
      ∃ config ∈ lookup.configs, config.isTest = true ∧
        ∃ date, config.paidUntil = some date ∧ date ≤ now := by
  rw [expiredByDate, List.any_eq_true]
  constructor
  · rintro ⟨date, hdate, hpassed⟩
    obtain ⟨config, hconfig, hpaid⟩ := List.mem_filterMap.mp hdate
    obtain ⟨hmem, htest⟩ := List.mem_filter.mp hconfig
    refine ⟨config, hmem, htest, date, hpaid, ?_⟩
    rw [Bool.not_eq_true', decide_eq_false_iff_not] at hpassed
    omega
  · rintro ⟨config, hmem, htest, date, hpaid, hpassed⟩
    refine ⟨date, List.mem_filterMap.mpr ⟨config, List.mem_filter.mpr ⟨hmem, htest⟩, hpaid⟩, ?_⟩
    rw [Bool.not_eq_true', decide_eq_false_iff_not]
    omega

theorem hasFullActive_eq_false_iff :
    lookup.hasFullActive now = false ↔
      ∀ config ∈ lookup.configs, config.isTest = false → config.isCurrentConfig now = false := by
  simp only [hasFullActive, List.any_eq_false, Bool.and_eq_true, Bool.not_eq_true', not_and,
    Bool.not_eq_true]

theorem not_current_later (hlater : now ≤ later) (h : config.isCurrentConfig now = false) :
    config.isCurrentConfig later = false := by
  unfold Router1ClientConfig.isCurrentConfig at h ⊢
  rw [Bool.and_eq_false_iff] at h ⊢
  refine h.imp_right fun hdeadline => ?_
  cases hpaid : config.paidUntil with
  | none =>
      rw [hpaid] at hdeadline
      cases hdeadline
  | some deadline =>
      rw [hpaid] at hdeadline
      rw [decide_eq_false_iff_not] at hdeadline ⊢
      omega

theorem trialPaymentRequired_iff (hundecided : lookup.UndecidedByServer) :
    lookup.trialPaymentRequired now = true ↔
      lookup.trial.isSome = true ∧ lookup.hasFullActive now = false ∧
        lookup.expiredByDate now = true := by
  unfold trialPaymentRequired
  cases htrial : lookup.trial with
  | none => simp
  | some trial =>
      obtain ⟨hblocked, hexpired⟩ := hundecided trial htrial
      cases hfull : lookup.hasFullActive now <;> simp [hblocked, hexpired]

theorem trialPaymentRequired_later (hundecided : lookup.UndecidedByServer) (hlater : now ≤ later)
    (h : lookup.trialPaymentRequired now = true) : lookup.trialPaymentRequired later = true := by
  rw [trialPaymentRequired_iff hundecided] at h ⊢
  obtain ⟨htrial, hfull, hexpired⟩ := h
  refine ⟨htrial, ?_, ?_⟩
  · rw [hasFullActive_eq_false_iff] at hfull ⊢
    exact fun config hconfig hpaid => not_current_later hlater (hfull config hconfig hpaid)
  · obtain ⟨config, hconfig, htest, date, hdate, hpassed⟩ := expiredByDate_iff.mp hexpired
    exact expiredByDate_iff.mpr ⟨config, hconfig, htest, date, hdate, by omega⟩

/-- **The end of a trial.** What the page says is true and stays true if and only if no test config runs on
when the date of another one has passed. -/
theorem endsForGood_iff (lookup : Router1ClientLookup) (now : Int) :
    lookup.EndsForGood now ↔ lookup.EndTogether now := by
  constructor
  · intro h htrial hundecided hfull hpassed config hconfig _
    have hrequired : lookup.trialPaymentRequired now = true :=
      (trialPaymentRequired_iff hundecided).mpr
        ⟨htrial, hasFullActive_eq_false_iff.mpr hfull, expiredByDate_iff.mpr hpassed⟩
    exact (h hundecided hrequired).1 config hconfig
  · intro h hundecided hrequired
    obtain ⟨htrial, hfull, hexpired⟩ := (trialPaymentRequired_iff hundecided).mp hrequired
    rw [hasFullActive_eq_false_iff] at hfull
    refine ⟨fun config hconfig => ?_, fun later hlater =>
      trialPaymentRequired_later hundecided hlater hrequired⟩
    cases htest : config.isTest with
    | false => exact hfull config hconfig htest
    | true => exact h htrial hundecided hfull (expiredByDate_iff.mp hexpired) config hconfig htest

/-! ### What the older test tells -/

theorem le_of_foldl_latest {dates : List Int} {first last : Option Int}
    (h : dates.foldl (fun latest value =>
      match latest with
      | none => some value
      | some date => if date < value then some value else some date) first = last) :
    ∀ date, date ∈ dates ∨ first = some date → ∃ latest, last = some latest ∧ date ≤ latest := by
  induction dates generalizing first with
  | nil =>
      rintro date (hdate | rfl)
      · cases hdate
      · exact ⟨date, h.symm, Int.le_refl date⟩
  | cons value dates ih =>
      rintro date (hdate | rfl)
      · obtain rfl | hdate := List.mem_cons.mp hdate
        · -- the value is taken over, or an earlier one is at least as late
          cases first with
          | none => exact ih h date (.inr rfl)
          | some earlier =>
              by_cases hless : earlier < date
              · exact ih h date (.inr (if_pos hless))
              · obtain ⟨latest, hlatest, hle⟩ := ih h earlier (.inr (if_neg hless))
                exact ⟨latest, hlatest, by omega⟩
        · exact ih h date (.inl hdate)
      · by_cases hless : date < value
        · obtain ⟨latest, hlatest, hle⟩ := ih h value (.inr (if_pos hless))
          exact ⟨latest, hlatest, by omega⟩
        · exact ih h date (.inr (if_neg hless))

theorem not_current_of_trialExpired (hundecided : lookup.UndecidedByServer)
    (h : lookup.trialExpired now = true) (hconfig : config ∈ lookup.configs)
    (htest : config.isTest = true) (hdated : config.paidUntil.isSome = true) :
    config.isCurrentConfig now = false := by
  obtain ⟨date, hdate⟩ := Option.isSome_iff_exists.mp hdated
  have hmem : date ∈ lookup.testDates :=
    List.mem_filterMap.mpr ⟨config, List.mem_filter.mpr ⟨hconfig, htest⟩, hdate⟩
  obtain ⟨latest, hlatest, hle⟩ := le_of_foldl_latest (rfl : _ = lookup.trialUntil) date (.inl hmem)
  have hbefore : latest < now := by
    unfold trialExpired at h
    cases htrial : lookup.trial with
    | none =>
        rw [htrial] at h
        cases h
    | some trial =>
        obtain ⟨hblocked, hexpired⟩ := hundecided trial htrial
        have hstatus : trial.status ≠ "blocked" ∧ trial.status ≠ "expired" := by
          refine ⟨fun heq => hblocked ?_, fun heq => hexpired ?_⟩ <;> rw [heq] <;> decide
        simpa [htrial, hlatest, hstatus.1, hstatus.2] using h
  rw [Router1ClientConfig.isCurrentConfig, hdate, Bool.and_eq_false_iff]
  refine .inr (decide_eq_false ?_)
  omega

/-! ### Two test configs -/

def testConfig (id deadline : Int) : Router1ClientConfig where
  id := id
  status := "active"
  paymentStatus := "paid"
  hasConfig := true
  recommended := false
  routerCandidate := false
  isTest := true
  paidUntil := some deadline

/-- A test that has ended and one that runs. -/
def twoTests : Router1ClientLookup :=
  ⟨"A", none, [testConfig 1 1700000000000000, testConfig 2 1900000000000000],
    some ⟨"active", .goldStandard, "T-1"⟩⟩

/-- Payment is asked for while the second test runs. -/
theorem running_test_asked_to_pay : ¬∀ lookup now, EndsForGood lookup now := by
  intro hclaim
  have hundecided : twoTests.UndecidedByServer := by
    intro trial htrial
    cases htrial
    decide
  have hnone := (hclaim twoTests 1800000000000000 hundecided (by decide)).1
  exact absurd (hnone (testConfig 2 1900000000000000) (by decide)) (by decide)

end Router1ClientLookup

end App
