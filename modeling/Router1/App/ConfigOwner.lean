import Router1.App.Shell
import Router1.Remote.Runs

/-!
# Whose config is installed

`Traced` keeps beside the shell what the shell itself forgets: which of the payment-resolving
callbacks ran last, and what the text in `awgConfig` was obtained for. The text is the current
customer's when the two agree with each other and with `clientPhone` or `paidOrderId`.

The callbacks reset these fields only partly. `onPaid` keeps a config fetched earlier, the phone can
change under a fetched config, and `PaidConfigLoadPage` can be entered again with an old order. A run
in which none of this happens installs only the current customer's config.
-/

namespace App

open Remote

/-- A payment-resolving callback: a config was found for a phone, or an order was paid. -/
inductive Resolution where
  | existing (phone : String)
  | paid (order : String)
  deriving DecidableEq, Repr

/-- What a config text was obtained for. -/
inductive Source where
  | fetched (phone : String)
  | loaded (order : String)
  | sample
  deriving DecidableEq, Repr

structure Traced where
  shell : Shell
  last : Option Resolution
  source : Option Source

namespace Traced

def start (platform : String) : Traced := ⟨.initial platform, none, none⟩

def handle (x : Traced) (e : Event) : Traced where
  shell := x.shell.handle e
  last := match e with
    | .existingConfig _ phone _ | .paymentExisting _ phone _ _ => some (.existing phone)
    | .paid _ _ orderId _ _ => some (.paid orderId)
    | _ => x.last
  source := match e with
    | .existingConfig _ phone _ | .paymentExisting _ phone _ _ => some (.fetched phone)
    | .config (some order) _ => some (.loaded order)
    | .config none _ => some .sample
    | _ => x.source

/-- Every callback can run in every state. -/
def step (x : Traced) (e : Event) : Option Traced := some (x.handle e)

/-- The text in `awgConfig` was obtained by the last payment-resolving callback: fetched for exactly the
current phone, or loaded for exactly the current order. -/
def ConfigIsCurrent (x : Traced) : Prop :=
  match x.last, x.source with
  | some (.existing phone), some (.fetched owner) => owner = phone ∧ phone = x.shell.clientPhone
  | some (.paid order), some (.loaded owner) => owner = order ∧ x.shell.paidOrderId = some order
  | _, _ => False

/-- The phone may become `phone`: no config is kept, or it is not one that was fetched for a phone. -/
def PhoneMayBecome (x : Traced) (phone : String) : Prop :=
  x.shell.awgConfig = none ∨ x.last ≠ some (.existing x.shell.clientPhone) ∨
    phone = x.shell.clientPhone

/-- The callbacks that leave the customer and the config in step. -/
def InStep (x : Traced) : Event → Prop
  | .paid _ _ orderId _ _ => x.shell.awgConfig = none ∨ x.source = some (.loaded orderId)
  | .config (some order) _ => x.last = some (.paid order) ∧ x.shell.paidOrderId = some order
  | .config none _ => False
  | .needsPayment _ phone | .gadgetPaid _ phone _ _ => x.PhoneMayBecome phone
  | .initialScreen prefs =>
      x.shell.step ≠ 0 ∨
        (prefs.configured = false ∧ prefs.gadgetConfigured = false ∧ prefs.setupStage = none) ∨
        prefs.clientPhone.getD "" = "" ∨ x.PhoneMayBecome (prefs.clientPhone.getD "")
  | _ => True

/-- A kept config is the current customer's. -/
def Owned (x : Traced) : Prop := x.shell.awgConfig.isSome = true → x.ConfigIsCurrent

end Traced

/-! ### What a callback does to the customer and the config -/

/-- The callbacks that write the phone, the order or the config. -/
def Event.setsCustomer : Event → Bool
  | .initialScreen _ | .setupRouter | .reconnectChecked _ | .existingConfig _ _ _ | .needsPayment _ _
  | .paymentExisting _ _ _ _ | .paid _ _ _ _ _ | .config _ _ | .gadgetPaid _ _ _ _ => true
  | _ => false

theorem Shell.handle_of_not_setsCustomer (s : Shell) {e : Event} (he : e.setsCustomer = false) :
    (s.handle e).awgConfig = s.awgConfig ∧ (s.handle e).clientPhone = s.clientPhone ∧
      (s.handle e).paidOrderId = s.paidOrderId := by
  cases e with
  | splash => rw [handle]; split <;> exact ⟨rfl, rfl, rfl⟩
  | restored access => cases access <;> exact ⟨rfl, rfl, rfl⟩
  | access value => rw [handle]; split <;> exact ⟨rfl, rfl, rfl⟩
  | subscription => rw [handle, openPaymentFromHome]; split <;> exact ⟨rfl, rfl, rfl⟩
  | initialScreen _ | setupRouter | reconnectChecked _ | existingConfig _ _ _ | needsPayment _ _
  | paymentExisting _ _ _ _ | paid _ _ _ _ _ | config _ _ | gadgetPaid _ _ _ _ => cases he
  | _ => exact ⟨rfl, rfl, rfl⟩

namespace Traced

variable {x y : Traced} {e : Event} {platform : String}

theorem owned_of_none (hconfig : x.shell.awgConfig = none) : x.Owned := by
  intro hsome
  rw [hconfig] at hsome
  cases hsome

theorem start_owned (platform : String) : (start platform).Owned :=
  owned_of_none rfl

/-- The config is still the customer's after the phone changed exactly when the phone may change. -/
theorem owned_phone_iff (hx : x.Owned) (hlast : y.last = x.last) (hsource : y.source = x.source)
    (hconfig : y.shell.awgConfig = x.shell.awgConfig)
    (horder : y.shell.paidOrderId = x.shell.paidOrderId) :
    y.Owned ↔ x.PhoneMayBecome y.shell.clientPhone := by
  rw [Owned, PhoneMayBecome, ConfigIsCurrent, hlast, hsource, hconfig, horder]
  rw [Owned, ConfigIsCurrent] at hx
  cases hkept : x.shell.awgConfig with
  | none => simp
  | some text =>
      have hcurrent := hx (by rw [hkept]; rfl)
      revert hcurrent
      cases x.last with
      | none => exact False.elim
      | some resolution =>
          cases x.source with
          | none => cases resolution <;> exact False.elim
          | some source =>
              cases resolution <;> cases source <;> simp
              · rintro rfl rfl
                simp [eq_comm]

theorem owned_of_same (hx : x.Owned) (hlast : y.last = x.last) (hsource : y.source = x.source)
    (hconfig : y.shell.awgConfig = x.shell.awgConfig)
    (hphone : y.shell.clientPhone = x.shell.clientPhone)
    (horder : y.shell.paidOrderId = x.shell.paidOrderId) : y.Owned := by
  rw [Owned, ConfigIsCurrent, hlast, hsource, hconfig, hphone, horder]
  exact hx

theorem owned_reconnectChecked (hx : x.Owned) (works : Bool) :
    (x.handle (.reconnectChecked works)).Owned := by
  by_cases hstage : x.shell.routerSetupResumeStage.isSome = true
  · refine owned_of_same hx rfl rfl ?_ ?_ ?_ <;>
      simp [handle, Shell.handle, Shell.finishRouterReconnect, hstage]
  · cases works with
    | true =>
        refine owned_of_same hx rfl rfl ?_ ?_ ?_ <;>
          simp [handle, Shell.handle, Shell.finishRouterReconnect, hstage, Shell.openHome, Shell.goTo]
    | false =>
        apply owned_of_none
        simp [handle, Shell.handle, Shell.finishRouterReconnect, hstage]

theorem owned_paid_iff (name phone order : String) (test : Bool) (mode : Router1RouteProfileKind) :
    (x.handle (.paid name phone order test mode)).Owned ↔
      x.shell.awgConfig = none ∨ x.source = some (.loaded order) := by
  show (x.shell.awgConfig.isSome = true → _) ↔ _
  cases hkept : x.shell.awgConfig with
  | none => simp
  | some text =>
      simp only [ConfigIsCurrent, handle, Shell.handle, Shell.goTo]
      cases x.source with
      | none => simp
      | some source => cases source <;> simp

theorem owned_config_iff (order : Option String) (text : String) :
    (x.handle (.config order text)).Owned ↔ x.InStep (.config order text) := by
  cases order with
  | none =>
      refine iff_of_false (fun howned => ?_) id
      have hcurrent := howned rfl
      simp only [ConfigIsCurrent, handle] at hcurrent
      split at hcurrent <;> simp_all
  | some order =>
      simp only [Owned, InStep, ConfigIsCurrent, handle, Shell.handle, Shell.goTo]
      cases x.last with
      | none => simp
      | some resolution =>
          cases resolution with
          | existing phone => simp
          | paid last =>
              simp only [Option.isSome_some, forall_const, Option.some.injEq, Resolution.paid.injEq]
              constructor
              · rintro ⟨rfl, horder⟩
                exact ⟨rfl, horder⟩
              · rintro ⟨rfl, horder⟩
                exact ⟨rfl, horder⟩

theorem owned_initialScreen_iff (hx : x.Owned) (prefs : Prefs) :
    (x.handle (.initialScreen prefs)).Owned ↔ x.InStep (.initialScreen prefs) := by
  by_cases hrestores : x.shell.step = 0 ∧ (prefs.configured = true ∨ prefs.gadgetConfigured = true ∨
      prefs.setupStage.isSome = true)
  · have hstored : ¬(prefs.configured = false ∧ prefs.gadgetConfigured = false ∧
        prefs.setupStage = none) := by
      rintro ⟨hrouter, hgadget, hstage⟩
      simp [hrouter, hgadget, hstage] at hrestores
    have hphone := owned_phone_iff (y := x.handle (.initialScreen prefs)) hx rfl rfl
      (by simp [handle, Shell.handle, Shell.loadInitialScreen, hrestores])
      (by simp [handle, Shell.handle, Shell.loadInitialScreen, hrestores])
    rw [hphone]
    by_cases hempty : prefs.clientPhone.getD "" = ""
    · have hkept : (x.handle (.initialScreen prefs)).shell.clientPhone = x.shell.clientPhone := by
        simp [handle, Shell.handle, Shell.loadInitialScreen, hrestores, hempty]
      rw [hkept]
      exact iff_of_true (.inr (.inr rfl)) (.inr (.inr (.inl hempty)))
    · have hnew : (x.handle (.initialScreen prefs)).shell.clientPhone = prefs.clientPhone.getD "" := by
        simp [handle, Shell.handle, Shell.loadInitialScreen, hrestores, hempty]
      rw [hnew]
      simp only [InStep, hrestores.1, hstored, hempty, ne_eq, not_true_eq_false, false_or]
  · have hsame : x.shell.loadInitialScreen prefs = x.shell := if_neg hrestores
    refine iff_of_true ?_ ?_
    · refine owned_of_same hx rfl rfl ?_ ?_ ?_ <;> exact congrArg _ hsame
    · rw [not_and_or] at hrestores
      rcases hrestores with hstep | hstored
      · exact .inl hstep
      · refine .inr (.inl ?_)
        simpa [not_or] using hstored

theorem handle_of_not_setsCustomer (x : Traced) {e : Event} (he : e.setsCustomer = false) :
    (x.handle e).last = x.last ∧ (x.handle e).source = x.source ∧ x.InStep e := by
  unfold handle
  cases e with
  | initialScreen _ | setupRouter | reconnectChecked _ | existingConfig _ _ _ | needsPayment _ _
  | paymentExisting _ _ _ _ | paid _ _ _ _ _ | config _ _ | gadgetPaid _ _ _ _ => cases he
  | _ => exact ⟨rfl, rfl, trivial⟩

/-- **One step.** From a state whose config is the customer's, a callback leaves one exactly when it is
one of those that keep the two in step. -/
theorem owned_handle_iff (hx : x.Owned) (e : Event) : (x.handle e).Owned ↔ x.InStep e := by
  by_cases hsets : e.setsCustomer = true
  · cases e with
    | setupRouter => exact iff_of_true (owned_of_none rfl) trivial
    | reconnectChecked works => exact iff_of_true (owned_reconnectChecked hx works) trivial
    | existingConfig name phone text => exact iff_of_true (fun _ => ⟨rfl, rfl⟩) trivial
    | paymentExisting name phone text mode => exact iff_of_true (fun _ => ⟨rfl, rfl⟩) trivial
    | needsPayment name phone => exact owned_phone_iff hx rfl rfl rfl rfl
    | gadgetPaid name phone text filename => exact owned_phone_iff hx rfl rfl rfl rfl
    | paid name phone order test mode => exact owned_paid_iff name phone order test mode
    | config order text => exact owned_config_iff order text
    | initialScreen prefs => exact owned_initialScreen_iff hx prefs
    | _ => cases hsets
  · have hother : e.setsCustomer = false := Bool.eq_false_iff.mpr hsets
    obtain ⟨hconfig, hphone, horder⟩ := Shell.handle_of_not_setsCustomer x.shell hother
    obtain ⟨hlast, hsource, hin⟩ := handle_of_not_setsCustomer x hother
    exact iff_of_true (owned_of_same hx hlast hsource hconfig hphone horder) hin

theorem awgConfig_isSome_of_installs (h : x.shell.installs ≠ none) :
    x.shell.awgConfig.isSome = true := by
  rw [Shell.installs] at h
  split at h
  · exact Option.isSome_iff_ne_none.mpr h
  · exact absurd rfl h

/-- **The installed config.** In a run whose callbacks all keep the customer and the config in step,
whatever is installed belongs to the current customer. -/
theorem installed_config_is_current (h : Reaches step InStep (start platform) x)
    (hinstalls : x.shell.installs ≠ none) : x.ConfigIsCurrent := by
  have howned : x.Owned := by
    refine h.invariant ?_ (start_owned platform)
    intro y e z hy hin hstep
    cases hstep
    exact (owned_handle_iff hy e).mpr hin
  exact howned (awgConfig_isSome_of_installs hinstalls)

/-! ### Two customers -/

def routerAccess : RouterAccess := ⟨⟨"Keenetic Giga", "192.168.1.1"⟩, false⟩

/-- A new customer pays for an order, whose config is loaded and installed. -/
def newCustomer : List Event :=
  [.splash, .setupRouter, .access routerAccess, .readyForPayment, .needsPayment "A" "79990000001",
    .paid "A" "79990000001" "order-1" false .goldStandard, .componentReady,
    .config (some "order-1") "config of order-1", .routingChosen]

def newCustomerInstalls : Traced where
  shell := newCustomer.foldl Shell.handle (.initial "android")
  last := some (.paid "order-1")
  source := some (.loaded "order-1")

theorem newCustomer_config_is_current :
    Reaches step InStep (start "android") newCustomerInstalls ∧
      newCustomerInstalls.shell.installs = some "config of order-1" ∧
      newCustomerInstalls.ConfigIsCurrent := by
  have hinstalls : newCustomerInstalls.shell.installs = some "config of order-1" := rfl
  have hreaches : Reaches step InStep (start "android") newCustomerInstalls := by
    refine reaches_of_runEvents newCustomer ?_ rfl
    simp [AllAllowed, newCustomer, step, InStep, PhoneMayBecome, handle, start, Shell.initial,
      Shell.handle, Shell.startRouterSetupFromHome, Shell.saveRouterSetupStage, Shell.goTo, Shell.next]
  refine ⟨hreaches, hinstalls, installed_config_is_current hreaches ?_⟩
  rw [hinstalls]
  simp

/-- The config of a first customer is fetched, the user goes back, and a second customer pays. -/
def secondCustomer : List Event :=
  [.splash, .setupRouter, .access routerAccess, .readyForPayment,
    .existingConfig "A" "79990000001" "config of A", .back, .needsPayment "B" "79990000002",
    .paid "B" "79990000002" "order-2" false .goldStandard, .componentReady, .routingChosen]

/-- The first customer's config is installed for the second one, through pages that each offer the
callback they run. -/
theorem first_customer_config_installed :
    ¬∀ platform x, Reaches step (fun x e => x.shell.page.offers e = true) (start platform) x →
      x.shell.installs ≠ none → x.ConfigIsCurrent := by
  intro hclaim
  let final : Traced := secondCustomer.foldl handle (start "android")
  have hreaches :
      Reaches step (fun x e => x.shell.page.offers e = true) (start "android") final := by
    refine reaches_of_runEvents secondCustomer ?_ rfl
    simp only [AllAllowed, secondCustomer, step]
    decide
  have hinstalls : final.shell.installs = some "config of A" := rfl
  refine hclaim "android" final hreaches ?_
  rw [hinstalls]
  simp

end Traced

end App
