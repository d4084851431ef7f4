import Router1.App.Shell

/-!
# The race at the start

`initState` starts two things. The splash timer moves on to the dashboard after a few seconds, and
`loadInitialScreen` first tries to reach the router whose credentials are stored and then shows what an
earlier run has saved, but only while the splash screen is still there. Nothing else runs before the
user does something, so a start is the two parts of `loadInitialScreen` with the timer somewhere among
them.
-/

namespace App

structure SavedRouterCredentials where
  address : String
  login : String
  password : String
  deriving DecidableEq, Repr

/-- An earlier run has left something to come back to. -/
def Prefs.HasIdentity (prefs : Prefs) : Prop :=
  prefs.configured = true ∨ prefs.gadgetConfigured = true ∨ prefs.setupStage.isSome = true

/-- The stored phone, empty where none is stored. -/
def Prefs.phone (prefs : Prefs) : String := prefs.clientPhone.getD ""

/-- The stored kind; an unknown name and a missing one are the standard kind. -/
def Prefs.kind (prefs : Prefs) : Router1RouteProfileKind :=
  match prefs.routeProfileKind with
  | some name => .ofName name
  | none => .goldStandard

/-- `_restoreRouterAccess`: without credentials no router is asked, and a router that does not answer
is left out. -/
def restoreRouterAccess (credentials : Option SavedRouterCredentials)
    (authenticate : SavedRouterCredentials → Option RouterAccess) : Event :=
  .restored (credentials.bind authenticate)

/-- The two parts of `loadInitialScreen`, with the stored access tried in the first. -/
def loading (credentials : Option SavedRouterCredentials)
    (authenticate : SavedRouterCredentials → Option RouterAccess) (prefs : Prefs) : List Event :=
  [restoreRouterAccess credentials authenticate, .initialScreen prefs]

namespace Shell

/-- The state after a start in which the timer fires between the two given pieces. -/
def started (platform : String) (before after : List Event) : Shell :=
  (before ++ .splash :: after).foldl handle (.initial platform)

/-- The shell knows what was stored. -/
structure IdentityRestored (s : Shell) (prefs : Prefs) : Prop where
  phone : s.clientPhone = prefs.phone
  kind : s.routerRouteProfileKind = prefs.kind
  stage : s.routerSetupResumeStage = prefs.setupStage

/-- What was stored is what a first start has anyway. -/
structure IsPlain (prefs : Prefs) : Prop where
  phone : prefs.phone = ""
  kind : prefs.kind = .goldStandard
  stage : prefs.setupStage = none

/-- The three values are still those the fields are declared with. -/
structure IsFresh (s : Shell) : Prop where
  phone : s.clientPhone = ""
  kind : s.routerRouteProfileKind = .goldStandard
  stage : s.routerSetupResumeStage = none

variable {s : Shell} {prefs : Prefs}

theorem initial_isFresh (platform : String) : (initial platform).IsFresh := ⟨rfl, rfl, rfl⟩

theorem IsFresh.restored (hs : s.IsFresh) (access : Option RouterAccess) :
    (s.handle (.restored access)).IsFresh ∧ (s.handle (.restored access)).step = s.step := by
  cases access with
  | none => exact ⟨hs, rfl⟩
  | some value => exact ⟨⟨hs.phone, hs.kind, hs.stage⟩, rfl⟩

/-- The timer leaves the splash screen, and the values as they are. -/
theorem IsFresh.splash (hs : s.IsFresh) (hstep : s.step = 0) :
    (s.handle .splash).IsFresh ∧ (s.handle .splash).step ≠ 0 := by
  have hnext : s.handle .splash = s.next := if_pos hstep
  rw [hnext]
  refine ⟨⟨hs.phone, hs.kind, hs.stage⟩, ?_⟩
  show s.step + 1 ≠ 0
  omega

theorem splash_of_left (hstep : s.step ≠ 0) : s.handle .splash = s := if_neg hstep

/-- On the splash screen the stored values are taken over, and the screen is left. -/
theorem IsFresh.loaded (hs : s.IsFresh) (hstep : s.step = 0) (hstored : prefs.HasIdentity) :
    (s.loadInitialScreen prefs).IdentityRestored prefs ∧ (s.loadInitialScreen prefs).step ≠ 0 := by
  rw [loadInitialScreen, if_pos ⟨hstep, hstored⟩]
  refine ⟨⟨?_, ?_, rfl⟩, ?_⟩
  · show (if prefs.phone.isEmpty then s.clientPhone else prefs.phone) = prefs.phone
    by_cases hempty : prefs.phone.isEmpty = true
    · rw [if_pos hempty, hs.phone, String.isEmpty_iff.mp hempty]
    · rw [if_neg hempty]
  · cases hkind : prefs.routeProfileKind with
    | none => simp [Prefs.kind, hkind, hs.kind]
    | some name => simp [Prefs.kind, hkind]
  · simp

theorem IsFresh.missed (hs : s.IsFresh) (hstep : s.step ≠ 0) :
    (s.loadInitialScreen prefs).IdentityRestored prefs ↔ IsPlain prefs := by
  have hsame : s.loadInitialScreen prefs = s := if_neg fun h => hstep h.1
  rw [hsame]
  constructor
  · intro h
    exact ⟨by rw [← h.phone, hs.phone], by rw [← h.kind, hs.kind], by rw [← h.stage, hs.stage]⟩
  · intro h
    exact ⟨by rw [hs.phone, h.phone], by rw [hs.kind, h.kind], by rw [hs.stage, h.stage]⟩

/-- **The start.** What was stored is known at the end if and only if the timer fired last, or the
stored values are those of a first start. -/
theorem identityRestored_iff {credentials : Option SavedRouterCredentials}
    {authenticate : SavedRouterCredentials → Option RouterAccess} {before after : List Event}
    (platform : String) (hstored : prefs.HasIdentity)
    (hsplit : before ++ after = loading credentials authenticate prefs) :
    (started platform before after).IdentityRestored prefs ↔ after = [] ∨ IsPlain prefs := by
  have hfresh := initial_isFresh platform
  rcases before with _ | ⟨first, _ | ⟨second, rest⟩⟩
  · -- the timer fires before the router has answered
    obtain rfl : after = loading credentials authenticate prefs := hsplit
    obtain ⟨hleft, hstep⟩ := hfresh.splash rfl
    obtain ⟨hrestored, hsame⟩ := hleft.restored (credentials.bind authenticate)
    rw [← hsame] at hstep
    exact (hrestored.missed hstep).trans (by simp [loading])
  · -- it fires while the stored values are read
    obtain ⟨rfl, rfl⟩ : first = .restored (credentials.bind authenticate) ∧
        after = [.initialScreen prefs] := by
      simpa [loading, restoreRouterAccess] using hsplit
    obtain ⟨hrestored, hsame⟩ := hfresh.restored (credentials.bind authenticate)
    obtain ⟨hleft, hstep⟩ := hrestored.splash hsame
    exact (hleft.missed hstep).trans (by simp)
  · obtain ⟨rfl, rfl, rfl, rfl⟩ : first = .restored (credentials.bind authenticate) ∧
        second = .initialScreen prefs ∧ rest = [] ∧ after = [] := by
      simpa [loading, restoreRouterAccess] using hsplit
    obtain ⟨hrestored, hsame⟩ := hfresh.restored (credentials.bind authenticate)
    obtain ⟨hloaded, hstep⟩ := hrestored.loaded hsame hstored
    refine iff_of_true ?_ (.inl rfl)
    show (handle (loadInitialScreen _ prefs) .splash).IdentityRestored prefs
    rw [splash_of_left hstep]
    exact hloaded

/-- A router and a customer of an earlier run. -/
def storedCustomer : Prefs where
  configured := true
  gadgetConfigured := false
  setupStage := none
  routerModel := some "Keenetic Giga"
  clientPhone := some "79990000001"
  routeProfileKind := some "ai"

def storedCredentials : SavedRouterCredentials := ⟨"192.168.1.1", "admin", "secret"⟩

/-- A router that is not there answers after the timer has fired, and the customer is forgotten. -/
theorem customer_forgotten :
    ¬∀ platform credentials authenticate prefs before after, prefs.HasIdentity →
      before ++ after = loading credentials authenticate prefs →
      (started platform before after).IdentityRestored prefs := by
  intro hclaim
  have hrestored := hclaim "android" (some storedCredentials) (fun _ => none) storedCustomer []
    (loading (some storedCredentials) (fun _ => none) storedCustomer) (.inl rfl) rfl
  have hphone : "" = "79990000001" := hrestored.phone
  exact absurd hphone (by decide)

theorem customer_restored :
    (started "android" (loading (some storedCredentials) (fun _ => none) storedCustomer)
      []).IdentityRestored storedCustomer :=
  (identityRestored_iff "android" (.inl rfl) (List.append_nil _)).mpr (.inl rfl)

end Shell

end App
