import Router1.App.Shell
import Router1.Remote.Runs

/-!
# Which screens a setup shows

The screens of the two setup paths have numbers with gaps, and `back` goes to the number before. A shell
is on a screen of its own when its number is one the code names for the current path. Everything a shown
page can start leads from such a screen to such a screen, except for the back button of two pages, whose
numbers have no screen before them.
-/

namespace App

open Remote

/-- The completions of the shell's own requests, which arrive whatever page is shown by then. -/
def Event.isCompletion : Event → Bool
  | .splash | .restored _ | .initialScreen _ | .reconnectSaved _ | .reconnectChecked _ | .setupDone => true
  | _ => false

namespace Shell

/-- The numbers that `build`, `buildStep` and the flow of the current path name. -/
def Named (s : Shell) : Prop :=
  s.step ∈ [0, 1, 70, 100] ∨
    (s.path = some .router ∧ s.step ∈ [2, 5, 6, 60, 7, 8, 9, 10]) ∨
    (s.path = some .gadget ∧ s.step ∈ [2, 3, 4])

/-- The screen is named, the payment page is the one of its own number, and the developer settings are
not shown. -/
structure OwnScreen (s : Shell) : Prop where
  named : s.Named
  payment : s.page = .payment → s.step = 60
  settings : s.page ≠ .developerSettings

/-- An event the shown page starts, or a completion. -/
def Possible (s : Shell) (e : Event) : Prop := s.page.offers e = true ∨ e.isCompletion = true

instance (s : Shell) (e : Event) : Decidable (s.Possible e) :=
  inferInstanceAs (Decidable (_ ∨ _))

/-- Not the back button of the ready page or of the payment page. -/
def StaysOnScreens (s : Shell) (e : Event) : Prop :=
  e = .back → s.page ≠ .routerReady ∧ s.page ≠ .payment

/-- Every callback can run in every state. -/
def step? (s : Shell) (e : Event) : Option Shell := some (s.handle e)

variable {s t : Shell} {e : Event}

/-! ### Named screens and their pages -/

/-- The pages of the named screens, with the path and the number each of them stands for. -/
theorem page_of_named (hs : s.Named) :
    s.page ∈ [.splash, .dashboard, .renewal] ∨
    (s.path = some .router ∧
      (s.page, s.step) ∈ [(Page.routerConnect, (2 : Int)), (.routerReady, 5), (.phoneLookup, 6),
        (.payment, 60), (.component, 7), (.configLoad, 8), (.routing, 9), (.progress, 10)]) ∨
    (s.path = some .gadget ∧
      (s.page, s.step) ∈ [(Page.platform, (2 : Int)), (.gadgetPayment, 3), (.gadgetInstruction, 4)]) := by
  rcases hs with hstep | ⟨hpath, hstep⟩ | ⟨hpath, hstep⟩
  · left
    simp only [List.mem_cons, List.not_mem_nil, or_false] at hstep
    rcases hstep with hstep | hstep | hstep | hstep <;> simp [page, hstep]
  · refine .inr (.inl ⟨hpath, ?_⟩)
    simp only [List.mem_cons, List.not_mem_nil, or_false] at hstep
    rcases hstep with hstep | hstep | hstep | hstep | hstep | hstep | hstep | hstep <;>
      simp [page, routerPage, hpath, hstep]
  · refine .inr (.inr ⟨hpath, ?_⟩)
    simp only [List.mem_cons, List.not_mem_nil, or_false] at hstep
    rcases hstep with hstep | hstep | hstep <;> simp [page, gadgetPage, hpath, hstep]

theorem ownScreen_of_named (hs : s.Named) : s.OwnScreen := by
  refine ⟨hs, fun hpayment => ?_, fun hsettings => ?_⟩
  · rcases page_of_named hs with hpage | ⟨-, hpage⟩ | ⟨-, hpage⟩ <;> simp_all
  · rcases page_of_named hs with hpage | ⟨-, hpage⟩ | ⟨-, hpage⟩ <;> simp_all

theorem named_of_router (hpath : t.path = some .router)
    (hstep : t.step ∈ [2, 5, 6, 60, 7, 8, 9, 10]) : t.Named := .inr (.inl ⟨hpath, hstep⟩)

theorem named_of_gadget (hpath : t.path = some .gadget) (hstep : t.step ∈ [2, 3, 4]) : t.Named :=
  .inr (.inr ⟨hpath, hstep⟩)

theorem Named.congr (hs : s.Named) (hstep : t.step = s.step) (hpath : t.path = s.path) : t.Named := by
  rw [Named, hstep, hpath]
  exact hs

end Shell

def Page.path? : Page → Option FirstRunPath
  | .routerConnect | .routerReady | .phoneLookup | .payment | .component | .configLoad | .routing
  | .progress => some .router
  | .platform | .gadgetPayment | .gadgetInstruction => some .gadget
  | _ => none

/-- The path whose pages alone start an event. -/
def Event.path? : Event → Option FirstRunPath
  | .access _ | .readyForPayment | .existingConfig _ _ _ | .needsPayment _ _ | .paymentExisting _ _ _ _
  | .paid _ _ _ _ _ | .installStarted | .componentReady | .config _ _ | .routingChanged _
  | .routeProfileChanged _ | .routingChosen => some .router
  | .platformSelected _ | .platformNext | .gadgetPaid _ _ _ _ => some .gadget
  | _ => none

theorem path_of_offers {page : Page} {e : Event} {path : FirstRunPath} (h : page.offers e = true)
    (he : e.path? = some path) : page.path? = some path := by
  cases e <;> cases he <;> cases page <;> first | rfl | cases h

namespace Shell

variable {s t : Shell} {e : Event}

theorem path_of_page (hs : s.Named) {path : FirstRunPath} (h : s.page.path? = some path) :
    s.path = some path := by
  rcases page_of_named hs with hpage | ⟨hpath, hpage⟩ | ⟨hpath, hpage⟩
  · simp only [List.mem_cons, List.not_mem_nil, or_false] at hpage
    rcases hpage with hpage | hpage | hpage <;> rw [hpage] at h <;> cases h
  · rw [hpath, ← h]
    simp only [List.mem_cons, List.not_mem_nil, or_false, Prod.mk.injEq] at hpage
    rcases hpage with ⟨hpage, -⟩ | ⟨hpage, -⟩ | ⟨hpage, -⟩ | ⟨hpage, -⟩ | ⟨hpage, -⟩ | ⟨hpage, -⟩ |
      ⟨hpage, -⟩ | ⟨hpage, -⟩ <;> rw [hpage] <;> rfl
  · rw [hpath, ← h]
    simp only [List.mem_cons, List.not_mem_nil, or_false, Prod.mk.injEq] at hpage
    rcases hpage with ⟨hpage, -⟩ | ⟨hpage, -⟩ | ⟨hpage, -⟩ <;> rw [hpage] <;> rfl

/-! ### One event -/

/-- The back button of every other page of a path leads to a named screen. -/
theorem named_back_iff (hs : s.Named) (hoffers : s.page.offers .back = true) :
    s.back.Named ↔ s.page ≠ .routerReady ∧ s.page ≠ .payment := by
  rcases page_of_named hs with hpage | ⟨hpath, hpage⟩ | ⟨hpath, hpage⟩
  · simp only [List.mem_cons, List.not_mem_nil, or_false] at hpage
    rcases hpage with hpage | hpage | hpage <;> rw [hpage] at hoffers <;> cases hoffers
  · simp only [List.mem_cons, List.not_mem_nil, or_false, Prod.mk.injEq] at hpage
    rcases hpage with ⟨hpage, hstep⟩ | ⟨hpage, hstep⟩ | ⟨hpage, hstep⟩ | ⟨hpage, hstep⟩ |
      ⟨hpage, hstep⟩ | ⟨hpage, hstep⟩ | ⟨hpage, hstep⟩ | ⟨hpage, hstep⟩ <;>
      simp [hpage, back, Named, hstep, hpath]
  · simp only [List.mem_cons, List.not_mem_nil, or_false, Prod.mk.injEq] at hpage
    rcases hpage with ⟨hpage, hstep⟩ | ⟨hpage, hstep⟩ | ⟨hpage, hstep⟩ <;>
      simp [hpage, back, Named, hstep, hpath]

/-- A completion keeps the shell where it is, or opens a named screen. -/
theorem named_completion (hs : s.Named) (he : e.isCompletion = true) : (s.handle e).Named := by
  cases e with
  | splash =>
      by_cases hstep : s.step = 0
      · refine .inl ?_
        simp [handle, next, hstep]
      · exact hs.congr (by simp [handle, hstep]) (by simp [handle, hstep])
  | restored access =>
      cases access with
      | none => exact hs
      | some value => exact hs.congr rfl rfl
  | initialScreen prefs =>
      rw [handle, loadInitialScreen]
      split
      · exact .inl (by simp)
      · exact hs
  | reconnectSaved value => exact hs.congr rfl rfl
  | reconnectChecked works =>
      rw [handle, finishRouterReconnect]
      split
      · exact named_of_router rfl (by simp)
      · split
        · exact .inl (by simp [openHome, goTo])
        · exact named_of_router rfl (by simp)
  | setupDone => exact .inl (by simp [handle, openHome, goTo])
  | _ => cases he

theorem named_router_event (hs : s.Named) (hpath : s.path = some .router)
    (he : e.path? = some .router) : (s.handle e).Named := by
  cases e with
  | access value =>
      rw [handle]
      split
      · exact hs
      · exact named_of_router hpath (by simp [goTo])
  | readyForPayment => exact named_of_router hpath (by simp [handle, goTo])
  | existingConfig name phone configText =>
      refine named_of_router hpath ?_
      rw [handle, goTo]
      dsimp only
      split <;> simp
  | needsPayment name phone => exact named_of_router hpath (by simp [handle, goTo])
  | paymentExisting name phone configText trialMode =>
      exact named_of_router hpath (by simp [handle, goTo])
  | paid name phone orderId isTestPurchase trialMode =>
      exact named_of_router hpath (by simp [handle, goTo])
  | installStarted => exact hs.congr rfl rfl
  | componentReady =>
      refine named_of_router hpath ?_
      rw [handle, goTo]
      dsimp only
      split <;> simp
  | config order text => exact named_of_router hpath (by simp [handle, goTo])
  | routingChanged value => exact hs.congr rfl rfl
  | routeProfileChanged kind => exact hs.congr rfl rfl
  | routingChosen => exact named_of_router hpath (by simp [handle, goTo])
  | _ => cases he

theorem named_gadget_event (hs : s.Named) (hpath : s.path = some .gadget)
    (hoffers : s.page.offers e = true) (he : e.path? = some .gadget) : (s.handle e).Named := by
  cases e with
  | platformSelected platform => exact hs.congr rfl rfl
  | platformNext =>
      have hstep : s.step = 2 := by
        rcases page_of_named hs with hpage | ⟨hother, -⟩ | ⟨-, hpage⟩
        · simp only [List.mem_cons, List.not_mem_nil, or_false] at hpage
          rcases hpage with hpage | hpage | hpage <;> rw [hpage] at hoffers <;> cases hoffers
        · rw [hpath] at hother
          cases hother
        · simp only [List.mem_cons, List.not_mem_nil, or_false, Prod.mk.injEq] at hpage
          rcases hpage with ⟨-, hstep⟩ | ⟨hpage, -⟩ | ⟨hpage, -⟩
          · exact hstep
          all_goals rw [hpage] at hoffers; cases hoffers
      exact named_of_gadget hpath (by simp [handle, next, hstep])
  | gadgetPaid name phone configText filename => exact named_of_gadget hpath (by simp [handle, goTo])
  | _ => cases he

theorem named_other_event (hs : s.Named) (hoffers : s.page.offers e = true) (he : e.path? = none)
    (hback : e ≠ .back) (hcompletion : e.isCompletion = false) : (s.handle e).Named := by
  cases e with
  | setupRouter => exact named_of_router rfl (by simp [handle, startRouterSetupFromHome])
  | connectRouter => exact named_of_router rfl (by simp [handle, reconnectRouterFromHome])
  | routerModeChanged kind => exact hs.congr rfl rfl
  | setupAndroid platform => exact named_of_gadget rfl (by simp [handle, startGadgetSetupFromHome])
  | subscription =>
      rw [handle, openPaymentFromHome]
      split
      · refine named_of_router rfl ?_
        dsimp only
        split <;> simp
      · exact .inl (by simp)
  | home => exact .inl (by simp [handle, openHome, goTo])
  | chooseRouter =>
      have hchoice : s.page = .choice := by
        generalize s.page = page at hoffers
        cases page <;> first | rfl | cases hoffers
      have hpage := page_of_named hs
      simp [hchoice] at hpage
  | chooseGadget platform => exact named_of_gadget rfl (by simp [handle, goTo])
  | runModeChanged mode => exact hs.congr rfl rfl
  | developerBack => exact .inl (by simp [handle, goTo])
  | back => exact absurd rfl hback
  | splash | restored _ | initialScreen _ | reconnectSaved _ | reconnectChecked _ | setupDone =>
      cases hcompletion
  | _ => cases he

/-- **One step.** From a named screen a possible event leads to a named screen if and only if it is not
the back button of one of the two pages. -/
theorem named_handle_iff (hs : s.Named) (he : s.Possible e) :
    (s.handle e).Named ↔ s.StaysOnScreens e := by
  rcases he with hoffers | hcompletion
  · by_cases hback : e = .back
    · rw [hback] at hoffers ⊢
      exact (named_back_iff hs hoffers).trans (by simp [StaysOnScreens])
    · refine iff_of_true ?_ fun h => absurd h hback
      by_cases hcompletion : e.isCompletion = true
      · exact named_completion hs hcompletion
      · cases hpath : e.path? with
        | none => exact named_other_event hs hoffers hpath hback (by simpa using hcompletion)
        | some path =>
            have hshell := path_of_page hs (path_of_offers hoffers hpath)
            cases path with
            | router => exact named_router_event hs hshell hpath
            | gadget => exact named_gadget_event hs hshell hoffers hpath
  · refine iff_of_true (named_completion hs hcompletion) ?_
    rintro rfl
    cases hcompletion

/-- **The whole run.** A run of possible events stays on the screens the code names if and only if the
back button of the ready page and of the payment page is never used in it. -/
theorem ownScreens_iff (platform : String) (es : List Event)
    (hpossible : AllAllowed step? Possible (initial platform) es) :
    Throughout step? OwnScreen (initial platform) es ↔
      AllAllowed step? StaysOnScreens (initial platform) es := by
  refine throughout_iff (I := Named) (fun s => ownScreen_of_named) ?_ ?_ (.inl (by simp [initial])) es
    hpossible
  · intro s e t hs he hstays hstep
    cases hstep
    exact (named_handle_iff hs he).mpr hstays
  · intro s e hs he hkeeps
    exact (named_handle_iff hs he).mp (hkeeps _ rfl).named

/-- A user who has no config yet walks to the payment page and goes back thirty times. -/
def thirtyTimesBack : List Event :=
  [.splash, .setupRouter, .access ⟨⟨"Keenetic Giga", "192.168.1.1"⟩, false⟩, .readyForPayment,
    .needsPayment "A" "79990000001"] ++ List.replicate 30 .back

/-- The developer settings are reached from the payment page by its back button. -/
theorem developerSettings_shown :
    ¬∀ platform es, AllAllowed step? Possible (initial platform) es →
      Throughout step? OwnScreen (initial platform) es := by
  intro hclaim
  have hown := hclaim "android" thirtyTimesBack (by decide)
  have hlast : (thirtyTimesBack.foldl handle (initial "android")).OwnScreen := hown.last rfl
  exact hlast.settings rfl

theorem setup_stays_on_screens :
    Throughout step? OwnScreen (initial "android") [.splash, .setupRouter, .back] :=
  (ownScreens_iff "android" _ (by decide)).mpr (by simp [AllAllowed, StaysOnScreens, step?]; decide)

end Shell

end App
