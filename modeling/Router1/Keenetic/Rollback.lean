import Router1.Keenetic.Exchanges

/-!
# Rolling an installation back

When an installation fails after it has started, the plan made at its start brings every competing
tunnel up and removes, or takes down, the selected one. The plan knows the names of the competing
tunnels and not the state they were in, and a tunnel that the installation has deleted does not come
back. The rollback therefore restores the interfaces exactly when all competing tunnels were up and
the router has carried out no deletion of an interface that was there.
-/

namespace Keenetic

open Dart Api Remote
open Remote.Program (Calls Throws)

variable {net : Net} {s t m : Session} {plan : KeeneticRollbackPlan}

/-! ### The requests of the two halves -/

/-- A request of the try block. -/
def KeeneticRollbackPlan.Establishes (plan : KeeneticRollbackPlan) : Request → Prop
  | .cli _ | .save | .showInterface _ => True
  | .interfaceUp name => name = plan.selectedInterface
  | .interfaceDown name | .deleteInterface name => name ∈ plan.competingInterfaces
  | .showInterfaces | .showIpRoute | .importConfig _ _ => False

/-- A request of the rollback. -/
def KeeneticRollbackPlan.RollsBack (plan : KeeneticRollbackPlan) : Request → Prop
  | .save => True
  | .interfaceUp name => name ∈ plan.competingInterfaces
  | .interfaceDown name =>
      name = plan.selectedInterface ∧ plan.createdByImport = false ∧ plan.selectedWasUp = false
  | .deleteInterface name => name = plan.selectedInterface ∧ plan.createdByImport = true
  | _ => False

theorem asks_establish (plan : KeeneticRollbackPlan) : Asks plan.Establishes (establish plan) := by
  refine Calls.bind (calls_runCliCommands trivial false) fun _ => ?_
  refine Calls.bind (calls_bringUp rfl) fun _ => ?_
  refine Calls.bind (Calls.forM fun name hname => calls_takeDown hname) fun _ => ?_
  refine Calls.bind (calls_waitForHandshake trivial) fun status => ?_
  split_ifs
  · refine Calls.bind (Calls.forM fun name hname => ?_) fun _ => calls_saveConfiguration trivial
    exact Calls.tryCatch (calls_deleteRci hname) fun _ => trivial
  · trivial

theorem asks_rollbackSetup (plan : KeeneticRollbackPlan) :
    Asks plan.RollsBack (rollbackSetup plan) := by
  refine Calls.bind (Calls.forM fun name hname => calls_bringUp hname) fun _ => ?_
  have hsave : Asks plan.RollsBack saveConfiguration := calls_saveConfiguration trivial
  split_ifs with hcreated hup
  · exact Calls.bind (calls_deleteRci ⟨rfl, hcreated⟩) fun _ => hsave
  · exact hsave
  · refine Calls.bind (calls_takeDown ⟨rfl, ?_, ?_⟩) fun _ => hsave
    · simpa using hcreated
    · simpa using hup

/-! ### What a rollback that returned has done -/

theorem run_forM_ok {body : String → Rci PUnit} {P : String → Exchange → Prop}
    (hbody : ∀ name s t, (body name).run net.handle s = (.ok (), t) → ∃ e ∈ s.since t, P name e)
    {names : List String} (h : (names.forM body).run net.handle s = (.ok (), t)) :
    ∀ name ∈ names, ∃ e ∈ s.since t, P name e := by
  induction names generalizing s with
  | nil => simp
  | cons first rest ih =>
      obtain ⟨_, a, hfirst, hrest⟩ := Program.run_bind_ok h
      intro name hname
      rw [since_trans (prefix_of_run hfirst) (prefix_of_run hrest)]
      rcases List.mem_cons.mp hname with rfl | hname
      · obtain ⟨e, he, hP⟩ := hbody _ _ _ hfirst
        exact ⟨e, List.mem_append_left _ he, hP⟩
      · obtain ⟨e, he, hP⟩ := ih hrest name hname
        exact ⟨e, List.mem_append_right _ he, hP⟩

theorem run_deleteRci_ok {name : String}
    (h : (deleteRci name).run net.handle s = (.ok (), t)) :
    ∃ e ∈ s.since t, e.deleted? = some name := by
  unfold deleteRci at h
  rw [Program.run_bind_of_ok (run_exchange _ s)] at h
  rcases hr : (net.answers s.exchanges.length).reply with cause | response
  · simp [hr] at h
  · rw [hr] at h
    dsimp only at h
    split_ifs at h with hsuccess
    · obtain ⟨-, rfl⟩ := Prod.mk.inj h
      refine ⟨⟨.deleteInterface name, net.answers s.exchanges.length⟩, ?_, ?_⟩
      · rw [since_of_append rfl]
        exact List.mem_singleton_self _
      · simp [Exchange.deleted?, Exchange.done, Exchange.succeeded, hr, hsuccess]
    · simp at h

theorem run_rollbackSetup_ok (h : (rollbackSetup plan).run net.handle s = (.ok (), t)) :
    (∀ name ∈ plan.competingInterfaces, ∃ e ∈ s.since t, e.switched? = some (name, true)) ∧
      (plan.createdByImport = true →
        ∃ e ∈ s.since t, e.deleted? = some plan.selectedInterface) ∧
      (plan.createdByImport = false → plan.selectedWasUp = false →
        ∃ e ∈ s.since t, e.switched? = some (plan.selectedInterface, false)) := by
  obtain ⟨_, a, hups, h⟩ := Program.run_bind_ok h
  have hcompeting := run_forM_ok (fun name s t hup => run_bringUp_ok hup) hups
  have hafter : s.since t = s.since a ++ a.since t :=
    since_trans (prefix_of_run hups) (prefix_of_run h)
  refine ⟨fun name hname => ?_, fun hcreated => ?_, fun hcreated hwasUp => ?_⟩
  · obtain ⟨e, he, hswitched⟩ := hcompeting name hname
    exact ⟨e, by simp [hafter, he], hswitched⟩
  · rw [if_pos hcreated] at h
    obtain ⟨_, b, hdelete, hsave⟩ := Program.run_bind_ok h
    obtain ⟨e, he, hdeleted⟩ := run_deleteRci_ok hdelete
    refine ⟨e, ?_, hdeleted⟩
    rw [hafter, since_trans (prefix_of_run hdelete) (prefix_of_run hsave)]
    simp [he]
  · rw [if_neg (by simp [hcreated]), if_neg (by simp [hwasUp])] at h
    obtain ⟨_, b, hdown, hsave⟩ := Program.run_bind_ok h
    obtain ⟨e, he, hswitched⟩ := run_takeDown_ok hdown
    refine ⟨e, ?_, hswitched⟩
    rw [hafter, since_trans (prefix_of_run hdown) (prefix_of_run hsave)]
    simp [he]

/-! ### The final exception comes from nowhere else -/

/-- Any failure but the one `createAwgConnection` ends a rollback with. -/
def Failure.Inner (error : Failure) : Prop := ∀ message, error ≠ .notApplied message

theorem inner_failure (cause : Fault) : cause.failure.Inner := by
  intro message
  cases cause <;> simp [Fault.failure]

theorem throws_postRci (request : Request) : (postRci request).Throws Failure.Inner := by
  intro reply
  cases reply with
  | error cause => exact inner_failure cause
  | ok response =>
      show Throws _ (if _ then _ else if _ then _ else _)
      split_ifs
      · trivial
      · intro message
        simp
      · intro message
        simp

theorem throws_deleteRci (name : String) : (deleteRci name).Throws Failure.Inner := by
  intro reply
  cases reply with
  | error cause =>
      intro message
      simp
  | ok response =>
      show Throws _ (if _ then _ else _)
      split_ifs
      · trivial
      · intro message
        simp

theorem throws_retried_postRci (request : Request) :
    (do let _ ← retryKeenetic (postRci request) : Rci Unit).Throws Failure.Inner :=
  (throws_retryFrom (throws_postRci request) 2).bind fun _ => trivial

theorem throws_saveConfiguration : saveConfiguration.Throws Failure.Inner := by
  refine (throws_retried_postRci .save).tryCatch fun error herror => ?_
  split_ifs
  · trivial
  · exact herror

theorem throws_rollbackSetup (plan : KeeneticRollbackPlan) :
    (rollbackSetup plan).Throws Failure.Inner := by
  refine (Throws.forM fun name _ => throws_retried_postRci (.interfaceUp name)).bind fun _ => ?_
  split_ifs
  · exact (throws_deleteRci _).bind fun _ => throws_saveConfiguration
  · exact throws_saveConfiguration
  · exact (throws_retried_postRci (.interfaceDown _)).bind fun _ => throws_saveConfiguration

theorem throws_jsonDecode (body : Body) : (jsonDecode body).Throws Failure.Inner := by
  cases body with
  | json value => trivial
  | blank | malformed =>
      intro message
      simp

theorem throws_importWireGuardConfig (configText : String) (config : ParsedAwgConfig) :
    (importWireGuardConfig configText config).Throws Failure.Inner := by
  unfold importWireGuardConfig
  refine Throws.bind (fun _ => trivial) fun reply => ?_
  split
  · intro message
    simp
  · intro message
    simp
  · intro message
    simp
  · next _ response =>
      split_ifs
      · refine Throws.bind (throws_jsonDecode response.body) fun value => ?_
        split
        · split
          · trivial
          · intro message
            simp
          · intro message
            simp
        · intro message
          simp
      · intro message
        simp

/-! ### Taking a failed installation apart -/

theorem run_importWireGuardConfig_ok {configText selected : String} {config : ParsedAwgConfig}
    (h : (importWireGuardConfig configText config).run net.handle s = (.ok selected, t)) :
    ∃ e, s.since t = [e] ∧ e.request = .importConfig configText (importFilename config) ∧
      e.created? = some selected := by
  unfold importWireGuardConfig at h
  rw [Program.run_bind_of_ok (run_exchange _ s)] at h
  rcases hr : (net.answers s.exchanges.length).reply with cause | ⟨status, body⟩
  · rw [hr] at h
    cases cause <;> simp at h
  · rw [hr] at h
    dsimp only at h
    split_ifs at h with hsuccess
    · obtain ⟨value, m, hdecode, h⟩ := Program.run_bind_ok h
      rcases body with _ | _ | decoded
      · simp [jsonDecode] at hdecode
      · simp [jsonDecode] at hdecode
      · obtain ⟨hvalue, rfl⟩ := Prod.mk.inj hdecode
        obtain rfl : decoded = value := Except.ok.inj hvalue
        cases decoded with
        | null | bool | int | double | str | arr => simp at h
        | obj fields =>
            dsimp only at h
            split at h
            · next created hcreated =>
                obtain ⟨hname, rfl⟩ := Prod.mk.inj h
                obtain rfl := Except.ok.inj hname
                refine ⟨_, since_of_append rfl, rfl, ?_⟩
                have hsuccess' : (Response.mk status .blank).isSuccess = true := hsuccess
                simp [Exchange.created?, hr, hsuccess', hcreated]
            · simp at h
            · simp at h
    · simp at h

/-- An installation that was rolled back: the sessions at which it had chosen its interface, failed,
and finished, with what is known of the exchanges in between. -/
structure Session.RolledBack (plan : KeeneticRollbackPlan) (s b m t : Session) : Prop where
  since : s.since t = s.since b ++ (b.since m ++ m.since t)
  chosen : ∀ e ∈ s.since b, e.request.switches = none ∧ e.deleted? = none
  created : ∀ e ∈ s.since b, ∀ name, e.created? = some name →
    name = plan.selectedInterface ∧ plan.createdByImport = true
  imported : plan.createdByImport = true →
    ∃ e ∈ s.since b, e.created? = some plan.selectedInterface
  established : ∀ e ∈ b.since m, plan.Establishes e.request
  rolled : ∀ e ∈ m.since t, plan.RollsBack e.request
  broughtUp : ∀ name ∈ plan.competingInterfaces,
    ∃ e ∈ m.since t, e.switched? = some (name, true)
  deleted : plan.createdByImport = true → ∃ e ∈ m.since t, e.deleted? = some plan.selectedInterface
  tookDown : plan.createdByImport = false → plan.selectedWasUp = false →
    ∃ e ∈ m.since t, e.switched? = some (plan.selectedInterface, false)

theorem rolledBack_of_run {b : Session} {message : String} {host : String}
    (hbefore : s.exchanges <+: b.exchanges)
    (hchosen : ∀ e ∈ s.since b, e.request.switches = none ∧ e.deleted? = none)
    (hcreated : ∀ e ∈ s.since b, ∀ name, e.created? = some name →
      name = plan.selectedInterface ∧ plan.createdByImport = true)
    (himported : plan.createdByImport = true →
      ∃ e ∈ s.since b, e.created? = some plan.selectedInterface)
    (h : (establishOrRollBack plan).run net.handle
      { b with selectedInterfaceByHost := Function.update b.selectedInterfaceByHost host (some plan.selectedInterface) }
        = (.error (.notApplied message), t)) :
    ∃ m, s.RolledBack plan b m t := by
  obtain ⟨cause, m, hestablish, hrest⟩ := Program.run_tryCatch_error h
  have hasked := (asks_establish plan).run hestablish
  have hbm : b.exchanges <+: m.exchanges := hasked.prefixed
  rcases Program.run_bind_error hrest with hfailed | ⟨_, t', hrollback, hthrow⟩
  · exact absurd rfl ((throws_rollbackSetup plan).run_error hfailed message)
  · obtain ⟨-, rfl⟩ := Prod.mk.inj hthrow
    obtain ⟨hup, hdelete, hdown⟩ := run_rollbackSetup_ok hrollback
    have hmt := prefix_of_run hrollback
    refine ⟨m, ?_, hchosen, hcreated, himported, hasked.requests,
      ((asks_rollbackSetup plan).run hrollback).requests, hup, hdelete, hdown⟩
    rw [since_trans hbefore (hbm.trans hmt), since_trans hbm hmt]

theorem created_of_request {e : Exchange} {name : String} (h : e.created? = some name) :
    ∃ text filename, e.request = .importConfig text filename := by
  unfold Exchange.created? at h
  split at h
  · next text filename _ _ hrequest _ => exact ⟨text, filename, hrequest⟩
  · cases h

/-- A read of the table neither switches, nor deletes, nor makes anything. -/
theorem inert_of_show {e : Exchange} (h : e.request = .showInterfaces) :
    (e.request.switches = none ∧ e.deleted? = none) ∧ ∀ name, e.created? ≠ some name := by
  refine ⟨⟨by rw [h]; rfl, by simp [Exchange.deleted?, h]⟩, fun name hname => ?_⟩
  obtain ⟨text, filename, hrequest⟩ := created_of_request hname
  rw [h] at hrequest
  cases hrequest

variable {access : KeeneticAccess} {configText : String} {config : ParsedAwgConfig}
  {entries : List (String × Json)} {a : Session}

/-- Choosing the interface makes nothing but the one that is then selected. -/
theorem run_foundOrImported_ok {found : Option String} {selected : String} {b : Session}
    (h : (foundOrImported found configText config).run net.handle a = (.ok selected, b)) :
    (∀ e ∈ a.since b, e.request.switches = none ∧ e.deleted? = none) ∧
      (∀ e ∈ a.since b, ∀ name, e.created? = some name → name = selected ∧ found.isNone = true) ∧
      (found.isNone = true → ∃ e ∈ a.since b, e.created? = some selected) ∧
      ∀ name, found = some name → name = selected := by
  cases found with
  | some name =>
      obtain ⟨hname, rfl⟩ := Prod.mk.inj h
      obtain rfl : name = selected := Except.ok.inj hname
      simp [since_self]
  | none =>
      obtain ⟨e, hsince, hrequest, hcreated⟩ := run_importWireGuardConfig_ok h
      have hswitches : e.request.switches = none := by rw [hrequest]; rfl
      have hdeleted : e.deleted? = none := by simp [Exchange.deleted?, hrequest]
      simp [hsince, hswitches, hdeleted, hcreated, eq_comm]

theorem exists_rolledBack {message : String} (hparse : parseConfig configText = .ok config)
    (hread : (getJson .showInterfaces).run net.handle s = (.ok (.obj entries), a))
    (hrun : (createAwgConnection access configText).run net.handle s
      = (.error (.notApplied message), t)) :
    ∃ selected b m,
      (∀ name, findMatchingWireGuardInterface entries config = some name → name = selected) ∧
        s.RolledBack (rollbackPlan entries (findMatchingWireGuardInterface entries config) selected)
          b m t := by
  unfold createAwgConnection at hrun
  split_ifs at hrun with htest
  · simp at hrun
  have hconfig : (Program.ofExcept (parseConfig configText) : Rci ParsedAwgConfig).run net.handle s
      = (.ok config, s) := by
    rw [Program.run_ofExcept, hparse]
  rw [Program.run_bind_of_ok hconfig, Program.run_bind_of_ok hread] at hrun
  rcases Program.run_bind_error hrun with hfailed | ⟨selected, b, hchoose, hrest⟩
  · cases hfound : findMatchingWireGuardInterface entries config with
    | some name => simp [hfound, foundOrImported] at hfailed
    | none =>
        rw [hfound] at hfailed
        exact absurd rfl ((throws_importWireGuardConfig configText config).run_error hfailed message)
  · obtain ⟨hinert, hcreated, himported, hfound⟩ := run_foundOrImported_ok hchoose
    have hasked := Asks.run (R := (· = .showInterfaces)) (calls_getJson rfl) hread
    have hshow := fun e he => inert_of_show (hasked.requests e he)
    have hab := prefix_of_run hchoose
    have hsb : s.since b = s.since a ++ a.since b := since_trans hasked.prefixed hab
    have hmem : ∀ e ∈ s.since b, e ∈ s.since a ∨ e ∈ a.since b := by
      intro e he
      rwa [hsb, List.mem_append] at he
    refine ⟨selected, b, ?_⟩
    have hquiet : ∀ e ∈ s.since b, e.request.switches = none ∧ e.deleted? = none :=
      fun e he => (hmem e he).elim (fun he => (hshow e he).1) (hinert e)
    have hmade : ∀ e ∈ s.since b, ∀ name, e.created? = some name →
        name = selected ∧ (findMatchingWireGuardInterface entries config).isNone = true :=
      fun e he name hname => (hmem e he).elim (fun he => absurd hname ((hshow e he).2 name))
        fun he => hcreated e he name hname
    have himport : (findMatchingWireGuardInterface entries config).isNone = true →
        ∃ e ∈ s.since b, e.created? = some selected := by
      intro hnone
      obtain ⟨e, he, hname⟩ := himported hnone
      exact ⟨e, by simp [hsb, he], hname⟩
    obtain ⟨m, hm⟩ := rolledBack_of_run (hasked.prefixed.trans hab) hquiet hmade himport hrest
    exact ⟨m, hfound, hm⟩

/-! ### The interfaces after a rollback -/

namespace Session.RolledBack

variable {b : Session} {ρ : Router}

theorem up_competing (h : s.RolledBack plan b m t) {name : String}
    (hselected : plan.selectedInterface ∉ plan.competingInterfaces)
    (hname : name ∈ plan.competingInterfaces) : (ρ.after (s.since t)).up name = true := by
  rw [h.since, Router.after_append, Router.after_append]
  apply Router.after_up_of_switched (h.broughtUp name hname)
  intro e he hswitch
  have hrolled := h.rolled e he
  cases hrequest : e.request <;> simp only [hrequest, Request.switches, reduceCtorEq] at hswitch
  case interfaceDown other =>
    rw [hrequest] at hrolled
    simp only [Option.some.injEq, Prod.mk.injEq] at hswitch
    rw [← hrolled.1, hswitch.1] at hselected
    exact hselected hname
  case interfaceUp other => simp at hswitch

theorem up_selected (h : s.RolledBack plan b m t)
    (hselected : plan.selectedInterface ∉ plan.competingInterfaces)
    (hfound : plan.createdByImport = false)
    (hup : ρ.up plan.selectedInterface = plan.selectedWasUp) :
    (ρ.after (s.since t)).up plan.selectedInterface = ρ.up plan.selectedInterface := by
  cases hwasUp : plan.selectedWasUp with
  | true =>
      -- it was up, and nothing takes it down
      rw [hwasUp] at hup
      rw [hup, Router.after_up_of_kept hup]
      intro e he hswitch
      rw [h.since] at he
      simp only [List.mem_append] at he
      rcases he with he | he | he
      · rw [(h.chosen e he).1] at hswitch
        cases hswitch
      · have hrequest := h.established e he
        cases hr : e.request <;> rw [hr] at hrequest hswitch <;> cases hswitch
        exact hselected hrequest
      · have hrequest := h.rolled e he
        cases hr : e.request <;> rw [hr] at hrequest hswitch <;> cases hswitch
        exact absurd (hwasUp.symm.trans hrequest.2.2) (by decide)
  | false =>
      rw [hup, hwasUp, h.since, Router.after_append, Router.after_append]
      apply Router.after_up_of_switched (h.tookDown hfound hwasUp)
      intro e he hswitch
      have hrequest := h.rolled e he
      cases hr : e.request <;> rw [hr] at hrequest hswitch <;> cases hswitch
      exact hselected hrequest

theorem up_other (h : s.RolledBack plan b m t) {name : String}
    (hselected : name ≠ plan.selectedInterface) (hcompeting : name ∉ plan.competingInterfaces) :
    (ρ.after (s.since t)).up name = ρ.up name := by
  apply Router.after_up_of_untouched
  intro e he state hswitch
  rw [h.since] at he
  simp only [List.mem_append] at he
  rcases he with he | he | he
  · rw [(h.chosen e he).1] at hswitch
    cases hswitch
  · have hrequest := h.established e he
    cases hr : e.request <;> rw [hr] at hrequest hswitch <;> cases hswitch
    · exact hselected hrequest
    · exact hcompeting hrequest
  · have hrequest := h.rolled e he
    cases hr : e.request <;> rw [hr] at hrequest hswitch <;> cases hswitch
    · exact hcompeting hrequest
    · exact hselected hrequest.1

theorem created_of_since (h : s.RolledBack plan b m t) {e : Exchange} (he : e ∈ s.since t)
    {name : String} (hcreated : e.created? = some name) :
    e ∈ s.since b ∧ name = plan.selectedInterface ∧ plan.createdByImport = true := by
  obtain ⟨text, filename, hrequest⟩ := created_of_request hcreated
  rw [h.since] at he
  simp only [List.mem_append] at he
  rcases he with he | he | he
  · exact ⟨he, h.created e he name hcreated⟩
  · have hestablished := h.established e he
    rw [hrequest] at hestablished
    exact hestablished.elim
  · have hrolled := h.rolled e he
    rw [hrequest] at hrolled
    exact hrolled.elim

theorem present_other (h : s.RolledBack plan b m t) {name : String}
    (hname : name ≠ plan.selectedInterface ∨ plan.createdByImport = false) :
    (ρ.after (s.since t)).present name = true ↔
      ρ.present name = true ∧ ∀ e ∈ s.since t, e.deleted? ≠ some name := by
  apply Router.after_present
  intro e he hcreated
  obtain ⟨-, hselected, himport⟩ := h.created_of_since he hcreated
  rcases hname with hname | hfound
  · exact hname hselected
  · rw [hfound] at himport
    cases himport

theorem present_imported (h : s.RolledBack plan b m t) (himport : plan.createdByImport = true) :
    (ρ.after (s.since t)).present plan.selectedInterface = false := by
  obtain ⟨e, he, hdeleted⟩ := h.deleted himport
  rw [h.since, Router.after_append, Router.after_append, ← Bool.not_eq_true]
  rw [Router.after_present]
  · exact fun hkept => hkept.2 e he hdeleted
  · intro e he hcreated
    obtain ⟨text, filename, hrequest⟩ := created_of_request hcreated
    have hrolled := h.rolled e he
    rw [hrequest] at hrolled
    exact hrolled

end Session.RolledBack

/-! ### When the interfaces are restored -/

/-- The table shows the interfaces of the router and their states. -/
structure Router.ShownBy (ρ : Router) (entries : List (String × Json)) : Prop where
  present : ∀ name, ρ.present name = (entries.lookup name).isSome
  up : ∀ name, ρ.present name = true → ρ.up name = showsUp entries name

/-- The interfaces there are and the state of each one are as they were before the call. -/
structure InterfacesRestored (ρ : Router) (s t : Session) : Prop where
  present : ∀ name, (ρ.after (s.since t)).present name = ρ.present name
  up : ∀ name, ρ.present name = true → (ρ.after (s.since t)).up name = ρ.up name

theorem Session.RolledBack.restored_iff {b : Session} {ρ : Router} (h : s.RolledBack plan b m t)
    (hselected : plan.selectedInterface ∉ plan.competingInterfaces)
    (hcompeting : ∀ name ∈ plan.competingInterfaces, ρ.present name = true)
    (hnew : plan.createdByImport = true → ρ.present plan.selectedInterface = false)
    (hwasUp : plan.createdByImport = false → ρ.up plan.selectedInterface = plan.selectedWasUp) :
    InterfacesRestored ρ s t ↔
      (∀ name ∈ plan.competingInterfaces, ρ.up name = true) ∧
        ∀ e ∈ s.since t, ∀ name, e.deleted? = some name → ρ.present name = false := by
  -- an interface that was there before is not the imported one
  have hold : ∀ name, ρ.present name = true →
      name ≠ plan.selectedInterface ∨ plan.createdByImport = false := by
    intro name hpresent
    by_cases himport : plan.createdByImport = true
    · left
      intro hname
      rw [hname, hnew himport] at hpresent
      cases hpresent
    · exact .inr (by simpa using himport)
  constructor
  · intro hrestored
    refine ⟨fun name hname => ?_, fun e he name hdeleted => ?_⟩
    · rw [← hrestored.up name (hcompeting name hname)]
      exact h.up_competing hselected hname
    · by_contra hpresent
      rw [Bool.not_eq_false] at hpresent
      have hstill := hrestored.present name
      rw [hpresent, h.present_other (hold name hpresent)] at hstill
      exact hstill.2 e he hdeleted
  · rintro ⟨hup, hdeleted⟩
    refine ⟨fun name => ?_, fun name hpresent => ?_⟩
    · by_cases himport : name = plan.selectedInterface ∧ plan.createdByImport = true
      · rw [himport.1, h.present_imported himport.2, hnew himport.2]
      · have hkept : name ≠ plan.selectedInterface ∨ plan.createdByImport = false := by
          by_cases hname : name = plan.selectedInterface
          · exact .inr (by simpa [hname] using himport)
          · exact .inl hname
        rw [Bool.eq_iff_iff, h.present_other hkept]
        refine ⟨fun hstill => hstill.1, fun hpresent => ⟨hpresent, fun e he hgone => ?_⟩⟩
        rw [hdeleted e he name hgone] at hpresent
        cases hpresent
    · by_cases hmem : name ∈ plan.competingInterfaces
      · rw [h.up_competing hselected hmem, hup name hmem]
      · rcases hold name hpresent with hname | hfound
        · exact h.up_other hname hmem
        · by_cases hname : name = plan.selectedInterface
          · rw [hname]
            exact h.up_selected hselected hfound (hwasUp hfound)
          · exact h.up_other hname hmem

theorem mem_competing_iff {ρ : Router} (hshown : ρ.ShownBy entries) {selected name : String} :
    name ∈ findCompetingWireGuardInterfaces entries selected ↔
      ρ.present name = true ∧ startsWith name "Wireguard" = true ∧
        hasEndpointIn (.obj entries) name router1Endpoints = true ∧ name ≠ selected := by
  rw [hshown.present, List.lookup_isSome_iff]
  simp only [findCompetingWireGuardInterfaces, List.mem_map, List.mem_filter, Bool.and_eq_true,
    bne_iff_ne, beq_iff_eq]
  constructor
  · rintro ⟨entry, ⟨hentry, ⟨hne, hprefix⟩, hendpoint⟩, rfl⟩
    exact ⟨⟨entry, hentry, rfl⟩, hprefix, hendpoint, hne⟩
  · rintro ⟨⟨entry, hentry, rfl⟩, hprefix, hendpoint, hne⟩
    exact ⟨entry, ⟨hentry, ⟨hne, hprefix⟩, hendpoint⟩, rfl⟩

theorem present_of_findMatching {ρ : Router} (hshown : ρ.ShownBy entries) {name : String}
    (h : findMatchingWireGuardInterface entries config = some name) : ρ.present name = true := by
  unfold findMatchingWireGuardInterface at h
  split at h
  · obtain ⟨entry, hentry, rfl⟩ := Option.map_eq_some_iff.mp h
    rw [hshown.present, List.lookup_isSome_iff]
    exact ⟨entry, List.mem_of_find?_eq_some hentry, by simp⟩
  · cases h

/-- A rollback restores the interfaces if and only if every other Router1 tunnel of the table was up
and the router has deleted no interface that was there before. -/
theorem interfacesRestored_iff {ρ : Router} {message : String}
    (hparse : parseConfig configText = .ok config)
    (hread : (getJson .showInterfaces).run net.handle s = (.ok (.obj entries), a))
    (hshown : ρ.ShownBy entries)
    (hrun : (createAwgConnection access configText).run net.handle s
      = (.error (.notApplied message), t))
    (hfresh : ∀ e ∈ s.since t, ∀ name, e.created? = some name → ρ.present name = false) :
    InterfacesRestored ρ s t ↔
      (∀ name, ρ.present name = true → startsWith name "Wireguard" = true →
        hasEndpointIn (.obj entries) name router1Endpoints = true →
        findMatchingWireGuardInterface entries config ≠ some name → ρ.up name = true) ∧
      (∀ e ∈ s.since t, ∀ name, e.deleted? = some name → ρ.present name = false) := by
  obtain ⟨selected, b, m, hfound, h⟩ := exists_rolledBack hparse hread hrun
  set found := findMatchingWireGuardInterface entries config with hmatch
  have hcompeting : ∀ name, name ∈ (rollbackPlan entries found selected).competingInterfaces ↔
      ρ.present name = true ∧ startsWith name "Wireguard" = true ∧
        hasEndpointIn (.obj entries) name router1Endpoints = true ∧ name ≠ selected :=
    fun name => mem_competing_iff hshown
  have hnew : found.isNone = true → ρ.present selected = false := by
    intro himport
    obtain ⟨e, he, hcreated⟩ := h.imported himport
    exact hfresh e (by simp [h.since, he]) _ hcreated
  have hwasUp : found.isNone = false → ρ.up selected = (found.isSome && showsUp entries selected) := by
    intro hsome
    obtain ⟨name, hname⟩ := Option.isSome_iff_exists.mp (by simpa using hsome)
    obtain rfl := hfound name hname
    rw [hname, Option.isSome_some, Bool.true_and]
    exact hshown.up name (present_of_findMatching hshown (hmatch ▸ hname))
  rw [h.restored_iff (fun hmem => ((hcompeting selected).mp hmem).2.2.2 rfl)
    (fun name hname => ((hcompeting name).mp hname).1) hnew hwasUp]
  refine and_congr_left' ?_
  -- an interface that was there is the selected one only if it was found in the table
  have hother : ∀ name, ρ.present name = true → (found ≠ some name ↔ name ≠ selected) := by
    intro name hpresent
    rcases hcase : found with _ | other
    · have hgone : ρ.present selected = false := hnew (by simp [hcase])
      refine ⟨fun _ hname => ?_, fun _ => by simp⟩
      rw [hname, hgone] at hpresent
      cases hpresent
    · rw [← hfound other hcase]
      simp [eq_comm]
  constructor
  · intro hup name hpresent hprefix hendpoint hnot
    exact hup name ((hcompeting name).mpr
      ⟨hpresent, hprefix, hendpoint, (hother name hpresent).mp hnot⟩)
  · intro hup name hname
    obtain ⟨hpresent, hprefix, hendpoint, hne⟩ := (hcompeting name).mp hname
    exact hup name hpresent hprefix hendpoint ((hother name hpresent).mpr hne)

/-! A router whose first tunnel has the address of the config and whose second one competes. -/

def Router.ofTable (entries : List (String × Json)) : Router where
  present name := (entries.lookup name).isSome
  up := showsUp entries
  routing := .empty

theorem shownBy_ofTable (entries : List (String × Json)) : (Router.ofTable entries).ShownBy entries :=
  ⟨fun _ => rfl, fun _ _ => rfl⟩

def sampleConfigText : String :=
  "[Interface]\nPrivateKey=k\nAddress=10.8.0.2/32\n[Peer]\nPublicKey=p\nEndpoint=a:1"

def twoTunnels (competitorState : String) : List (String × Json) :=
  [("Wireguard0", .obj [("state", .str "up"), ("address", .str "10.8.0.2")]),
    ("Wireguard1", .obj [("state", .str competitorState),
      ("remote-endpoint-address", .str "92.51.46.27")])]

/-- The table is read, the first batch is refused, and everything after it succeeds. -/
def refusingBatch (competitorState : String) : Net where
  answers k :=
    if k = 0 then responds 200 (.json (.obj (twoTunnels competitorState)))
    else if k = 1 then responds 500 .blank
    else responds 200 .blank
  lookups _ := none

def freshSession : Session := ⟨fun _ => none, fun _ => none, [], []⟩

def refusedInstall (competitorState : String) : Except Failure Unit × Session :=
  (createAwgConnection ⟨"192.168.1.1", false⟩ sampleConfigText).run
    (refusingBatch competitorState).handle freshSession

def rolledBack? : Except Failure Unit → Option String
  | .error (.notApplied message) => some message
  | _ => none

theorem error_of_rolledBack {result : Except Failure Unit} {message : String}
    (h : rolledBack? result = some message) : result = .error (.notApplied message) := by
  unfold rolledBack? at h
  split at h
  · rw [Option.some.inj h]
  · cases h

/-- A competing tunnel that was down is up after the rollback. -/
theorem competitor_left_up :
    (∃ message, (refusedInstall "down").1 = .error (.notApplied message)) ∧
      ¬ InterfacesRestored (.ofTable (twoTunnels "down")) freshSession (refusedInstall "down").2 := by
  have hinstall : rolledBack? (refusedInstall "down").1 = some "Keenetic ответил HTTP 500 на /rci/." ∧
      ((Router.ofTable (twoTunnels "down")).after
        (freshSession.since (refusedInstall "down").2)).up "Wireguard1" = true := by
    decide +kernel
  obtain ⟨hmessage, hafter⟩ := hinstall
  refine ⟨⟨_, error_of_rolledBack hmessage⟩, fun hrestored => ?_⟩
  rw [hrestored.up "Wireguard1" (by decide)] at hafter
  exact absurd hafter (by decide)

theorem interfacesRestored_two_up :
    InterfacesRestored (.ofTable (twoTunnels "up")) freshSession (refusedInstall "up").2 := by
  have hinstall : (parseConfig sampleConfigText).toOption.isSome = true ∧
      rolledBack? (refusedInstall "up").1 = some "Keenetic ответил HTTP 500 на /rci/." ∧
      ∀ e ∈ freshSession.since (refusedInstall "up").2, e.created? = none ∧ e.deleted? = none := by
    decide +kernel
  obtain ⟨hparses, hmessage, hquiet⟩ := hinstall
  obtain ⟨config, hparse⟩ := exists_ok hparses
  generalize hran : refusedInstall "up" = ran at hmessage hquiet ⊢
  obtain ⟨result, t⟩ := ran
  have hrun : (createAwgConnection ⟨"192.168.1.1", false⟩ sampleConfigText).run
      (refusingBatch "up").handle freshSession
        = (.error (.notApplied "Keenetic ответил HTTP 500 на /rci/."), t) := by
    rw [← error_of_rolledBack hmessage]
    exact hran
  refine (interfacesRestored_iff hparse rfl (shownBy_ofTable (twoTunnels "up")) hrun ?_).mpr ⟨?_, ?_⟩
  · intro e he name hname
    rw [(hquiet e he).1] at hname
    cases hname
  · intro name hpresent _ _ _
    have hname : name = "Wireguard0" ∨ name = "Wireguard1" := by
      simpa [Router.ofTable, twoTunnels] using hpresent
    rcases hname with rfl | rfl <;> decide
  · intro e he name hname
    rw [(hquiet e he).2] at hname
    cases hname

end Keenetic
