import Router1.App.Shell
import Router1.Remote.Runs

/-!
# The payment pages

`_PaymentPageState` and `_GadgetPaymentPageState` poll an order until its config is ready and then call
`onPaid`. Every check is a request of its own: the timer starts one every five seconds whether or not
the earlier ones were answered, and neither cancelling the timer nor leaving the page takes back a
request in flight. The requests in flight are kept in a list and answered in any order.

A visit is one instance of a page together with the shell that shows it. The instance is disposed at the
first frame that shows another page. `setState` of a disposed page throws, which ends the
continuation that called it; what comes before it, `onPaid` included, has happened by then.
-/

namespace App

open Remote

/-- What the pages read of an answer to `orderStatus`. -/
structure Router1OrderStatus where
  paid : Bool
  configReady : Bool
  filename : String
  deriving DecidableEq, Repr

inductive PaymentKind where
  | router
  | gadget
  deriving DecidableEq, Repr

/-- The page of the shell that an instance stands for. -/
def PaymentKind.shownAs : PaymentKind → Page
  | router => .payment
  | gadget => .gadgetPayment

/-- A request in flight, with what its continuation needs. -/
inductive Pending where
  | pay (name phone : String)
  | launchUrl
  | clientConfig (name phone filename : String)
  | orderStatus (orderId : String) (manual : Bool)
  | orderConfig (orderId : String) (manual : Bool) (filename : String)
  deriving DecidableEq, Repr

/-- What a request is answered with. A `pay` that accepted the phone ends with an order, with the order
of an active trial, with a config of the client that is then fetched, or with none of these. -/
inductive Answer where
  | failed
  | done
  | ordered (orderId : String) (freeTrial : Bool)
  | restored (orderId : String) (mode : Router1RouteProfileKind)
  | found (filename : String)
  | text (value : String)
  | status (value : Router1OrderStatus)
  deriving DecidableEq, Repr

structure PaymentPage where
  kind : PaymentKind
  mounted : Bool
  loading : Bool
  pollTimer : Bool
  nameText : String
  phoneText : String
  isTestPurchase : Bool
  trialMode : Router1RouteProfileKind
  order : Option String
  pending : List Pending
  deriving DecidableEq, Repr

inductive PaymentEvent where
  | typed (name phone : String)
  | trialModeChosen (mode : Router1RouteProfileKind)
  | pay
  | downloadExisting (filename : String)
  | manualCheck
  | resumed
  | tick
  | answer (i : Nat) (value : Answer)
  deriving DecidableEq, Repr

namespace PaymentPage

/-- `initState`. -/
def opened (kind : PaymentKind) (shell : Shell) : PaymentPage where
  kind := kind
  mounted := true
  loading := false
  pollTimer := false
  nameText := if shell.clientName = "Клиент Router1" then "" else shell.clientName
  phoneText := shell.clientPhone
  isTestPurchase := shell.testPaymentMode
  trialMode := .goldStandard
  order := none
  pending := []

def dispose (p : PaymentPage) : PaymentPage := { p with mounted := false, pollTimer := false }

/-- The `finally` of a continuation that had set `loading`. -/
def endLoading (p : PaymentPage) : PaymentPage := { p with loading := p.loading && !p.mounted }

def clientName (text : String) : String :=
  if (Dart.trim text).isEmpty then "Клиент Router1" else Dart.trim text

def send (p : PaymentPage) (request : Pending) : PaymentPage :=
  { p with pending := p.pending ++ [request] }

/-- `checkPayment` up to its request. -/
def checkPayment (p : PaymentPage) (manual : Bool) : PaymentPage :=
  match p.order with
  | none => p
  | some orderId => { p with loading := p.loading || manual }.send (.orderStatus orderId manual)

def startPolling (p : PaymentPage) : PaymentPage := { p with pollTimer := true }.checkPayment false

/-- The `finally` of `checkPayment`. -/
def checked (p : PaymentPage) (manual : Bool) : PaymentPage := if manual then p.endLoading else p

/-- The continuation of a request that left the list, and the callback it calls. -/
def resume (p : PaymentPage) : Pending → Answer → PaymentPage × Option Event
  | .pay _ _, .ordered orderId freeTrial =>
      -- on a disposed page the `setState` that keeps the order throws
      if p.mounted then
        let kept := { p with order := some orderId }
        if freeTrial then (kept.startPolling.endLoading, none) else (kept.send .launchUrl, none)
      else (p, none)
  | .pay name phone, .restored orderId mode =>
      -- here the same error only sends `pay` on to create an order
      if p.mounted then
        ({ p with order := some orderId, trialMode := mode }.startPolling.endLoading, none)
      else (p.send (.pay name phone), none)
  | .pay name phone, .found filename =>
      if p.kind = .gadget then (p.send (.clientConfig name phone filename), none)
      else (p.endLoading, none)
  | .pay _ _, _ => (p.endLoading, none)
  | .launchUrl, .failed =>
      -- only the router's page goes on when the browser does not open
      if p.kind = .router then (p.startPolling.endLoading, none) else (p.endLoading, none)
  | .launchUrl, _ => (p.startPolling.endLoading, none)
  | .clientConfig name phone filename, .text value =>
      (p.endLoading, some (.gadgetPaid (if name.isEmpty then "Клиент Router1" else name) phone value
        filename))
  | .clientConfig _ _ _, _ => (p.endLoading, none)
  | .orderStatus orderId manual, .status value =>
      if value.paid && value.configReady then
        match p.kind with
        | .router =>
            ({ p with pollTimer := false }.checked manual,
              some (.paid (clientName p.nameText) (Dart.trim p.phoneText) orderId p.isTestPurchase
                p.trialMode))
        | .gadget => (p.send (.orderConfig orderId manual value.filename), none)
      else (p.checked manual, none)
  | .orderStatus _ manual, _ => (p.checked manual, none)
  | .orderConfig _ manual filename, .text value =>
      ({ p with pollTimer := false }.checked manual,
        some (.gadgetPaid (clientName p.nameText) (Dart.trim p.phoneText) value
          (if filename.isEmpty then "router1.conf" else filename)))
  | .orderConfig _ manual _, _ => (p.checked manual, none)

/-- One event of the page. The buttons and the lifecycle observer are there while the page is mounted,
and the timer while it is not cancelled. -/
def step (p : PaymentPage) : PaymentEvent → Option (PaymentPage × Option Event)
  | .typed name phone =>
      if p.mounted then some ({ p with nameText := name, phoneText := phone }, none) else none
  | .trialModeChosen mode =>
      if p.mounted then some ({ p with trialMode := mode }, none) else none
  | .pay =>
      if p.mounted && !p.loading && p.order.isNone then
        some ({ p with loading := true }.send (.pay (Dart.trim p.nameText) (Dart.trim p.phoneText)), none)
      else none
  | .downloadExisting filename =>
      if p.kind = .gadget && p.mounted && !p.loading then
        some ({ p with loading := true }.send
          (.clientConfig (Dart.trim p.nameText) (Dart.trim p.phoneText) filename), none)
      else none
  | .manualCheck | .resumed =>
      if p.mounted && !p.loading && p.order.isSome then some (p.checkPayment true, none) else none
  | .tick => if p.pollTimer then some (p.checkPayment false, none) else none
  | .answer i value =>
      match p.pending[i]? with
      | none => none
      | some request => some ({ p with pending := p.pending.eraseIdx i }.resume request value)

end PaymentPage

/-! ### A visit -/

/-- An instance of a payment page, the shell around it, and the shells its `onPaid` was called in. -/
structure Visit where
  shell : Shell
  page : PaymentPage
  deliveredAt : List Shell

inductive VisitEvent where
  | page (e : PaymentEvent)
  | shell (e : Event)
  | frame

namespace Visit

def opened (kind : PaymentKind) (shell : Shell) : Visit := ⟨shell, .opened kind shell, []⟩

/-- The shell shows the page this instance stands for. -/
def Shown (v : Visit) : Prop := v.shell.page = v.page.kind.shownAs

instance (v : Visit) : Decidable v.Shown := inferInstanceAs (Decidable (_ = _))

def step (v : Visit) : VisitEvent → Option Visit
  | .page e =>
      match v.page.step e with
      | none => none
      | some (page, none) => some { v with page := page }
      | some (page, some call) => some ⟨v.shell.handle call, page, v.deliveredAt ++ [v.shell]⟩
  | .shell e => some { v with shell := v.shell.handle e }
  | .frame => some (if v.Shown then v else { v with page := v.page.dispose })

/-- `onPaid` was called at most once, and only while its page was shown. -/
def DeliveredOnce (v : Visit) : Prop :=
  v.deliveredAt.length ≤ 1 ∧ ∀ s ∈ v.deliveredAt, s.page = v.page.kind.shownAs

end Visit

/-! ### What calls `onPaid` -/

/-- The answers whose continuation calls `onPaid`. -/
def PaymentKind.Delivers (kind : PaymentKind) : Pending → Answer → Prop
  | .orderStatus _ _, .status value =>
      kind = .router ∧ value.paid = true ∧ value.configReady = true
  | .orderConfig _ _ _, .text _ | .clientConfig _ _ _, .text _ => True
  | _, _ => False

namespace PaymentPage

variable {p q : PaymentPage} {call : Option Event}

@[simp]
theorem endLoading_kind : p.endLoading.kind = p.kind := rfl

@[simp]
theorem endLoading_pending : p.endLoading.pending = p.pending := rfl

@[simp]
theorem checked_kind (manual : Bool) : (p.checked manual).kind = p.kind := by
  cases manual <;> rfl

@[simp]
theorem checked_pending (manual : Bool) : (p.checked manual).pending = p.pending := by
  cases manual <;> rfl

@[simp]
theorem checkPayment_kind (manual : Bool) : (p.checkPayment manual).kind = p.kind := by
  rw [checkPayment]
  split <;> rfl

@[simp]
theorem startPolling_kind : p.startPolling.kind = p.kind := checkPayment_kind false

/-- A continuation calls `onPaid` exactly on the answers that deliver, and then sends no request. -/
theorem resume_spec (p : PaymentPage) (request : Pending) (value : Answer) :
    (p.resume request value).1.kind = p.kind ∧
      ((p.resume request value).2.isSome = true ↔ p.kind.Delivers request value) ∧
      (p.kind.Delivers request value → (p.resume request value).1.pending = p.pending) := by
  cases request with
  | pay name phone =>
      refine ⟨?_, iff_of_false ?_ ?_, fun hdelivers => ?_⟩
      · cases value <;> simp only [resume] <;> (repeat' split) <;> simp [send]
      · cases value <;> simp only [resume] <;> (repeat' split) <;> simp
      · cases value <;> exact id
      · cases value <;> exact hdelivers.elim
  | launchUrl =>
      refine ⟨?_, iff_of_false ?_ ?_, fun hdelivers => ?_⟩
      · cases value <;> simp only [resume] <;> (repeat' split) <;> simp
      · cases value <;> simp only [resume] <;> (repeat' split) <;> simp
      · cases value <;> exact id
      · cases value <;> exact hdelivers.elim
  | clientConfig name phone filename =>
      cases value <;> simp [resume, PaymentKind.Delivers]
  | orderStatus orderId manual =>
      cases value with
      | status value =>
          simp only [resume, PaymentKind.Delivers, Bool.and_eq_true]
          by_cases hready : value.paid = true ∧ value.configReady = true
          · cases hkind : p.kind <;> simp [hready, hkind, send]
          · simp [hready]
      | _ => simp [resume, PaymentKind.Delivers]
  | orderConfig orderId manual filename =>
      cases value <;> simp [resume, PaymentKind.Delivers]

end PaymentPage

def PaymentEvent.sends : PaymentEvent → Bool
  | .pay | .downloadExisting _ | .manualCheck | .resumed | .tick => true
  | .typed _ _ | .trialModeChosen _ | .answer _ _ => false

namespace PaymentPage

variable {p q : PaymentPage} {e : PaymentEvent} {call : Option Event}

/-- What one event of the page can do: answer a request in flight, or call nothing and leave the requests
alone unless it sends one. -/
theorem step_cases (h : p.step e = some (q, call)) :
    (∃ i value request, e = .answer i value ∧ p.pending[i]? = some request ∧
      (q, call) = { p with pending := p.pending.eraseIdx i }.resume request value) ∨
    (call = none ∧ q.kind = p.kind ∧ (e.sends = false → q.pending = p.pending)) := by
  cases e with
  | answer i value =>
      rw [step] at h
      split at h
      · cases h
      · next request hrequest =>
          exact .inl ⟨i, value, request, rfl, hrequest, (Option.some.inj h).symm⟩
  | typed name phone | trialModeChosen mode =>
      rw [step] at h
      split at h
      · cases h
        exact .inr ⟨rfl, rfl, fun _ => rfl⟩
      · cases h
  | pay | downloadExisting filename | manualCheck | resumed | tick =>
      rw [step] at h
      split at h
      · cases h
        refine .inr ⟨rfl, ?_, nofun⟩
        first | rfl | exact checkPayment_kind _
      · cases h

end PaymentPage

/-! ### One delivery -/

namespace Visit

variable {v w : Visit} {e : VisitEvent} {kind : PaymentKind} {shell : Shell}

/-- The events that keep deliveries apart: an answer that calls `onPaid` finds its page shown and no
other request in flight, and no request is sent once `onPaid` was called. -/
def InTurn (v : Visit) : VisitEvent → Prop
  | .page (.answer i value) =>
      ∀ request, v.page.pending[i]? = some request → v.page.kind.Delivers request value →
        v.Shown ∧ v.page.pending = [request]
  | .page e => e.sends = true → v.deliveredAt = []
  | .shell _ | .frame => True

/-- After a delivery nothing is in flight. -/
structure Settled (v : Visit) : Prop where
  once : v.DeliveredOnce
  quiet : v.deliveredAt ≠ [] → v.page.pending = []

theorem opened_settled (kind : PaymentKind) (shell : Shell) : (opened kind shell).Settled where
  once := by simp [DeliveredOnce, opened]
  quiet := by simp [opened]

theorem settled_of_page (hv : v.Settled) {page : PaymentPage} {s : Shell}
    (hkind : page.kind = v.page.kind) (hpending : v.deliveredAt ≠ [] → page.pending = []) :
    Settled ⟨s, page, v.deliveredAt⟩ where
  once := by
    rw [DeliveredOnce, hkind]
    exact hv.once
  quiet := hpending

theorem settled_page_step {e : PaymentEvent} (hv : v.Settled) (hin : v.InTurn (.page e))
    {page : PaymentPage} {call : Option Event} (h : v.page.step e = some (page, call)) :
    page.kind = v.page.kind ∧ (call = none → v.deliveredAt ≠ [] → page.pending = []) ∧
      (call.isSome = true → v.deliveredAt = [] ∧ v.Shown ∧ page.pending = []) := by
  obtain ⟨i, value, request, rfl, hrequest, hresume⟩ | ⟨hcall, hkind, hpending⟩ := PaymentPage.step_cases h
  · obtain ⟨hkind, hsome, hsends⟩ :=
      PaymentPage.resume_spec { v.page with pending := v.page.pending.eraseIdx i } request value
    rw [← hresume] at hkind hsome hsends
    -- a request is in flight, so nothing was delivered yet
    have hnone : v.deliveredAt = [] := by
      by_contra hdelivered
      rw [hv.quiet hdelivered] at hrequest
      cases hrequest
    refine ⟨hkind, fun _ hdelivered => absurd hnone hdelivered, fun hcall => ?_⟩
    have hdelivers := hsome.mp hcall
    obtain ⟨hshown, hlast⟩ := hin request hrequest hdelivers
    refine ⟨hnone, hshown, ?_⟩
    rw [hsends hdelivers]
    show v.page.pending.eraseIdx i = []
    have hindex : i < v.page.pending.length := (List.getElem?_eq_some_iff.mp hrequest).1
    rw [hlast, List.length_singleton] at hindex
    obtain rfl : i = 0 := by omega
    rw [hlast]
    rfl
  · refine ⟨hkind, fun _ hdelivered => ?_, fun hsome => ?_⟩
    · have hquiet : e.sends = false := by
        by_contra hsends
        refine hdelivered ?_
        cases e with
        | answer i value => cases hsends rfl
        | _ => exact hin (Bool.not_eq_false _ ▸ hsends)
      rw [hpending hquiet]
      exact hv.quiet hdelivered
    · rw [hcall] at hsome
      cases hsome

theorem settled_step (hv : v.Settled) (hin : v.InTurn e) (h : v.step e = some w) : w.Settled := by
  cases e with
  | shell e =>
      cases h
      exact settled_of_page hv rfl hv.quiet
  | frame =>
      cases h
      split
      · exact hv
      · exact settled_of_page hv rfl hv.quiet
  | page e =>
      rw [step] at h
      split at h
      · cases h
      · next page hpage =>
          cases h
          obtain ⟨hkind, hquiet, -⟩ := settled_page_step hv hin hpage
          exact settled_of_page hv hkind (hquiet rfl)
      · next page call hpage =>
          cases h
          obtain ⟨hkind, -, hcalled⟩ := settled_page_step hv hin hpage
          obtain ⟨hnone, hshown, hpending⟩ := hcalled rfl
          refine ⟨⟨?_, ?_⟩, fun _ => hpending⟩
          · rw [hnone]
            exact Nat.le_refl 1
          · intro s hs
            rw [hnone, List.nil_append, List.mem_singleton] at hs
            rw [hs, hkind]
            exact hshown

/-- **One delivery.** In every run of a page whose events keep deliveries apart, `onPaid` is called at
most once, and only while the user is still on the page. -/
theorem delivered_once (h : Reaches step InTurn (opened kind shell) v) : v.DeliveredOnce := by
  have hsettled : v.Settled :=
    h.invariant (fun _ _ _ hv hin hstep => settled_step hv hin hstep) (opened_settled kind shell)
  exact hsettled.once

/-! ### Two checks in flight -/

/-- The callbacks of the shell that its shown page can start, and everything of the payment page. -/
def Offered (v : Visit) : VisitEvent → Prop
  | .shell e => v.shell.page.offers e = true
  | .page _ | .frame => True

def after (v : Visit) (events : List VisitEvent) : Visit := (runEvents step v events).getD v

def paidStatus : Answer := .status ⟨true, true, "router1.conf"⟩

/-- A shell that shows the payment of a router. -/
def checkoutShell : Shell :=
  { Shell.initial "android" with path := some .router, step := 60, clientPhone := "79990000001" }

/-- The order is created, the browser opened, and the first check finds it paid. -/
def promptPayment : List VisitEvent :=
  [.page .pay, .page (.answer 0 (.ordered "order-1" false)), .page (.answer 0 .done),
    .page (.answer 0 paidStatus), .frame, .shell .componentReady,
    .shell (.config (some "order-1") "config of order-1")]

theorem promptPayment_delivered_once :
    Reaches step InTurn (opened .router checkoutShell) (after (opened .router checkoutShell) promptPayment) ∧
      (after (opened .router checkoutShell) promptPayment).deliveredAt.map Shell.page = [.payment] ∧
      (after (opened .router checkoutShell) promptPayment).DeliveredOnce := by
  have hreaches : Reaches step InTurn (opened .router checkoutShell)
      (after (opened .router checkoutShell) promptPayment) := by
    refine reaches_of_runEvents promptPayment ?_ rfl
    refine ⟨fun _ => rfl, ?_, ?_, ?_, trivial, trivial, trivial, trivial⟩
    · rintro request hrequest hdelivers
      cases hrequest
      exact hdelivers.elim
    · rintro request hrequest hdelivers
      cases hrequest
      exact hdelivers.elim
    · rintro request hrequest -
      cases hrequest
      exact ⟨rfl, rfl⟩
  exact ⟨hreaches, rfl, delivered_once hreaches⟩

/-- Before the first check is answered the timer starts a second one. -/
def slowPayment : List VisitEvent :=
  [.page .pay, .page (.answer 0 (.ordered "order-1" false)), .page (.answer 0 .done), .page .tick,
    .page (.answer 0 paidStatus), .frame, .shell .componentReady,
    .shell (.config (some "order-1") "config of order-1"), .page (.answer 0 paidStatus)]

/-- The answer to the second check calls `onPaid` again, on a user who has come to the routing page by
then, and sends the user back to the component page. -/
theorem late_answer_delivers_again :
    (opened .router checkoutShell).Shown ∧
      Reaches step Offered (opened .router checkoutShell)
        (after (opened .router checkoutShell) slowPayment) ∧
      (after (opened .router checkoutShell) slowPayment).deliveredAt.map Shell.page =
        [.payment, .routing] ∧
      (after (opened .router checkoutShell) slowPayment).shell.page = .component ∧
      ¬(after (opened .router checkoutShell) slowPayment).DeliveredOnce := by
  refine ⟨rfl, reaches_of_runEvents slowPayment ?_ rfl, rfl, rfl, ?_⟩
  · exact ⟨trivial, trivial, trivial, trivial, trivial, trivial, rfl, rfl, trivial, trivial⟩
  · intro honce
    exact absurd honce.1 (by decide)

end Visit

end App
