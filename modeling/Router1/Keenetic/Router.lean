import Router1.Keenetic.Setup

/-!
# What the exchanges do to the router

The router has interfaces, each of them present or not and up or down, and the managed routing. An
exchange changes it as far as the router has carried the request out, also when the reply was lost.
An import makes the interface that its reply names. The routes bound to an interface that is deleted
stay in the table, where nothing reads them here.
-/

namespace Keenetic

open Dart

structure Router where
  present : String → Bool
  up : String → Bool
  routing : Routing

/-- The interface a request switches, and the state it switches it to. -/
def Request.switches : Request → Option (String × Bool)
  | interfaceUp name => some (name, true)
  | interfaceDown name => some (name, false)
  | _ => none

/-- The interface a successful import has made. -/
def Exchange.created? (e : Exchange) : Option String :=
  match e.request, e.answer.reply with
  | .importConfig _ _, .ok ⟨status, .json (.obj fields)⟩ =>
      if (Response.mk status .blank).isSuccess then replyText fields "created" else none
  | _, _ => none

/-- The interface a carried-out request has deleted. -/
def Exchange.deleted? (e : Exchange) : Option String :=
  match e.request with
  | .deleteInterface name => if e.done then some name else none
  | _ => none

/-- The switch a carried-out request has made. -/
def Exchange.switched? (e : Exchange) : Option (String × Bool) :=
  if e.done then e.request.switches else none

namespace Router

def step (ρ : Router) (e : Exchange) : Router where
  present name := (ρ.present name || e.created? == some name) && e.deleted? != some name
  up name :=
    match e.switched? with
    | some (other, state) => if other = name then state else ρ.up name
    | none => ρ.up name
  routing := ρ.routing.execAll e.executed

def after (ρ : Router) (exchanges : List Exchange) : Router := exchanges.foldl step ρ

@[simp] theorem after_nil (ρ : Router) : ρ.after [] = ρ := rfl

@[simp] theorem after_cons (ρ : Router) (e : Exchange) (es : List Exchange) :
    ρ.after (e :: es) = (ρ.step e).after es := rfl

theorem after_append (ρ : Router) (es es' : List Exchange) :
    ρ.after (es ++ es') = (ρ.after es).after es' := List.foldl_append

theorem after_routing (ρ : Router) (es : List Exchange) :
    (ρ.after es).routing = ρ.routing.execAll (es.flatMap Exchange.executed) := by
  induction es generalizing ρ with
  | nil => rfl
  | cons e es ih =>
      rw [after_cons, ih, List.flatMap_cons, Routing.execAll_append]
      rfl

/-! ### Up and down -/

theorem step_up_of_switched {ρ : Router} {e : Exchange} {name : String} {state : Bool}
    (h : e.switched? = some (name, state)) : (ρ.step e).up name = state := by
  simp [step, h]

theorem step_up_of_not_switched {ρ : Router} {e : Exchange} {name : String}
    (h : ∀ state, e.switched? ≠ some (name, state)) : (ρ.step e).up name = ρ.up name := by
  rcases hs : e.switched? with _ | ⟨other, state⟩
  · simp [step, hs]
  · have hne : other ≠ name := by
      rintro rfl
      exact h state hs
    simp [step, hs, hne]

theorem switched_of_request {e : Exchange} {switch : String × Bool}
    (h : e.switched? = some switch) : e.request.switches = some switch := by
  unfold Exchange.switched? at h
  split at h
  · exact h
  · cases h

theorem after_up_of_kept {ρ : Router} {es : List Exchange} {name : String} {state : Bool}
    (hup : ρ.up name = state)
    (hes : ∀ e ∈ es, e.request.switches ≠ some (name, !state)) : (ρ.after es).up name = state := by
  induction es generalizing ρ with
  | nil => exact hup
  | cons e es ih =>
      refine ih ?_ fun other hother => hes other (List.mem_cons_of_mem e hother)
      by_cases hswitched : e.switched? = some (name, state)
      · exact step_up_of_switched hswitched
      · rw [step_up_of_not_switched, hup]
        intro other hother
        have hne : other ≠ state := by
          rintro rfl
          exact hswitched hother
        have hrequest := switched_of_request hother
        rw [Bool.eq_not_of_ne hne] at hrequest
        exact hes e List.mem_cons_self hrequest

/-- One carried-out switch decides, when no request switches the interface the other way. -/
theorem after_up_of_switched {ρ : Router} {es : List Exchange} {name : String} {state : Bool}
    (hswitch : ∃ e ∈ es, e.switched? = some (name, state))
    (hes : ∀ e ∈ es, e.request.switches ≠ some (name, !state)) : (ρ.after es).up name = state := by
  induction es generalizing ρ with
  | nil =>
      obtain ⟨e, he, -⟩ := hswitch
      cases he
  | cons e es ih =>
      have hrest : ∀ other ∈ es, other.request.switches ≠ some (name, !state) :=
        fun other hother => hes other (List.mem_cons_of_mem e hother)
      rw [after_cons]
      obtain ⟨found, hfound, hswitched⟩ := hswitch
      rcases List.mem_cons.mp hfound with rfl | hfound
      · exact after_up_of_kept (step_up_of_switched hswitched) hrest
      · exact ih ⟨found, hfound, hswitched⟩ hrest

theorem after_up_of_untouched {ρ : Router} {es : List Exchange} {name : String}
    (hes : ∀ e ∈ es, ∀ state, e.request.switches ≠ some (name, state)) :
    (ρ.after es).up name = ρ.up name :=
  after_up_of_kept rfl fun e he => hes e he _

/-! ### Present or not -/

theorem after_present {ρ : Router} {es : List Exchange} {name : String}
    (hes : ∀ e ∈ es, e.created? ≠ some name) :
    (ρ.after es).present name = true ↔
      ρ.present name = true ∧ ∀ e ∈ es, e.deleted? ≠ some name := by
  induction es generalizing ρ with
  | nil => simp
  | cons e es ih =>
      have hcreated : e.created? ≠ some name := hes e List.mem_cons_self
      rw [after_cons, ih fun other hother => hes other (List.mem_cons_of_mem e hother)]
      simp [step, hcreated, and_assoc]

end Router

end Keenetic
