import Mathlib.Logic.Relation

/-!
# Runs of event systems

A system takes events one at a time; an event that cannot happen in a state leads nowhere. `Reaches`
says that a state can be reached through steps that all meet a condition on the event and the state it
happens in. With the condition that is always met, these are all the runs there are.
-/

namespace Remote

variable {σ ε : Type*} {step : σ → ε → Option σ} {allowed : σ → ε → Prop} {s t u : σ}

/-- One step, on an event the condition allows. -/
def Step (step : σ → ε → Option σ) (allowed : σ → ε → Prop) (s t : σ) : Prop :=
  ∃ e, allowed s e ∧ step s e = some t

def Reaches (step : σ → ε → Option σ) (allowed : σ → ε → Prop) : σ → σ → Prop :=
  Relation.ReflTransGen (Step step allowed)

/-- **The invariant rule.** What every allowed step preserves holds in every state reached. -/
theorem Reaches.invariant {I : σ → Prop} (h : Reaches step allowed s t)
    (hstep : ∀ s e t, I s → allowed s e → step s e = some t → I t) (hs : I s) : I t := by
  induction h with
  | refl => exact hs
  | tail _ hlast ih =>
      obtain ⟨e, hallowed, hnext⟩ := hlast
      exact hstep _ e _ ih hallowed hnext

/-- **The simulation rule.** When the system at hand is followed step by step, through any number of steps
of another one, every state it reaches is followed by a state the other one reaches. -/
theorem Reaches.simulated {σ' ε' : Type*} {step' : σ' → ε' → Option σ'} {allowed' : σ' → ε' → Prop}
    {follows : σ → σ' → Prop} {s' : σ'} (h : Reaches step allowed s t)
    (hstep : ∀ s e t s', follows s s' → allowed s e → step s e = some t →
      ∃ t', Reaches step' allowed' s' t' ∧ follows t t') (hs : follows s s') :
    ∃ t', Reaches step' allowed' s' t' ∧ follows t t' := by
  induction h with
  | refl => exact ⟨s', .refl, hs⟩
  | tail _ hlast ih =>
      obtain ⟨e, hallowed, hnext⟩ := hlast
      obtain ⟨m', hreached, hm⟩ := ih
      obtain ⟨t', hfurther, ht⟩ := hstep _ e _ m' hm hallowed hnext
      exact ⟨t', hreached.trans hfurther, ht⟩

/-- The state after a list of events, when every one of them can happen. -/
def runEvents (step : σ → ε → Option σ) : σ → List ε → Option σ
  | s, [] => some s
  | s, e :: es =>
      match step s e with
      | some t => runEvents step t es
      | none => none

/-- The condition holds at every event of the list that happens. -/
def AllAllowed (step : σ → ε → Option σ) (allowed : σ → ε → Prop) : σ → List ε → Prop
  | _, [] => True
  | s, e :: es =>
      allowed s e ∧
        match step s e with
        | some t => AllAllowed step allowed t es
        | none => True

theorem allAllowed_of_forall (h : ∀ s e, allowed s e) (es : List ε) : AllAllowed step allowed s es := by
  induction es generalizing s with
  | nil => trivial
  | cons e es ih =>
      refine ⟨h s e, ?_⟩
      split
      · exact ih
      · trivial

theorem reaches_of_runEvents (es : List ε) (hallowed : AllAllowed step allowed s es)
    (h : runEvents step s es = some t) : Reaches step allowed s t := by
  induction es generalizing s with
  | nil =>
      cases h
      exact .refl
  | cons e es ih =>
      obtain ⟨hfirst, hrest⟩ := hallowed
      rw [runEvents] at h
      split at h
      · next next hnext =>
          rw [hnext] at hrest
          exact .head ⟨e, hfirst, hnext⟩ (ih hrest h)
      · cases h

/-- A condition that can be computed can be computed along a run. -/
instance decidableAllAllowed [∀ s e, Decidable (allowed s e)] :
    (s : σ) → (es : List ε) → Decidable (AllAllowed step allowed s es)
  | _, [] => isTrue trivial
  | s, e :: es =>
      match hnext : step s e with
      | some t =>
          have := decidableAllAllowed t es
          decidable_of_iff (allowed s e ∧ AllAllowed step allowed t es) (by rw [AllAllowed, hnext])
      | none => decidable_of_iff (allowed s e) (by rw [AllAllowed, hnext, and_true])

/-- The property holds in every state the run goes through, from the first one on. -/
def Throughout (step : σ → ε → Option σ) (P : σ → Prop) : σ → List ε → Prop
  | s, [] => P s
  | s, e :: es =>
      P s ∧
        match step s e with
        | some t => Throughout step P t es
        | none => True

theorem Throughout.first {P : σ → Prop} {es : List ε} (h : Throughout step P s es) : P s := by
  cases es with
  | nil => exact h
  | cons e es => exact h.1

theorem Throughout.last {P : σ → Prop} {es : List ε} (h : Throughout step P s es)
    (hrun : runEvents step s es = some t) : P t := by
  induction es generalizing s with
  | nil =>
      cases hrun
      exact h
  | cons e es ih =>
      rw [runEvents] at hrun
      split at hrun
      · next next hnext =>
          have hrest := h.2
          rw [hnext] at hrest
          exact ih hrest hrun
      · cases hrun

instance decidableThroughout {P : σ → Prop} [∀ s, Decidable (P s)] :
    (s : σ) → (es : List ε) → Decidable (Throughout step P s es)
  | s, [] => inferInstanceAs (Decidable (P s))
  | s, e :: es =>
      match hnext : step s e with
      | some t =>
          have : Decidable (Throughout step P t es) := decidableThroughout t es
          decidable_of_iff (P s ∧ Throughout step P t es) (by rw [Throughout, hnext])
      | none => decidable_of_iff (P s) (by rw [Throughout, hnext, and_true])

/-- **The exactness rule.** Let an invariant carry the property, let an event that the condition allows
keep the invariant, and let an event that it does not allow break the property. Then a run of possible
events keeps the property throughout if and only if all its events are allowed. -/
theorem throughout_iff {P I : σ → Prop} {possible : σ → ε → Prop} (hP : ∀ s, I s → P s)
    (hkeeps : ∀ s e t, I s → possible s e → allowed s e → step s e = some t → I t)
    (hbreaks : ∀ s e, I s → possible s e → (∀ t, step s e = some t → P t) → allowed s e)
    (hs : I s) (es : List ε) (hpossible : AllAllowed step possible s es) :
    Throughout step P s es ↔ AllAllowed step allowed s es := by
  induction es generalizing s with
  | nil => exact iff_of_true (hP s hs) trivial
  | cons e es ih =>
      obtain ⟨hfirst, hrest⟩ := hpossible
      rw [Throughout, AllAllowed]
      cases hnext : step s e with
      | none =>
          refine iff_of_true ⟨hP s hs, trivial⟩ ⟨hbreaks s e hs hfirst ?_, trivial⟩
          intro t ht
          rw [hnext] at ht
          cases ht
      | some t =>
          rw [hnext] at hrest
          constructor
          · rintro ⟨-, hthroughout⟩
            have hallowed : allowed s e := by
              refine hbreaks s e hs hfirst fun t' ht' => ?_
              obtain rfl : t = t' := Option.some.inj (hnext.symm.trans ht')
              exact hthroughout.first
            have ht : I t := hkeeps s e t hs hfirst hallowed hnext
            exact ⟨hallowed, (ih ht hrest).mp hthroughout⟩
          · rintro ⟨hallowed, hallallowed⟩
            have ht : I t := hkeeps s e t hs hfirst hallowed hnext
            exact ⟨hP s hs, (ih ht hrest).mpr hallallowed⟩

end Remote
