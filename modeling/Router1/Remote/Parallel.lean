import Router1.Remote.Program

/-!
# Programs side by side

Programs that share the outside go on by turns. Some calls are awaited: a program stops at such a call,
and others may go on before it is answered. The other calls are answered at once, so that a program that
is resumed answers the call it waits at and runs to the next one it has to wait for.
-/

namespace Remote

namespace Program

variable {Op : Type} {Ans : Op → Type} {ε α : Type} {σ : Type}

def waitsAt : Program Op Ans ε α → Option Op
  | call op _ => some op
  | pure _ | throw _ => none

/-- Runs to the next call that is awaited, or to the end. -/
def settle (handler : Handler Op Ans σ) (awaited : Op → Bool) :
    Program Op Ans ε α → σ → Program Op Ans ε α × σ
  | call op next, s =>
      if awaited op then (call op next, s)
      else (next (handler op s).1).settle handler awaited (handler op s).2
  | pure value, s => (pure value, s)
  | throw error, s => (throw error, s)

/-- Answers the call the program waits at and goes on from there. A program that has ended waits at
none. -/
def resume (handler : Handler Op Ans σ) (awaited : Op → Bool) :
    Program Op Ans ε α → σ → Option (Program Op Ans ε α × σ)
  | call op next, s => some ((next (handler op s).1).settle handler awaited (handler op s).2)
  | pure _, _ | throw _, _ => none

variable {handler : Handler Op Ans σ} {awaited : Op → Bool} {P : Op → Prop} {p q : Program Op Ans ε α}
  {s t : σ}

theorem Calls.settle (hp : p.Calls P) (handler : Handler Op Ans σ) (awaited : Op → Bool) (s : σ) :
    (p.settle handler awaited s).1.Calls P := by
  induction p generalizing s with
  | pure value => exact hp
  | throw error => exact hp
  | call op next ih =>
      rw [Program.settle]
      split
      · exact hp
      · exact ih _ (hp.2 _) _

/-- What every call satisfies, every call that is left satisfies. -/
theorem Calls.resume (hp : p.Calls P) (h : p.resume handler awaited s = some (q, t)) :
    q.Calls P := by
  cases p with
  | pure value => cases h
  | throw error => cases h
  | call op next =>
      have hsettled := (hp.2 (handler op s).1).settle handler awaited (handler op s).2
      rw [Program.resume, Option.some.injEq] at h
      rwa [h] at hsettled

theorem Calls.settle_invariant {I : σ → Prop} (hp : p.Calls P)
    (hstep : ∀ op s, P op → I s → I (handler op s).2) (hs : I s) (awaited : Op → Bool) :
    I (p.settle handler awaited s).2 := by
  induction p generalizing s with
  | pure value => exact hs
  | throw error => exact hs
  | call op next ih =>
      rw [Program.settle]
      split
      · exact hs
      · exact ih _ (hp.2 _) (hstep op s hp.1 hs)

theorem Calls.resume_invariant {I : σ → Prop} (hp : p.Calls P)
    (hstep : ∀ op s, P op → I s → I (handler op s).2) (hs : I s)
    (h : p.resume handler awaited s = some (q, t)) : I t := by
  cases p with
  | pure value => cases h
  | throw error => cases h
  | call op next =>
      have hsettled := (hp.2 (handler op s).1).settle_invariant hstep (hstep op s hp.1 hs) awaited
      rw [Program.resume, Option.some.injEq] at h
      rwa [h] at hsettled

theorem settle_invariant {I : σ → Prop}
    (hrest : ∀ op s, awaited op = false → I s → I (handler op s).2) (p : Program Op Ans ε α) (hs : I s) :
    I (p.settle handler awaited s).2 := by
  induction p generalizing s with
  | pure value => exact hs
  | throw error => exact hs
  | call op next ih =>
      rw [Program.settle]
      split
      · exact hs
      · next hop => exact ih _ (hrest op s (by simpa using hop) hs)

/-- What the call a program waits at keeps, and every call that is answered at once, a turn keeps. -/
theorem resume_invariant {I : σ → Prop} (hfirst : ∀ op, p.waitsAt = some op → I s → I (handler op s).2)
    (hrest : ∀ op s, awaited op = false → I s → I (handler op s).2) (hs : I s)
    (h : p.resume handler awaited s = some (q, t)) : I t := by
  cases p with
  | pure value => cases h
  | throw error => cases h
  | call op next =>
      have hsettled := settle_invariant hrest (next (handler op s).1) (hfirst op rfl hs)
      rw [Program.resume, Option.some.injEq] at h
      rwa [h] at hsettled

theorem Calls.waitsAt (hp : p.Calls P) {op : Op} (h : p.waitsAt = some op) : P op := by
  cases p with
  | pure value => cases h
  | throw error => cases h
  | call op next =>
      cases h
      exact hp.1

end Program

end Remote
