import Mathlib.Logic.Basic
import Mathlib.Data.List.Basic

/-!
# Programs that talk to the outside

A `Program` is a tree of calls: it ends with a value, ends with an error, or makes one call and goes
on with whatever the outside answers. Nothing here says what a call is or who answers it. A handler
answers one call and moves the state of the outside, and `run` follows the only path of the tree that
the handler's answers select. The laws below are what every proof about a run uses: how runs compose
over `bind` and `tryCatch`, and which facts about a run can be read off the tree alone.
-/

namespace Remote

/-- A program over the calls `Op`, answered in `Ans`, that may end with an error in `ε`. -/
inductive Program (Op : Type) (Ans : Op → Type) (ε α : Type) : Type where
  | pure (value : α)
  | throw (error : ε)
  | call (op : Op) (next : Ans op → Program Op Ans ε α)

namespace Program

variable {Op : Type} {Ans : Op → Type} {ε α β σ : Type}

protected def bind : Program Op Ans ε α → (α → Program Op Ans ε β) → Program Op Ans ε β
  | pure value, next => next value
  | throw error, _ => throw error
  | call op rest, next => call op fun answer => (rest answer).bind next

protected def tryCatch :
    Program Op Ans ε α → (ε → Program Op Ans ε α) → Program Op Ans ε α
  | pure value, _ => pure value
  | throw error, handle => handle error
  | call op rest, handle => call op fun answer => (rest answer).tryCatch handle

instance : Monad (Program Op Ans ε) where
  pure := Program.pure
  bind := Program.bind

instance : MonadExceptOf ε (Program Op Ans ε) where
  throw := Program.throw
  tryCatch := Program.tryCatch

/-- One call, returning its answer. -/
def request (op : Op) : Program Op Ans ε (Ans op) := call op pure

/-- A pure computation that may fail, as a program without calls. -/
def ofExcept : Except ε α → Program Op Ans ε α
  | .ok value => pure value
  | .error error => throw error

/-! ### Running against a handler -/

/-- A handler answers one call and moves the state of the outside. -/
abbrev Handler (Op : Type) (Ans : Op → Type) (σ : Type) := (op : Op) → σ → Ans op × σ

def run (handler : Handler Op Ans σ) : Program Op Ans ε α → σ → Except ε α × σ
  | pure value, s => (.ok value, s)
  | throw error, s => (.error error, s)
  | call op next, s => (next (handler op s).1).run handler (handler op s).2

variable (handler : Handler Op Ans σ)

@[simp] theorem run_pure (value : α) (s : σ) :
    (Pure.pure value : Program Op Ans ε α).run handler s = (.ok value, s) := rfl

@[simp] theorem run_throw (error : ε) (s : σ) :
    (MonadExcept.throw error : Program Op Ans ε α).run handler s = (.error error, s) := rfl

@[simp] theorem run_request (op : Op) (s : σ) :
    (request op : Program Op Ans ε (Ans op)).run handler s
      = (.ok (handler op s).1, (handler op s).2) := rfl

@[simp] theorem run_ofExcept (result : Except ε α) (s : σ) :
    (ofExcept result : Program Op Ans ε α).run handler s = (result, s) := by
  cases result <;> rfl

theorem run_bind (p : Program Op Ans ε α) (next : α → Program Op Ans ε β) (s : σ) :
    (p >>= next).run handler s =
      match p.run handler s with
      | (.ok value, t) => (next value).run handler t
      | (.error error, t) => (.error error, t) := by
  induction p generalizing s with
  | pure value => rfl
  | throw error => rfl
  | call op rest ih => exact ih _ _

theorem run_tryCatch (p : Program Op Ans ε α) (handle : ε → Program Op Ans ε α) (s : σ) :
    (MonadExcept.tryCatch p handle).run handler s =
      match p.run handler s with
      | (.ok value, t) => (.ok value, t)
      | (.error error, t) => (handle error).run handler t := by
  induction p generalizing s with
  | pure value => rfl
  | throw error => rfl
  | call op rest ih => exact ih _ _

variable {handler}

/-! ### Taking a run apart -/

theorem run_bind_of_ok {p : Program Op Ans ε α} {next : α → Program Op Ans ε β} {s t : σ} {value : α}
    (h : p.run handler s = (.ok value, t)) :
    (p >>= next).run handler s = (next value).run handler t := by
  rw [run_bind, h]

theorem run_tryCatch_bind_of_ok {p : Program Op Ans ε α} {next : α → Program Op Ans ε β}
    {handle : ε → Program Op Ans ε β} {s t : σ} {value : α} (h : p.run handler s = (.ok value, t)) :
    (MonadExcept.tryCatch (p >>= next) handle).run handler s =
      (MonadExcept.tryCatch (next value) handle).run handler t := by
  rw [run_tryCatch, run_bind_of_ok h, run_tryCatch]

theorem run_bind_ok {p : Program Op Ans ε α} {next : α → Program Op Ans ε β} {s u : σ} {result : β}
    (h : (p >>= next).run handler s = (.ok result, u)) :
    ∃ value t, p.run handler s = (.ok value, t) ∧ (next value).run handler t = (.ok result, u) := by
  rw [run_bind] at h
  rcases hp : p.run handler s with ⟨_ | value, t⟩
  · simp [hp] at h
  · exact ⟨value, t, rfl, by simpa [hp] using h⟩

theorem run_bind_error {p : Program Op Ans ε α} {next : α → Program Op Ans ε β} {s u : σ} {error : ε}
    (h : (p >>= next).run handler s = (.error error, u)) :
    p.run handler s = (.error error, u) ∨
      ∃ value t, p.run handler s = (.ok value, t) ∧ (next value).run handler t = (.error error, u) := by
  rw [run_bind] at h
  rcases hp : p.run handler s with ⟨_ | value, t⟩
  · left
    simpa [hp] using h
  · exact .inr ⟨value, t, rfl, by simpa [hp] using h⟩

theorem run_bind_cases {p : Program Op Ans ε α} {next : α → Program Op Ans ε β} {s u : σ}
    {result : Except ε β} (h : (p >>= next).run handler s = (result, u)) :
    (∃ error, p.run handler s = (.error error, u)) ∨
      ∃ value t, p.run handler s = (.ok value, t) ∧ (next value).run handler t = (result, u) := by
  rw [run_bind] at h
  rcases hp : p.run handler s with ⟨error | value, t⟩
  · rw [hp] at h
    obtain ⟨-, rfl⟩ := Prod.mk.inj h
    exact .inl ⟨error, rfl⟩
  · rw [hp] at h
    exact .inr ⟨value, t, rfl, h⟩

theorem run_tryCatch_ok {p : Program Op Ans ε α} {handle : ε → Program Op Ans ε α} {s u : σ}
    {result : α} (h : (MonadExcept.tryCatch p handle).run handler s = (.ok result, u)) :
    p.run handler s = (.ok result, u) ∨
      ∃ error t, p.run handler s = (.error error, t) ∧ (handle error).run handler t = (.ok result, u) := by
  rw [run_tryCatch] at h
  rcases hp : p.run handler s with ⟨error | value, t⟩
  · exact .inr ⟨error, t, rfl, by simpa [hp] using h⟩
  · left
    simpa [hp] using h

theorem run_tryCatch_error {p : Program Op Ans ε α} {handle : ε → Program Op Ans ε α} {s u : σ}
    {error : ε} (h : (MonadExcept.tryCatch p handle).run handler s = (.error error, u)) :
    ∃ cause t, p.run handler s = (.error cause, t) ∧ (handle cause).run handler t = (.error error, u) := by
  rw [run_tryCatch] at h
  rcases hp : p.run handler s with ⟨cause | value, t⟩
  · exact ⟨cause, t, rfl, by simpa [hp] using h⟩
  · simp [hp] at h

/-! ### What the tree alone tells about a run

`Calls P` says that every call a program can make satisfies `P`, `Returns R` that every value it can
end with satisfies `R`, `Throws Q` that every error it can end with satisfies `Q`, whatever the
outside answers. -/

def Calls (P : Op → Prop) : Program Op Ans ε α → Prop
  | pure _ => True
  | throw _ => True
  | call op next => P op ∧ ∀ answer, (next answer).Calls P

def Throws (Q : ε → Prop) : Program Op Ans ε α → Prop
  | pure _ => True
  | throw error => Q error
  | call _ next => ∀ answer, (next answer).Throws Q

def Returns (R : α → Prop) : Program Op Ans ε α → Prop
  | pure value => R value
  | throw _ => True
  | call _ next => ∀ answer, (next answer).Returns R

variable {P : Op → Prop} {Q : ε → Prop} {R : α → Prop} {R' : β → Prop}

@[simp] theorem calls_pure (value : α) : (Pure.pure value : Program Op Ans ε α).Calls P := trivial

@[simp] theorem calls_throw (error : ε) :
    (MonadExcept.throw error : Program Op Ans ε α).Calls P := trivial

@[simp] theorem calls_request (op : Op) :
    (request op : Program Op Ans ε (Ans op)).Calls P ↔ P op :=
  ⟨fun h => h.1, fun h => ⟨h, fun _ => trivial⟩⟩

@[simp] theorem calls_ofExcept (result : Except ε α) :
    (ofExcept result : Program Op Ans ε α).Calls P := by
  cases result <;> trivial

theorem Calls.bind {p : Program Op Ans ε α} {next : α → Program Op Ans ε β} (hp : p.Calls P)
    (hnext : ∀ value, (next value).Calls P) : (p >>= next).Calls P := by
  induction p with
  | pure value => exact hnext value
  | throw error => trivial
  | call op rest ih => exact ⟨hp.1, fun answer => ih answer (hp.2 answer)⟩

theorem Calls.bind_returns {p : Program Op Ans ε α} {next : α → Program Op Ans ε β}
    (hp : p.Calls P) (hreturns : p.Returns R) (hnext : ∀ value, R value → (next value).Calls P) :
    (p >>= next).Calls P := by
  induction p with
  | pure value => exact hnext value hreturns
  | throw error => trivial
  | call op rest ih => exact ⟨hp.1, fun answer => ih answer (hp.2 answer) (hreturns answer)⟩

theorem Calls.tryCatch {p : Program Op Ans ε α} {handle : ε → Program Op Ans ε α} (hp : p.Calls P)
    (hhandle : ∀ error, (handle error).Calls P) : (MonadExcept.tryCatch p handle).Calls P := by
  induction p with
  | pure value => trivial
  | throw error => exact hhandle error
  | call op rest ih => exact ⟨hp.1, fun answer => ih answer (hp.2 answer)⟩

theorem Calls.forM {items : List β} {body : β → Program Op Ans ε PUnit}
    (h : ∀ item ∈ items, (body item).Calls P) : (items.forM body).Calls P := by
  induction items with
  | nil => trivial
  | cons item rest ih =>
      exact Calls.bind (h item List.mem_cons_self)
        fun _ => ih fun other hother => h other (List.mem_cons_of_mem item hother)

theorem Calls.mono {P' : Op → Prop} {p : Program Op Ans ε α} (hp : p.Calls P)
    (hmono : ∀ op, P op → P' op) : p.Calls P' := by
  induction p with
  | pure value => trivial
  | throw error => trivial
  | call op rest ih => exact ⟨hmono op hp.1, fun answer => ih answer (hp.2 answer)⟩

/-- **The invariant rule.** What every allowed call preserves, the whole run preserves, on whichever
path and whether or not it ends with an error. -/
theorem Calls.run_invariant {p : Program Op Ans ε α} (hp : p.Calls P) {I : σ → Prop}
    (hstep : ∀ op s, P op → I s → I (handler op s).2) {s : σ} (hs : I s) :
    I (p.run handler s).2 := by
  induction p generalizing s with
  | pure value => exact hs
  | throw error => exact hs
  | call op rest ih => exact ih _ (hp.2 _) (hstep op s hp.1 hs)

theorem Returns.bind {p : Program Op Ans ε α} {next : α → Program Op Ans ε β} (hp : p.Returns R)
    (hnext : ∀ value, R value → (next value).Returns R') : (p >>= next).Returns R' := by
  induction p with
  | pure value => exact hnext value hp
  | throw error => trivial
  | call op rest ih => exact fun answer => ih answer (hp answer)

theorem Returns.run_ok {p : Program Op Ans ε α} (hp : p.Returns R) {s t : σ} {value : α}
    (h : p.run handler s = (.ok value, t)) : R value := by
  induction p generalizing s with
  | pure result =>
      cases h
      exact hp
  | throw error => cases h
  | call op rest ih => exact ih _ (hp _) h

theorem Throws.bind {p : Program Op Ans ε α} {next : α → Program Op Ans ε β} (hp : p.Throws Q)
    (hnext : ∀ value, (next value).Throws Q) : (p >>= next).Throws Q := by
  induction p with
  | pure value => exact hnext value
  | throw error => exact hp
  | call op rest ih => exact fun answer => ih answer (hp answer)

theorem Throws.tryCatch {Q' : ε → Prop} {p : Program Op Ans ε α}
    {handle : ε → Program Op Ans ε α} (hp : p.Throws Q)
    (hhandle : ∀ error, Q error → (handle error).Throws Q') :
    (MonadExcept.tryCatch p handle).Throws Q' := by
  induction p with
  | pure value => trivial
  | throw error => exact hhandle error hp
  | call op rest ih => exact fun answer => ih answer (hp answer)

theorem Throws.forM {items : List β} {body : β → Program Op Ans ε PUnit}
    (h : ∀ item ∈ items, (body item).Throws Q) : (items.forM body).Throws Q := by
  induction items with
  | nil => trivial
  | cons item rest ih =>
      exact Throws.bind (h item List.mem_cons_self)
        fun _ => ih fun other hother => h other (List.mem_cons_of_mem item hother)

theorem Throws.run_error {p : Program Op Ans ε α} (hp : p.Throws Q) {s t : σ} {error : ε}
    (h : p.run handler s = (.error error, t)) : Q error := by
  induction p generalizing s with
  | pure value => cases h
  | throw cause =>
      cases h
      exact hp
  | call op rest ih => exact ih _ (hp _) h

end Program

/-! ### Results that were evaluated -/

theorem ok_of_toOption {ε α : Type} {result : Except ε α} {value : α} (h : result.toOption = some value) :
    result = .ok value := by
  cases result with
  | error => cases h
  | ok other => rw [Option.some.inj h]

theorem exists_ok {ε α : Type} {result : Except ε α} (h : result.toOption.isSome = true) :
    ∃ value, result = .ok value := by
  obtain ⟨value, hvalue⟩ := Option.isSome_iff_exists.mp h
  exact ⟨value, ok_of_toOption hvalue⟩

end Remote
