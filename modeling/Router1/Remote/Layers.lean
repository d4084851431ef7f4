import Router1.Remote.Program

/-!
# Programs below a call

A call of one program can be carried out by a program over other calls, that of a protocol below. A program whose
failures are answers cannot fail, so it is a handler for the calls above. What a program said to the outside is its
talk: the calls it made with their answers, for which its tree alone tells what can stand in it.
-/

namespace Remote

namespace Program

variable {Op Op' : Type} {Ans : Op → Type} {ε α β γ σ : Type}

/-- A failure is an answer. -/
def attempt {Ans : Op → Type} : Program Op Ans ε α → Program Op Ans Empty (Except ε α)
  | pure value => pure (.ok value)
  | throw error => pure (.error error)
  | call op next => call op fun answer => (next answer).attempt

/-- What a program that cannot fail ends with. -/
def outcome (handler : Handler Op Ans σ) : Program Op Ans Empty α → σ → α × σ
  | pure value, s => (value, s)
  | throw error, _ => error.elim
  | call op next, s => (next (handler op s).1).outcome handler (handler op s).2

/-- The calls with their answers are kept. -/
def logged (handler : Handler Op (fun _ => γ) σ) : Handler Op (fun _ => γ) (σ × List (Op × γ)) := fun op s =>
  ((handler op s.1).1, (handler op s.1).2, s.2 ++ [(op, (handler op s.1).1)])

/-- What a program can say, and what it ends with then. -/
inductive Talks : Program Op (fun _ => γ) ε α → List (Op × γ) → Except ε α → Prop where
  | pure (value : α) : Talks (pure value) [] (.ok value)
  | throw (error : ε) : Talks (throw error) [] (.error error)
  | call {op : Op} {next : γ → Program Op (fun _ => γ) ε α} {answer : γ} {talk : List (Op × γ)}
      {result : Except ε α} (h : Talks (next answer) talk result) : Talks (call op next) ((op, answer) :: talk) result

variable {talk : List (Op × γ)}

theorem Talks.of_pure {value : α} {result : Except ε α}
    (h : Talks (Pure.pure value : Program Op (fun _ => γ) ε α) talk result) : talk = [] ∧ result = .ok value := by
  cases h
  exact ⟨rfl, rfl⟩

theorem Talks.of_throw {error : ε} {result : Except ε α}
    (h : Talks (MonadExcept.throw error : Program Op (fun _ => γ) ε α) talk result) :
    talk = [] ∧ result = .error error := by
  cases h
  exact ⟨rfl, rfl⟩

theorem Talks.of_request {op : Op} {result : Except ε γ}
    (h : Talks (request op : Program Op (fun _ => γ) ε γ) talk result) :
    ∃ answer, talk = [(op, answer)] ∧ result = .ok answer := by
  cases h with
  | call h =>
      cases h
      exact ⟨_, rfl, rfl⟩

theorem Talks.of_bind {p : Program Op (fun _ => γ) ε α} {next : α → Program Op (fun _ => γ) ε β}
    {result : Except ε β} (h : Talks (p >>= next) talk result) :
    (∃ error, result = .error error ∧ Talks p talk (.error error)) ∨
      ∃ value first second, talk = first ++ second ∧ Talks p first (.ok value) ∧
        Talks (next value) second result := by
  induction p generalizing talk with
  | pure value => exact .inr ⟨value, [], talk, rfl, .pure value, h⟩
  | throw error =>
      cases h
      exact .inl ⟨error, rfl, .throw error⟩
  | call op rest ih =>
      cases h with
      | @call _ _ answer talk _ h =>
          rcases ih answer h with ⟨error, hresult, herror⟩ | ⟨value, first, second, rfl, hfirst, hsecond⟩
          · exact .inl ⟨error, hresult, .call herror⟩
          · exact .inr ⟨value, (op, answer) :: first, second, rfl, .call hfirst, hsecond⟩

theorem Talks.of_outcome (handler : Handler Op (fun _ => γ) σ) (p : Program Op (fun _ => γ) ε α) (s : σ)
    (log : List (Op × γ)) :
    ∃ talk, Talks p talk (p.attempt.outcome (logged handler) (s, log)).1 ∧
      (p.attempt.outcome (logged handler) (s, log)).2.2 = log ++ talk := by
  induction p generalizing s log with
  | pure value => exact ⟨[], .pure value, (List.append_nil log).symm⟩
  | throw error => exact ⟨[], .throw error, (List.append_nil log).symm⟩
  | call op next ih =>
      obtain ⟨talk, htalk, hlog⟩ := ih (handler op s).1 (handler op s).2 (log ++ [(op, (handler op s).1)])
      exact ⟨(op, (handler op s).1) :: talk, .call htalk, by rw [List.append_cons]; exact hlog⟩

end Program

end Remote
