import Router1.Remote.Parallel

/-!
# Programs that rely on one another

A program that goes on by turns with others finds the outside changed whenever it is resumed. What it
knows about the outside it still knows then if that is stable under `rely`, which is all that the others
do. In turn every call it makes is in `guar`, which the others may count on. `Meets` lays a stable
assertion behind every call of a program, from one that holds at the start to one that holds at the end.
-/

namespace Remote

open Program (Handler request)

variable {Op : Type} {Ans : Op → Type} {ε α β : Type} {σ : Type}

/-- What the others do does not make the assertion false. -/
def Stable (rely : σ → σ → Prop) (I : σ → Prop) : Prop := ∀ s t, I s → rely s t → I t

theorem Stable.and {rely : σ → σ → Prop} {I J : σ → Prop} (hI : Stable rely I) (hJ : Stable rely J) :
    Stable rely fun s => I s ∧ J s := fun s t hs hst => ⟨hI s t hs.1 hst, hJ s t hs.2 hst⟩

/-- One of the parties: who answers its calls, what the others do, and which calls it may make. -/
structure Party (Op : Type) (Ans : Op → Type) (σ : Type) where
  handler : Handler Op Ans σ
  rely : σ → σ → Prop
  guar : Op → Prop

namespace Party

variable {party : Party Op Ans σ} {pre pre' : σ → Prop} {post post' : α → σ → Prop}
  {fails : ε → σ → Prop} {p q : Program Op Ans ε α} {s t : σ}

/-- Started in `pre`, the program ends in `post` with the value it returns or in `fails` with the error
it throws, whatever the others do in between. -/
def Meets (party : Party Op Ans σ) (post : α → σ → Prop) (fails : ε → σ → Prop) :
    (σ → Prop) → Program Op Ans ε α → Prop
  | pre, .pure value => ∀ s, pre s → post value s
  | pre, .throw error => ∀ s, pre s → fails error s
  | pre, .call op next =>
      (∀ s, pre s → party.guar op) ∧
        ∃ mid : Ans op → σ → Prop, (∀ answer, Stable party.rely (mid answer)) ∧
          (∀ s, pre s → mid (party.handler op s).1 (party.handler op s).2) ∧
          ∀ answer, party.Meets post fails (mid answer) (next answer)

/-! ### Rules -/

theorem Meets.of_imp (h : party.Meets post fails pre p) (hpre : ∀ s, pre' s → pre s) :
    party.Meets post fails pre' p := by
  cases p with
  | pure value => exact fun s hs => h s (hpre s hs)
  | throw error => exact fun s hs => h s (hpre s hs)
  | call op next =>
      obtain ⟨hguar, mid, hstable, hstep, hnext⟩ := h
      exact ⟨fun s hs => hguar s (hpre s hs), mid, hstable, fun s hs => hstep s (hpre s hs), hnext⟩

theorem Meets.imp {fails' : ε → σ → Prop} (h : party.Meets post fails pre p)
    (hpost : ∀ value s, post value s → post' value s) (hfails : ∀ error s, fails error s → fails' error s) :
    party.Meets post' fails' pre p := by
  induction p generalizing pre with
  | pure value => exact fun s hs => hpost value s (h s hs)
  | throw error => exact fun s hs => hfails error s (h s hs)
  | call op next ih =>
      obtain ⟨hguar, mid, hstable, hstep, hnext⟩ := h
      exact ⟨hguar, mid, hstable, hstep, fun answer => ih answer (hnext answer)⟩

theorem Meets.returning (h : party.Meets post fails pre p) : party.Meets post (fun _ _ => True) pre p :=
  h.imp (fun _ _ hpost => hpost) fun _ _ _ => trivial

theorem meets_of_false (p : Program Op Ans ε α) : party.Meets post fails (fun _ => False) p := by
  induction p with
  | pure value => exact fun s hs => hs.elim
  | throw error => exact fun s hs => hs.elim
  | call op next ih =>
      exact ⟨fun s hs => hs.elim, fun _ _ => False, fun _ _ _ hs _ => hs, fun s hs => hs, ih⟩

/-- What does not depend on the outside may be taken for granted. -/
theorem meets_of_fact {φ : Prop} (h : φ → party.Meets post fails pre p) :
    party.Meets post fails (fun s => φ ∧ pre s) p := by
  by_cases hφ : φ
  · exact (h hφ).of_imp fun s hs => hs.2
  · exact (meets_of_false p).of_imp fun s hs => hφ hs.1

theorem meets_pure {value : α} (h : ∀ s, pre s → post value s) :
    party.Meets post fails pre (Pure.pure value) := h

theorem meets_throw {error : ε} (h : ∀ s, pre s → fails error s) :
    party.Meets post fails pre (MonadExcept.throw error : Program Op Ans ε α) := h

theorem meets_request {op : Op} {post : Ans op → σ → Prop} (hguar : party.guar op)
    (hstable : ∀ answer, Stable party.rely (post answer))
    (hstep : ∀ s, pre s → post (party.handler op s).1 (party.handler op s).2) :
    party.Meets post fails pre (request op : Program Op Ans ε (Ans op)) :=
  ⟨fun _ _ => hguar, post, hstable, hstep, fun _ _ hs => hs⟩

theorem Meets.bind {mid : β → σ → Prop} {p : Program Op Ans ε β} {next : β → Program Op Ans ε α}
    (hp : party.Meets mid fails pre p) (hnext : ∀ value, party.Meets post fails (mid value) (next value)) :
    party.Meets post fails pre (p >>= next) := by
  induction p generalizing pre with
  | pure value => exact (hnext value).of_imp hp
  | throw error => exact hp
  | call op rest ih =>
      obtain ⟨hguar, inner, hstable, hstep, hrest⟩ := hp
      exact ⟨hguar, inner, hstable, hstep, fun answer => ih answer (hrest answer)⟩

theorem Meets.tryCatch {raised : ε → σ → Prop} {handle : ε → Program Op Ans ε α}
    (hp : party.Meets post raised pre p)
    (hhandle : ∀ error, party.Meets post fails (raised error) (handle error)) :
    party.Meets post fails pre (MonadExcept.tryCatch p handle) := by
  induction p generalizing pre with
  | pure value => exact hp
  | throw error => exact (hhandle error).of_imp hp
  | call op rest ih =>
      obtain ⟨hguar, inner, hstable, hstep, hrest⟩ := hp
      exact ⟨hguar, inner, hstable, hstep, fun answer => ih answer (hrest answer)⟩

/-- **The frame rule.** A program whose calls all keep a stable assertion keeps it. -/
theorem meets_of_calls {P : Op → Prop} {I : σ → Prop} (hp : p.Calls P) (hI : Stable party.rely I)
    (hguar : ∀ op, P op → party.guar op) (hkeeps : ∀ op s, P op → I s → I (party.handler op s).2) :
    party.Meets (fun _ => I) (fun _ => I) I p := by
  induction p with
  | pure value => exact fun _ hs => hs
  | throw error => exact fun _ hs => hs
  | call op next ih =>
      exact ⟨fun _ _ => hguar op hp.1, fun _ => I, fun _ => hI, fun s hs => hkeeps op s hp.1 hs,
        fun answer => ih answer (hp.2 answer)⟩

/-! ### Along an interleaving -/

/-- What is left of the program meets its end from where the outside is now. -/
def Holds (party : Party Op Ans σ) (post : α → σ → Prop) (fails : ε → σ → Prop)
    (p : Program Op Ans ε α) (s : σ) : Prop :=
  ∃ pre, Stable party.rely pre ∧ pre s ∧ party.Meets post fails pre p

theorem Holds.others (h : party.Holds post fails p s) (hrely : party.rely s t) :
    party.Holds post fails p t := by
  obtain ⟨pre, hstable, hs, hmeets⟩ := h
  exact ⟨pre, hstable, hstable s t hs hrely, hmeets⟩

theorem Holds.returned {value : α} (h : party.Holds post fails (.pure value) s) : post value s := by
  obtain ⟨pre, -, hs, hmeets⟩ := h
  exact hmeets s hs

theorem Holds.waitsAt (h : party.Holds post fails p s) {op : Op} (hop : p.waitsAt = some op) :
    party.guar op := by
  obtain ⟨pre, -, hs, hmeets⟩ := h
  cases p with
  | pure value => cases hop
  | throw error => cases hop
  | call op next =>
      cases hop
      exact hmeets.1 s hs

theorem Holds.answered {op : Op} {next : Ans op → Program Op Ans ε α}
    (h : party.Holds post fails (.call op next) s) :
    party.Holds post fails (next (party.handler op s).1) (party.handler op s).2 := by
  obtain ⟨pre, -, hs, -, mid, hstable, hstep, hnext⟩ := h
  exact ⟨mid _, hstable _, hstep s hs, hnext _⟩

theorem Holds.settle (h : party.Holds post fails p s) (awaited : Op → Bool) :
    party.Holds post fails (p.settle party.handler awaited s).1 (p.settle party.handler awaited s).2 := by
  induction p generalizing s with
  | pure value => exact h
  | throw error => exact h
  | call op next ih =>
      rw [Program.settle]
      split
      · exact h
      · exact ih _ h.answered

theorem Holds.resume {awaited : Op → Bool} (h : party.Holds post fails p s)
    (hresume : p.resume party.handler awaited s = some (q, t)) : party.Holds post fails q t := by
  cases p with
  | pure value => cases hresume
  | throw error => cases hresume
  | call op next =>
      have hsettled := h.answered.settle awaited
      rw [Program.resume, Option.some.injEq] at hresume
      rwa [hresume] at hsettled

end Party

end Remote
