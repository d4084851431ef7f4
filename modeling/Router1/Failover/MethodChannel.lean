import Router1.Failover.GoBackend
import Router1.Remote.Runs

/-!
# The answers of the method channel

`prepare` and `connect` answer at once, from a job of the executor, or when the permission dialog they
open returns. The call that waits for a dialog stands in fields of the activity, of which there is one set
for all dialogs: a second dialog that is opened before the first has returned takes the place of the first
call, which is then answered by nobody.

Every call holds one token, which is in the field of the pending result, in the queue of the executor or
among the answers. No step makes a second one; the only step that loses one is a dialog that is opened
over another.
-/

namespace Failover

open Remote

inductive ChannelCall where
  | prepare
  | connect (config serverCode : String)
  deriving DecidableEq, Repr

/-- What a `Result` receives. The answers to a dialog carry the call that has opened it, and the ones from
the executor the arguments they were made from. -/
inductive Answer where
  | permitted
  | permission (dialog : Nat) (granted : Bool)
  | emptyConfig
  | denied (dialog : Nat)
  | ran (config serverCode : String) (failure : Option String)
  deriving DecidableEq, Repr

/-- An open dialog: with request code 7002 for `connect` and 7001 for `prepare`, and the call that has
opened it. -/
structure Dialog where
  connects : Bool
  opener : Nat
  deriving DecidableEq, Repr

/-- A block that `runAsync` has given to the executor. -/
structure Job where
  result : Nat
  config : String
  serverCode : String
  deriving DecidableEq, Repr

/-- The fields of the activity, with the calls so far, which are numbered in their order, and the answers
they have received. -/
structure Channel where
  calls : List ChannelCall := []
  pendingResult : Option Nat := none
  pendingConfig : Option String := none
  pendingServerCode : Option String := none
  dialogs : List Dialog := []
  queue : List Job := []
  answers : List (Nat × Answer) := []
  deriving DecidableEq, Repr

/-- A call, for which `VpnService.prepare` asks for the dialog or not; the result of one of the open
dialogs, after which it may ask again; or the next job of the executor, which fails or not. -/
inductive ChannelEvent where
  | call (call : ChannelCall) (needsDialog : Bool)
  | activityResult (i : Nat) (granted needsDialog : Bool)
  | runs (failure : Option String)
  deriving DecidableEq, Repr

namespace Channel

def reply (s : Channel) (result : Nat) (answer : Answer) : Channel :=
  { s with answers := s.answers ++ [(result, answer)] }

/-- `connect` of the activity. -/
def connect (s : Channel) (config serverCode : String) (result : Nat) (needsDialog : Bool) : Channel :=
  if needsDialog then
    { s with
      pendingConfig := some config
      pendingServerCode := some serverCode
      pendingResult := some result
      dialogs := s.dialogs ++ [⟨true, result⟩] }
  else { s with queue := s.queue ++ [⟨result, config, serverCode⟩] }

/-- The handler of the channel. -/
def handle (s : Channel) (call : ChannelCall) (needsDialog : Bool) : Channel :=
  let called := { s with calls := s.calls ++ [call] }
  match call with
  | .prepare =>
      if needsDialog then
        { called with
          pendingResult := some s.calls.length
          dialogs := s.dialogs ++ [⟨false, s.calls.length⟩] }
      else called.reply s.calls.length .permitted
  | .connect config serverCode =>
      if isBlank config then called.reply s.calls.length .emptyConfig
      else called.connect config serverCode s.calls.length needsDialog

def onActivityResult (s : Channel) (dialog : Dialog) (granted needsDialog : Bool) : Channel :=
  let taken := { s with pendingResult := none }
  if dialog.connects then
    let cleared := { taken with pendingConfig := none, pendingServerCode := none }
    match s.pendingResult with
    | none => cleared
    | some result =>
        match s.pendingConfig with
        | some config =>
            if granted then cleared.connect config (s.pendingServerCode.getD "") result needsDialog
            else cleared.reply result (.denied dialog.opener)
        | none => cleared.reply result (.denied dialog.opener)
  else
    match s.pendingResult with
    | none => taken
    | some result => taken.reply result (.permission dialog.opener granted)

def step (s : Channel) : ChannelEvent → Option Channel
  | .call call needsDialog => some (s.handle call needsDialog)
  | .activityResult i granted needsDialog =>
      match s.dialogs[i]? with
      | some dialog =>
          some (onActivityResult { s with dialogs := s.dialogs.eraseIdx i } dialog granted needsDialog)
      | none => none
  | .runs failure =>
      match s.queue with
      | job :: rest =>
          some (reply { s with queue := rest } job.result (.ran job.config job.serverCode failure))
      | [] => none

/-! ### Calls and answers -/

/-- The answer is one to this call: from its own dialog or from its own arguments. -/
def Own (id : Nat) : ChannelCall → Answer → Prop
  | .prepare, .permitted => True
  | .prepare, .permission dialog _ => dialog = id
  | .connect config _, .emptyConfig => isBlank config = true
  | .connect _ _, .denied dialog => dialog = id
  | .connect config serverCode, .ran config' serverCode' _ => config' = config ∧ serverCode' = serverCode
  | _, _ => False

/-- Every call has received one answer, and that is its own. -/
def Answered (s : Channel) : Prop :=
  ∀ id call, s.calls[id]? = some call →
    ∃ answer, (s.answers.filter fun entry => entry.1 == id) = [(id, answer)] ∧ Own id call answer

def opens : ChannelCall → Bool → Bool
  | .prepare, needsDialog => needsDialog
  | .connect config _, needsDialog => !isBlank config && needsDialog

/-- A call that opens the dialog finds no other one open. -/
def OneDialog (s : Channel) : ChannelEvent → Prop
  | .call call needsDialog => opens call needsDialog = true → s.dialogs = []
  | _ => True

/-! ### Tokens -/

variable {s t : Channel} {e : ChannelEvent} {id : Nat} {es : List ChannelEvent}

/-- The places that hold a call: an answer, a job, the field. -/
def tokens (s : Channel) (id : Nat) : Nat :=
  s.answers.countP (fun entry => entry.1 == id) + s.queue.countP (fun job => job.result == id) +
    s.pendingResult.toList.countP (fun result => result == id)

/-- One, if the number is this one. -/
def unit (result id : Nat) : Nat := if (result == id) = true then 1 else 0

theorem tokens_reply (s : Channel) (result : Nat) (answer : Answer) :
    (s.reply result answer).tokens id = s.tokens id + unit result id := by
  simp only [tokens, reply, unit, List.countP_append, List.countP_singleton]
  omega

theorem tokens_connect (hpending : s.pendingResult = none) (config serverCode : String) (result : Nat)
    (needsDialog : Bool) :
    (s.connect config serverCode result needsDialog).tokens id = s.tokens id + unit result id := by
  rw [connect]
  cases needsDialog with
  | true => simp [tokens, unit, hpending]
  | false =>
      simp only [tokens, unit, Bool.false_eq_true, if_false, List.countP_append, List.countP_singleton]
      omega

theorem tokens_onActivityResult (s : Channel) (dialog : Dialog) (granted needsDialog : Bool) :
    (s.onActivityResult dialog granted needsDialog).tokens id = s.tokens id := by
  have htaken : ∀ result, s.pendingResult = some result →
      tokens { s with pendingResult := none } id + unit result id = s.tokens id := by
    intro result hresult
    simp [tokens, unit, hresult]
  have hnone : s.pendingResult = none → tokens { s with pendingResult := none } id = s.tokens id := by
    intro hresult
    simp [tokens, hresult]
  rw [onActivityResult]
  cases hresult : s.pendingResult with
  | none =>
      dsimp only
      split <;> exact hnone hresult
  | some result =>
      dsimp only
      split
      · split
        · split
          · rw [tokens_connect rfl]
            exact htaken result hresult
          · rw [tokens_reply]
            exact htaken result hresult
        · rw [tokens_reply]
          exact htaken result hresult
      · rw [tokens_reply]
        exact htaken result hresult

theorem tokens_handle (s : Channel) (call : ChannelCall) (needsDialog : Bool) (id : Nat) :
    (s.handle call needsDialog).tokens id +
        (if opens call needsDialog then s.pendingResult.toList.countP (fun result => result == id)
          else 0) =
      s.tokens id + unit s.calls.length id := by
  cases call with
  | prepare =>
      cases needsDialog with
      | true =>
          simp only [handle, opens, if_true, tokens, unit, Option.toList_some, List.countP_singleton]
          omega
      | false =>
          simp only [handle, opens, Bool.false_eq_true, if_false, tokens_reply]
          rfl
  | connect config serverCode =>
      by_cases hblank : isBlank config = true
      · simp only [handle, opens, hblank, if_true, Bool.not_true, Bool.false_and, Bool.false_eq_true,
          if_false, tokens_reply]
        rfl
      · rw [Bool.not_eq_true] at hblank
        cases needsDialog with
        | true =>
            simp only [handle, hblank, Bool.false_eq_true, if_false, connect, opens, if_true, tokens,
              unit, Bool.not_false, Bool.and_self, Option.toList_some, List.countP_singleton]
            omega
        | false =>
            simp only [handle, hblank, Bool.false_eq_true, if_false, connect, opens, tokens, unit,
              Bool.and_false, List.countP_append, List.countP_singleton]
            omega

theorem tokens_runs {job : Job} {rest : List Job} (hqueue : s.queue = job :: rest) (answer : Answer) :
    (reply { s with queue := rest } job.result answer).tokens id = s.tokens id := by
  rw [tokens_reply]
  simp only [tokens, unit, hqueue, List.countP_cons]
  omega

/-! ### One dialog at a time -/

/-- No dialog is open and no call is pending, or one is, with the call that has opened it. -/
inductive Waiting (s : Channel) : Prop
  | idle (hdialogs : s.dialogs = []) (hresult : s.pendingResult = none) : Waiting s
  | prepares {id : Nat} (hdialogs : s.dialogs = [⟨false, id⟩]) (hresult : s.pendingResult = some id)
      (hcall : s.calls[id]? = some .prepare) : Waiting s
  | connects {id : Nat} {config serverCode : String} (hdialogs : s.dialogs = [⟨true, id⟩])
      (hresult : s.pendingResult = some id) (hconfig : s.pendingConfig = some config)
      (hserver : s.pendingServerCode = some serverCode)
      (hcall : s.calls[id]? = some (.connect config serverCode)) : Waiting s

/-- Every call holds one token, and what is kept of a call is its own. -/
structure Sound (s : Channel) : Prop where
  tokens : ∀ id, s.tokens id = if id < s.calls.length then 1 else 0
  answers : ∀ entry ∈ s.answers, ∃ call, s.calls[entry.1]? = some call ∧ Own entry.1 call entry.2
  queue : ∀ job ∈ s.queue, s.calls[job.result]? = some (.connect job.config job.serverCode)
  waiting : Waiting s

theorem Waiting.result_eq_none (h : Waiting s) (hdialogs : s.dialogs = []) : s.pendingResult = none := by
  cases h with
  | idle _ hresult => exact hresult
  | prepares hopen | connects hopen => cases hdialogs.symm.trans hopen

theorem Waiting.of_same (h : Waiting s) (hdialogs : t.dialogs = s.dialogs)
    (hresult : t.pendingResult = s.pendingResult) (hconfig : t.pendingConfig = s.pendingConfig)
    (hserver : t.pendingServerCode = s.pendingServerCode) (hcalls : t.calls = s.calls) : Waiting t := by
  cases h with
  | idle hopen hpending => exact .idle (hdialogs.trans hopen) (hresult.trans hpending)
  | prepares hopen hpending hcall =>
      exact .prepares (hdialogs.trans hopen) (hresult.trans hpending) (by rw [hcalls]; exact hcall)
  | connects hopen hpending htext hcode hcall =>
      exact .connects (hdialogs.trans hopen) (hresult.trans hpending) (hconfig.trans htext)
        (hserver.trans hcode) (by rw [hcalls]; exact hcall)

theorem own_reply (hanswers : ∀ entry ∈ s.answers, ∃ call, s.calls[entry.1]? = some call ∧
      Own entry.1 call entry.2)
    {result : Nat} {call : ChannelCall} {answer : Answer} (hcall : s.calls[result]? = some call)
    (hown : Own result call answer) :
    ∀ entry ∈ (s.reply result answer).answers, ∃ call, s.calls[entry.1]? = some call ∧
      Own entry.1 call entry.2 := by
  intro entry hentry
  rw [reply, List.mem_append, List.mem_singleton] at hentry
  obtain hold | rfl := hentry
  · exact hanswers entry hold
  · exact ⟨call, hcall, hown⟩

theorem getElem?_calls_append {call later : ChannelCall} (hcall : s.calls[id]? = some call) :
    (s.calls ++ [later])[id]? = some call := by
  rw [List.getElem?_append_left (List.getElem?_eq_some_iff.mp hcall).1]
  exact hcall

theorem Waiting.append (h : Waiting s) (later : ChannelCall) :
    Waiting { s with calls := s.calls ++ [later] } := by
  cases h with
  | idle hdialogs hresult => exact .idle hdialogs hresult
  | prepares hdialogs hresult hcall => exact .prepares hdialogs hresult (getElem?_calls_append hcall)
  | connects hdialogs hresult hconfig hserver hcall =>
      exact .connects hdialogs hresult hconfig hserver (getElem?_calls_append hcall)

theorem calls_connect (s : Channel) (config serverCode : String) (result : Nat) (needsDialog : Bool) :
    (s.connect config serverCode result needsDialog).calls = s.calls := by
  cases needsDialog <;> rfl

theorem sound_connect {config serverCode : String} {result : Nat} {needsDialog : Bool}
    (htokens : ∀ id, (s.connect config serverCode result needsDialog).tokens id =
      if id < s.calls.length then 1 else 0)
    (hanswers : ∀ entry ∈ s.answers, ∃ call, s.calls[entry.1]? = some call ∧ Own entry.1 call entry.2)
    (hqueue : ∀ job ∈ s.queue, s.calls[job.result]? = some (.connect job.config job.serverCode))
    (hwaiting : Waiting s) (hdialogs : needsDialog = true → s.dialogs = [])
    (hcall : s.calls[result]? = some (.connect config serverCode)) :
    Sound (s.connect config serverCode result needsDialog) := by
  refine ⟨by rw [calls_connect]; exact htokens, ?_, ?_, ?_⟩
  · rw [calls_connect]
    cases needsDialog <;> exact hanswers
  · rw [calls_connect]
    cases needsDialog with
    | true => exact hqueue
    | false =>
        intro job hjob
        rw [connect, if_neg Bool.false_ne_true, List.mem_append, List.mem_singleton] at hjob
        obtain hold | rfl := hjob
        · exact hqueue job hold
        · exact hcall
  · cases needsDialog with
    | true =>
        refine .connects ?_ rfl rfl rfl hcall
        show s.dialogs ++ _ = _
        rw [hdialogs rfl]
        rfl
    | false => exact hwaiting.of_same rfl rfl rfl rfl rfl

theorem calls_handle (s : Channel) (call : ChannelCall) (needsDialog : Bool) :
    (s.handle call needsDialog).calls = s.calls ++ [call] := by
  cases call with
  | prepare => cases needsDialog <;> rfl
  | connect config serverCode =>
      simp only [handle, connect, reply]
      split
      · rfl
      · split <;> rfl

theorem Sound.tokens_handle (h : Sound s) {call : ChannelCall} {needsDialog : Bool}
    (hone : opens call needsDialog = true → s.dialogs = []) (id : Nat) :
    (s.handle call needsDialog).tokens id =
      if id < (s.handle call needsDialog).calls.length then 1 else 0 := by
  have hcount := Channel.tokens_handle s call needsDialog id
  have hkept : (if opens call needsDialog then
      s.pendingResult.toList.countP (fun result => result == id) else 0) = 0 := by
    split
    · next hopens =>
        rw [h.waiting.result_eq_none (hone hopens)]
        rfl
    · rfl
  rw [hkept, h.tokens id, unit] at hcount
  rw [calls_handle, List.length_append, List.length_singleton]
  simp only [beq_iff_eq] at hcount
  split at hcount <;> split at hcount <;> split <;> omega

theorem Sound.handle (h : Sound s) {call : ChannelCall} {needsDialog : Bool}
    (hone : opens call needsDialog = true → s.dialogs = []) : Sound (s.handle call needsDialog) := by
  have hlast : (s.calls ++ [call])[s.calls.length]? = some call := by simp
  have hanswers : ∀ entry ∈ s.answers, ∃ own, (s.calls ++ [call])[entry.1]? = some own ∧
      Own entry.1 own entry.2 := by
    intro entry hentry
    obtain ⟨own, hcall, hown⟩ := h.answers entry hentry
    exact ⟨own, getElem?_calls_append hcall, hown⟩
  have hqueue : ∀ job ∈ s.queue, (s.calls ++ [call])[job.result]? =
      some (.connect job.config job.serverCode) :=
    fun job hjob => getElem?_calls_append (h.queue job hjob)
  have hwaiting : Waiting { s with calls := s.calls ++ [call] } := h.waiting.append call
  have hnew : ∀ answer, Own s.calls.length call answer →
      ∀ entry ∈ s.answers ++ [(s.calls.length, answer)],
        ∃ own, (s.calls ++ [call])[entry.1]? = some own ∧ Own entry.1 own entry.2 :=
    fun answer hown => own_reply (s := { s with calls := s.calls ++ [call] }) hanswers hlast hown
  have htokens := h.tokens_handle hone
  cases call with
  | prepare =>
      cases needsDialog with
      | true =>
          refine ⟨htokens, hanswers, hqueue, .prepares ?_ rfl hlast⟩
          show s.dialogs ++ _ = _
          rw [hone rfl]
          rfl
      | false =>
          exact ⟨htokens, hnew .permitted trivial, hqueue, hwaiting.of_same rfl rfl rfl rfl rfl⟩
  | connect config serverCode =>
      rw [Channel.handle] at htokens ⊢
      by_cases hblank : isBlank config = true
      · simp only [hblank, if_true] at htokens ⊢
        exact ⟨htokens, hnew .emptyConfig hblank, hqueue, hwaiting.of_same rfl rfl rfl rfl rfl⟩
      · simp only [hblank, Bool.false_eq_true, if_false] at htokens ⊢
        have hdialogs : needsDialog = true → s.dialogs = [] := by
          intro hneeds
          refine hone ?_
          simp [opens, hblank, hneeds]
        refine sound_connect (fun id => ?_) hanswers hqueue hwaiting hdialogs hlast
        rw [htokens id, calls_connect]

theorem Sound.onActivityResult (h : Sound s) {i : Nat} {dialog : Dialog} (hdialog : s.dialogs[i]? = some dialog)
    (granted needsDialog : Bool) :
    Sound (Channel.onActivityResult { s with dialogs := s.dialogs.eraseIdx i } dialog granted
      needsDialog) := by
  have htokens : ∀ id, (Channel.onActivityResult { s with dialogs := s.dialogs.eraseIdx i } dialog granted
      needsDialog).tokens id = if id < s.calls.length then 1 else 0 := by
    intro id
    rw [tokens_onActivityResult]
    exact h.tokens id
  have hfirst : ∀ only, s.dialogs = [only] → dialog = only ∧ s.dialogs.eraseIdx i = [] := by
    intro only honly
    rw [honly] at hdialog ⊢
    cases i with
    | zero => exact ⟨(Option.some.inj hdialog).symm, rfl⟩
    | succ i => cases hdialog
  cases h.waiting with
  | idle hopen => simp [hopen] at hdialog
  | prepares hopen hresult hcall =>
      obtain ⟨rfl, hleft⟩ := hfirst _ hopen
      simp only [Channel.onActivityResult, Bool.false_eq_true, if_false, hresult] at htokens ⊢
      refine ⟨htokens, ?_, h.queue, .idle hleft rfl⟩
      exact own_reply h.answers hcall rfl
  | @connects id config serverCode hopen hresult hconfig hserver hcall =>
      obtain ⟨rfl, hleft⟩ := hfirst _ hopen
      simp only [Channel.onActivityResult, if_true, hresult, hconfig, hserver, Option.getD_some] at htokens ⊢
      cases granted with
      | true =>
          simp only [if_true] at htokens ⊢
          exact sound_connect htokens h.answers h.queue (.idle hleft rfl) (fun _ => hleft) hcall
      | false =>
          simp only [Bool.false_eq_true, if_false] at htokens ⊢
          refine ⟨htokens, ?_, h.queue, .idle hleft rfl⟩
          exact own_reply h.answers hcall rfl

theorem Sound.step (h : Sound s) (hone : s.OneDialog e) (hstep : s.step e = some t) : Sound t := by
  cases e with
  | call call needsDialog =>
      cases hstep
      exact h.handle hone
  | activityResult i granted needsDialog =>
      rw [Channel.step] at hstep
      split at hstep
      · next dialog hdialog =>
          cases hstep
          exact h.onActivityResult hdialog granted needsDialog
      · cases hstep
  | runs failure =>
      rw [Channel.step] at hstep
      split at hstep
      · next job rest hqueue =>
          cases hstep
          have hjob := h.queue job (by rw [hqueue]; exact List.mem_cons_self)
          refine ⟨fun id => ?_, ?_, ?_, h.waiting.of_same rfl rfl rfl rfl rfl⟩
          · rw [tokens_runs hqueue]
            exact h.tokens id
          · exact own_reply (s := { s with queue := rest }) h.answers hjob ⟨rfl, rfl⟩
          · intro later hlater
            exact h.queue later (by rw [hqueue]; exact List.mem_cons_of_mem _ hlater)
      · cases hstep

/-- With nothing open and nothing queued, the tokens are the answers. -/
theorem Sound.answered (h : Sound s) (hdialogs : s.dialogs = []) (hqueue : s.queue = []) :
    Answered s := by
  intro id call hcall
  have hresult := h.waiting.result_eq_none hdialogs
  have hlt : id < s.calls.length := (List.getElem?_eq_some_iff.mp hcall).1
  have hone : s.answers.countP (fun entry => entry.1 == id) = 1 := by
    have htoken := h.tokens id
    simpa [Channel.tokens, hqueue, hresult, hlt] using htoken
  rw [List.countP_eq_length_filter, List.length_eq_one_iff] at hone
  obtain ⟨entry, hentry⟩ := hone
  have hmem : entry ∈ s.answers.filter fun entry => entry.1 == id := by
    rw [hentry]
    exact List.mem_singleton_self entry
  rw [List.mem_filter, beq_iff_eq] at hmem
  obtain ⟨own, hown, hanswer⟩ := h.answers entry hmem.1
  rw [hmem.2] at hown hanswer
  obtain rfl : own = call := Option.some.inj (hown.symm.trans hcall)
  refine ⟨entry.2, ?_, hanswer⟩
  rw [hentry, ← hmem.2]

/-! ### A call that lost its token -/

theorem calls_onActivityResult (s : Channel) (dialog : Dialog) (granted needsDialog : Bool) :
    (s.onActivityResult dialog granted needsDialog).calls = s.calls := by
  rw [onActivityResult]
  split
  · cases s.pendingResult with
    | none => rfl
    | some result =>
        cases s.pendingConfig with
        | none => rfl
        | some config =>
            cases granted with
            | true => exact calls_connect _ _ _ _ _
            | false => rfl
  · cases s.pendingResult <;> rfl

theorem tokens_step_le (hstep : s.step e = some t) (hid : id < s.calls.length) :
    t.tokens id ≤ s.tokens id ∧ id < t.calls.length := by
  cases e with
  | call call needsDialog =>
      cases hstep
      have hcount := tokens_handle s call needsDialog id
      have hother : unit s.calls.length id = 0 := by
        rw [unit, if_neg]
        rw [beq_iff_eq]
        omega
      rw [calls_handle, List.length_append]
      omega
  | activityResult i granted needsDialog =>
      rw [step] at hstep
      split at hstep
      · next dialog _ =>
          cases hstep
          rw [tokens_onActivityResult, calls_onActivityResult]
          exact ⟨Nat.le_refl _, hid⟩
      · cases hstep
  | runs failure =>
      rw [step] at hstep
      split at hstep
      · next job rest hqueue =>
          cases hstep
          rw [tokens_runs hqueue]
          exact ⟨Nat.le_refl _, hid⟩
      · cases hstep

theorem tokens_runEvents_le (hrun : runEvents step s es = some t) (hid : id < s.calls.length) :
    t.tokens id ≤ s.tokens id ∧ id < t.calls.length := by
  induction es generalizing s with
  | nil =>
      cases hrun
      exact ⟨Nat.le_refl _, hid⟩
  | cons e es ih =>
      rw [runEvents] at hrun
      split at hrun
      · next next hstep =>
          obtain ⟨hle, hmade⟩ := tokens_step_le hstep hid
          obtain ⟨hrest, hlast⟩ := ih hrun hmade
          exact ⟨Nat.le_trans hrest hle, hlast⟩
      · cases hrun

theorem Sound.exists_lost (h : Sound s) (hone : ¬s.OneDialog e) (hstep : s.step e = some t) :
    ∃ id, id < t.calls.length ∧ t.tokens id = 0 := by
  cases e with
  | call call needsDialog =>
      rw [OneDialog, Classical.not_imp] at hone
      obtain ⟨hopens, hdialogs⟩ := hone
      cases hstep
      obtain ⟨id, hresult, hmade⟩ : ∃ id, s.pendingResult = some id ∧ id < s.calls.length := by
        cases h.waiting with
        | idle hopen => exact absurd hopen hdialogs
        | prepares _ hresult hcall => exact ⟨_, hresult, (List.getElem?_eq_some_iff.mp hcall).1⟩
        | connects _ hresult _ _ hcall => exact ⟨_, hresult, (List.getElem?_eq_some_iff.mp hcall).1⟩
      have hcount := Channel.tokens_handle s call needsDialog id
      have hother : unit s.calls.length id = 0 := by
        rw [unit, if_neg]
        rw [beq_iff_eq]
        omega
      rw [if_pos hopens, hresult, h.tokens id, if_pos hmade, hother, Option.toList_some,
        List.countP_singleton, if_pos (beq_self_eq_true id)] at hcount
      refine ⟨id, ?_, by omega⟩
      rw [calls_handle, List.length_append]
      omega
  | activityResult | runs => exact absurd trivial hone

theorem Answered.tokens_pos (h : Answered s) (hid : id < s.calls.length) : 0 < s.tokens id := by
  obtain ⟨answer, hanswer, -⟩ := h id _ (List.getElem?_eq_getElem hid)
  have hcount : s.answers.countP (fun entry => entry.1 == id) = 1 := by
    rw [List.countP_eq_length_filter, hanswer, List.length_singleton]
  rw [tokens]
  omega

/-- **Answers.** Once all dialogs have returned and all jobs have run, every call has its one own answer if
and only if no call has opened a dialog over another. -/
theorem Sound.answered_iff (h : Sound s) (hrun : runEvents Channel.step s es = some t)
    (hdialogs : t.dialogs = []) (hqueue : t.queue = []) :
    Answered t ↔ AllAllowed Channel.step OneDialog s es := by
  induction es generalizing s with
  | nil =>
      cases hrun
      exact iff_of_true (h.answered hdialogs hqueue) trivial
  | cons e es ih =>
      rw [runEvents] at hrun
      split at hrun
      · next next hstep =>
          rw [AllAllowed, hstep]
          by_cases hone : s.OneDialog e
          · rw [ih (h.step hone hstep) hrun]
            exact ⟨fun hrest => ⟨hone, hrest⟩, fun hall => hall.2⟩
          · refine iff_of_false ?_ fun hall => hone hall.1
            intro hanswered
            obtain ⟨id, hmade, hlost⟩ := h.exists_lost hone hstep
            obtain ⟨hle, hlast⟩ := tokens_runEvents_le hrun hmade
            have hpos := hanswered.tokens_pos hlast
            omega
      · cases hrun

theorem sound_start : Sound {} := by
  refine ⟨fun id => rfl, nofun, nofun, .idle rfl rfl⟩

theorem every_call_answered_iff (hrun : runEvents step {} es = some s) (hdialogs : s.dialogs = [])
    (hqueue : s.queue = []) : Answered s ↔ AllAllowed step OneDialog {} es :=
  sound_start.answered_iff hrun hdialogs hqueue

/-! ### Two dialogs -/

/-- `connect` is called while the dialog of `prepare` is open; both dialogs are then granted. -/
def overlapping : List ChannelEvent :=
  [.call .prepare true, .call (.connect "[Interface]" "fr") true, .activityResult 0 true false,
    .activityResult 0 true false]

/-- `connect` gets the answer of `prepare`, and `prepare` none. -/
theorem overlapping_not_answered :
    ¬∀ (es : List ChannelEvent) (s : Channel), runEvents step {} es = some s → s.dialogs = [] →
      s.queue = [] → Answered s := by
  intro hclaim
  have hrun : runEvents step {} overlapping = some
      { calls := [.prepare, .connect "[Interface]" "fr"], answers := [(1, .permission 0 true)] } := by
    decide +kernel
  obtain ⟨answer, hanswer, -⟩ := hclaim overlapping _ hrun rfl rfl 0 .prepare rfl
  cases hanswer

/-- The same calls, one dialog after the other. -/
def oneAfterAnother : List ChannelEvent :=
  [.call .prepare true, .activityResult 0 true false, .call (.connect "[Interface]" "fr") true,
    .activityResult 0 true false, .runs none]

theorem oneAfterAnother_answered :
    ∃ s, runEvents step {} oneAfterAnother = some s ∧ s.calls.length = 2 ∧ Answered s := by
  have hrun : runEvents step {} oneAfterAnother = some
      { calls := [.prepare, .connect "[Interface]" "fr"]
        answers := [(0, .permission 0 true), (1, .ran "[Interface]" "fr" none)] } := by
    decide +kernel
  have hone : AllAllowed step OneDialog {} oneAfterAnother :=
    ⟨fun _ => rfl, trivial, fun _ => rfl, trivial, trivial, trivial⟩
  exact ⟨_, hrun, rfl, (every_call_answered_iff hrun rfl rfl).mpr hone⟩

end Channel

end Failover
