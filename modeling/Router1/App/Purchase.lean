import Router1.App.Entitlement
import Router1.Remote.Program

/-!
# Who is charged

`PaymentPage.pay` looks the customer up and creates an order only for one who has no config yet;
`ClientPhoneLookupPage.submit` sends only such a customer on to the payment. Both wrap the lookup, the
download of the config found and the callback in one `try`, whose `catch` takes every exception for a
customer who is not known.

Here the two pages are programs over the calls they make. An execution is a run against outcomes, one for
each call in the order of the calls, and leaves the calls with their answers behind. A page that is left
while it waits is disposed: `setState` then throws, unless it is guarded by `mounted`.
-/

namespace App.Purchase

open Dart Remote

/-- An exception, with what the pages read of it. -/
inductive Raised where
  | api (statusCode : Int) (message : String)
  | other
  deriving DecidableEq, Repr

structure Router1Order where
  orderId : String
  paymentUrl : String
  freeTrial : Bool
  trialMode : Router1RouteProfileKind
  modeLocked : Bool
  deriving DecidableEq, Repr

/-- An assignment to a field of a page. -/
inductive Update where
  | loading (value : Bool)
  | error (text : Option String)
  | status (text : String)
  | order (order : Router1Order)
  | trialMode (mode : Router1RouteProfileKind)
  deriving DecidableEq, Repr

/-- A call of a page to the server, to the shell around it, to the browser or to its own widget.
`setState` is the unguarded one after an await; `update` stands where the page is known to be mounted. -/
inductive Op where
  | findClientByPhone (phone : String)
  | getConfig (phone : String) (deviceId : Int)
  | createRouterOrder (name phone : String) (testMode : Bool) (trialMode : Router1RouteProfileKind)
      (refCode : String)
  | launchUrl (url : String)
  | onExistingConfig (name phone configText : String) (trialMode : Option Router1RouteProfileKind)
  | onNeedsPayment (name phone : String)
  | onLog (success : Bool)
  | setState (updates : List Update)
  | update (updates : List Update)
  | readTrialMode
  | readPromo
  | startPolling
  deriving DecidableEq, Repr

abbrev Op.Answer : Op → Type
  | findClientByPhone _ => Except Raised Router1ClientLookup
  | getConfig _ _ => Except Raised (List (String × Json))
  | createRouterOrder _ _ _ _ _ => Except Raised Router1Order
  | launchUrl _ => Except Raised Bool
  | onExistingConfig _ _ _ _ | onNeedsPayment _ _ | setState _ => Except Raised Unit
  | onLog _ | update _ | startPolling => Unit
  | readTrialMode => Router1RouteProfileKind
  | readPromo => String

abbrev Page := Program Op Op.Answer Raised

def update (updates : List Update) : Page Unit := Program.request (Op.update updates)

def setState (updates : List Update) : Page Unit := do
  Program.ofExcept (← Program.request (.setState updates))

def onExistingConfig (name phone configText : String) (trialMode : Option Router1RouteProfileKind) :
    Page Unit := do
  Program.ofExcept (← Program.request (.onExistingConfig name phone configText trialMode))

def onNeedsPayment (name phone : String) : Page Unit := do
  Program.ofExcept (← Program.request (.onNeedsPayment name phone))

def onLog (success : Bool) : Page Unit := Program.request (Op.onLog success)

def startPolling : Page Unit := Program.request Op.startPolling

def findClientByPhone (phone : String) : Page Router1ClientLookup := do
  Program.ofExcept (← Program.request (.findClientByPhone phone))

/-- The text in the answer to a download; an empty one is refused. -/
def configText (data : List (String × Json)) : Except Raised String :=
  let text := ((Json.get data "config_text").toText?).getD ""
  if text.isEmpty then .error .other else .ok text

def fetchClientConfigText (phone : String) (deviceId : Int) : Page String := do
  let data ← Program.ofExcept (← Program.request (.getConfig phone deviceId))
  Program.ofExcept (configText data)

/-- `try … finally`. -/
def tryFinally (body last : Page Unit) : Page Unit := do
  let result ← MonadExcept.tryCatch (do body; pure (.ok ())) fun error => pure (Except.error error)
  last
  Program.ofExcept result

/-! ### `pay` -/

/-- The name under which a customer found is served. -/
def servedName (lookup : Router1ClientLookup) (name : String) : String :=
  if lookup.clientName.isEmpty then nameOr name else lookup.clientName

/-- `pay` after the lookup, up to the end of the inner `try`; whether it returns there. -/
def serve (testMode : Bool) (name phone : String) (lookup : Router1ClientLookup) : Page Bool := do
  match lookup.recommendedConfig with
  | some config =>
      let text ← fetchClientConfigText phone config.id
      onExistingConfig (servedName lookup name) phone text none
      pure true
  | none =>
      if testMode then
        match lookup.activeTrialConfig true with
        | some config =>
            let text ← fetchClientConfigText phone config.id
            onExistingConfig (servedName lookup name) phone text (lookup.trial.map (·.mode))
            pure true
        | none =>
            match lookup.trial with
            | some trial =>
                if trial.active && !trial.orderId.isEmpty then
                  setState [.trialMode trial.mode, .order ⟨trial.orderId, "", true, trial.mode, true⟩,
                    .status "Восстанавливаем бесплатный доступ. Готовим конфиг..."]
                  startPolling
                  pure true
                else pure false
            | none => pure false
      else pure false

/-- The payment link is shown when the browser does not open it. -/
def openLink : List Update :=
  [.status "Откройте ссылку ниже, оплатите и нажмите «Я оплатил — продолжить».", .error none]

/-- `pay` from the message before `createRouterOrder` on. Which links a browser can be asked to open is
what `Uri.tryParse` says. -/
def createOrder (isWebUri : String → Bool) (testMode : Bool) (name phone : String) : Page Unit := do
  update [.status (if testMode then "Конфиг не найден. Создаём тестовый доступ..."
    else "Конфиг не найден. Создаём заказ...")]
  let trialMode ← Program.request .readTrialMode
  let refCode ← Program.request .readPromo
  let created ← Program.ofExcept
    (← Program.request (.createRouterOrder (nameOr name) phone testMode trialMode refCode))
  setState [.order created, .status (if created.freeTrial then "Бесплатный доступ создан. Готовим конфиг..."
    else "Оплатите в браузере, вернитесь сюда и нажмите «Я оплатил — продолжить».")]
  if created.freeTrial then startPolling
  else
    if isWebUri created.paymentUrl then
      MonadExcept.tryCatch (do
        let opened ← Program.ofExcept (← Program.request (.launchUrl created.paymentUrl))
        if opened then pure () else update openLink) fun _ => update openLink
    else
      setState [.status "Ссылка оплаты создана, но приложение не смогло открыть браузер.", .error none]
    startPolling

/-- The error shown for an exception. -/
def payError : Raised → String
  | .api statusCode message =>
      if statusCode = 409 then
        "Бесплатные 3 дня уже активированы для этого номера. Повторите вход — Router1 восстановит конфиг."
      else "Сервис временно недоступен: " ++ message
  | .other => "Не удалось создать доступ. Проверьте интернет и попробуйте ещё раз."

/-- The inner `try` of `pay`: any exception sends it on to create an order. -/
def lookUp (testMode : Bool) (name phone : String) : Page Bool :=
  MonadExcept.tryCatch (do serve testMode name phone (← findClientByPhone phone)) fun _ => pure false

def pay (isWebUri : String → Bool) (testMode : Bool) (nameText phoneText : String) : Page Unit := do
  let name := trim nameText
  let phone := trim phoneText
  if phone.isEmpty || tooFewDigits phone then update [.error (some "Введите телефон клиента.")]
  else
    update [.loading true, .error none, .status "Проверяем, есть ли уже оформленный конфиг..."]
    tryFinally
      (MonadExcept.tryCatch (do
        let served ← lookUp testMode name phone
        if served then pure () else createOrder isWebUri testMode name phone)
        fun error => setState [.error (some (payError error))])
      (update [.loading false])

/-! ### `submit` -/

/-- The customer is sent on to the payment. -/
def sendOn (name phone : String) : Page Unit := do
  onLog false
  onNeedsPayment name phone

/-- `submit` after the lookup. -/
def serveOrSend (name phone : String) (lookup : Router1ClientLookup) : Page Unit := do
  match lookup.recommendedConfig with
  | some config =>
      let text ← fetchClientConfigText phone config.id
      onLog true
      onExistingConfig (if lookup.clientName.isEmpty then name else lookup.clientName) phone text none
  | none => sendOn name phone

def submit (nameText phoneText : String) : Page Unit := do
  let name := nameOr (trim nameText)
  let phone := trim phoneText
  if tooFewDigits phone then update [.error (some "Введите телефон клиента.")]
  else
    update [.loading true, .error none, .status "Проверяем активный конфиг Router1..."]
    tryFinally
      (MonadExcept.tryCatch (do
        let lookup ← findClientByPhone phone
        serveOrSend name phone lookup)
        fun _ => sendOn name phone)
      (update [.loading false])

/-! ### Executions -/

/-- What the calls of an execution are answered with, by their number. -/
abbrev Outcomes := Nat → (op : Op) → op.Answer

/-- The calls made, with their answers. -/
abbrev Trace := List ((op : Op) × op.Answer)

def Outcomes.handle (outcomes : Outcomes) : Program.Handler Op Op.Answer Trace := fun op calls =>
  (outcomes calls.length op, calls ++ [⟨op, outcomes calls.length op⟩])

def trace (outcomes : Outcomes) (page : Page Unit) : Trace := (page.run outcomes.handle []).2

def Op.isOrder : Op → Bool
  | createRouterOrder _ _ _ _ _ => true
  | _ => false

def Op.isPayment : Op → Bool
  | onNeedsPayment _ _ => true
  | _ => false

def Op.isLookup : Op → Bool
  | findClientByPhone _ => true
  | _ => false

/-- A lookup of the execution succeeded and recommends a config. -/
def FoundConfig (calls : Trace) : Prop :=
  ∃ phone lookup, ⟨.findClientByPhone phone, .ok lookup⟩ ∈ calls ∧ lookup.recommendedConfig ≠ none

def Makes (kind : Op → Bool) (calls : Trace) : Prop := ∃ call ∈ calls, kind call.1 = true

/-- An execution that finds a config makes no call of this kind. -/
def NeverAfterFound (kind : Op → Bool) (calls : Trace) : Prop := FoundConfig calls → ¬Makes kind calls

/-! ### What an execution leaves behind -/

section

variable {α β : Type} {outcomes : Outcomes} {kind : Op → Bool} {calls : Trace} {p : Page α}

theorem makes_append {calls others : Trace} :
    Makes kind (calls ++ others) ↔ Makes kind calls ∨ Makes kind others := by
  simp only [Makes, List.mem_append, or_and_right, exists_or]

theorem makes_singleton {call : (op : Op) × op.Answer} : Makes kind [call] ↔ kind call.1 = true := by
  simp only [Makes, List.mem_singleton, exists_eq_left]

theorem Makes.run (h : Makes kind calls) : Makes kind (p.run outcomes.handle calls).2 := by
  induction p generalizing calls with
  | pure value => exact h
  | throw error => exact h
  | call op next ih =>
      apply ih
      exact makes_append.mpr (.inl h)

theorem Makes.bind {next : α → Page β} (h : Makes kind (p.run outcomes.handle calls).2) :
    Makes kind ((p >>= next).run outcomes.handle calls).2 := by
  rw [Program.run_bind]
  cases hp : p.run outcomes.handle calls with
  | mk result reached =>
      rw [hp] at h
      cases result with
      | ok value => exact h.run
      | error error => exact h

theorem Makes.tryCatch {handle : Raised → Page α} (h : Makes kind (p.run outcomes.handle calls).2) :
    Makes kind ((MonadExcept.tryCatch p handle).run outcomes.handle calls).2 := by
  rw [Program.run_tryCatch]
  cases hp : p.run outcomes.handle calls with
  | mk result reached =>
      rw [hp] at h
      cases result with
      | ok value => exact h
      | error error => exact h.run

theorem not_makes_run (hp : p.Calls fun op => kind op = false) (h : ¬Makes kind calls) :
    ¬Makes kind (p.run outcomes.handle calls).2 := by
  refine hp.run_invariant (I := fun calls => ¬Makes kind calls) (fun op s hkind hs => ?_) h
  rw [Outcomes.handle, makes_append, makes_singleton, hkind, not_or]
  exact ⟨hs, Bool.false_ne_true⟩

theorem not_found_run (hp : p.Calls fun op => op.isLookup = false) (h : ¬FoundConfig calls) :
    ¬FoundConfig (p.run outcomes.handle calls).2 := by
  refine hp.run_invariant (I := fun calls => ¬FoundConfig calls) (fun op s hkind hs => ?_) h
  intro ⟨phone, lookup, hmem, hfound⟩
  rw [Outcomes.handle, List.mem_append, List.mem_singleton] at hmem
  obtain hmem | hmem := hmem
  · exact hs ⟨phone, lookup, hmem, hfound⟩
  · rw [← (Sigma.mk.inj hmem).1] at hkind
    cases hkind

theorem run_tryFinally (body last : Page Unit) :
    ((tryFinally body last).run outcomes.handle calls).2 =
      (last.run outcomes.handle (body.run outcomes.handle calls).2).2 := by
  rw [tryFinally, Program.run_bind, Program.run_tryCatch, Program.run_bind]
  obtain ⟨error | value, reached⟩ := body.run outcomes.handle calls
  · simp only [Program.run_pure, Program.run_bind]
    obtain ⟨_ | _, _⟩ := last.run outcomes.handle reached <;> rfl
  · simp only [Program.run_pure, Program.run_bind]
    obtain ⟨_ | _, _⟩ := last.run outcomes.handle reached <;> rfl

end

/-! ### What the two pages do -/

section

variable {outcomes : Outcomes} {isWebUri : String → Bool} {testMode : Bool} {name phone : String}
  {lookup : Router1ClientLookup} {config : Router1ClientConfig} {calls : Trace}

/-- What the download of a config ends with, when it is call number `n`. -/
def Outcomes.download (outcomes : Outcomes) (n : Nat) (phone : String) (config : Router1ClientConfig) :
    Except Raised String :=
  outcomes n (.getConfig phone config.id) >>= configText

theorem run_findClientByPhone :
    (findClientByPhone phone).run outcomes.handle calls =
      (outcomes calls.length (.findClientByPhone phone),
        calls ++ [⟨.findClientByPhone phone, outcomes calls.length (.findClientByPhone phone)⟩]) :=
  Program.run_ofExcept ..

theorem run_findClientByPhone_ok (h : outcomes calls.length (.findClientByPhone phone) = .ok lookup) :
    (findClientByPhone phone).run outcomes.handle calls =
      (.ok lookup, calls ++ [⟨.findClientByPhone phone, .ok lookup⟩]) := by
  rw [run_findClientByPhone, h]

theorem run_onExistingConfig {text : String} {mode : Option Router1RouteProfileKind} :
    (onExistingConfig name phone text mode).run outcomes.handle calls =
      (outcomes calls.length (.onExistingConfig name phone text mode),
        calls ++ [⟨.onExistingConfig name phone text mode,
          outcomes calls.length (.onExistingConfig name phone text mode)⟩]) :=
  Program.run_ofExcept ..

theorem run_fetchClientConfigText :
    (fetchClientConfigText phone config.id).run outcomes.handle calls =
      (outcomes.download calls.length phone config,
        calls ++ [⟨.getConfig phone config.id, outcomes calls.length (.getConfig phone config.id)⟩]) := by
  rw [fetchClientConfigText, Program.run_bind, Program.run_request]
  show ((Program.ofExcept (outcomes calls.length (.getConfig phone config.id)) >>= fun data =>
    Program.ofExcept (configText data) : Page String).run outcomes.handle _) = _
  rw [Program.run_bind, Program.run_ofExcept, Outcomes.download]
  simp only [Outcomes.handle]
  cases outcomes calls.length (.getConfig phone config.id) with
  | error error => rfl
  | ok data => exact Program.run_ofExcept ..

theorem calls_fetchClientConfigText {P : Op → Prop} {deviceId : Int} (h : P (.getConfig phone deviceId)) :
    (fetchClientConfigText phone deviceId).Calls P := by
  refine Program.Calls.bind ((Program.calls_request _).mpr h) fun answer => ?_
  exact Program.Calls.bind (Program.calls_ofExcept _) fun data => Program.calls_ofExcept _

theorem calls_onExistingConfig {P : Op → Prop} {text : String} {mode : Option Router1RouteProfileKind}
    (h : P (.onExistingConfig name phone text mode)) :
    (onExistingConfig name phone text mode).Calls P :=
  Program.Calls.bind ((Program.calls_request _).mpr h) fun _ => Program.calls_ofExcept _

theorem calls_findClientByPhone {P : Op → Prop} (h : P (.findClientByPhone phone)) :
    (findClientByPhone phone).Calls P :=
  Program.Calls.bind ((Program.calls_request _).mpr h) fun _ => Program.calls_ofExcept _

theorem calls_setState {P : Op → Prop} {updates : List Update} (h : P (.setState updates)) :
    (setState updates).Calls P :=
  Program.Calls.bind ((Program.calls_request _).mpr h) fun _ => Program.calls_ofExcept _

theorem calls_update {P : Op → Prop} {updates : List Update} (h : P (.update updates)) :
    (update updates).Calls P := (Program.calls_request _).mpr h

/-- Serving a customer looks nobody up and orders nothing. -/
theorem calls_serve :
    (serve testMode name phone lookup).Calls fun op => op.isLookup = false ∧ op.isOrder = false := by
  have hserved : ∀ (config : Router1ClientConfig) (mode : Option Router1RouteProfileKind),
      (do
        let text ← fetchClientConfigText phone config.id
        onExistingConfig (servedName lookup name) phone text mode
        pure true : Page Bool).Calls fun op => op.isLookup = false ∧ op.isOrder = false := by
    intro config mode
    exact .bind (calls_fetchClientConfigText ⟨rfl, rfl⟩) fun text =>
      .bind (calls_onExistingConfig ⟨rfl, rfl⟩) fun _ => trivial
  rw [serve]
  split
  · exact hserved _ _
  · split
    · split
      · exact hserved _ _
      · split
        · split
          · exact .bind (calls_setState ⟨rfl, rfl⟩) fun _ =>
              .bind ((Program.calls_request _).mpr ⟨rfl, rfl⟩) fun _ => trivial
          · trivial
        · trivial
    · trivial

theorem makes_createOrder :
    Makes Op.isOrder ((createOrder isWebUri testMode name phone).run outcomes.handle calls).2 := by
  rw [createOrder, update, Program.run_bind_of_ok (Program.run_request ..),
    Program.run_bind_of_ok (Program.run_request ..), Program.run_bind_of_ok (Program.run_request ..)]
  apply Makes.bind
  rw [Program.run_request]
  exact makes_append.mpr (.inr (makes_singleton.mpr rfl))

theorem calls_createOrder :
    (createOrder isWebUri testMode name phone).Calls fun op => op.isLookup = false := by
  have hupdate : ∀ updates, (update updates).Calls fun op => op.isLookup = false :=
    fun updates => calls_update rfl
  have hpolling : startPolling.Calls fun op => op.isLookup = false := (Program.calls_request _).mpr rfl
  refine .bind (hupdate _) fun _ => .bind ((Program.calls_request _).mpr rfl) fun trialMode =>
    .bind ((Program.calls_request _).mpr rfl) fun refCode =>
    .bind ((Program.calls_request _).mpr rfl) fun answer =>
    .bind (Program.calls_ofExcept _) fun created => .bind (calls_setState rfl) fun _ => ?_
  split
  · exact hpolling
  · dsimp only
    split
    · refine .bind (.tryCatch (.bind ((Program.calls_request _).mpr rfl) fun answer =>
        .bind (Program.calls_ofExcept _) fun opened => ?_) fun _ => hupdate _) fun _ => hpolling
      split
      · trivial
      · exact hupdate _
    · exact .bind (calls_setState rfl) fun _ => hpolling

/-- The config is downloaded, and the shell takes it over, by the calls of these numbers. -/
def Outcomes.Delivers (outcomes : Outcomes) (download callback : Nat) (name phone : String)
    (config : Router1ClientConfig) : Prop :=
  ∃ text, outcomes.download download phone config = .ok text ∧
    outcomes callback (.onExistingConfig name phone text none) = .ok ()

theorem not_found_findClientByPhone {calls : Trace} (hcalls : ¬FoundConfig calls)
    (h : ∀ lookup, outcomes calls.length (.findClientByPhone phone) = .ok lookup →
      lookup.recommendedConfig = none) :
    ¬FoundConfig ((findClientByPhone phone).run outcomes.handle calls).2 := by
  intro ⟨other, lookup, hmem, hfound⟩
  rw [run_findClientByPhone, List.mem_append, List.mem_singleton] at hmem
  obtain hmem | hmem := hmem
  · exact hcalls ⟨other, lookup, hmem, hfound⟩
  · obtain ⟨hphone, hanswer⟩ := Sigma.mk.inj hmem
    cases hphone
    exact hfound (h lookup (eq_of_heq hanswer).symm)

theorem found_append (hlookup : outcomes calls.length (.findClientByPhone phone) = .ok lookup)
    (hrecommended : lookup.recommendedConfig = some config) :
    FoundConfig ((findClientByPhone phone).run outcomes.handle calls).2 := by
  refine ⟨phone, lookup, ?_, by rw [hrecommended]; exact Option.some_ne_none config⟩
  rw [run_findClientByPhone, hlookup]
  exact List.mem_append_right _ (List.mem_singleton.mpr rfl)

theorem FoundConfig.run {α : Type} {p : Page α} (h : FoundConfig calls) :
    FoundConfig (p.run outcomes.handle calls).2 := by
  induction p generalizing calls with
  | pure value => exact h
  | throw error => exact h
  | call op next ih =>
      apply ih
      obtain ⟨phone, lookup, hmem, hfound⟩ := h
      exact ⟨phone, lookup, List.mem_append_left _ hmem, hfound⟩

/-- What follows a download succeeds if the shell takes the text over: then the config is delivered, and only then. -/
theorem run_fetch_bind_iff {next : String → Page α} {value : α} {callback : Nat}
    (hnext : ∀ text, ((next text).run outcomes.handle
        (calls ++ [⟨.getConfig phone config.id, outcomes calls.length (.getConfig phone config.id)⟩])).1 = .ok value ↔
      outcomes callback (.onExistingConfig name phone text none) = .ok ()) :
    ((fetchClientConfigText phone config.id >>= next).run outcomes.handle calls).1 = .ok value ↔
      outcomes.Delivers calls.length callback name phone config := by
  rw [Program.run_bind, run_fetchClientConfigText, Outcomes.Delivers]
  cases hdownload : outcomes.download calls.length phone config with
  | error error => exact iff_of_false nofun fun h => nomatch h.choose_spec.1
  | ok text =>
      simp only [Except.ok.injEq, exists_eq_left']
      exact hnext text

theorem run_serve_iff (testMode : Bool) (hrecommended : lookup.recommendedConfig = some config) :
    ((serve testMode name phone lookup).run outcomes.handle calls).1 = .ok true ↔
      outcomes.Delivers calls.length (calls.length + 1) (servedName lookup name) phone config := by
  rw [serve]
  simp only [hrecommended]
  refine run_fetch_bind_iff fun text => ?_
  rw [Program.run_bind, run_onExistingConfig, List.length_append, List.length_singleton]
  cases outcomes (calls.length + 1) (.onExistingConfig (servedName lookup name) phone text none) with
  | error error => exact iff_of_false nofun nofun
  | ok value => exact iff_of_true rfl rfl

/-- How the inner `try` of `pay` ends: with what `serve` returned, or with `false` for an exception. -/
theorem run_lookUp (testMode : Bool) (name : String)
    (hlookup : outcomes calls.length (.findClientByPhone phone) = .ok lookup) :
    ∃ served reached, (lookUp testMode name phone).run outcomes.handle calls = (.ok served, reached) ∧
      reached = ((serve testMode name phone lookup).run outcomes.handle
        ((findClientByPhone phone).run outcomes.handle calls).2).2 ∧
      (¬Makes Op.isOrder calls → ¬Makes Op.isOrder reached) ∧
      (served = true ↔ ((serve testMode name phone lookup).run outcomes.handle
        ((findClientByPhone phone).run outcomes.handle calls).2).1 = .ok true) := by
  have horder : ¬Makes Op.isOrder calls →
      ¬Makes Op.isOrder ((serve testMode name phone lookup).run outcomes.handle
        ((findClientByPhone phone).run outcomes.handle calls).2).2 := by
    intro h
    exact not_makes_run (calls_serve.mono fun op h => h.2) (not_makes_run (calls_findClientByPhone rfl) h)
  have hfind := run_findClientByPhone_ok hlookup
  rw [hfind] at horder ⊢
  rw [lookUp, Program.run_tryCatch_bind_of_ok hfind, Program.run_tryCatch]
  cases hserve : (serve testMode name phone lookup).run outcomes.handle
      (calls ++ [⟨.findClientByPhone phone, .ok lookup⟩]) with
  | mk result reached =>
      rw [hserve] at horder
      cases result with
      | error error => exact ⟨false, reached, rfl, rfl, horder, by simp⟩
      | ok value => exact ⟨value, reached, rfl, rfl, horder, by simp⟩

theorem run_lookUp_of_error {error : Raised}
    (h : outcomes calls.length (.findClientByPhone phone) = .error error) :
    (lookUp testMode name phone).run outcomes.handle calls =
      (.ok false, ((findClientByPhone phone).run outcomes.handle calls).2) := by
  rw [lookUp, Program.run_tryCatch, Program.run_bind, run_findClientByPhone, h]
  rfl

/-- What is left of `pay` after the inner `try`. -/
def afterLookUp (isWebUri : String → Bool) (testMode : Bool) (name phone : String) (served : Bool) :
    Page Unit :=
  tryFinally
    (MonadExcept.tryCatch (if served then pure () else createOrder isWebUri testMode name phone)
      fun error => setState [.error (some (payError error))])
    (update [.loading false])

theorem calls_tryFinally {P : Op → Prop} {body last : Page Unit} (hbody : body.Calls P)
    (hlast : last.Calls P) : (tryFinally body last).Calls P :=
  .bind (.tryCatch (.bind hbody fun _ => trivial) fun _ => trivial) fun _ =>
    .bind hlast fun _ => Program.calls_ofExcept _

theorem calls_afterLookUp {served : Bool} :
    (afterLookUp isWebUri testMode name phone served).Calls fun op => op.isLookup = false := by
  refine calls_tryFinally (.tryCatch ?_ fun error => calls_setState rfl) (calls_update rfl)
  split
  · trivial
  · exact calls_createOrder

theorem makes_afterLookUp :
    Makes Op.isOrder ((afterLookUp isWebUri testMode name phone false).run outcomes.handle calls).2 := by
  rw [afterLookUp, run_tryFinally]
  exact (Makes.tryCatch makes_createOrder).run

theorem not_makes_afterLookUp (h : ¬Makes Op.isOrder calls) :
    ¬Makes Op.isOrder ((afterLookUp isWebUri testMode name phone true).run outcomes.handle calls).2 := by
  refine not_makes_run ?_ h
  exact calls_tryFinally (.tryCatch trivial fun error => calls_setState rfl) (calls_update rfl)

theorem isEmpty_or_tooFewDigits (hdigits : tooFewDigits phone = false) :
    (phone.isEmpty || tooFewDigits phone) = false := by
  rw [hdigits, Bool.or_false]
  cases hempty : phone.isEmpty with
  | false => rfl
  | true =>
      rw [String.isEmpty_iff.mp hempty] at hdigits
      cases hdigits

/-- The call that `pay` and `submit` make first, for a phone they accept. -/
def begun (status : String) : Trace := [⟨.update [.loading true, .error none, .status status], ()⟩]

/-- Every config the lookup of an execution recommends is delivered; the callback has this number. -/
def Outcomes.DeliversFound (outcomes : Outcomes) (callback : Nat) (nameText phoneText : String) : Prop :=
  ∀ lookup config, outcomes 1 (.findClientByPhone (trim phoneText)) = .ok lookup →
    lookup.recommendedConfig = some config →
    outcomes.Delivers 2 callback (servedName lookup (trim nameText)) (trim phoneText) config

theorem trace_pay {nameText phoneText : String} {served : Bool} {reached : Trace}
    (hdigits : tooFewDigits (trim phoneText) = false)
    (h : (lookUp testMode (trim nameText) (trim phoneText)).run outcomes.handle
      (begun "Проверяем, есть ли уже оформленный конфиг...") = (.ok served, reached)) :
    trace outcomes (pay isWebUri testMode nameText phoneText) =
      ((afterLookUp isWebUri testMode (trim nameText) (trim phoneText) served).run
        outcomes.handle reached).2 := by
  rw [trace, pay]
  simp only [isEmpty_or_tooFewDigits hdigits, Bool.false_eq_true, if_false]
  rw [update, Program.run_bind_of_ok (Program.run_request ..), afterLookUp, run_tryFinally, run_tryFinally]
  have hbegun : (outcomes.handle (.update [.loading true, .error none,
      .status "Проверяем, есть ли уже оформленный конфиг..."]) []).2 =
      begun "Проверяем, есть ли уже оформленный конфиг..." := rfl
  rw [hbegun, Program.run_tryCatch_bind_of_ok h]

theorem makes_update {kind : Op → Bool} {updates : List Update} (h : kind (.update updates) = false) :
    Makes kind ((update updates).run outcomes.handle calls).2 ↔ Makes kind calls := by
  rw [update, Program.run_request, Outcomes.handle, makes_append, makes_singleton, h]
  exact or_iff_left Bool.false_ne_true

theorem not_makes_begun {kind : Op → Bool} {status : String}
    (h : ∀ updates, kind (.update updates) = false) : ¬Makes kind (begun status) := by
  rw [begun, makes_singleton, h]
  exact Bool.false_ne_true

theorem not_found_begun {status : String} : ¬FoundConfig (begun status) := by
  intro h
  obtain ⟨phone, lookup, hmem, _⟩ := h
  cases (Sigma.mk.inj (List.mem_singleton.mp hmem)).1

/-- For a customer with a config the inner `try` returns if and only if the config is delivered. -/
theorem run_lookUp_of_recommended {status : String}
    (hlookup : outcomes 1 (.findClientByPhone phone) = .ok lookup)
    (hrecommended : lookup.recommendedConfig = some config) :
    ∃ served reached,
      (lookUp testMode name phone).run outcomes.handle (begun status) = (.ok served, reached) ∧
      FoundConfig reached ∧ ¬Makes Op.isOrder reached ∧
      (served = true ↔ outcomes.Delivers 2 3 (servedName lookup name) phone config) := by
  have hcall : outcomes (begun status).length (.findClientByPhone phone) = .ok lookup := hlookup
  have hlength : ((findClientByPhone phone).run outcomes.handle (begun status)).2.length = 2 := by
    rw [run_findClientByPhone]
    rfl
  obtain ⟨served, reached, hrun, hreached, horder, hserved⟩ := run_lookUp testMode name hcall
  refine ⟨served, reached, hrun, ?_, horder (not_makes_begun fun _ => rfl), ?_⟩
  · rw [hreached]
    exact (found_append hcall hrecommended).run
  · rw [hserved, run_serve_iff testMode hrecommended, hlength]

theorem not_found_lookUp {status : String}
    (h : ∀ lookup, outcomes 1 (.findClientByPhone phone) = .ok lookup →
      lookup.recommendedConfig = none) :
    ∃ served reached,
      (lookUp testMode name phone).run outcomes.handle (begun status) = (.ok served, reached) ∧
      ¬FoundConfig reached := by
  have hfound : ¬FoundConfig ((findClientByPhone phone).run outcomes.handle (begun status)).2 :=
    not_found_findClientByPhone not_found_begun h
  cases hanswer : outcomes 1 (.findClientByPhone phone) with
  | error error =>
      exact ⟨false, _, run_lookUp_of_error hanswer, hfound⟩
  | ok lookup =>
      have hcall : outcomes (begun status).length (.findClientByPhone phone) = .ok lookup := hanswer
      obtain ⟨served, reached, hrun, hreached, -⟩ := run_lookUp testMode name hcall
      refine ⟨served, reached, hrun, ?_⟩
      rw [hreached]
      exact not_found_run (calls_serve.mono fun op h => h.1) hfound

theorem recommended_or_none (answer : Except Raised Router1ClientLookup) :
    (∃ lookup config, answer = .ok lookup ∧ lookup.recommendedConfig = some config) ∨
      ∀ lookup, answer = .ok lookup → lookup.recommendedConfig = none := by
  cases answer with
  | error error => exact .inr nofun
  | ok lookup =>
      cases hrecommended : lookup.recommendedConfig with
      | some config => exact .inl ⟨lookup, config, rfl, hrecommended⟩
      | none =>
          right
          intro other hother
          cases hother
          exact hrecommended

theorem pay_neverAfterFound_iff {nameText phoneText : String}
    (hdigits : tooFewDigits (trim phoneText) = false) :
    NeverAfterFound Op.isOrder (trace outcomes (pay isWebUri testMode nameText phoneText)) ↔
      outcomes.DeliversFound 3 nameText phoneText := by
  constructor
  · intro h lookup config hlookup hrecommended
    obtain ⟨served, reached, hrun, hfound, -, hserved⟩ := run_lookUp_of_recommended hlookup hrecommended
    rw [trace_pay hdigits hrun] at h
    cases served with
    | true => exact hserved.mp rfl
    | false => exact absurd makes_afterLookUp (h hfound.run)
  · intro h
    obtain hsome | hnone := recommended_or_none (outcomes 1 (.findClientByPhone (trim phoneText)))
    · obtain ⟨lookup, config, hlookup, hrecommended⟩ := hsome
      obtain ⟨served, reached, hrun, -, horder, hserved⟩ := run_lookUp_of_recommended hlookup hrecommended
      rw [trace_pay hdigits hrun, hserved.mpr (h lookup config hlookup hrecommended)]
      exact fun _ => not_makes_afterLookUp horder
    · obtain ⟨served, reached, hrun, hfound⟩ := not_found_lookUp hnone
      rw [trace_pay hdigits hrun]
      exact fun h => absurd h (not_found_run calls_afterLookUp hfound)

/-! The same for `submit`. -/

theorem calls_sendOn : (sendOn name phone).Calls fun op => op.isLookup = false :=
  .bind ((Program.calls_request _).mpr rfl) fun _ =>
    .bind ((Program.calls_request _).mpr rfl) fun _ => Program.calls_ofExcept _

theorem makes_sendOn : Makes Op.isPayment ((sendOn name phone).run outcomes.handle calls).2 := by
  rw [sendOn, onLog, Program.run_bind_of_ok (Program.run_request ..), onNeedsPayment]
  apply Makes.bind
  rw [Program.run_request]
  exact makes_append.mpr (.inr (makes_singleton.mpr rfl))

theorem calls_serveOrSend : (serveOrSend name phone lookup).Calls fun op => op.isLookup = false := by
  rw [serveOrSend]
  split
  · exact .bind (calls_fetchClientConfigText rfl) fun text =>
      .bind ((Program.calls_request _).mpr rfl) fun _ => calls_onExistingConfig rfl
  · exact calls_sendOn

theorem not_makes_serveOrSend (name : String)
    (hrecommended : lookup.recommendedConfig = some config)
    (h : ¬Makes Op.isPayment calls) :
    ¬Makes Op.isPayment ((serveOrSend name phone lookup).run outcomes.handle calls).2 := by
  refine not_makes_run ?_ h
  rw [serveOrSend]
  simp only [hrecommended]
  exact .bind (calls_fetchClientConfigText rfl) fun text =>
    .bind ((Program.calls_request _).mpr rfl) fun _ => calls_onExistingConfig rfl

theorem run_serveOrSend_iff (hrecommended : lookup.recommendedConfig = some config) :
    ((serveOrSend name phone lookup).run outcomes.handle calls).1 = .ok () ↔
      outcomes.Delivers calls.length (calls.length + 2)
        (if lookup.clientName.isEmpty then name else lookup.clientName) phone config := by
  rw [serveOrSend]
  simp only [hrecommended]
  refine run_fetch_bind_iff fun text => ?_
  rw [onLog, Program.run_bind_of_ok (Program.run_request ..), run_onExistingConfig, Outcomes.handle,
    List.length_append, List.length_append, List.length_singleton, List.length_singleton]

/-- `submit` from its lookup on, without the `finally`. -/
def submitting (name phone : String) : Page Unit :=
  MonadExcept.tryCatch (findClientByPhone phone >>= serveOrSend name phone) fun _ => sendOn name phone

theorem trace_submit {nameText phoneText : String} (hdigits : tooFewDigits (trim phoneText) = false) :
    trace outcomes (submit nameText phoneText) =
      ((update [.loading false]).run outcomes.handle
        ((submitting (nameOr (trim nameText)) (trim phoneText)).run outcomes.handle
          (begun "Проверяем активный конфиг Router1...")).2).2 := by
  rw [trace, submit]
  simp only [hdigits, Bool.false_eq_true, if_false]
  rw [update, Program.run_bind_of_ok (Program.run_request ..), run_tryFinally]
  rfl

theorem not_found_submitting (hcalls : ¬FoundConfig calls)
    (h : ∀ lookup, outcomes calls.length (.findClientByPhone phone) = .ok lookup →
      lookup.recommendedConfig = none) :
    ¬FoundConfig ((submitting name phone).run outcomes.handle calls).2 := by
  have hfind := not_found_findClientByPhone hcalls h
  rw [run_findClientByPhone] at hfind
  -- after its first call, whose answer is known, the page looks nobody up
  show ¬FoundConfig ((MonadExcept.tryCatch
    (Program.ofExcept (outcomes calls.length (.findClientByPhone phone)) >>= serveOrSend name phone)
    fun _ => sendOn name phone : Page Unit).run outcomes.handle
      (calls ++ [⟨.findClientByPhone phone, outcomes calls.length (.findClientByPhone phone)⟩])).2
  refine not_found_run ?_ hfind
  exact .tryCatch (.bind (Program.calls_ofExcept _) fun _ => calls_serveOrSend) fun _ => calls_sendOn

theorem found_submitting (hlookup : outcomes calls.length (.findClientByPhone phone) = .ok lookup)
    (hrecommended : lookup.recommendedConfig = some config) :
    FoundConfig ((submitting name phone).run outcomes.handle calls).2 := by
  have hfound := found_append hlookup hrecommended
  have hfind := run_findClientByPhone_ok hlookup
  rw [hfind] at hfound
  rw [submitting, Program.run_tryCatch_bind_of_ok hfind]
  exact hfound.run

theorem makes_submitting (hlookup : outcomes calls.length (.findClientByPhone phone) = .ok lookup)
    (hrecommended : lookup.recommendedConfig = some config) (hcalls : ¬Makes Op.isPayment calls) :
    Makes Op.isPayment ((submitting name phone).run outcomes.handle calls).2 ↔
      ¬outcomes.Delivers (calls.length + 1) (calls.length + 3)
        (if lookup.clientName.isEmpty then name else lookup.clientName) phone config := by
  obtain ⟨after, hafter⟩ : ∃ after : Trace,
      after = calls ++ [⟨.findClientByPhone phone, .ok lookup⟩] := ⟨_, rfl⟩
  have hfind : (findClientByPhone phone).run outcomes.handle calls = (.ok lookup, after) := by
    rw [run_findClientByPhone_ok hlookup, hafter]
  have hlength : after.length = calls.length + 1 := by
    rw [hafter, List.length_append, List.length_singleton]
  have hpayment : ¬Makes Op.isPayment after := by
    rw [hafter, makes_append, makes_singleton, not_or]
    exact ⟨hcalls, Bool.false_ne_true⟩
  rw [submitting, Program.run_tryCatch_bind_of_ok hfind, Program.run_tryCatch, ← hlength,
    show calls.length + 3 = after.length + 2 by omega]
  have hsilent : ¬Makes Op.isPayment ((serveOrSend name phone lookup).run outcomes.handle after).2 :=
    not_makes_serveOrSend name hrecommended hpayment
  rw [← run_serveOrSend_iff hrecommended]
  cases hrun : (serveOrSend name phone lookup).run outcomes.handle after with
  | mk result reached =>
      rw [hrun] at hsilent
      cases result with
      | ok value => exact iff_of_false hsilent (not_not.mpr rfl)
      | error error => exact iff_of_true makes_sendOn nofun

theorem submit_neverAfterFound_iff {nameText phoneText : String}
    (hdigits : tooFewDigits (trim phoneText) = false) :
    NeverAfterFound Op.isPayment (trace outcomes (submit nameText phoneText)) ↔
      outcomes.DeliversFound 4 nameText phoneText := by
  rw [trace_submit hdigits]
  have hlast : (update [.loading false]).Calls fun op => op.isPayment = false := calls_update rfl
  have hpayment : ¬Makes Op.isPayment (begun "Проверяем активный конфиг Router1...") :=
    not_makes_begun fun _ => rfl
  constructor
  · intro h lookup config hlookup hrecommended
    by_contra hdelivers
    refine h (found_submitting hlookup hrecommended).run (Makes.run ?_)
    rw [makes_submitting hlookup hrecommended hpayment]
    exact hdelivers
  · intro h
    obtain hsome | hnone := recommended_or_none (outcomes 1 (.findClientByPhone (trim phoneText)))
    · obtain ⟨lookup, config, hlookup, hrecommended⟩ := hsome
      intro _
      refine not_makes_run hlast ?_
      rw [makes_submitting hlookup hrecommended hpayment, not_not]
      exact h lookup config hlookup hrecommended
    · intro hfound
      refine absurd hfound (not_found_run (calls_update rfl) ?_)
      exact not_found_submitting not_found_begun hnone

/-- What the pages do with a phone they refuse. -/
def refused : Trace := [⟨.update [.error (some "Введите телефон клиента.")], ()⟩]

theorem not_found_refused : ¬FoundConfig refused := by
  intro h
  obtain ⟨phone, lookup, hmem, _⟩ := h
  cases (Sigma.mk.inj (List.mem_singleton.mp hmem)).1

theorem trace_pay_of_tooFewDigits {nameText phoneText : String}
    (hdigits : tooFewDigits (trim phoneText) = true) :
    trace outcomes (pay isWebUri testMode nameText phoneText) = refused := by
  rw [trace, pay]
  simp only [hdigits, Bool.or_true, if_true]
  rfl

theorem trace_submit_of_tooFewDigits {nameText phoneText : String}
    (hdigits : tooFewDigits (trim phoneText) = true) :
    trace outcomes (submit nameText phoneText) = refused := by
  rw [trace, submit]
  simp only [hdigits, if_true]
  rfl

/-- **Who is charged.** In an execution that finds a config, `pay` creates no order and `submit` does not
ask for the payment if and only if that config is delivered: its download succeeds with a text and the
callback returns. -/
theorem found_config_not_charged_iff (outcomes : Outcomes) (isWebUri : String → Bool) (testMode : Bool)
    (nameText phoneText : String) :
    (NeverAfterFound Op.isOrder (trace outcomes (pay isWebUri testMode nameText phoneText)) ↔
      tooFewDigits (trim phoneText) = true ∨ outcomes.DeliversFound 3 nameText phoneText) ∧
    (NeverAfterFound Op.isPayment (trace outcomes (submit nameText phoneText)) ↔
      tooFewDigits (trim phoneText) = true ∨ outcomes.DeliversFound 4 nameText phoneText) := by
  cases hdigits : tooFewDigits (trim phoneText) with
  | true =>
      rw [trace_pay_of_tooFewDigits hdigits, trace_submit_of_tooFewDigits hdigits]
      exact ⟨iff_of_true (fun h => absurd h not_found_refused) (.inl rfl),
        iff_of_true (fun h => absurd h not_found_refused) (.inl rfl)⟩
  | false =>
      rw [pay_neverAfterFound_iff hdigits, submit_neverAfterFound_iff hdigits]
      exact ⟨(or_iff_right Bool.false_ne_true).symm, (or_iff_right Bool.false_ne_true).symm⟩

end

def paidConfig : Router1ClientConfig where
  id := 7
  status := "active"
  paymentStatus := "paid"
  hasConfig := true
  recommended := true
  routerCandidate := true
  isTest := false
  paidUntil := none

/-- The server knows the customer and the config, and the download of its text fails. -/
def downloadFails : Outcomes := fun _ op =>
  match op with
  | .findClientByPhone _ => .ok ⟨"A", some 7, [paidConfig], none⟩
  | .getConfig _ _ => .error (.api 502 "Bad Gateway")
  | .createRouterOrder _ _ _ _ _ =>
      .ok ⟨"order", "https://router1.tech/success.html", false, .goldStandard, false⟩
  | .launchUrl _ => .ok true
  | .onExistingConfig _ _ _ _ | .onNeedsPayment _ _ | .setState _ => .ok ()
  | .onLog _ | .update _ | .startPolling => ()
  | .readTrialMode => .goldStandard
  | .readPromo => ""

/-- A customer whose paid config could not be downloaded gets an order for another one. -/
theorem found_config_charged_again :
    ¬∀ (outcomes : Outcomes) (isWebUri : String → Bool) (testMode : Bool) (nameText phoneText : String),
      NeverAfterFound Op.isOrder (trace outcomes (pay isWebUri testMode nameText phoneText)) ∧
        NeverAfterFound Op.isPayment (trace outcomes (submit nameText phoneText)) := by
  intro hclaim
  have hpay := (hclaim downloadFails (fun _ => true) false "" "79990000001").1
  have hdigits : tooFewDigits (trim "79990000001") = false := by decide
  rw [pay_neverAfterFound_iff hdigits] at hpay
  obtain ⟨text, hdownload, _⟩ := hpay ⟨"A", some 7, [paidConfig], none⟩ paidConfig rfl (by decide)
  cases hdownload

/-! ### The answers of a server

Where only the server can fail, `App.pay` and `App.submit` tell how these executions end. -/

/-- A server's answers, with a shell and a browser that do what they are asked to. -/
def backendOutcomes (api : Backend) : Outcomes := fun _ op =>
  match op with
  | .findClientByPhone phone => (api.findClientByPhone phone).elim (.error .other) .ok
  | .getConfig phone deviceId =>
      (api.fetchClientConfigText phone deviceId).elim (.error .other) fun text =>
        .ok [("config_text", .str text)]
  | .createRouterOrder _ _ _ _ _ => .error .other
  | .launchUrl _ => .ok true
  | .onExistingConfig _ _ _ _ | .onNeedsPayment _ _ | .setState _ => .ok ()
  | .onLog _ | .update _ | .startPolling => ()
  | .readTrialMode => .goldStandard
  | .readPromo => ""

section

variable {api : Backend} {testMode : Bool} {nameText phoneText : String} {lookup : Router1ClientLookup}
  {calls : Trace}

theorem download_backendOutcomes {n : Nat} {phone : String} {config : Router1ClientConfig}
    (htext : api.fetchClientConfigText phone config.id ≠ some "") :
    (backendOutcomes api).download n phone config =
      (api.fetchClientConfigText phone config.id).elim (.error .other) .ok := by
  rw [Outcomes.download, backendOutcomes]
  cases hfetch : api.fetchClientConfigText phone config.id with
  | none => rfl
  | some text =>
      have hne : text ≠ "" := fun hempty => htext (by rw [hfetch, hempty])
      show configText [("config_text", .str text)] = .ok text
      rw [configText, if_neg]
      · rfl
      · rw [String.isEmpty_iff]
        exact hne

theorem deliver_backendOutcomes {name phone : String} {config : Router1ClientConfig}
    {mode : Option Router1RouteProfileKind}
    (htext : api.fetchClientConfigText phone config.id ≠ some "") :
    ((do
      let text ← fetchClientConfigText phone config.id
      onExistingConfig name phone text mode
      pure true : Page Bool).run (backendOutcomes api).handle calls).1 = .ok true ↔
        api.fetchClientConfigText phone config.id ≠ none := by
  rw [Program.run_bind, run_fetchClientConfigText, download_backendOutcomes htext]
  cases api.fetchClientConfigText phone config.id with
  | none => exact iff_of_false nofun (not_not.mpr rfl)
  | some text =>
      simp only [Option.elim]
      rw [Program.run_bind, run_onExistingConfig]
      exact iff_of_true rfl (Option.some_ne_none text)

theorem serve_backendOutcomes (hdigits : tooFewDigits (trim phoneText) = false)
    (htext : ∀ phone deviceId, api.fetchClientConfigText phone deviceId ≠ some "")
    (hlookup : api.findClientByPhone (trim phoneText) = some lookup) :
    ((serve testMode (trim nameText) (trim phoneText) lookup).run (backendOutcomes api).handle calls).1 =
        .ok true ↔ App.pay api testMode nameText phoneText ≠ .createsOrder := by
  rw [serve, App.pay]
  simp only [isEmpty_or_tooFewDigits hdigits, Bool.false_eq_true, if_false, hlookup]
  cases lookup.recommendedConfig with
  | some config =>
      simp only
      rw [deliver_backendOutcomes (htext _ _)]
      cases api.fetchClientConfigText (trim phoneText) config.id <;> simp
  | none =>
      cases testMode with
      | false => simp
      | true =>
          cases lookup.activeTrialConfig true with
          | some config =>
              simp only [if_true]
              rw [deliver_backendOutcomes (htext _ _)]
              cases api.fetchClientConfigText (trim phoneText) config.id <;> simp
          | none =>
              cases lookup.trial with
              | none => simp
              | some trial =>
                  simp only [if_true]
                  split
                  · exact iff_of_true rfl (by simp)
                  · simp

theorem pay_backendOutcomes (isWebUri : String → Bool) (testMode : Bool) (nameText phoneText : String)
    (htext : ∀ phone deviceId, api.fetchClientConfigText phone deviceId ≠ some "") :
    Makes Op.isOrder (trace (backendOutcomes api) (pay isWebUri testMode nameText phoneText)) ↔
      App.pay api testMode nameText phoneText = .createsOrder := by
  cases hdigits : tooFewDigits (trim phoneText) with
  | true =>
      rw [trace_pay_of_tooFewDigits hdigits, App.pay, refused, makes_singleton]
      simp only [hdigits, Bool.or_true, if_true]
      exact iff_of_false nofun nofun
  | false =>
      cases hlookup : api.findClientByPhone (trim phoneText) with
      | none =>
          have hfails : backendOutcomes api 1 (.findClientByPhone (trim phoneText)) = .error .other := by
            rw [backendOutcomes, hlookup]
            rfl
          rw [trace_pay hdigits (run_lookUp_of_error hfails), App.pay]
          simp only [isEmpty_or_tooFewDigits hdigits, Bool.false_eq_true, if_false, hlookup, iff_true]
          exact makes_afterLookUp
      | some lookup =>
          have hanswer : backendOutcomes api
              (begun "Проверяем, есть ли уже оформленный конфиг...").length
              (.findClientByPhone (trim phoneText)) = .ok lookup := by
            rw [backendOutcomes, hlookup]
            rfl
          obtain ⟨served, reached, hrun, -, horder, hserved⟩ :=
            run_lookUp testMode (trim nameText) hanswer
          rw [serve_backendOutcomes hdigits htext hlookup] at hserved
          rw [trace_pay hdigits hrun]
          cases served with
          | true =>
              refine iff_of_false (not_makes_afterLookUp (horder ?_)) (hserved.mp rfl)
              exact not_makes_begun fun _ => rfl
          | false => exact iff_of_true makes_afterLookUp (not_not.mp fun h => nomatch hserved.mpr h)

theorem submit_backendOutcomes (nameText phoneText : String)
    (htext : ∀ phone deviceId, api.fetchClientConfigText phone deviceId ≠ some "") :
    Makes Op.isPayment (trace (backendOutcomes api) (submit nameText phoneText)) ↔
      App.submit api nameText phoneText = .needsPayment (nameOr (trim nameText)) (trim phoneText) := by
  cases hdigits : tooFewDigits (trim phoneText) with
  | true =>
      rw [trace_submit_of_tooFewDigits hdigits, App.submit, refused, makes_singleton]
      simp only [hdigits, if_true]
      exact iff_of_false nofun nofun
  | false =>
      have hbegun : ¬Makes Op.isPayment (begun "Проверяем активный конфиг Router1...") :=
        not_makes_begun fun _ => rfl
      rw [trace_submit hdigits, App.submit, makes_update rfl]
      simp only [hdigits, Bool.false_eq_true, if_false]
      cases hlookup : api.findClientByPhone (trim phoneText) with
      | none =>
          have hfails : backendOutcomes api
              (begun "Проверяем активный конфиг Router1...").length
              (.findClientByPhone (trim phoneText)) = .error .other := by
            rw [backendOutcomes, hlookup]
            rfl
          refine iff_of_true ?_ rfl
          rw [submitting, Program.run_tryCatch, Program.run_bind, run_findClientByPhone, hfails]
          exact makes_sendOn
      | some lookup =>
          have hanswer : backendOutcomes api
              (begun "Проверяем активный конфиг Router1...").length
              (.findClientByPhone (trim phoneText)) = .ok lookup := by
            rw [backendOutcomes, hlookup]
            rfl
          cases hrecommended : lookup.recommendedConfig with
          | none =>
              simp only [hrecommended, iff_true]
              rw [submitting, Program.run_tryCatch_bind_of_ok (run_findClientByPhone_ok hanswer),
                serveOrSend]
              simp only [hrecommended]
              exact makes_sendOn.tryCatch
          | some config =>
              simp only [hrecommended]
              rw [makes_submitting hanswer hrecommended hbegun, Outcomes.Delivers,
                download_backendOutcomes (htext _ _)]
              cases api.fetchClientConfigText (trim phoneText) config.id with
              | none => exact iff_of_true (fun h => nomatch h.choose_spec.1) rfl
              | some text => exact iff_of_false (not_not.mpr ⟨text, rfl, rfl⟩) nofun

end

end App.Purchase
