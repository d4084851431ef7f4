import Router1.Keenetic.Router

/-!
# Which exchanges an operation makes

Two sessions of one run are compared by the exchanges made in between. An operation asks when it
writes neither of the two records and every request it sends satisfies a predicate. That is read off
its program once, and it holds of every run, on whichever path the answers take it.
-/

namespace Keenetic

open Dart Api Remote
open Remote.Program (Calls Returns calls_ofExcept)

variable {α β : Type} {net : Net} {s t u : Session} {R R' : Request → Prop}

/-! ### Exchanges between two sessions -/

/-- The exchanges made after `s`. -/
def Session.since (s t : Session) : List Exchange := t.exchanges.drop s.exchanges.length

theorem since_self (s : Session) : s.since s = [] := List.drop_length

theorem since_of_append {new : List Exchange} (h : t.exchanges = s.exchanges ++ new) :
    s.since t = new := by
  rw [Session.since, h, List.drop_left]

theorem append_since (h : s.exchanges <+: t.exchanges) :
    t.exchanges = s.exchanges ++ s.since t := by
  obtain ⟨new, hnew⟩ := h
  rw [since_of_append hnew.symm, hnew]

theorem since_trans (hst : s.exchanges <+: t.exchanges) (htu : t.exchanges <+: u.exchanges) :
    s.since u = s.since t ++ t.since u := by
  apply since_of_append
  rw [← List.append_assoc, ← append_since hst, ← append_since htu]

theorem since_exchange (h : s.exchanges <+: t.exchanges) (request : Request) :
    s.since (net.handle (.exchange request) t).2
      = s.since t ++ [⟨request, net.answers t.exchanges.length⟩] := by
  apply since_of_append
  rw [← List.append_assoc, ← append_since h]
  rfl

theorem run_prefix (net : Net) (p : Rci α) (s : Session) :
    s.exchanges <+: (p.run net.handle s).2.exchanges := by
  have hcalls : p.Calls fun _ => True := by
    induction p with
    | pure value => trivial
    | throw error => trivial
    | call op rest ih => exact ⟨trivial, ih⟩
  refine hcalls.run_invariant (I := fun t : Session => s.exchanges <+: t.exchanges)
    (fun op t _ ht => ht.trans ?_) List.prefix_rfl
  cases op with
  | exchange request => exact List.prefix_append _ _
  | lookup | selected | setSelected | standby | setStandby => exact List.prefix_rfl

theorem prefix_of_run {p : Rci α} {result : Except Failure α}
    (h : p.run net.handle s = (result, t)) : s.exchanges <+: t.exchanges := by
  have hprefix := run_prefix net p s
  rwa [h] at hprefix

/-! ### Operations that only ask -/

/-- A call that writes no record, with a request in `R` when it is an exchange. -/
def Call.Asks (R : Request → Prop) : Call → Prop
  | exchange request => R request
  | lookup _ | selected _ | standby _ => True
  | setSelected _ _ | setStandby _ _ => False

def Asks (R : Request → Prop) (p : Rci α) : Prop := p.Calls (Call.Asks R)

/-- What a run of an operation that only asks does to the session. -/
structure Session.Asked (R : Request → Prop) (s t : Session) : Prop where
  selected : t.selectedInterfaceByHost = s.selectedInterfaceByHost
  standby : t.standbyInterfaceByHost = s.standbyInterfaceByHost
  prefixed : s.exchanges <+: t.exchanges
  requests : ∀ e ∈ s.since t, R e.request

theorem Asks.run {p : Rci α} (hp : Asks R p) {result : Except Failure α}
    (h : p.run net.handle s = (result, t)) : s.Asked R t := by
  have hinv : s.Asked R (p.run net.handle s).2 := by
    refine Calls.run_invariant (I := s.Asked R) hp (fun op t hop ht => ?_)
      ⟨rfl, rfl, List.prefix_rfl, by simp [since_self]⟩
    cases op with
    | exchange request =>
        refine ⟨ht.selected, ht.standby, ht.prefixed.trans (List.prefix_append _ _), ?_⟩
        intro e he
        rw [since_exchange ht.prefixed] at he
        rcases List.mem_append.mp he with he | he
        · exact ht.requests e he
        · rw [List.mem_singleton.mp he]
          exact hop
    | lookup | selected | standby => exact ⟨ht.selected, ht.standby, ht.prefixed, ht.requests⟩
    | setSelected | setStandby => exact hop.elim
  rwa [h] at hinv

theorem Session.Asked.trans (hst : s.Asked R t) (htu : t.Asked R u) : s.Asked R u := by
  refine ⟨htu.selected.trans hst.selected, htu.standby.trans hst.standby,
    hst.prefixed.trans htu.prefixed, ?_⟩
  rw [since_trans hst.prefixed htu.prefixed, List.forall_mem_append]
  exact ⟨hst.requests, htu.requests⟩

theorem Asks.mono {p : Rci α} (hp : Asks R p) (h : ∀ request, R request → R' request) :
    Asks R' p := by
  refine Calls.mono hp fun op hop => ?_
  cases op with
  | exchange request => exact h request hop
  | lookup | selected | standby => trivial
  | setSelected | setStandby => exact hop

theorem Asks.bind {p : Rci α} {next : α → Rci β} (hp : Asks R p)
    (hnext : ∀ value, Asks R (next value)) : Asks R (p >>= next) := Calls.bind hp hnext

/-! ### The calls of the request functions

Each of them makes exchanges of one request, and no other call. -/

section Requests

variable {P : Call → Prop} {request : Request}

theorem calls_exchange (h : P (.exchange request)) : (exchange request).Calls P :=
  ⟨h, fun _ => trivial⟩

theorem calls_get (h : P (.exchange request)) : (get request).Calls P := by
  refine (calls_exchange h).bind fun reply => ?_
  cases reply <;> trivial

theorem calls_postRci (h : P (.exchange request)) : (postRci request).Calls P := by
  refine (calls_exchange h).bind fun reply => ?_
  cases reply with
  | error cause => trivial
  | ok response =>
      dsimp only
      split_ifs <;> trivial

theorem calls_deleteRci {name : String} (h : P (.exchange (.deleteInterface name))) :
    (deleteRci name).Calls P := by
  refine (calls_exchange h).bind fun reply => ?_
  cases reply with
  | error cause => trivial
  | ok response =>
      dsimp only
      split_ifs <;> trivial

theorem calls_retryFrom {operation : Rci α} (h : operation.Calls P) (attempts : Nat) :
    (retryFrom operation attempts).Calls P := by
  induction attempts with
  | zero => exact h
  | succ attempts ih =>
      refine Calls.tryCatch h fun error => ?_
      split_ifs
      · exact ih
      · trivial

theorem calls_retryKeenetic {operation : Rci α} (h : operation.Calls P) :
    (retryKeenetic operation).Calls P := calls_retryFrom h 2

theorem calls_jsonDecode (body : Body) : (jsonDecode body).Calls P := by
  cases body <;> trivial

theorem calls_getJson (h : P (.exchange request)) : (getJson request).Calls P := by
  refine (calls_retryKeenetic (calls_get h)).bind fun response => ?_
  split_ifs
  · exact calls_jsonDecode _
  · trivial

theorem calls_runCliCommands {commands : List Command} (h : P (.exchange (.cli commands)))
    (ignoreErrors : Bool) : (runCliCommands commands ignoreErrors).Calls P := by
  unfold runCliCommands
  split_ifs
  · trivial
  · refine (calls_retryKeenetic (calls_postRci h)).bind fun body => ?_
    split
    · trivial
    · trivial
    · refine (calls_jsonDecode _).bind fun value => ?_
      split
      · split <;> trivial
      · trivial

theorem calls_saveConfiguration (h : P (.exchange .save)) : saveConfiguration.Calls P := by
  refine Calls.tryCatch ?_ fun error => ?_
  · exact (calls_retryKeenetic (calls_postRci h)).bind fun _ => trivial
  · split_ifs <;> trivial

theorem calls_bringUp {name : String} (h : P (.exchange (.interfaceUp name))) :
    (bringUp name).Calls P := (calls_retryKeenetic (calls_postRci h)).bind fun _ => trivial

theorem calls_takeDown {name : String} (h : P (.exchange (.interfaceDown name))) :
    (takeDown name).Calls P := (calls_retryKeenetic (calls_postRci h)).bind fun _ => trivial

theorem calls_readTunnelStatus {name : String} (h : P (.exchange (.showInterface name))) :
    (readTunnelStatus name).Calls P := (calls_getJson h).bind fun _ => calls_ofExcept _

theorem calls_waitForHandshake {name : String} (h : P (.exchange (.showInterface name))) :
    (waitForHandshake name).Calls P := by
  unfold waitForHandshake
  generalize (6 : Nat) = attempts
  generalize (⟨false, false, "Handshake пока не получен."⟩ : TunnelStatus) = status
  induction attempts generalizing status with
  | zero => trivial
  | succ attempts ih =>
      refine (calls_readTunnelStatus h).bind fun status => ?_
      split_ifs
      · trivial
      · exact ih status

/-- An attachment reads the table, writes the two records and reads the state of one tunnel. -/
theorem calls_attachAndCheckExistingTunnel {access : KeeneticAccess}
    (htable : P (.exchange .showInterfaces)) (hstatus : ∀ name, P (.exchange (.showInterface name)))
    (hselected : ∀ name, P (.setSelected access.ip name))
    (hstandby : ∀ name, P (.setStandby access.ip name)) :
    (attachAndCheckExistingTunnel access).Calls P := by
  refine (calls_getJson htable).bind fun value => ?_
  split
  · split
    · trivial
    · refine Calls.bind ((Program.calls_request _).mpr (hselected _)) fun _ => ?_
      split
      · exact Calls.bind ((Program.calls_request _).mpr (hstandby _)) fun _ =>
          calls_readTunnelStatus (hstatus _)
      · exact calls_readTunnelStatus (hstatus _)
  · trivial

end Requests

/-! ### Failures -/

theorem throws_retryFrom {Q : Failure → Prop} {operation : Rci α} (h : operation.Throws Q)
    (attempts : Nat) : (retryFrom operation attempts).Throws Q := by
  induction attempts with
  | zero => exact h
  | succ attempts ih =>
      refine h.tryCatch fun error herror => ?_
      split_ifs
      · exact ih
      · exact herror

/-! ### Writing the records -/

theorem run_setSelectedInterface (host name : String) (s : Session) :
    (setSelectedInterface host name).run net.handle s = (.ok (),
      { s with selectedInterfaceByHost := Function.update s.selectedInterfaceByHost host (some name) }) := rfl

theorem run_setStandbyInterface (host name : String) (s : Session) :
    (setStandbyInterface host name).run net.handle s = (.ok (),
      { s with standbyInterfaceByHost := Function.update s.standbyInterfaceByHost host (some name) }) := rfl

/-! ### Exchanges that are certainly made -/

theorem run_exchange (request : Request) (s : Session) :
    (exchange request).run net.handle s =
      (.ok (net.answers s.exchanges.length).reply,
        { s with exchanges := s.exchanges ++ [⟨request, net.answers s.exchanges.length⟩] }) := rfl

/-- The first thing the operation does is to send the request. -/
def Starts (request : Request) (p : Rci α) : Prop := ∃ next, p = .call (.exchange request) next

theorem Starts.bind {request : Request} {p : Rci α} (hp : Starts request p) (next : α → Rci β) :
    Starts request (p >>= next) := by
  obtain ⟨rest, rfl⟩ := hp
  exact ⟨_, rfl⟩

theorem Starts.tryCatch {request : Request} {p : Rci α} (hp : Starts request p)
    (handle : Failure → Rci α) : Starts request (MonadExcept.tryCatch p handle) := by
  obtain ⟨rest, rfl⟩ := hp
  exact ⟨_, rfl⟩

theorem Starts.first_mem {request : Request} {p : Rci α} (hp : Starts request p)
    {result : Except Failure α} (h : p.run net.handle s = (result, t)) :
    ⟨request, net.answers s.exchanges.length⟩ ∈ s.since t := by
  obtain ⟨rest, rfl⟩ := hp
  have hrest : (rest (net.answers s.exchanges.length).reply).run net.handle
      { s with exchanges := s.exchanges ++ [⟨request, net.answers s.exchanges.length⟩] }
        = (result, t) := h
  obtain ⟨new, hnew⟩ := prefix_of_run hrest
  have hsince : s.since t = ⟨request, net.answers s.exchanges.length⟩ :: new := by
    apply since_of_append
    rw [← hnew]
    simp
  rw [hsince]
  exact List.mem_cons_self

theorem Starts.run {request : Request} {p : Rci α} (hp : Starts request p)
    {result : Except Failure α} (h : p.run net.handle s = (result, t)) :
    ∃ e ∈ s.since t, e.request = request := ⟨_, hp.first_mem h, rfl⟩

theorem Starts.retryKeenetic {request : Request} {p : Rci α} (hp : Starts request p) :
    Starts request (retryKeenetic p) := hp.tryCatch _

theorem starts_postRci (request : Request) : Starts request (postRci request) := ⟨_, rfl⟩

theorem starts_saveConfiguration : Starts .save saveConfiguration :=
  ((starts_postRci _).retryKeenetic.bind _).tryCatch _

theorem starts_runCliCommands {commands : List Command} (hne : commands ≠ []) (ignoreErrors : Bool) :
    Starts (.cli commands) (runCliCommands commands ignoreErrors) := by
  unfold runCliCommands
  rw [if_neg (by simpa using hne)]
  exact (starts_postRci _).retryKeenetic.bind _

/-! ### What a normal return tells -/

theorem run_postRci_ok {request : Request} {body : Body}
    (h : (postRci request).run net.handle s = (.ok body, t)) :
    ∃ e ∈ s.since t, e.request = request ∧ e.succeeded = true := by
  obtain ⟨reply, m, hexchange, hrest⟩ := Program.run_bind_ok h
  rw [run_exchange] at hexchange
  obtain ⟨hreply, rfl⟩ := Prod.mk.inj hexchange
  obtain rfl := Except.ok.inj hreply
  rcases hr : (net.answers s.exchanges.length).reply with cause | response
  · simp [hr] at hrest
  · rw [hr] at hrest
    dsimp only at hrest
    by_cases hsuccess : response.isSuccess = true
    · rw [if_pos hsuccess] at hrest
      obtain ⟨-, rfl⟩ := Prod.mk.inj hrest
      refine ⟨⟨request, net.answers s.exchanges.length⟩, ?_, rfl, ?_⟩
      · rw [since_of_append rfl]
        exact List.mem_singleton_self _
      · simp [Exchange.succeeded, hr, hsuccess]
    · rw [if_neg hsuccess] at hrest
      split_ifs at hrest <;> simp at hrest

/-- What every normal return of an operation leaves behind, the retried operation leaves behind. -/
theorem run_retryFrom_ok {operation : Rci α} {P : Exchange → Prop}
    (hop : ∀ s t value, operation.run net.handle s = (.ok value, t) → ∃ e ∈ s.since t, P e)
    {attempts : Nat} {value : α}
    (h : (retryFrom operation attempts).run net.handle s = (.ok value, t)) :
    ∃ e ∈ s.since t, P e := by
  induction attempts generalizing s with
  | zero => exact hop _ _ _ h
  | succ attempts ih =>
      rcases Program.run_tryCatch_ok h with h | ⟨error, m, hfailed, hretried⟩
      · exact hop _ _ _ h
      · split_ifs at hretried with htransient
        · obtain ⟨e, he, hP⟩ := ih hretried
          refine ⟨e, ?_, hP⟩
          rw [since_trans (prefix_of_run hfailed) (prefix_of_run hretried)]
          exact List.mem_append_right _ he
        · simp at hretried

theorem run_retryKeenetic_postRci_ok {request : Request} {body : Body}
    (h : (retryKeenetic (postRci request)).run net.handle s = (.ok body, t)) :
    ∃ e ∈ s.since t, e.request = request ∧ e.succeeded = true :=
  run_retryFrom_ok (fun _ _ _ hbody => run_postRci_ok hbody) h

theorem switched_of_succeeded {e : Exchange} (h : e.succeeded = true) :
    e.switched? = e.request.switches := by
  simp [Exchange.switched?, Exchange.done, h]

theorem run_bringUp_ok {name : String} {result : Unit}
    (h : (bringUp name).run net.handle s = (.ok result, t)) :
    ∃ e ∈ s.since t, e.switched? = some (name, true) := by
  obtain ⟨body, m, hpost, hrest⟩ := Program.run_bind_ok h
  obtain ⟨-, rfl⟩ := Prod.mk.inj hrest
  obtain ⟨e, he, hrequest, hsucceeded⟩ := run_retryKeenetic_postRci_ok hpost
  exact ⟨e, he, by rw [switched_of_succeeded hsucceeded, hrequest]; rfl⟩

theorem run_takeDown_ok {name : String} {result : Unit}
    (h : (takeDown name).run net.handle s = (.ok result, t)) :
    ∃ e ∈ s.since t, e.switched? = some (name, false) := by
  obtain ⟨body, m, hpost, hrest⟩ := Program.run_bind_ok h
  obtain ⟨-, rfl⟩ := Prod.mk.inj hrest
  obtain ⟨e, he, hrequest, hsucceeded⟩ := run_retryKeenetic_postRci_ok hpost
  exact ⟨e, he, by rw [switched_of_succeeded hsucceeded, hrequest]; rfl⟩

/-- The value a show request was answered with. -/
def Exchange.json? (e : Exchange) : Option Json :=
  match e.answer.reply with
  | .ok ⟨_, .json value⟩ => if e.succeeded then some value else none
  | _ => none

theorem json_of_error {e : Exchange} {cause : Fault} (h : e.answer.reply = .error cause) :
    e.json? = none := by
  simp [Exchange.json?, h]

theorem run_get {request : Request} {result : Except Failure Response}
    (h : (get request).run net.handle s = (result, t)) :
    s.since t = [⟨request, net.answers s.exchanges.length⟩] ∧
      match (net.answers s.exchanges.length).reply with
      | .ok response => result = .ok response
      | .error cause => result = .error cause.failure := by
  unfold get at h
  rw [Program.run_bind_of_ok (run_exchange request s)] at h
  rcases hr : (net.answers s.exchanges.length).reply with cause | response
  all_goals
    rw [hr] at h
    obtain ⟨rfl, rfl⟩ := Prod.mk.inj h
    exact ⟨since_of_append rfl, rfl⟩

/-- Between the two sessions one exchange of the request was answered with `value`, and no exchange
with anything else. -/
def Session.Reads (s t : Session) (request : Request) (value : Json) : Prop :=
  (∃ e ∈ s.since t, e.request = request ∧ e.json? = some value) ∧
    ∀ e ∈ s.since t, ∀ other, e.json? = some other → other = value

theorem reads_of_get {request : Request} {response : Response} {value : Json}
    (hget : (get request).run net.handle s = (.ok response, t))
    (hsuccess : response.isSuccess = true) (hbody : response.body = .json value) :
    s.Reads t request value := by
  obtain ⟨hsince, hreply⟩ := run_get hget
  rcases hr : (net.answers s.exchanges.length).reply with cause | answer
  · rw [hr] at hreply
    cases hreply
  · rw [hr] at hreply
    obtain rfl := Except.ok.inj hreply
    obtain ⟨status, body⟩ := response
    obtain rfl : body = .json value := hbody
    have hjson : (⟨request, net.answers s.exchanges.length⟩ : Exchange).json? = some value := by
      simp [Exchange.json?, Exchange.succeeded, hr, hsuccess]
    rw [Session.Reads, hsince]
    refine ⟨⟨_, List.mem_singleton_self _, rfl, hjson⟩, fun e he other hother => ?_⟩
    rw [List.mem_singleton.mp he, hjson] at hother
    exact (Option.some.inj hother).symm

theorem json_of_get_failed {request : Request} {error : Failure}
    (h : (get request).run net.handle s = (.error error, t)) {e : Exchange} (he : e ∈ s.since t) :
    e.json? = none := by
  obtain ⟨hsince, hreply⟩ := run_get h
  rw [hsince, List.mem_singleton] at he
  rcases hr : (net.answers s.exchanges.length).reply with cause | response
  · rw [he]
    exact json_of_error hr
  · rw [hr] at hreply
    cases hreply

theorem reads_of_retryFrom_get {request : Request} {response : Response} {value : Json}
    {attempts : Nat} (h : (retryFrom (get request) attempts).run net.handle s = (.ok response, t))
    (hsuccess : response.isSuccess = true) (hbody : response.body = .json value) :
    s.Reads t request value := by
  induction attempts generalizing s with
  | zero => exact reads_of_get h hsuccess hbody
  | succ attempts ih =>
      rcases Program.run_tryCatch_ok h with h | ⟨error, m, hfailed, hretried⟩
      · exact reads_of_get h hsuccess hbody
      · split_ifs at hretried with htransient
        · obtain ⟨⟨e, he, hread⟩, hall⟩ := ih hretried
          rw [Session.Reads, since_trans (prefix_of_run hfailed) (prefix_of_run hretried)]
          refine ⟨⟨e, List.mem_append_right _ he, hread⟩, fun e' he' other hother => ?_⟩
          rcases List.mem_append.mp he' with he' | he'
          · rw [json_of_get_failed hfailed he'] at hother
            cases hother
          · exact hall e' he' other hother
        · simp at hretried

theorem run_getJson_ok {request : Request} {value : Json}
    (h : (getJson request).run net.handle s = (.ok value, t)) : s.Reads t request value := by
  obtain ⟨response, m, hget, hrest⟩ := Program.run_bind_ok h
  split_ifs at hrest with hsuccess
  · rcases hbody : response.body with _ | _ | decoded
    · simp [hbody, jsonDecode] at hrest
    · simp [hbody, jsonDecode] at hrest
    · obtain ⟨rfl, rfl⟩ : decoded = value ∧ m = t := by
        simpa [hbody, jsonDecode] using hrest
      exact reads_of_retryFrom_get hget hsuccess hbody
  · simp at hrest

/-! ### A net that answers everything with success -/

def Net.Succeeds (net : Net) : Prop :=
  ∀ n, ∃ response, (net.answers n).reply = .ok response ∧ response.isSuccess = true

theorem Net.Succeeds.run_postRci (h : net.Succeeds) (request : Request) (s : Session) :
    ∃ body, (postRci request).run net.handle s
      = (.ok body, (net.handle (.exchange request) s).2) := by
  obtain ⟨response, hreply, hsuccess⟩ := h s.exchanges.length
  refine ⟨response.body, ?_⟩
  unfold postRci
  rw [Program.run_bind_of_ok (run_exchange request s), hreply]
  dsimp only
  rw [if_pos hsuccess]
  rfl

theorem Net.Succeeds.run_retryKeenetic_postRci (h : net.Succeeds) (request : Request) (s : Session) :
    ∃ body, (retryKeenetic (postRci request)).run net.handle s
      = (.ok body, (net.handle (.exchange request) s).2) := by
  obtain ⟨body, hbody⟩ := h.run_postRci request s
  refine ⟨body, ?_⟩
  unfold retryKeenetic retryFrom
  rw [Program.run_tryCatch, hbody]

theorem Net.Succeeds.run_runCliCommands (h : net.Succeeds) (commands : List Command) (s : Session) :
    ∃ t, (runCliCommands commands true).run net.handle s = (.ok (), t) := by
  unfold runCliCommands
  split_ifs
  · exact ⟨s, rfl⟩
  · obtain ⟨body, hbody⟩ := h.run_retryKeenetic_postRci (.cli commands) s
    rw [Program.run_bind_of_ok hbody]
    exact ⟨_, rfl⟩

/-! ### Answers for concrete runs -/

/-- A response and whether the router did what it was asked. -/
def responds (status : Nat) (body : Body) : Answer := ⟨.ok ⟨status, body⟩, fun _ => status == 200⟩

def freshTunnel : Json :=
  .obj [("state", .str "up"), ("connected", .str "yes"),
    ("wireguard", .obj [("status", .str "up"),
      ("peer", .arr [.obj [("online", .bool true), ("last-handshake", .int 7)]])])]

end Keenetic
