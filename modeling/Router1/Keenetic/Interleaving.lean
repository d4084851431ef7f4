import Router1.Keenetic.History
import Router1.Remote.Rely
import Router1.Remote.Runs

/-!
# A mode change beside a switch

`evaluateRouterFailover` switches to the standby and `_changeRouterMode` applies a profile, on one router
and on the records of one service. Nothing makes one of them wait for the other: each of them reads the
selected interface once, and then goes on whenever a request of it is answered.

A turn answers one request of one of the two calls, which then runs to its next request. The first turn
of a call starts it. Beside the router and the records it is kept which of the two has sent the batch of
`clearRouter1Routing`.
-/

namespace Keenetic

open Dart Api Remote
open Remote.Program (Calls)

inductive Turn where
  | switch
  | mode
  deriving DecidableEq

/-- What the two calls share. -/
structure Shared where
  session : Session
  router : Router
  cleared : Turn → Bool

def Call.sends (lines : List Command) : Call → Bool
  | .exchange (.cli commands) => commands == lines
  | _ => false

/-- A call made in a turn of one of the two, whose clearing batch is `lines`. -/
def Shared.handle (net : Net) (turn : Turn) (lines : List Command) :
    Program.Handler Call Call.Answer Shared := fun op σ =>
  let (answer, session) := net.handle op σ.session
  (answer,
    { session := session
      router := σ.router.after (σ.session.since session)
      cleared := fun other => σ.cleared other || (other == turn && op.sends lines) })

/-- A switch and a mode change that overlap. -/
structure Overlap where
  access : KeeneticAccess
  net : Net
  routing : RouterRoutingProfile
  profile : Option Router1RouteProfile
  mode : RouterRoutingProfile
  modeProfile : Option Router1RouteProfile

namespace Overlap

structure State where
  shared : Shared
  switching : Rci TunnelStatus
  changing : Rci Unit

/-- The batch with which each of the two clears. In the test mode there is none. -/
def lines (o : Overlap) : Turn → List Command
  | .switch => if o.access.testMode then [] else clearCommands o.profile
  | .mode => if o.access.testMode then [] else clearCommands o.modeProfile

def start (o : Overlap) (session : Session) (router : Router) : State where
  shared := ⟨session, router, fun _ => false⟩
  switching := switchToStandbyTunnel o.access o.routing o.profile
  changing := applyRoutingProfile o.access o.mode o.modeProfile

def step (o : Overlap) (s : State) : Turn → Option State
  | .switch =>
      match s.switching.resume (Shared.handle o.net .switch (o.lines .switch)) Call.awaited s.shared with
      | some (switching, shared) => some { s with shared, switching }
      | none => none
  | .mode =>
      match s.changing.resume (Shared.handle o.net .mode (o.lines .mode)) Call.awaited s.shared with
      | some (changing, shared) => some { s with shared, changing }
      | none => none

def State.bothReturned (s : State) : Bool :=
  match s.switching, s.changing with
  | .pure _, .pure _ => true
  | _, _ => false

end Overlap

/-- Every route and every proxy rule is bound to the interface. -/
structure Routing.BoundTo (r : Routing) (name : String) : Prop where
  routes : ∀ destination other, r.routes destination other = true → other = name
  dnsRoutes : ∀ group other, r.dnsRoutes group other = true → other = name

/-- All traffic goes through the selected interface, and it is up. -/
def Shared.Coherent (access : KeeneticAccess) (σ : Shared) : Prop :=
  ∃ selected, σ.session.selectedInterfaceByHost access.ip = some selected ∧
    σ.router.up selected = true ∧ σ.router.routing.BoundTo selected

/-- No answer offers another tunnel to the second server. -/
def Net.NoAlternative (net : Net) : Prop :=
  ∀ n response table, (net.answers n).reply = .ok response → response.body = .json table →
    ∀ selected, ∀ name ∈ (Lanes.of table selected).bound, name = selected

/-! ### The condition on an interleaving -/

/-- The entry a line adds is there. -/
def Routing.has (r : Routing) : Command → Bool
  | .addRoute destination name => r.routes destination name
  | .addDnsRoute group name => r.dnsRoutes group name
  | _ => false

/-- One of the lines takes the entry away that a line adds, whatever interface it is bound to. -/
def Command.undoneBy (lines : List Command) : Command → Bool
  | .addRoute destination _ => lines.contains (.removeRoute destination)
  | .addDnsRoute group _ => lines.contains (.removeDnsRoute group)
  | _ => false

namespace Overlap

/-- What is on the router at the start is bound to the standby or taken away by one of the two clearing
batches. -/
def Clearable (o : Overlap) (standby : Option String) (r : Routing) : Prop :=
  ∀ c name, c.binds = some name → r.has c = true →
    some name = standby ∨ ∃ turn, c.undoneBy (o.lines turn) = true

/-- What the mode change binds to another interface than the standby, it binds before the switch sends
its clearing batch, and this batch takes it away. -/
def orderly (o : Overlap) (standby : Option String) (s : State) : Turn → Bool
  | .switch => true
  | .mode =>
      match s.changing.waitsAt with
      | some (.exchange (.cli commands)) =>
          commands.all fun c =>
            match c.binds with
            | some name =>
                some name == standby || (!s.shared.cleared .switch && c.undoneBy (o.lines .switch))
            | none => true
      | _ => true

end Overlap

/-! ### Entries -/

section Entries

variable {r : Routing} {c line : Command} {cs : List Command} {name : String}

theorem has_of_exec (h : (r.exec line).has c = true) : r.has c = true ∨ line = c := by
  cases c with
  | addRoute destination name =>
      cases line with
      | addRoute other interface =>
          simp only [Routing.exec, Routing.has, Bool.or_eq_true, Bool.and_eq_true, beq_iff_eq] at h
          obtain h | ⟨rfl, rfl⟩ := h
          · exact .inl h
          · exact .inr rfl
      | removeRoute | removeRouteVia =>
          simp only [Routing.exec, Routing.has, Bool.and_eq_true] at h
          exact .inl h.1
      | addGroup | removeGroup | addDomain | removeDomain | addDnsRoute | removeDnsRoute | ipGlobal
      | noIpGlobal | ipv6Global | noIpv6Global | mtu1280 | saveConfiguration => exact .inl h
  | addDnsRoute group name =>
      cases line with
      | addDnsRoute other interface =>
          simp only [Routing.exec, Routing.has, Bool.or_eq_true, Bool.and_eq_true, beq_iff_eq] at h
          obtain h | ⟨rfl, rfl⟩ := h
          · exact .inl h
          · exact .inr rfl
      | removeDnsRoute =>
          simp only [Routing.exec, Routing.has, Bool.and_eq_true] at h
          exact .inl h.1
      | addRoute | removeRoute | removeRouteVia | addGroup | removeGroup | addDomain | removeDomain
      | ipGlobal | noIpGlobal | ipv6Global | noIpv6Global | mtu1280 | saveConfiguration => exact .inl h
  | removeRoute | removeRouteVia | addGroup | removeGroup | addDomain | removeDomain | removeDnsRoute
  | ipGlobal | noIpGlobal | ipv6Global | noIpv6Global | mtu1280 | saveConfiguration => cases h

/-- An entry was there before the lines, or one of them adds it. -/
theorem has_of_execAll (h : (r.execAll cs).has c = true) : r.has c = true ∨ c ∈ cs := by
  induction cs generalizing r with
  | nil => exact .inl h
  | cons line cs ih =>
      obtain hexec | hmem := ih h
      · obtain hbefore | rfl := has_of_exec hexec
        · exact .inl hbefore
        · exact .inr List.mem_cons_self
      · exact .inr (List.mem_cons_of_mem line hmem)

theorem not_has_exec (h : c.undoneBy [line] = true) : (r.exec line).has c = false := by
  cases c with
  | addRoute destination name =>
      obtain rfl : line = .removeRoute destination := by
        simpa [Command.undoneBy, eq_comm] using h
      simp [Routing.exec, Routing.has]
  | addDnsRoute group name =>
      obtain rfl : line = .removeDnsRoute group := by
        simpa [Command.undoneBy, eq_comm] using h
      simp [Routing.exec, Routing.has]
  | removeRoute | removeRouteVia | addGroup | removeGroup | addDomain | removeDomain | removeDnsRoute
  | ipGlobal | noIpGlobal | ipv6Global | noIpv6Global | mtu1280 | saveConfiguration => cases h

theorem undoneBy_nil (c : Command) : c.undoneBy [] = false := by
  cases c with
  | addRoute | addDnsRoute => simp [Command.undoneBy]
  | removeRoute | removeRouteVia | addGroup | removeGroup | addDomain | removeDomain | removeDnsRoute
  | ipGlobal | noIpGlobal | ipv6Global | noIpv6Global | mtu1280 | saveConfiguration => rfl

theorem undoneBy_cons (c line : Command) (cs : List Command) :
    c.undoneBy (line :: cs) = (c.undoneBy [line] || c.undoneBy cs) := by
  cases c with
  | addRoute | addDnsRoute => simp [Command.undoneBy]
  | removeRoute | removeRouteVia | addGroup | removeGroup | addDomain | removeDomain | removeDnsRoute
  | ipGlobal | noIpGlobal | ipv6Global | noIpv6Global | mtu1280 | saveConfiguration => rfl

/-- Lines that bind nothing and take an entry away leave no trace of it. -/
theorem not_has_execAll (hcs : ∀ line ∈ cs, line.binds = none) (hc : c.binds = some name)
    (h : c.undoneBy cs = true) : (r.execAll cs).has c = false := by
  induction cs generalizing r with
  | nil =>
      rw [undoneBy_nil] at h
      cases h
  | cons line cs ih =>
      have hrest : ∀ other ∈ cs, other.binds = none :=
        fun other hother => hcs other (List.mem_cons_of_mem line hother)
      rw [undoneBy_cons, Bool.or_eq_true] at h
      rw [Routing.execAll_cons]
      obtain hnow | hlater := h
      · by_contra hhas
        rw [Bool.not_eq_false] at hhas
        obtain hbefore | hmem := has_of_execAll hhas
        · rw [not_has_exec hnow] at hbefore
          cases hbefore
        · rw [hrest c hmem] at hc
          cases hc
      · exact ih hrest hlater

theorem boundTo_of_has (h : ∀ c other, c.binds = some other → r.has c = true → other = name) :
    r.BoundTo name :=
  ⟨fun destination other => h (.addRoute destination other) other rfl,
    fun group other => h (.addDnsRoute group other) other rfl⟩

end Entries

/-! ### One call of one of the two -/

section Handle

variable {net : Net} {turn : Turn} {lines : List Command} {σ : Shared}

theorem handle_router (op : Call) :
    (Shared.handle net turn lines op σ).2.router =
      match op with
      | .exchange request => σ.router.step ⟨request, net.answers σ.session.exchanges.length⟩
      | _ => σ.router := by
  change σ.router.after (σ.session.since (net.handle op σ.session).2) = _
  cases op with
  | exchange request =>
      have hsince : σ.session.since (net.handle (.exchange request) σ.session).2
          = [⟨request, net.answers σ.session.exchanges.length⟩] := since_of_append rfl
      rw [hsince]
      rfl
  | lookup | selected | setSelected | standby | setStandby =>
      have hsince : σ.session.since σ.session = [] := since_self σ.session
      exact congrArg σ.router.after hsince

theorem handle_cleared (op : Call) (other : Turn) :
    (Shared.handle net turn lines op σ).2.cleared other
      = (σ.cleared other || (other == turn && op.sends lines)) := rfl

/-- The lines of a batch are carried out, and nothing else touches the routing. -/
theorem handle_routing (hworks : net.Works) (op : Call) :
    (Shared.handle net turn lines op σ).2.router.routing =
      match op with
      | .exchange (.cli commands) => σ.router.routing.execAll commands
      | _ => σ.router.routing := by
  cases op with
  | exchange request =>
      rw [handle_router]
      change σ.router.routing.execAll (Exchange.executed _) = _
      rw [hworks.executed]
      cases request with
      | cli commands => rfl
      | showInterfaces | showInterface | showIpRoute | interfaceUp | interfaceDown | deleteInterface
      | importConfig | save => rfl
  | lookup | selected | setSelected | standby | setStandby =>
      rw [handle_router]

end Handle

/-! ### What is still to be cleared -/

namespace Overlap

variable {o : Overlap} {standby : Option String} {σ : Shared}

/-- Every entry is bound to the standby, or a clearing batch that is still to be sent takes it away. -/
def Accounted (o : Overlap) (standby : Option String) (σ : Shared) : Prop :=
  ∀ c name, c.binds = some name → σ.router.routing.has c = true →
    some name = standby ∨ ∃ turn, σ.cleared turn = false ∧ c.undoneBy (o.lines turn) = true

theorem lines_bind_nothing (o : Overlap) (turn : Turn) : ∀ c ∈ o.lines turn, c.binds = none := by
  have hclear : ∀ profile : Option Router1RouteProfile,
      ∀ c ∈ (if o.access.testMode then [] else clearCommands profile), c.binds = none := by
    intro profile
    split
    · simp
    · exact fun c hc => Command.binds_of_clears (clearCommands_clears profile c hc)
  cases turn with
  | switch => exact hclear o.profile
  | mode => exact hclear o.modeProfile

theorem Accounted.handle (hworks : o.net.Works) (h : o.Accounted standby σ) (turn : Turn) (op : Call)
    (hop : ∀ commands, op = .exchange (.cli commands) → ∀ c ∈ commands, ∀ name, c.binds = some name →
      some name = standby ∨
        ∃ other, other ≠ turn ∧ σ.cleared other = false ∧ c.undoneBy (o.lines other) = true) :
    o.Accounted standby (Shared.handle o.net turn (o.lines turn) op σ).2 := by
  intro c name hc hhas
  rw [handle_routing hworks] at hhas
  simp only [handle_cleared]
  split at hhas
  · next commands =>
      obtain hbefore | hmem := has_of_execAll hhas
      · obtain hstandby | ⟨other, hopen, hundone⟩ := h c name hc hbefore
        · exact .inl hstandby
        · refine .inr ⟨other, ?_, hundone⟩
          -- the batch that takes the entry away has not been sent now either
          by_contra hsent
          simp only [hopen, Bool.false_or, Bool.not_eq_false, Bool.and_eq_true, beq_iff_eq,
            Call.sends] at hsent
          obtain ⟨rfl, rfl⟩ := hsent
          rw [not_has_execAll (o.lines_bind_nothing other) hc hundone] at hhas
          cases hhas
      · obtain hstandby | ⟨other, hne, hopen, hundone⟩ := hop commands rfl c hmem name hc
        · exact .inl hstandby
        · exact .inr ⟨other, by simp [hopen, hne], hundone⟩
  · next hother =>
      obtain hstandby | ⟨other, hopen, hundone⟩ := h c name hc hhas
      · exact .inl hstandby
      · refine .inr ⟨other, ?_, hundone⟩
        have hsends : op.sends (o.lines turn) = false := by
          cases op with
          | exchange request =>
              cases request with
              | cli commands => exact absurd rfl (hother commands)
              | showInterfaces | showInterface | showIpRoute | interfaceUp | interfaceDown
              | deleteInterface | importConfig | save => rfl
          | lookup | selected | setSelected | standby | setStandby => rfl
        rw [hopen, hsends]
        simp

end Overlap

/-! ### Requests that succeed, beside another call -/

section Requests

variable {net : Net} {turn : Turn} {lines : List Command} {rely : Shared → Shared → Prop}
  {guar : Call → Prop} {pre Q : Shared → Prop}

def Turn.party (turn : Turn) (net : Net) (lines : List Command) (rely : Shared → Shared → Prop)
    (guar : Call → Prop) : Party Call Call.Answer Shared :=
  ⟨Shared.handle net turn lines, rely, guar⟩

/-- An answer of the net with a success status. -/
def Net.Answers (net : Net) (response : Response) : Prop :=
  response.isSuccess = true ∧ ∃ n, (net.answers n).reply = .ok response

theorem meets_exchange (hsucceeds : net.Succeeds) {request : Request} (hguar : guar (.exchange request))
    (hQ : Stable rely Q)
    (hstep : ∀ σ, pre σ → Q (Shared.handle net turn lines (.exchange request) σ).2)
    {fails : Failure → Shared → Prop} :
    (turn.party net lines rely guar).Meets
      (fun reply σ => (∃ response, reply = .ok response ∧ net.Answers response) ∧ Q σ) fails pre
      (exchange request) := by
  refine Party.meets_request hguar (fun reply σ τ hσ hrely => ⟨hσ.1, hQ σ τ hσ.2 hrely⟩) fun σ hσ => ?_
  obtain ⟨response, hreply, hsuccess⟩ := hsucceeds σ.session.exchanges.length
  exact ⟨⟨response, hreply, hsuccess, _, hreply⟩, hstep σ hσ⟩

theorem meets_postRci (hsucceeds : net.Succeeds) {request : Request} (hguar : guar (.exchange request))
    (hQ : Stable rely Q)
    (hstep : ∀ σ, pre σ → Q (Shared.handle net turn lines (.exchange request) σ).2) :
    (turn.party net lines rely guar).Meets (fun _ => Q) (fun _ _ => False) pre (postRci request) := by
  refine (meets_exchange hsucceeds hguar hQ hstep).bind fun reply => ?_
  cases reply with
  | error cause =>
      refine (Party.meets_of_false _).of_imp fun σ hσ => ?_
      obtain ⟨⟨response, hreply, -⟩, -⟩ := hσ
      cases hreply
  | ok response =>
      dsimp only
      split_ifs with hsuccess
      · exact Party.meets_pure fun σ hσ => hσ.2
      all_goals
        refine Party.meets_throw fun σ hσ => hsuccess ?_
        obtain ⟨⟨response', hreply, hanswers⟩, -⟩ := hσ
        cases hreply
        exact hanswers.1

theorem meets_get (hsucceeds : net.Succeeds) {request : Request} (hguar : guar (.exchange request))
    (hQ : Stable rely Q)
    (hstep : ∀ σ, pre σ → Q (Shared.handle net turn lines (.exchange request) σ).2) :
    (turn.party net lines rely guar).Meets (fun response σ => net.Answers response ∧ Q σ)
      (fun _ _ => False) pre (get request) := by
  refine (meets_exchange hsucceeds hguar hQ hstep).bind fun reply => ?_
  cases reply with
  | error cause =>
      refine (Party.meets_of_false _).of_imp fun σ hσ => ?_
      obtain ⟨⟨response, hreply, -⟩, -⟩ := hσ
      cases hreply
  | ok response =>
      refine Party.meets_pure fun σ hσ => ?_
      obtain ⟨⟨response', hreply, hanswers⟩, hQσ⟩ := hσ
      cases hreply
      exact ⟨hanswers, hQσ⟩

theorem meets_retryKeenetic {α : Type} {operation : Rci α} {post : α → Shared → Prop}
    (h : (turn.party net lines rely guar).Meets post (fun _ _ => False) pre operation) :
    (turn.party net lines rely guar).Meets post (fun _ _ => False) pre (retryKeenetic operation) :=
  h.tryCatch fun _ => Party.meets_of_false _

theorem meets_getJson (hsucceeds : net.Succeeds) {request : Request} (hguar : guar (.exchange request))
    (hQ : Stable rely Q)
    (hstep : ∀ σ, pre σ → Q (Shared.handle net turn lines (.exchange request) σ).2) :
    (turn.party net lines rely guar).Meets
      (fun value σ => (∃ response, net.Answers response ∧ response.body = .json value) ∧ Q σ)
      (fun _ _ => True) pre (getJson request) := by
  have hget := meets_retryKeenetic (meets_get hsucceeds hguar hQ hstep)
  refine hget.returning.bind fun response => ?_
  split_ifs with hsuccess
  · rcases hbody : response.body with _ | _ | value
    · exact Party.meets_throw fun _ _ => trivial
    · exact Party.meets_throw fun _ _ => trivial
    · exact Party.meets_pure fun σ hσ => ⟨⟨response, hσ.1, hbody⟩, hσ.2⟩
  · exact Party.meets_throw fun _ _ => trivial

theorem meets_runCliCommands (hsucceeds : net.Succeeds) {commands : List Command} (hne : commands ≠ [])
    (hguar : guar (.exchange (.cli commands))) (hQ : Stable rely Q)
    (hstep : ∀ σ, pre σ → Q (Shared.handle net turn lines (.exchange (.cli commands)) σ).2) :
    (turn.party net lines rely guar).Meets (fun _ => Q) (fun _ _ => True) pre
      (runCliCommands commands true) := by
  unfold runCliCommands
  rw [if_neg (by simpa using hne)]
  have hpost := meets_retryKeenetic (meets_postRci hsucceeds hguar hQ hstep)
  exact hpost.returning.bind fun _ => Party.meets_pure fun _ hσ => hσ

end Requests

/-! ### Applying a profile, beside another call -/

section Apply

variable {net : Net} {turn : Turn} {lines : List Command} {rely : Shared → Shared → Prop}
  {guar : Call → Prop} {I : Shared → Prop} {access : KeeneticAccess} {routing : RouterRoutingProfile}
  {profile : Option Router1RouteProfile}

theorem isBatch_of_bound {names : List String} {selected : String} {request : Request}
    (hnames : ∀ name ∈ names, name = selected) (h : request.IsBatch names) :
    request.IsBatch [selected] := by
  obtain ⟨commands, hcli, hbinds⟩ := h
  refine ⟨commands, hcli, fun c hc name hname => ?_⟩
  rw [hnames name (hbinds c hc name hname)]
  exact List.mem_singleton_self selected

theorem meets_cleared (hsucceeds : net.Succeeds) (htest : access.testMode = false)
    (hlines : lines = clearCommands profile) (hI : Stable rely I)
    (hmark : Stable rely fun σ => σ.cleared turn = true)
    (hkeeps : ∀ op σ, Call.Asks Request.ofRouting op → I σ → I (Shared.handle net turn lines op σ).2)
    {names : List String} (hguar : ∀ op, Call.Asks (Request.IsBatch names) op → guar op)
    {rest : Rci Unit} (hrest : Asks (Request.IsBatch names) rest) :
    (turn.party net lines rely guar).Meets (fun _ σ => I σ ∧ σ.cleared turn = true) (fun _ _ => True) I
      (do clearRouter1Routing access profile; rest) := by
  have hbatch : Request.IsBatch names (.cli (clearCommands profile)) := by
    refine ⟨_, rfl, bindsOnly_of_none fun c hc => ?_⟩
    exact Command.binds_of_clears (clearCommands_clears profile c hc)
  have hrouting : ∀ op, Call.Asks (Request.IsBatch names) op → Call.Asks Request.ofRouting op := by
    intro op hop
    cases op with
    | exchange request => exact Request.ofRouting_of_isBatch hop
    | lookup | selected | standby => trivial
    | setSelected | setStandby => exact hop
  unfold clearRouter1Routing
  rw [if_neg (by simp [htest])]
  refine (meets_runCliCommands hsucceeds (by simp [clearCommands]) (hguar _ hbatch) (hI.and hmark)
    fun σ hσ => ⟨hkeeps _ σ (.inr ⟨_, rfl⟩) hσ, ?_⟩).bind fun _ => ?_
  · simp [handle_cleared, Call.sends, hlines]
  · have hkept : ∀ op σ, Call.Asks (Request.IsBatch names) op → (I σ ∧ σ.cleared turn = true) →
        I (Shared.handle net turn lines op σ).2 ∧
          (Shared.handle net turn lines op σ).2.cleared turn = true := by
      intro op σ hop hσ
      refine ⟨hkeeps op σ (hrouting op hop) hσ.1, ?_⟩
      rw [handle_cleared, hσ.2, Bool.true_or]
    exact (Party.meets_of_calls hrest (hI.and hmark) hguar hkept).returning

/-- A profile that is applied to the end leaves the mark of its clearing batch, except in the test mode,
and binds to the interface that it has found selected. -/
theorem meets_applyRoutingProfile (hsucceeds : net.Succeeds) (halternative : net.NoAlternative)
    (hlines : access.testMode = false → lines = clearCommands profile) (hI : Stable rely I)
    (hmark : Stable rely fun σ => σ.cleared turn = true)
    (hkeeps : ∀ op σ, Call.Asks Request.ofRouting op → I σ → I (Shared.handle net turn lines op σ).2)
    (hreads : guar (.selected access.ip) ∧ guar (.exchange .showInterfaces))
    (hguar : ∀ σ selected, I σ → σ.session.selectedInterfaceByHost access.ip = some selected →
      ∀ op, Call.Asks (Request.IsBatch [selected]) op → guar op) :
    (turn.party net lines rely guar).Meets
      (fun _ σ => I σ ∧ (access.testMode = true ∨ σ.cleared turn = true)) (fun _ _ => True) I
      (applyRoutingProfile access routing profile) := by
  cases htest : access.testMode with
  | true =>
      have hnothing : applyRoutingProfile access routing profile = pure () := by
        cases routing with
        | fullTunnel => simp [applyRoutingProfile, applyFullTunnelRouting, htest]
        | selective => simp [applyRoutingProfile, applySelectiveDnsRouting, htest]
      rw [hnothing]
      exact Party.meets_pure fun σ hσ => ⟨hσ, .inl rfl⟩
  | false =>
      simp only [Bool.false_eq_true, false_or]
      have hread : (turn.party net lines rely guar).Meets
          (fun answer σ => (∃ τ, I τ ∧ τ.session.selectedInterfaceByHost access.ip = answer) ∧ I σ)
          (fun _ _ => True) I (selectedInterface access.ip) :=
        Party.meets_request hreads.1 (fun answer σ τ hσ hrely => ⟨hσ.1, hI σ τ hσ.2 hrely⟩)
          fun σ hσ => ⟨⟨σ, hσ, rfl⟩, hkeeps (.selected access.ip) σ trivial hσ⟩
      cases routing with
      | fullTunnel =>
          simp only [applyRoutingProfile, applyFullTunnelRouting, htest, Bool.false_eq_true, if_false]
          refine hread.bind fun answer => ?_
          cases answer with
          | none => exact Party.meets_throw fun _ _ => trivial
          | some selected =>
              refine Party.meets_of_fact fun hknown => ?_
              obtain ⟨τ, hτ, hselected⟩ := hknown
              exact meets_cleared hsucceeds htest (hlines htest) hI hmark hkeeps
                (hguar τ selected hτ hselected) (asks_fullTunnel_lines selected)
      | selective =>
          simp only [applyRoutingProfile, applySelectiveDnsRouting, htest, Bool.false_eq_true, if_false]
          refine hread.bind fun answer => ?_
          cases answer with
          | none => exact Party.meets_throw fun _ _ => trivial
          | some selected =>
              refine Party.meets_of_fact fun hknown => ?_
              obtain ⟨τ, hτ, hselected⟩ := hknown
              refine (meets_getJson hsucceeds hreads.2 hI fun σ hσ =>
                hkeeps (.exchange .showInterfaces) σ (.inl rfl) hσ).bind fun table => ?_
              refine Party.meets_of_fact fun hshown => ?_
              obtain ⟨response, ⟨-, n, hreply⟩, hbody⟩ := hshown
              have hbound := halternative n response table hreply hbody selected
              refine meets_cleared hsucceeds htest (hlines htest) hI hmark hkeeps (fun op hop => ?_)
                (asks_selective_lines profile (.of table selected))
              apply hguar τ selected hτ hselected
              cases op with
              | exchange request => exact isBatch_of_bound hbound hop
              | lookup | selected | standby => trivial
              | setSelected | setStandby => exact hop

end Apply

/-! ### The switch, beside a mode change -/

section Switch

variable {net : Net} {lines : List Command} {access : KeeneticAccess} {routing : RouterRoutingProfile}
  {profile : Option Router1RouteProfile} {current standby : String} {σ : Shared} {op : Call}

/-- What a mode change leaves alone. -/
structure Shared.Undisturbed (σ τ : Shared) : Prop where
  selected : τ.session.selectedInterfaceByHost = σ.session.selectedInterfaceByHost
  standby : τ.session.standbyInterfaceByHost = σ.session.standbyInterfaceByHost
  up : τ.router.up = σ.router.up
  cleared : τ.cleared .switch = σ.cleared .switch

/-- What the call binds, it binds to the interface. -/
def Call.BindsTo (name : Option String) : Call → Prop
  | .exchange (.cli commands) => ∀ c ∈ commands, ∀ other, c.binds = some other → some other = name
  | _ => True

theorem bindsTo_of_asks (h : op.Asks (Request.IsBatch [standby])) : op.BindsTo (some standby) := by
  cases op with
  | exchange request =>
      obtain ⟨commands, rfl, hbinds⟩ := h
      intro c hc other hother
      rw [List.mem_singleton.mp (hbinds c hc other hother)]
  | lookup | selected | standby | setSelected | setStandby => trivial

def switchParty (net : Net) (lines : List Command) (standby : Option String) :
    Party Call Call.Answer Shared :=
  Turn.party .switch net lines Shared.Undisturbed (Call.BindsTo standby)

/-- The interface is up. -/
def Shared.Up (name : String) (σ : Shared) : Prop := σ.router.up name = true

/-- The interface is selected and up. -/
def Shared.On (access : KeeneticAccess) (name : String) (σ : Shared) : Prop :=
  σ.session.selectedInterfaceByHost access.ip = some name ∧ σ.Up name

/-- The call neither takes the interface down nor selects one. -/
def Call.Leaves (name : String) : Call → Prop
  | .exchange request => request.switches ≠ some (name, false)
  | .setSelected _ _ => False
  | .lookup _ | .selected _ | .standby _ | .setStandby _ _ => True

theorem stable_up (name : String) : Stable Shared.Undisturbed (Shared.Up name) := by
  intro σ τ hσ hrely
  rw [Shared.Up, hrely.up]
  exact hσ

theorem stable_on (access : KeeneticAccess) (name : String) :
    Stable Shared.Undisturbed (Shared.On access name) := by
  intro σ τ hσ hrely
  rw [Shared.On, hrely.selected]
  exact ⟨hσ.1, stable_up name σ τ hσ.2 hrely⟩

theorem Shared.Up.handle {turn : Turn} (h : σ.Up standby) (hop : op.Leaves standby) :
    (Shared.handle net turn lines op σ).2.Up standby := by
  cases op with
  | exchange request =>
      rw [Shared.Up, handle_router]
      show (σ.router.after [⟨request, net.answers σ.session.exchanges.length⟩]).up standby = true
      apply Router.after_up_of_kept h
      intro e he
      rw [List.mem_singleton.mp he]
      exact hop
  | lookup | selected | setSelected | standby | setStandby =>
      rw [Shared.Up, handle_router]
      exact h

theorem Shared.On.handle {turn : Turn} (h : σ.On access standby) (hop : op.Leaves standby) :
    (Shared.handle net turn lines op σ).2.On access standby := by
  refine ⟨?_, h.2.handle hop⟩
  cases op with
  | setSelected => exact hop.elim
  | exchange | lookup | selected | standby | setStandby => exact h.1

theorem leaves_of_asks (h : op.Asks Request.ofRouting) : op.Leaves standby := by
  cases op with
  | exchange request =>
      obtain rfl | ⟨commands, rfl⟩ := h
      · exact nofun
      · exact nofun
  | setSelected => exact h
  | lookup | selected | standby | setStandby => trivial

theorem meets_bringUp (hsucceeds : net.Succeeds) {pre : Shared → Prop} (target : Option String) :
    (switchParty net lines target).Meets (fun _ => Shared.Up standby) (fun _ _ => True) pre
      (bringUp standby) := by
  have hstep : ∀ σ, pre σ → Shared.Up standby
      (Shared.handle net .switch lines (.exchange (.interfaceUp standby)) σ).2 := by
    intro σ _
    obtain ⟨response, hreply, hsuccess⟩ := hsucceeds σ.session.exchanges.length
    rw [Shared.Up, handle_router]
    apply Router.step_up_of_switched
    rw [switched_of_succeeded (by simp [Exchange.succeeded, hreply, hsuccess])]
    rfl
  have hpost : (switchParty net lines target).Meets (fun _ => Shared.Up standby) (fun _ _ => False) pre
      (postRci (.interfaceUp standby)) := meets_postRci hsucceeds trivial (stable_up standby) hstep
  refine (meets_retryKeenetic hpost).returning.bind fun _ => ?_
  exact Party.meets_pure fun _ hσ => hσ

theorem meets_leaving {α : Type} {p : Rci α} {I : Shared → Prop} {target : Option String}
    (hI : Stable Shared.Undisturbed I)
    (hkeeps : ∀ op σ, op.Leaves standby → I σ → I (Shared.handle net .switch lines op σ).2)
    (hp : p.Calls fun op => op.Leaves standby ∧ op.BindsTo target) :
    (switchParty net lines target).Meets (fun _ => I) (fun _ _ => True) I p :=
  (Party.meets_of_calls hp hI (fun _ hop => hop.2)
    fun op σ hop hσ => hkeeps op σ hop.1 hσ).returning

/-- What holds when the try block is through. -/
def Shared.Moved (access : KeeneticAccess) (name : String) (σ : Shared) : Prop :=
  σ.On access name ∧ (access.testMode = true ∨ σ.cleared .switch = true)

theorem stable_moved (access : KeeneticAccess) (name : String) :
    Stable Shared.Undisturbed (Shared.Moved access name) := by
  intro σ τ hσ hrely
  rw [Shared.Moved, hrely.cleared]
  exact ⟨stable_on access name σ τ hσ.1 hrely, hσ.2⟩

theorem Shared.Moved.handle (h : σ.Moved access standby) (hop : op.Leaves standby) :
    (Shared.handle net .switch lines op σ).2.Moved access standby := by
  refine ⟨h.1.handle hop, h.2.imp_right fun hcleared => ?_⟩
  rw [handle_cleared, hcleared, Bool.true_or]

theorem meets_switchOver (hsucceeds : net.Succeeds) (halternative : net.NoAlternative)
    (hlines : access.testMode = false → lines = clearCommands profile) (hne : current ≠ standby)
    {pre : Shared → Prop} :
    (switchParty net lines (some standby)).Meets (fun _ => Shared.Moved access standby)
      (fun _ _ => True) pre (switchOver access routing profile current standby) := by
  have hwait : (switchParty net lines (some standby)).Meets (fun _ => Shared.Up standby)
      (fun _ _ => True) (Shared.Up standby) (waitForHandshake standby) :=
    meets_leaving (stable_up standby) (fun op σ hop hσ => hσ.handle hop)
      (calls_waitForHandshake ⟨nofun, trivial⟩)
  have hselect : (switchParty net lines (some standby)).Meets (fun _ => Shared.On access standby)
      (fun _ _ => True) (Shared.Up standby) (setSelectedInterface access.ip standby) := by
    refine Party.meets_request trivial (fun _ => stable_on access standby) fun σ hσ => ⟨if_pos rfl, ?_⟩
    show (Shared.handle net .switch lines (.setSelected access.ip standby) σ).2.router.up standby = true
    rw [handle_router]
    exact hσ
  have hroute : (switchParty net lines (some standby)).Meets (fun _ => Shared.Moved access standby)
      (fun _ _ => True) (Shared.On access standby) (applyRoutingProfile access routing profile) := by
    refine meets_applyRoutingProfile hsucceeds halternative hlines (stable_on access standby) ?_
      (fun op σ hop hσ => hσ.handle (leaves_of_asks hop)) ⟨trivial, trivial⟩ ?_
    · intro σ τ hσ hrely
      rw [hrely.cleared]
      exact hσ
    · intro σ selected hσ hselected op hop
      obtain rfl : standby = selected := Option.some.inj (hσ.1.symm.trans hselected)
      exact bindsTo_of_asks hop
  have hdown : (switchParty net lines (some standby)).Meets (fun _ => Shared.Moved access standby)
      (fun _ _ => True) (Shared.Moved access standby) (takeDown current) :=
    meets_leaving (stable_moved access standby) (fun op σ hop hσ => hσ.handle hop)
      (calls_takeDown ⟨by simpa [Call.Leaves, Request.switches] using hne, trivial⟩)
  have hmove : (switchParty net lines (some standby)).Meets (fun _ => Shared.Moved access standby)
      (fun _ _ => True) pre (moveToStandby access routing profile current standby) := by
    refine (meets_bringUp hsucceeds _).bind fun _ => hwait.bind fun status => ?_
    split_ifs
    · refine hselect.bind fun _ => hroute.bind fun _ => hdown.bind fun _ => ?_
      exact Party.meets_pure fun _ hσ => hσ
    · exact Party.meets_throw fun _ _ => trivial
  refine hmove.bind fun status => ?_
  refine meets_leaving (stable_moved access standby) (fun op σ hop hσ => hσ.handle hop) ?_
  refine Calls.bind ((Program.calls_request _).mpr ⟨trivial, trivial⟩) fun _ => ?_
  exact Calls.bind (calls_saveConfiguration ⟨nofun, trivial⟩) fun _ => trivial

/-- The catch block ends with an exception whatever its requests do. -/
theorem meets_putBack {target : Option String} {post : TunnelStatus → Shared → Prop} (error : Failure) :
    (switchParty net lines target).Meets post (fun _ _ => True) (fun _ => True)
      (putBack access current standby error) := by
  have hquiet : ∀ {β : Type} {p : Rci β}, p.Calls (Call.BindsTo target) →
      (switchParty net lines target).Meets (fun _ _ => True) (fun _ _ => True) (fun _ => True) p :=
    fun hp => Party.meets_of_calls hp (fun _ _ h _ => h) (fun _ hop => hop) fun _ _ _ h => h
  have hignored : ∀ request : Request, Call.BindsTo target (.exchange request) →
      (MonadExcept.tryCatch (do let _ ← postRci request) fun _ => pure () : Rci Unit).Calls
        (Call.BindsTo target) :=
    fun request hrequest => Calls.tryCatch (Calls.bind (calls_postRci hrequest) fun _ => trivial)
      fun _ => trivial
  have hselect : (setSelectedInterface access.ip current).Calls (Call.BindsTo target) :=
    (Program.calls_request (Call.setSelected access.ip current)).mpr trivial
  refine (hquiet hselect).bind fun _ => ?_
  refine (hquiet (hignored (.interfaceUp current) trivial)).bind fun _ => ?_
  refine (hquiet (hignored (.interfaceDown standby) trivial)).bind fun _ => ?_
  exact Party.meets_throw fun _ _ => trivial

theorem meets_switchToStandbyTunnel (hsucceeds : net.Succeeds) (halternative : net.NoAlternative)
    (hlines : access.testMode = false → lines = clearCommands profile) (target : Option String) :
    (switchParty net lines target).Meets
      (fun _ σ => ∃ standby, target = some standby ∧ σ.Moved access standby) (fun _ _ => True)
      (fun σ => σ.session.standbyInterfaceByHost access.ip = target)
      (switchToStandbyTunnel access routing profile) := by
  have hstable : Stable Shared.Undisturbed
      fun σ => σ.session.standbyInterfaceByHost access.ip = target := by
    intro σ τ hσ hrely
    rw [hrely.standby]
    exact hσ
  have hselected : (switchParty net lines target).Meets
      (fun _ σ => σ.session.standbyInterfaceByHost access.ip = target) (fun _ _ => True)
      (fun σ => σ.session.standbyInterfaceByHost access.ip = target) (selectedInterface access.ip) :=
    Party.meets_request trivial (fun _ => hstable) fun _ hσ => hσ
  have hstandby : (switchParty net lines target).Meets (fun answer _ => answer = target ∧ True)
      (fun _ _ => True) (fun σ => σ.session.standbyInterfaceByHost access.ip = target)
      (standbyInterface access.ip) :=
    Party.meets_request trivial (fun _ _ _ h _ => h) fun _ hσ => ⟨hσ, trivial⟩
  refine hselected.bind fun current => hstandby.bind fun answer => Party.meets_of_fact ?_
  rintro rfl
  split
  · next current standby =>
      split_ifs with heq
      · exact Party.meets_throw fun _ _ => trivial
      have hthrough : (switchParty net lines (some standby)).Meets
          (fun _ σ => ∃ name, some standby = some name ∧ σ.Moved access name) (fun _ _ => True)
          (fun _ => True) (switchOver access routing profile current standby) :=
        (meets_switchOver hsucceeds halternative hlines heq).imp (fun _ _ hσ => ⟨standby, rfl, hσ⟩)
          fun _ _ h => h
      refine hthrough.tryCatch fun error => ?_
      exact meets_putBack error
  · exact Party.meets_throw fun _ _ => trivial

end Switch

/-! ### Every interleaving -/

namespace Overlap

variable {o : Overlap} {standby : Option String} {s t : State}

def modeParty (o : Overlap) : Party Call Call.Answer Shared :=
  Turn.party .mode o.net (o.lines .mode) (fun σ τ => τ.cleared .mode = σ.cleared .mode) fun _ => True

theorem meets_modeChange (hsucceeds : o.net.Succeeds) (halternative : o.net.NoAlternative) :
    o.modeParty.Meets (fun _ σ => o.access.testMode = true ∨ σ.cleared .mode = true) (fun _ _ => True)
      (fun _ => True) (applyRoutingProfile o.access o.mode o.modeProfile) := by
  have happly : o.modeParty.Meets
      (fun _ σ => True ∧ (o.access.testMode = true ∨ σ.cleared .mode = true)) (fun _ _ => True)
      (fun _ => True) (applyRoutingProfile o.access o.mode o.modeProfile) := by
    refine meets_applyRoutingProfile hsucceeds halternative (fun htest => ?_) (fun _ _ _ _ => trivial) ?_
      (fun _ _ _ _ => trivial) ⟨trivial, trivial⟩ fun _ _ _ _ _ _ => trivial
    · simp [lines, htest]
    · intro σ τ hσ hrely
      rw [hrely]
      exact hσ
  exact happly.imp (fun _ _ h => h.2) fun _ _ h => h

/-- What holds after every turn of an orderly interleaving. -/
structure Invariant (o : Overlap) (standby : Option String) (s : State) : Prop where
  switching : (switchParty o.net (o.lines .switch) standby).Holds
    (fun _ σ => ∃ name, standby = some name ∧ σ.Moved o.access name) (fun _ _ => True)
    s.switching s.shared
  changing : o.modeParty.Holds (fun _ σ => o.access.testMode = true ∨ σ.cleared .mode = true)
    (fun _ _ => True) s.changing s.shared
  asks : Asks Request.ofRouting s.changing
  accounted : o.Accounted standby s.shared

theorem invariant_start (hworks : o.net.Works) (halternative : o.net.NoAlternative) {session : Session}
    {router : Router}
    (hclearable : o.Clearable (session.standbyInterfaceByHost o.access.ip) router.routing) :
    o.Invariant (session.standbyInterfaceByHost o.access.ip) (o.start session router) := by
  refine ⟨⟨fun σ => σ.session.standbyInterfaceByHost o.access.ip
    = session.standbyInterfaceByHost o.access.ip, ?_, rfl, ?_⟩,
    ⟨fun _ => True, fun _ _ _ _ => trivial, trivial, ?_⟩, ?_, ?_⟩
  · intro σ τ hσ hrely
    rw [hrely.standby]
    exact hσ
  · refine meets_switchToStandbyTunnel hworks.succeeds halternative (fun htest => ?_) _
    simp [lines, htest]
  · exact meets_modeChange hworks.succeeds halternative
  · exact asks_applyRoutingProfile o.access o.mode o.modeProfile
  · intro c name hc hhas
    obtain hstandby | ⟨turn, hundone⟩ := hclearable c name hc hhas
    · exact .inl hstandby
    · exact .inr ⟨turn, rfl, hundone⟩

theorem Accounted.handle_at_once {σ : Shared} (hworks : o.net.Works) (turn : Turn) (op : Call)
    (hop : op.awaited = false) (h : o.Accounted standby σ) :
    o.Accounted standby (Shared.handle o.net turn (o.lines turn) op σ).2 := by
  refine h.handle hworks turn op fun commands hcli => ?_
  rw [hcli] at hop
  cases hop

/-- The mode change leaves alone what the switch counts on. -/
theorem undisturbed_of_asks {σ τ : Shared} (op : Call) (hop : op.Asks Request.ofRouting)
    (h : σ.Undisturbed τ) : σ.Undisturbed (Shared.handle o.net .mode (o.lines .mode) op τ).2 := by
  have hcleared : (Shared.handle o.net .mode (o.lines .mode) op τ).2.cleared .switch
      = σ.cleared .switch := by
    rw [handle_cleared, h.cleared]
    simp
  cases op with
  | exchange request =>
      refine ⟨h.selected, h.standby, ?_, hcleared⟩
      rw [← h.up, handle_router]
      funext name
      apply Router.step_up_of_not_switched
      intro state hswitched
      have hrequest := Router.switched_of_request hswitched
      obtain hshow | ⟨commands, hcli⟩ := hop
      · rw [hshow] at hrequest
        cases hrequest
      · rw [hcli] at hrequest
        cases hrequest
  | lookup | selected | standby =>
      refine ⟨h.selected, h.standby, ?_, hcleared⟩
      rw [handle_router]
      exact h.up
  | setSelected | setStandby => exact hop.elim

theorem Invariant.step (hworks : o.net.Works) (h : o.Invariant standby s) {turn : Turn}
    (horderly : o.orderly standby s turn = true) (hstep : o.step s turn = some t) :
    o.Invariant standby t := by
  cases turn with
  | switch =>
      rw [Overlap.step] at hstep
      split at hstep
      · next switching shared hresume =>
          cases hstep
          have hkeeps : ∀ op σ, σ.cleared .mode = s.shared.cleared .mode →
              (Shared.handle o.net .switch (o.lines .switch) op σ).2.cleared .mode
                = s.shared.cleared .mode := by
            intro op σ hσ
            rw [handle_cleared, hσ]
            simp
          refine ⟨h.switching.resume hresume, h.changing.others ?_, h.asks, ?_⟩
          · exact Program.resume_invariant (fun op _ hs => hkeeps op _ hs)
              (fun op σ _ hσ => hkeeps op σ hσ) rfl hresume
          · refine Program.resume_invariant (fun op hop hs => ?_)
              (fun op σ hop hσ => hσ.handle_at_once hworks .switch op hop) h.accounted hresume
            refine hs.handle hworks .switch op fun commands hcli c hc name hname => ?_
            have hguar := h.switching.waitsAt hop
            rw [hcli] at hguar
            exact .inl (hguar c hc name hname)
      · cases hstep
  | mode =>
      rw [Overlap.step] at hstep
      split at hstep
      · next changing shared hresume =>
          cases hstep
          refine ⟨h.switching.others ?_, h.changing.resume hresume, Calls.resume h.asks hresume, ?_⟩
          · exact Calls.resume_invariant h.asks (fun op τ hop hτ => undisturbed_of_asks op hop hτ)
              ⟨rfl, rfl, rfl, rfl⟩ hresume
          · refine Program.resume_invariant (fun op hop hs => ?_)
              (fun op σ hop hσ => hσ.handle_at_once hworks .mode op hop) h.accounted hresume
            refine hs.handle hworks .mode op fun commands hcli c hc name hname => ?_
            rw [hcli] at hop
            simp only [orderly, hop, List.all_eq_true] at horderly
            have hline := horderly c hc
            simp only [hname, Bool.or_eq_true, beq_iff_eq, Bool.and_eq_true, Bool.not_eq_true'] at hline
            obtain hstandby | ⟨hopen, hundone⟩ := hline
            · exact .inl hstandby
            · exact .inr ⟨.switch, nofun, hopen, hundone⟩
      · cases hstep

theorem Invariant.coherent (h : o.Invariant standby s) (hreturned : s.bothReturned = true) :
    s.shared.Coherent o.access := by
  obtain ⟨hswitching, hchanging, -, haccounted⟩ := h
  unfold State.bothReturned at hreturned
  split at hreturned
  · next status result hswitchEnd hmodeEnd =>
      rw [hswitchEnd] at hswitching
      rw [hmodeEnd] at hchanging
      obtain ⟨name, rfl, hon, hswitched⟩ := hswitching.returned
      have hcleared : ∀ turn, o.access.testMode = true ∨ s.shared.cleared turn = true := by
        intro turn
        cases turn with
        | switch => exact hswitched
        | mode => exact hchanging.returned
      refine ⟨name, hon.1, hon.2, boundTo_of_has fun c other hc hhas => ?_⟩
      obtain hother | ⟨turn, hopen, hundone⟩ := haccounted c other hc hhas
      · exact Option.some.inj hother
      · -- the batch that would take the entry away has been sent, or there is none in the test mode
        exfalso
        obtain htest | hsent := hcleared turn
        · have hnone : o.lines turn = [] := by
            cases turn with
            | switch => simp [lines, htest]
            | mode => simp [lines, htest]
          rw [hnone, undoneBy_nil] at hundone
          cases hundone
        · rw [hsent] at hopen
          cases hopen
  · cases hreturned

/-- In an orderly interleaving all traffic goes through the selected interface when both calls have
returned. -/
theorem coherent_of_orderly (hworks : o.net.Works) (halternative : o.net.NoAlternative)
    {session : Session} {router : Router}
    (hclearable : o.Clearable (session.standbyInterfaceByHost o.access.ip) router.routing)
    (h : Reaches o.step
      (fun s turn => o.orderly (session.standbyInterfaceByHost o.access.ip) s turn = true)
      (o.start session router) s)
    (hreturned : s.bothReturned = true) : s.shared.Coherent o.access := by
  have hinvariant : o.Invariant (session.standbyInterfaceByHost o.access.ip) s :=
    h.invariant (fun s turn t hs horderly hstep => hs.step hworks horderly hstep)
      (invariant_start hworks halternative hclearable)
  exact hinvariant.coherent hreturned

/-! Two tunnels, and a router that has no entries yet. -/

def twoRecorded : Session where
  selectedInterfaceByHost _ := some "Wireguard0"
  standbyInterfaceByHost _ := some "Wireguard1"
  exchanges := []
  lookups := []

def oneUp : Router where
  present _ := true
  up name := name == "Wireguard0"
  routing := .empty

/-- Every request is carried out and answered with the state of a tunnel that has a handshake. -/
def handshakes : Net where
  answers _ := responds 200 (.json freshTunnel)
  lookups _ := none

theorem handshakes_works : handshakes.Works := ⟨fun _ => ⟨_, rfl, rfl⟩, fun _ _ => rfl⟩

theorem handshakes_noAlternative : handshakes.NoAlternative := by
  intro n response table hreply hbody selected name hname
  obtain rfl := Except.ok.inj hreply
  obtain rfl := Body.json.inj hbody
  have hbound : (Lanes.of freshTunnel selected).bound = [selected, selected] := rfl
  rw [hbound] at hname
  simpa using hname

def wholeTunnelTwice : Overlap :=
  ⟨⟨"192.168.1.1", false⟩, handshakes, .fullTunnel, none, .fullTunnel, none⟩

theorem clearable_oneUp (o : Overlap) (standby : Option String) : o.Clearable standby oneUp.routing := by
  intro c name hc hhas
  cases c with
  | addRoute | addDnsRoute => cases hhas
  | removeRoute | removeRouteVia | addGroup | removeGroup | addDomain | removeDomain | removeDnsRoute
  | ipGlobal | noIpGlobal | ipv6Global | noIpv6Global | mtu1280 | saveConfiguration => cases hc

/-- The switch is through before the mode change starts. -/
def switchFirst : List Turn := List.replicate 8 .switch ++ List.replicate 4 .mode

theorem switchFirst_coherent :
    ∃ s, runEvents wholeTunnelTwice.step (wholeTunnelTwice.start twoRecorded oneUp) switchFirst = some s ∧
      s.bothReturned = true ∧ s.shared.Coherent wholeTunnelTwice.access := by
  have hreturned : (runEvents wholeTunnelTwice.step (wholeTunnelTwice.start twoRecorded oneUp)
      switchFirst).map State.bothReturned = some true := by
    decide +kernel
  obtain ⟨s, hrun, hs⟩ := Option.map_eq_some_iff.mp hreturned
  have horderly : AllAllowed wholeTunnelTwice.step
      (fun s turn => wholeTunnelTwice.orderly (some "Wireguard1") s turn = true)
      (wholeTunnelTwice.start twoRecorded oneUp) switchFirst := by
    decide +kernel
  refine ⟨s, hrun, hs, ?_⟩
  exact coherent_of_orderly handshakes_works handshakes_noAlternative (clearable_oneUp _ _)
    (reaches_of_runEvents switchFirst horderly hrun) hs

/-- The mode change has read the selected interface, and then the switch runs to its end. -/
def switchInBetween : List Turn :=
  [.mode] ++ List.replicate 8 .switch ++ List.replicate 3 .mode

theorem traffic_left_on_old_tunnel :
    ¬∀ (o : Overlap) (session : Session) (router : Router) (s : State), o.net.Works →
      o.net.NoAlternative → (o.start session router).shared.Coherent o.access →
        Reaches o.step (fun _ _ => True) (o.start session router) s → s.bothReturned = true →
          s.shared.Coherent o.access := by
  intro hclaim
  have hsummary : (runEvents wholeTunnelTwice.step (wholeTunnelTwice.start twoRecorded oneUp)
      switchInBetween).map (fun s => (s.bothReturned,
        s.shared.session.selectedInterfaceByHost wholeTunnelTwice.access.ip,
        s.shared.router.routing.routes .lowHalf "Wireguard0"))
        = some (true, some "Wireguard1", true) := by
    decide +kernel
  obtain ⟨s, hrun, hs⟩ := Option.map_eq_some_iff.mp hsummary
  simp only [Prod.mk.injEq] at hs
  obtain ⟨hreturned, hselected, hroute⟩ := hs
  have hstart : (wholeTunnelTwice.start twoRecorded oneUp).shared.Coherent wholeTunnelTwice.access :=
    ⟨"Wireguard0", rfl, rfl, nofun, nofun⟩
  obtain ⟨selected, hnow, -, hbound⟩ := hclaim wholeTunnelTwice twoRecorded oneUp s handshakes_works
    handshakes_noAlternative hstart
    (reaches_of_runEvents switchInBetween (allAllowed_of_forall (fun _ _ => trivial) _) hrun) hreturned
  obtain rfl : "Wireguard1" = selected := Option.some.inj (hselected.symm.trans hnow)
  exact absurd (hbound.routes .lowHalf "Wireguard0" hroute) (by decide)

end Overlap

end Keenetic
