import Router1.Dart.LinkedMap
import Router1.Keenetic.Records
import Router1.Keenetic.Shapes

/-!
# A setup leaves one tunnel

Here the router keeps a table of interfaces, and the exchanges are followed through it: a table that is
shown is the one the router has, an import adds a tunnel with the address of its config, a switch or a
deletion that was carried out changes the entry it names, and nothing else happens. Of an entry only
what the service reads counts: its own address, the address it leads to and whether it is up. A setup
that succeeds leaves its own tunnel up and no other tunnel to a Router1 server. A second setup with the
same config then finds that tunnel and no competitor, and leaves the table as it is, however it ends.
-/

namespace Keenetic

open Dart Api Remote
open Remote.Program (Calls)

/-! ### Tables of tunnels -/

/-- What the service reads of an entry. -/
structure Tunnel where
  address : Option String
  endpoint : Option String
  up : Bool
  deriving DecidableEq

def text? : Json → Option String
  | .str value => some value
  | _ => none

def tunnelOf (entry : Json) : Tunnel where
  address := text? (entry.field "address")
  endpoint := entryEndpoint entry
  up := (entry.field "state").isText "up"

def tunnelsOf (entries : List (String × Json)) : List (String × Tunnel) :=
  entries.map fun entry => (entry.1, tunnelOf entry.2)

def Tunnel.isRouter1 (tunnel : Tunnel) : Bool :=
  match tunnel.endpoint with
  | some endpoint => router1Endpoints.contains endpoint
  | none => false

/-- The interfaces of a router, in the order in which it shows them, each name once. -/
structure Table where
  entries : List (String × Tunnel)
  nodup : (entries.map Prod.fst).Nodup

theorem Table.eq_of_mem (T : Table) {name : String} {a b : Tunnel} (ha : (name, a) ∈ T.entries)
    (hb : (name, b) ∈ T.entries) : a = b := by
  have hfound := (lookup_eq_some_iff_mem T.nodup).mpr ha
  rw [(lookup_eq_some_iff_mem T.nodup).mpr hb] at hfound
  exact (Option.some.inj hfound).symm

def matching (tunnels : List (String × Tunnel)) (address : String) : Option String :=
  (tunnels.find? fun entry =>
    startsWith entry.1 "Wireguard" && entry.2.address == some address).map Prod.fst

/-- The other tunnels to Router1 servers. -/
def competing (tunnels : List (String × Tunnel)) (selected : String) : List String :=
  (tunnels.filter fun entry =>
    entry.1 != selected && startsWith entry.1 "Wireguard" && entry.2.isRouter1).map Prod.fst

variable {entries : List (String × Json)} {address name selected : String} {config : ParsedAwgConfig}

theorem isText_eq (value : Json) (text : String) :
    value.isText text = (text? value == some text) := by
  cases value <;> simp [Json.isText, text?]

theorem field_of_not_isMap {value : Json} (h : value.isMap = false) (key : String) :
    value.field key = .null := by
  cases value with
  | obj fields => cases h
  | null | bool | int | double | str | arr => rfl

theorem findMatching_eq (haddress : firstIpv4 config.details.interfaceAddress = some address) :
    findMatchingWireGuardInterface entries config = matching (tunnelsOf entries) address := by
  unfold findMatchingWireGuardInterface matching tunnelsOf
  rw [haddress, List.find?_map, Option.map_map]
  dsimp only
  congr 2
  funext ⟨other, value⟩
  simp only [Function.comp, isText_eq, tunnelOf]
  cases hmap : value.isMap with
  | true => simp
  | false => simp [field_of_not_isMap hmap, text?]

theorem findCompeting_eq (hnodup : (entries.map Prod.fst).Nodup) (selected : String) :
    findCompetingWireGuardInterfaces entries selected = competing (tunnelsOf entries) selected := by
  unfold findCompetingWireGuardInterfaces competing tunnelsOf
  rw [List.filter_map, List.map_map]
  have hread : ∀ entry ∈ entries,
      hasEndpointIn (.obj entries) entry.1 router1Endpoints = (tunnelOf entry.2).isRouter1 := by
    intro entry hentry
    have hfield : (Json.obj entries).field entry.1 = entry.2 := by
      simp [Json.field, Json.get, (lookup_eq_some_iff_mem hnodup).mpr hentry]
    unfold hasEndpointIn Tunnel.isRouter1
    rw [wireGuardEndpoint_eq, hfield]
    rfl
  rw [List.filter_congr (q := (fun entry => entry.1 != selected &&
    startsWith entry.1 "Wireguard" && entry.2.isRouter1) ∘ fun entry => (entry.1, tunnelOf entry.2))]
  · rfl
  · intro entry hentry
    simp [hread entry hentry]

theorem showsUp_eq {tunnel : Tunnel} (hnodup : (entries.map Prod.fst).Nodup)
    (h : (name, tunnel) ∈ tunnelsOf entries) : showsUp entries name = tunnel.up := by
  obtain ⟨⟨other, value⟩, hentry, heq⟩ := List.mem_map.mp h
  obtain ⟨rfl, rfl⟩ := Prod.mk.inj heq
  rw [showsUp, Json.get, (lookup_eq_some_iff_mem hnodup).mpr hentry]
  rfl

theorem nodup_of_shown {T : Table} (h : tunnelsOf entries = T.entries) :
    (entries.map Prod.fst).Nodup := by
  have hnames : entries.map Prod.fst = (tunnelsOf entries).map Prod.fst := by
    simp [tunnelsOf, Function.comp_def]
  rw [hnames, h]
  exact T.nodup

/-! ### Exchanges that the table follows -/

/-- The entry after the switch that an exchange has made. -/
def switched (e : Exchange) (entry : String × Tunnel) : String × Tunnel :=
  match e.switched? with
  | some (name, state) => if name = entry.1 then (entry.1, { entry.2 with up := state }) else entry
  | none => entry

namespace Table

/-- One exchange with the router. What is shown is the table, an import adds a new tunnel anywhere in it
with the first address of its config, and anything else that was carried out removes or switches the
entry that it names. -/
structure Step (T : Table) (e : Exchange) (T' : Table) : Prop where
  shows : e.request = .showInterfaces → ∀ entries, e.json? = some (.obj entries) →
    tunnelsOf entries = T.entries
  creates : ∀ name, e.created? = some name → startsWith name "Wireguard" = true ∧
    ∃ configText filename config tunnel before after,
      e.request = .importConfig configText filename ∧ parseConfig configText = .ok config ∧
      tunnel.address = firstIpv4 config.details.interfaceAddress ∧
      T.entries = before ++ after ∧ T'.entries = before ++ (name, tunnel) :: after
  changes : e.created? = none →
    T'.entries = (T.entries.filter fun entry => e.deleted? != some entry.1).map (switched e)

/-- The table follows a list of exchanges. -/
inductive After : Table → List Exchange → Table → Prop
  | nil (T : Table) : After T [] T
  | cons {T T' T'' : Table} {e : Exchange} {es : List Exchange} (step : T.Step e T')
      (rest : After T' es T'') : After T (e :: es) T''

variable {T T' T'' : Table} {e : Exchange} {es es' : List Exchange} {name selected : String}
  {tunnel : Tunnel}

theorem after_append (h : T.After (es ++ es') T'') : ∃ T', T.After es T' ∧ T'.After es' T'' := by
  induction es generalizing T with
  | nil => exact ⟨T, .nil T, h⟩
  | cons e es ih =>
      cases h with
      | cons step rest =>
          obtain ⟨T', hfirst, hsecond⟩ := ih rest
          exact ⟨T', .cons step hfirst, hsecond⟩

/-! ### One exchange -/

theorem switched_fst (e : Exchange) (entry : String × Tunnel) : (switched e entry).1 = entry.1 := by
  unfold switched
  split
  · split_ifs <;> rfl
  · rfl

theorem switched_address (e : Exchange) (entry : String × Tunnel) :
    (switched e entry).2.address = entry.2.address := by
  unfold switched
  split
  · split_ifs <;> rfl
  · rfl

theorem switched_of_not (h : ∀ state, e.switched? ≠ some (name, state)) :
    switched e (name, tunnel) = (name, tunnel) := by
  unfold switched
  split
  · rename_i other state hswitched
    rw [if_neg]
    rintro rfl
    exact h state hswitched
  · rfl

/-- An entry that an exchange neither deletes nor switches stays, and no other entry takes its name. -/
theorem Step.mem_iff (h : T.Step e T') (hcreated : e.created? = none) (hdeleted : e.deleted? ≠ some name)
    (hswitched : ∀ state, e.switched? ≠ some (name, state)) :
    (name, tunnel) ∈ T'.entries ↔ (name, tunnel) ∈ T.entries := by
  rw [h.changes hcreated, List.mem_map]
  constructor
  · rintro ⟨⟨other, old⟩, hmem, heq⟩
    obtain rfl : other = name := (switched_fst e (other, old)).symm.trans (congrArg Prod.fst heq)
    rw [switched_of_not hswitched] at heq
    rw [← heq]
    exact (List.mem_filter.mp hmem).1
  · intro hmem
    exact ⟨(name, tunnel), List.mem_filter.mpr ⟨hmem, by simpa using hdeleted⟩,
      switched_of_not hswitched⟩

/-- An entry that is not deleted keeps its address, and stays up unless it is taken down. -/
theorem Step.kept (h : T.Step e T') (hcreated : e.created? = none) (hdeleted : e.deleted? ≠ some name)
    (hmem : (name, tunnel) ∈ T.entries) :
    ∃ next, (name, next) ∈ T'.entries ∧ next.address = tunnel.address ∧
      (e.switched? = some (name, true) → next.up = true) ∧
      (e.switched? ≠ some (name, false) → tunnel.up = true → next.up = true) := by
  have hkept : switched e (name, tunnel) ∈ T'.entries := by
    rw [h.changes hcreated]
    exact List.mem_map_of_mem (List.mem_filter.mpr ⟨hmem, by simpa using hdeleted⟩)
  refine ⟨(switched e (name, tunnel)).2, ?_, switched_address e (name, tunnel), ?_, ?_⟩
  · rwa [← Prod.eta (switched e (name, tunnel)), switched_fst] at hkept
  · intro hup
    simp [switched, hup]
  · intro hnot hup
    unfold switched
    split
    · rename_i other state hswitched
      split_ifs with heq
      · subst heq
        cases state with
        | true => rfl
        | false => exact absurd hswitched hnot
      · exact hup
    · exact hup

theorem Step.names (h : T.Step e T') (hcreated : e.created? = none) :
    name ∈ T'.entries.map Prod.fst ↔ name ∈ T.entries.map Prod.fst ∧ e.deleted? ≠ some name := by
  rw [h.changes hcreated, List.map_map]
  have hfst : Prod.fst ∘ switched e = Prod.fst := funext (switched_fst e)
  rw [hfst]
  simp only [List.mem_map, List.mem_filter, bne_iff_ne, ne_eq]
  constructor
  · rintro ⟨entry, ⟨hmem, hdeleted⟩, rfl⟩
    exact ⟨⟨entry, hmem, rfl⟩, hdeleted⟩
  · rintro ⟨⟨entry, hmem, rfl⟩, hdeleted⟩
    exact ⟨entry, ⟨hmem, hdeleted⟩, rfl⟩

/-- The first tunnel with an address stays the first one, unless it is deleted. -/
theorem Step.matching_eq {address : String} (h : T.Step e T') (hcreated : e.created? = none)
    (hdeleted : e.deleted? ≠ some selected) (hmatch : matching T.entries address = some selected) :
    matching T'.entries address = some selected := by
  unfold matching at hmatch ⊢
  rw [h.changes hcreated, List.find?_map, List.find?_filter, Option.map_map]
  have hsame : ((fun entry : String × Tunnel =>
      startsWith entry.1 "Wireguard" && entry.2.address == some address) ∘ switched e)
        = fun entry => startsWith entry.1 "Wireguard" && entry.2.address == some address := by
    funext entry
    simp [switched_fst, switched_address]
  have hfst : Prod.fst ∘ switched e = Prod.fst := funext (switched_fst e)
  rw [hsame, hfst]
  obtain ⟨entry, hfind, rfl⟩ := Option.map_eq_some_iff.mp hmatch
  obtain ⟨hmatches, before, after, hsplit, hbefore⟩ := List.find?_eq_some_iff_append.mp hfind
  refine Option.map_eq_some_iff.mpr ⟨entry, ?_, rfl⟩
  refine List.find?_eq_some_iff_append.mpr ⟨?_, before, after, hsplit, ?_⟩
  · simpa [hdeleted] using hmatches
  · intro other hother
    have hno := hbefore other hother
    rw [Bool.not_eq_true'] at hno
    simp only [hno, Bool.false_eq_true, and_false, decide_false, Bool.not_false]

/-! ### Many exchanges -/

def MakesNone (es : List Exchange) : Prop := ∀ e ∈ es, e.created? = none

theorem After.mem_iff (h : T.After es T') (hcreated : MakesNone es)
    (hleft : ∀ e ∈ es, e.deleted? ≠ some name ∧ ∀ state, e.switched? ≠ some (name, state)) :
    (name, tunnel) ∈ T'.entries ↔ (name, tunnel) ∈ T.entries := by
  induction h with
  | nil T => exact Iff.rfl
  | cons step rest ih =>
      obtain ⟨hfirst, hothers⟩ := List.forall_mem_cons.mp hleft
      obtain ⟨hnone, hnones⟩ := List.forall_mem_cons.mp hcreated
      rw [ih hnones hothers, step.mem_iff hnone hfirst.1 hfirst.2]

theorem After.kept (h : T.After es T') (hcreated : MakesNone es)
    (hdeleted : ∀ e ∈ es, e.deleted? ≠ some name)
    (hdown : ∀ e ∈ es, e.switched? ≠ some (name, false)) (hmem : (name, tunnel) ∈ T.entries) :
    ∃ next, (name, next) ∈ T'.entries ∧ next.address = tunnel.address ∧
      ((tunnel.up = true ∨ ∃ e ∈ es, e.switched? = some (name, true)) → next.up = true) := by
  induction h generalizing tunnel with
  | nil T => exact ⟨tunnel, hmem, rfl, by simp⟩
  | cons step rest ih =>
      obtain ⟨hnone, hnones⟩ := List.forall_mem_cons.mp hcreated
      obtain ⟨hkeep, hkeeps⟩ := List.forall_mem_cons.mp hdeleted
      obtain ⟨hstay, hstays⟩ := List.forall_mem_cons.mp hdown
      obtain ⟨middle, hmiddle, haddress, hup, hstill⟩ := step.kept hnone hkeep hmem
      obtain ⟨next, hnext, hnextAddress, hnextUp⟩ := ih hnones hkeeps hstays hmiddle
      refine ⟨next, hnext, hnextAddress.trans haddress, ?_⟩
      rintro (hwas | ⟨e, he, hswitched⟩)
      · exact hnextUp (.inl (hstill hstay hwas))
      · rcases List.mem_cons.mp he with rfl | he
        · exact hnextUp (.inl (hup hswitched))
        · exact hnextUp (.inr ⟨e, he, hswitched⟩)

theorem After.names (h : T.After es T') (hcreated : MakesNone es) :
    name ∈ T'.entries.map Prod.fst ↔
      name ∈ T.entries.map Prod.fst ∧ ∀ e ∈ es, e.deleted? ≠ some name := by
  induction h with
  | nil T => simp
  | cons step rest ih =>
      obtain ⟨hnone, hnones⟩ := List.forall_mem_cons.mp hcreated
      rw [ih hnones, step.names hnone, List.forall_mem_cons, and_assoc]

theorem After.matching_eq {address : String} (h : T.After es T') (hcreated : MakesNone es)
    (hdeleted : ∀ e ∈ es, e.deleted? ≠ some selected)
    (hmatch : matching T.entries address = some selected) :
    matching T'.entries address = some selected := by
  induction h with
  | nil T => exact hmatch
  | cons step rest ih =>
      obtain ⟨hnone, hnones⟩ := List.forall_mem_cons.mp hcreated
      obtain ⟨hkeep, hkeeps⟩ := List.forall_mem_cons.mp hdeleted
      exact ih hnones hkeeps (step.matching_eq hnone hkeep hmatch)

/-- An exchange that changes nothing on this table: it makes and deletes nothing, and switches an
interface at most to the state it has. -/
structure Idle (T : Table) (e : Exchange) : Prop where
  created : e.created? = none
  deleted : e.deleted? = none
  switched : ∀ name state, e.switched? = some (name, state) →
    ∀ tunnel, (name, tunnel) ∈ T.entries → tunnel.up = state

theorem Idle.entries_eq (hidle : T.Idle e) :
    (T.entries.filter fun entry => e.deleted? != some entry.1).map (Keenetic.switched e) = T.entries := by
  rw [hidle.deleted]
  have hall : T.entries.filter (fun entry => (none : Option String) != some entry.1) = T.entries :=
    List.filter_eq_self.mpr fun _ _ => rfl
  rw [hall]
  conv_rhs => rw [← List.map_id T.entries]
  apply List.map_congr_left
  rintro ⟨name, tunnel⟩ hmem
  unfold Keenetic.switched
  split
  · rename_i other state hswitched
    split_ifs with heq
    · subst heq
      rw [← hidle.switched _ _ hswitched tunnel hmem]
      rfl
    · rfl
  · rfl

theorem Step.eq_of_idle (h : T.Step e T') (hidle : T.Idle e) : T'.entries = T.entries := by
  rw [h.changes hidle.created, hidle.entries_eq]

theorem After.eq_of_idle (h : T.After es T') (hidle : ∀ e ∈ es, T.Idle e) :
    T'.entries = T.entries ∧ ∀ e ∈ es, e.request = .showInterfaces → ∀ entries,
      e.json? = some (.obj entries) → tunnelsOf entries = T.entries := by
  induction h with
  | nil T => simp
  | cons step rest ih =>
      obtain ⟨hfirst, hothers⟩ := List.forall_mem_cons.mp hidle
      have heq := step.eq_of_idle hfirst
      obtain ⟨hrest, hshown⟩ := ih fun e he =>
        ⟨(hothers e he).created, (hothers e he).deleted, heq ▸ (hothers e he).switched⟩
      refine ⟨hrest.trans heq, List.forall_mem_cons.mpr ⟨step.shows, ?_⟩⟩
      intro e he hrequest entries hjson
      rw [hshown e he hrequest entries hjson, heq]

theorem idle_of_show (h : e.request = .showInterfaces) : T.Idle e := by
  obtain ⟨⟨hswitches, hdeleted⟩, hcreated⟩ := inert_of_show h
  refine ⟨Option.eq_none_iff_forall_ne_some.mpr hcreated, hdeleted, fun name state hswitched => ?_⟩
  have hrequest := Router.switched_of_request hswitched
  rw [hswitches] at hrequest
  cases hrequest

end Table

/-! ### The stages of a setup -/

section Stages

variable {net : Net} {s t a b : Session} {access : KeeneticAccess} {configText : String}
  {plan : KeeneticRollbackPlan}

theorem run_establishOrRollBack_ok (h : (establishOrRollBack plan).run net.handle s = (.ok (), t)) :
    (establish plan).run net.handle s = (.ok (), t) := by
  rcases Program.run_tryCatch_ok h with h | ⟨error, m, hfailed, hrest⟩
  · exact h
  · obtain ⟨_, u, hrollback, hthrow⟩ := Program.run_bind_ok hrest
    cases hthrow

/-- A setup that returned has read a table, chosen an interface and established it. -/
theorem stages_of_ok (htest : access.testMode = false) (hparse : parseConfig configText = .ok config)
    (h : (createAwgConnection access configText).run net.handle s = (.ok (), t)) :
    ∃ entries selected a b,
      (getJson .showInterfaces).run net.handle s = (.ok (.obj entries), a) ∧
      (foundOrImported (findMatchingWireGuardInterface entries config) configText config).run
        net.handle a = (.ok selected, b) ∧
      (establish (rollbackPlan entries (findMatchingWireGuardInterface entries config) selected)).run
        net.handle { b with selectedInterfaceByHost := Function.update b.selectedInterfaceByHost access.ip (some selected) }
          = (.ok (), t) := by
  have hconfig : (Program.ofExcept (parseConfig configText) : Rci ParsedAwgConfig).run net.handle s
      = (.ok config, s) := by
    rw [Program.run_ofExcept, hparse]
  unfold createAwgConnection at h
  rw [if_neg (by simp [htest]), Program.run_bind_of_ok hconfig] at h
  obtain ⟨value, a, hread, h⟩ := Program.run_bind_ok h
  cases value with
  | null | bool | int | double | str | arr => cases h
  | obj entries =>
      obtain ⟨selected, b, hchoose, h⟩ := Program.run_bind_ok h
      rw [Program.run_bind_of_ok (run_setSelectedInterface access.ip selected b)] at h
      exact ⟨entries, selected, a, b, hread, hchoose, run_establishOrRollBack_ok h⟩

/-- A try block that came to its end has brought the selected interface up and sent a deletion of every
competitor. -/
theorem run_establish_ok (h : (establish plan).run net.handle s = (.ok (), t)) :
    (∃ e ∈ s.since t, e.switched? = some (plan.selectedInterface, true)) ∧
      ∀ name ∈ plan.competingInterfaces, ∃ e ∈ s.since t, e.request = .deleteInterface name := by
  obtain ⟨_, a, hlines, ha⟩ := Program.run_bind_ok h
  obtain ⟨_, b, hup, hb⟩ := Program.run_bind_ok ha
  obtain ⟨_, c, hdowns, hc⟩ := Program.run_bind_ok hb
  obtain ⟨status, d, hwait, hd⟩ := Program.run_bind_ok hc
  split_ifs at hd with hhandshake
  · obtain ⟨_, f, hdeletes, hsave⟩ := Program.run_bind_ok hd
    have hsd : s.exchanges <+: d.exchanges := (prefix_of_run hlines).trans
      ((prefix_of_run hup).trans ((prefix_of_run hdowns).trans (prefix_of_run hwait)))
    constructor
    · obtain ⟨e, he, hswitched⟩ := run_bringUp_ok hup
      refine ⟨e, ?_, hswitched⟩
      rw [since_trans (prefix_of_run hlines) (prefix_of_run ha),
        since_trans (prefix_of_run hup) (prefix_of_run hb)]
      simp [he]
    · intro name hname
      have hsent : ∀ name s t, (MonadExcept.tryCatch (deleteRci name) fun _ => pure () : Rci Unit).run
          net.handle s = (.ok (), t) → ∃ e ∈ s.since t, e.request = .deleteInterface name :=
        fun name s t hdelete => Starts.run (Starts.tryCatch ⟨_, rfl⟩ _) hdelete
      obtain ⟨e, he, hrequest⟩ := run_forM_ok hsent hdeletes name hname
      refine ⟨e, ?_, hrequest⟩
      rw [since_trans hsd (prefix_of_run hd),
        since_trans (prefix_of_run hdeletes) (prefix_of_run hsave)]
      simp [he]
  · cases hd

/-! ### The table when the interface is chosen -/

variable {T T' T'' : Table}

/-- The selected interface is the first one with the address, and all others are as in the first table. -/
structure Table.Holds (T : Table) (selected address : String) (T' : Table) : Prop where
  present : ∃ tunnel, (selected, tunnel) ∈ T'.entries ∧ tunnel.address = some address
  first : matching T'.entries address = some selected
  others : ∀ name tunnel, name ≠ selected →
    ((name, tunnel) ∈ T'.entries ↔ (name, tunnel) ∈ T.entries)

theorem mem_of_matching {tunnels : List (String × Tunnel)}
    (h : matching tunnels address = some selected) :
    startsWith selected "Wireguard" = true ∧
      ∃ tunnel, (selected, tunnel) ∈ tunnels ∧ tunnel.address = some address := by
  obtain ⟨⟨found, tunnel⟩, hfind, rfl⟩ := Option.map_eq_some_iff.mp h
  have hmatches := List.find?_some hfind
  simp only [Bool.and_eq_true, beq_iff_eq] at hmatches
  exact ⟨hmatches.1, tunnel, List.mem_of_find?_eq_some hfind, hmatches.2⟩

theorem Table.Step.holds_of_created {e : Exchange} (h : T.Step e T') {filename : String}
    (hrequest : e.request = .importConfig configText filename)
    (hcreated : e.created? = some selected) (hparse : parseConfig configText = .ok config)
    (haddress : firstIpv4 config.details.interfaceAddress = some address)
    (hnone : matching T.entries address = none) : T.Holds selected address T' := by
  obtain ⟨hname, text, other, parsed, tunnel, before, after, hother, hparsed, htunnel, hT, hT'⟩ :=
    h.creates selected hcreated
  obtain ⟨rfl, rfl⟩ := Request.importConfig.inj (hrequest.symm.trans hother)
  obtain rfl := Except.ok.inj (hparse.symm.trans hparsed)
  rw [haddress] at htunnel
  refine ⟨⟨tunnel, by rw [hT']; simp, htunnel⟩, ?_, ?_⟩
  · unfold matching at hnone ⊢
    rw [Option.map_eq_none_iff, hT, List.find?_append, Option.or_eq_none_iff] at hnone
    rw [hT', List.find?_append, hnone.1, Option.none_or, List.find?_cons_of_pos]
    · rfl
    · simp [hname, htunnel]
  · intro name tunnel' hne
    rw [hT, hT']
    simp [hne]

/-- Choosing reads the table as it is and changes it by an import at most. -/
theorem holds_of_chosen (hparse : parseConfig configText = .ok config)
    (haddress : firstIpv4 config.details.interfaceAddress = some address)
    (hread : (getJson .showInterfaces).run net.handle s = (.ok (.obj entries), a))
    (hchoose : (foundOrImported (findMatchingWireGuardInterface entries config) configText config).run
      net.handle a = (.ok selected, b)) (hafter : T.After (s.since b) T') :
    tunnelsOf entries = T.entries ∧ T.Holds selected address T' := by
  have hasked := Asks.run (R := (· = .showInterfaces)) (calls_getJson rfl) hread
  rw [since_trans hasked.prefixed (prefix_of_run hchoose)] at hafter
  obtain ⟨middle, hshow, hrest⟩ := Table.after_append hafter
  obtain ⟨hsame, hshown⟩ := hshow.eq_of_idle fun e he => Table.idle_of_show (hasked.requests e he)
  obtain ⟨e, he, hrequest, hjson⟩ := (run_getJson_ok hread).1
  have hentries := hshown e he hrequest entries hjson
  refine ⟨hentries, ?_⟩
  rw [findMatching_eq haddress, hentries] at hchoose
  cases hmatch : matching T.entries address with
  | some found =>
      rw [hmatch] at hchoose
      obtain ⟨hname, rfl⟩ := Prod.mk.inj hchoose
      obtain rfl := Except.ok.inj hname
      rw [since_self] at hrest
      cases hrest
      rw [← hsame] at hmatch
      exact ⟨(mem_of_matching hmatch).2, hmatch, fun name tunnel _ => by rw [hsame]⟩
  | none =>
      rw [hmatch] at hchoose
      obtain ⟨imported, hsince, himport, hcreated⟩ := run_importWireGuardConfig_ok hchoose
      rw [hsince] at hrest
      cases hrest with
      | cons step rest =>
          cases rest
          rw [← hsame] at hmatch
          have hholds := step.holds_of_created himport hcreated hparse haddress hmatch
          exact ⟨hholds.present, hholds.first, fun name tunnel hne => by
            rw [hholds.others name tunnel hne, hsame]⟩

/-! ### The table after a setup -/

/-- The selected tunnel is up with its address, no other tunnel leads to a Router1 server, and every
interface that is neither is as it was. -/
structure Table.OneTunnel (T : Table) (selected address : String) (T' : Table) : Prop where
  up : ∃ tunnel, (selected, tunnel) ∈ T'.entries ∧ tunnel.address = some address ∧ tunnel.up = true
  alone : ∀ name tunnel, (name, tunnel) ∈ T'.entries → startsWith name "Wireguard" = true →
    tunnel.isRouter1 = true → name = selected
  others : ∀ name tunnel, name ≠ selected →
    ¬(startsWith name "Wireguard" = true ∧ tunnel.isRouter1 = true) →
    ((name, tunnel) ∈ T'.entries ↔ (name, tunnel) ∈ T.entries)

theorem mem_competing {tunnels : List (String × Tunnel)} :
    name ∈ competing tunnels selected ↔ ∃ tunnel, (name, tunnel) ∈ tunnels ∧ name ≠ selected ∧
      startsWith name "Wireguard" = true ∧ tunnel.isRouter1 = true := by
  simp only [competing, List.mem_map, List.mem_filter, Bool.and_eq_true, bne_iff_ne]
  constructor
  · rintro ⟨⟨other, tunnel⟩, ⟨hmem, ⟨hne, hname⟩, hrouter1⟩, rfl⟩
    exact ⟨tunnel, hmem, hne, hname, hrouter1⟩
  · rintro ⟨tunnel, hmem, hne, hname, hrouter1⟩
    exact ⟨(name, tunnel), ⟨hmem, ⟨hne, hname⟩, hrouter1⟩, rfl⟩

theorem effects_of_establishes {e : Exchange} (h : plan.Establishes e.request) :
    e.created? = none ∧ (∀ name, e.deleted? = some name → name ∈ plan.competingInterfaces) ∧
      (∀ name, e.switched? = some (name, true) → name = plan.selectedInterface) ∧
      ∀ name, e.switched? = some (name, false) → name ∈ plan.competingInterfaces := by
  refine ⟨?_, ?_, ?_, ?_⟩
  · rw [Option.eq_none_iff_forall_ne_some]
    intro name hcreated
    obtain ⟨text, filename, hrequest⟩ := created_of_request hcreated
    rw [hrequest] at h
    exact h
  · intro name hdeleted
    unfold Exchange.deleted? at hdeleted
    split at hdeleted
    · rename_i other hrequest
      split_ifs at hdeleted
      obtain rfl := Option.some.inj hdeleted
      rw [hrequest] at h
      exact h
    · cases hdeleted
  · intro name hswitched
    have hswitch := Router.switched_of_request hswitched
    cases hrequest : e.request <;> rw [hrequest] at h hswitch <;> cases hswitch
    exact h
  · intro name hswitched
    have hswitch := Router.switched_of_request hswitched
    cases hrequest : e.request <;> rw [hrequest] at h hswitch <;> cases hswitch
    exact h

theorem oneTunnel_of_established {middle : Table} (hholds : T.Holds selected address middle)
    (hselected : plan.selectedInterface = selected)
    (hcompeting : plan.competingInterfaces = competing T.entries selected)
    (h : (establish plan).run net.handle b = (.ok (), t)) (hafter : middle.After (b.since t) T')
    (hdone : ∀ e ∈ b.since t, ∀ name, e.request = .deleteInterface name → e.done = true) :
    T.OneTunnel selected address T' ∧ matching T'.entries address = some selected := by
  have heffects := fun e he =>
    effects_of_establishes (((asks_establish plan).run h).requests e he)
  obtain ⟨hup, hdeletes⟩ := run_establish_ok h
  have hnone : Table.MakesNone (b.since t) := fun e he => (heffects e he).1
  have hnot : selected ∉ plan.competingInterfaces := by
    rw [hcompeting, mem_competing]
    rintro ⟨_, _, hne, _⟩
    exact hne rfl
  have hkept : ∀ e ∈ b.since t, e.deleted? ≠ some selected :=
    fun e he hdeleted => hnot ((heffects e he).2.1 selected hdeleted)
  have hstays : ∀ e ∈ b.since t, e.switched? ≠ some (selected, false) :=
    fun e he hswitched => hnot ((heffects e he).2.2.2 selected hswitched)
  -- a competitor is gone, and any other interface is as it was
  have hgone : ∀ name tunnel, name ∈ competing T.entries selected → (name, tunnel) ∉ T'.entries := by
    intro name tunnel hname hmem
    rw [← hcompeting] at hname
    obtain ⟨e, he, hrequest⟩ := hdeletes name hname
    have hpresent := (hafter.names hnone).mp (List.mem_map_of_mem (f := Prod.fst) hmem)
    refine hpresent.2 e he ?_
    simp [Exchange.deleted?, hrequest, hdone e he name hrequest]
  have hother : ∀ name tunnel, name ≠ selected → name ∉ competing T.entries selected →
      ((name, tunnel) ∈ T'.entries ↔ (name, tunnel) ∈ T.entries) := by
    intro name tunnel hne hname
    rw [← hcompeting] at hname
    rw [hafter.mem_iff hnone, hholds.others name tunnel hne]
    intro e he
    refine ⟨fun hdeleted => hname ((heffects e he).2.1 name hdeleted), fun state hswitched => ?_⟩
    cases state with
    | true => exact hne (((heffects e he).2.2.1 name hswitched).trans hselected)
    | false => exact hname ((heffects e he).2.2.2 name hswitched)
  refine ⟨⟨?_, ?_, ?_⟩, hafter.matching_eq hnone hkept hholds.first⟩
  · obtain ⟨tunnel, hmem, haddress⟩ := hholds.present
    obtain ⟨next, hnext, hsame, hnextUp⟩ := hafter.kept hnone hkept hstays hmem
    exact ⟨next, hnext, hsame.trans haddress, hnextUp (.inr (hselected ▸ hup))⟩
  · intro name tunnel hmem hname hrouter1
    by_contra hne
    have hcompetes : name ∉ competing T.entries selected := fun hc => hgone name tunnel hc hmem
    have hwas := (hother name tunnel hne hcompetes).mp hmem
    exact hcompetes (mem_competing.mpr ⟨tunnel, hwas, hne, hname, hrouter1⟩)
  · intro name tunnel hne hforeign
    by_cases hcompetes : name ∈ competing T.entries selected
    · -- then the entry of that name is another one, which leads to a Router1 server
      refine ⟨fun hmem => absurd hmem (hgone name tunnel hcompetes), fun hmem => ?_⟩
      obtain ⟨other, hother, -, hname, hrouter1⟩ := mem_competing.mp hcompetes
      have hsame : other = tunnel := T.eq_of_mem hother hmem
      exact absurd ⟨hname, hsame ▸ hrouter1⟩ hforeign
    · exact hother name tunnel hne hcompetes

/-! ### A second setup -/

/-- A request that changes nothing but brings the selected interface up. -/
def Request.Settles (selected : String) : Request → Prop
  | .showInterfaces | .cli _ | .save | .showInterface _ => True
  | .interfaceUp name => name = selected
  | _ => False

theorem idle_of_settles {e : Exchange} (h : e.request.Settles selected)
    (hup : ∀ tunnel, (selected, tunnel) ∈ T.entries → tunnel.up = true) : T.Idle e := by
  refine ⟨?_, ?_, ?_⟩
  · rw [Option.eq_none_iff_forall_ne_some]
    intro name hcreated
    obtain ⟨text, filename, hrequest⟩ := created_of_request hcreated
    rw [hrequest] at h
    exact h.elim
  · unfold Exchange.deleted?
    split
    · rename_i name hrequest
      rw [hrequest] at h
      exact h.elim
    · rfl
  · intro name state hswitched tunnel hmem
    have hswitch := Router.switched_of_request hswitched
    cases hrequest : e.request <;> rw [hrequest] at h hswitch <;> cases hswitch
    · rw [show name = selected from h] at hmem
      exact hup tunnel hmem
    · exact h.elim

/-- With nothing to compete with and the selected interface found and up, neither the try block nor the
rollback asks for a change. -/
theorem asks_settled (plan : KeeneticRollbackPlan) (selected : String)
    (hselected : plan.selectedInterface = selected) (hcompeting : plan.competingInterfaces = [])
    (hfound : plan.createdByImport = false) (hup : plan.selectedWasUp = true) :
    Asks (Request.Settles selected) (establishOrRollBack plan) := by
  refine Calls.tryCatch ((asks_establish plan).mono ?_) fun error =>
    Calls.bind ((asks_rollbackSetup plan).mono ?_) fun _ => trivial
  · intro request hrequest
    cases request with
    | showInterfaces | cli | save | showInterface => trivial
    | interfaceUp name => exact Eq.trans hrequest hselected
    | interfaceDown name | deleteInterface name =>
        have hmem : name ∈ plan.competingInterfaces := hrequest
        rw [hcompeting] at hmem
        cases hmem
    | showIpRoute | importConfig => exact hrequest.elim
  · intro request hrequest
    cases request with
    | save => trivial
    | interfaceUp name =>
        have hmem : name ∈ plan.competingInterfaces := hrequest
        rw [hcompeting] at hmem
        cases hmem
    | interfaceDown name => exact absurd (hup.symm.trans hrequest.2.2) (by decide)
    | deleteInterface name => exact absurd (hfound.symm.trans hrequest.2) (by decide)
    | showInterfaces | cli | showInterface | showIpRoute | importConfig => exact hrequest.elim

/-- The interface the second setup would choose is the one that is recorded, and it asks for no change. -/
theorem settles_of_run (htest : access.testMode = false) (hparse : parseConfig configText = .ok config)
    (haddress : firstIpv4 config.details.interfaceAddress = some address)
    (hfirst : matching T.entries address = some selected)
    (hup : ∀ tunnel, (selected, tunnel) ∈ T.entries → tunnel.up = true)
    (halone : competing T.entries selected = [])
    (hrecord : s.selectedInterfaceByHost access.ip = some selected) {result : Except Failure Unit}
    (h : (createAwgConnection access configText).run net.handle s = (result, t))
    (hafter : T.After (s.since t) T') :
    (∀ e ∈ s.since t, e.request.Settles selected) ∧
      t.selectedInterfaceByHost access.ip = some selected := by
  have hconfig : (Program.ofExcept (parseConfig configText) : Rci ParsedAwgConfig).run net.handle s
      = (.ok config, s) := by
    rw [Program.run_ofExcept, hparse]
  unfold createAwgConnection at h
  rw [if_neg (by simp [htest]), Program.run_bind_of_ok hconfig] at h
  have hread : Asks (fun request => request = .showInterfaces) (getJson .showInterfaces) :=
    calls_getJson rfl
  have hshows : ∀ {a : Session} {result : Except Failure Json},
      (getJson .showInterfaces).run net.handle s = (result, a) →
        (∀ e ∈ s.since a, e.request.Settles selected) ∧
          a.selectedInterfaceByHost access.ip = some selected := by
    intro a result hrun
    have hasked := hread.run hrun
    refine ⟨fun e he => ?_, by rw [hasked.selected, hrecord]⟩
    rw [hasked.requests e he]
    trivial
  rcases Program.run_bind_cases h with ⟨error, hfailed⟩ | ⟨value, a, hanswer, h⟩
  · exact hshows hfailed
  · cases value with
    | null | bool | int | double | str | arr =>
        obtain ⟨-, rfl⟩ := Prod.mk.inj h
        exact hshows hanswer
    | obj entries =>
        have hprefix := prefix_of_run h
        rw [since_trans (prefix_of_run hanswer) hprefix] at hafter ⊢
        obtain ⟨middle, hshown, -⟩ := Table.after_append hafter
        obtain ⟨e, he, hrequest, hjson⟩ := (run_getJson_ok hanswer).1
        have hentries : tunnelsOf entries = T.entries :=
          (hshown.eq_of_idle fun e he => idle_of_settles ((hshows hanswer).1 e he) hup).2 e he
            hrequest entries hjson
        have hnodup := nodup_of_shown hentries
        have hfound : findMatchingWireGuardInterface entries config = some selected := by
          rw [findMatching_eq haddress, hentries, hfirst]
        obtain ⟨-, tunnel, hmem, -⟩ := mem_of_matching hfirst
        have hwasUp : showsUp entries selected = true := by
          rw [showsUp_eq hnodup (hentries ▸ hmem)]
          exact hup tunnel hmem
        have hchosen : (foundOrImported (some selected) configText config).run net.handle a
            = (.ok selected, a) := rfl
        dsimp only at h
        rw [hfound, Program.run_bind_of_ok hchosen,
          Program.run_bind_of_ok (run_setSelectedInterface access.ip selected a)] at h
        have hcompeting : findCompetingWireGuardInterfaces entries selected = [] := by
          rw [findCompeting_eq hnodup, hentries, halone]
        have hasked := (asks_settled (rollbackPlan entries (some selected) selected) selected rfl
          hcompeting rfl hwasUp).run h
        refine ⟨List.forall_mem_append.mpr ⟨(hshows hanswer).1, hasked.requests⟩, ?_⟩
        rw [hasked.selected]
        simp

/-- What a second setup does between the two sessions, on a table it leaves as it is. -/
structure Session.SetsUpAgain (access : KeeneticAccess) (selected : String) (t u : Session)
    (T T' : Table) : Prop where
  noImport : ∀ e ∈ t.since u, ∀ configText filename, e.request ≠ .importConfig configText filename
  sameSelected : u.selectedInterfaceByHost access.ip = some selected
  noCompetitor : ∀ entries ∈ tablesOf (t.since u),
    findCompetingWireGuardInterfaces entries selected = []
  unchanged : T'.entries = T.entries

theorem competing_of_oneTunnel (h : T.OneTunnel selected address T') :
    competing T'.entries selected = [] := by
  rw [List.eq_nil_iff_forall_not_mem]
  intro name hname
  obtain ⟨tunnel, hmem, hne, hwireguard, hrouter1⟩ := mem_competing.mp hname
  exact hne (h.alone name tunnel hmem hwireguard hrouter1)

theorem setsUpAgain_of_run (htest : access.testMode = false)
    (hparse : parseConfig configText = .ok config)
    (haddress : firstIpv4 config.details.interfaceAddress = some address)
    (hone : T.OneTunnel selected address T') (hfirst : matching T'.entries address = some selected)
    (hrecord : s.selectedInterfaceByHost access.ip = some selected) {result : Except Failure Unit}
    (h : (createAwgConnection access configText).run net.handle s = (result, t))
    (hafter : T'.After (s.since t) T'') : s.SetsUpAgain access selected t T' T'' := by
  have hup : ∀ tunnel, (selected, tunnel) ∈ T'.entries → tunnel.up = true := by
    intro tunnel hmem
    obtain ⟨other, hother, -, hotherUp⟩ := hone.up
    have hsame : other = tunnel := T'.eq_of_mem hother hmem
    rw [← hsame]
    exact hotherUp
  have halone := competing_of_oneTunnel hone
  obtain ⟨hsettles, hselected⟩ :=
    settles_of_run htest hparse haddress hfirst hup halone hrecord h hafter
  obtain ⟨hsame, hshown⟩ := hafter.eq_of_idle fun e he => idle_of_settles (hsettles e he) hup
  refine ⟨fun e he text filename hrequest => ?_, hselected, fun entries hentries => ?_, hsame⟩
  · have hsettled := hsettles e he
    rw [hrequest] at hsettled
    exact hsettled
  · obtain ⟨e, he, hrequest, hjson⟩ := mem_tablesOf.mp hentries
    have htunnels := hshown e he hrequest entries hjson
    rw [findCompeting_eq (nodup_of_shown htunnels), htunnels, halone]

end Stages

/-- **Setting up twice.** After a setup that succeeds, with every deletion carried out, its tunnel is up
and alone and all other interfaces are as before; a further setup with the same config changes nothing. -/
theorem setup_leaves_one_tunnel (access : KeeneticAccess) (configText : String)
    {config : ParsedAwgConfig} {address : String} {net : Net} {s t : Session} {T T' : Table}
    (htest : access.testMode = false) (hparse : parseConfig configText = .ok config)
    (haddress : firstIpv4 config.details.interfaceAddress = some address)
    (hrun : (createAwgConnection access configText).run net.handle s = (.ok (), t))
    (hafter : T.After (s.since t) T')
    (hdone : ∀ e ∈ s.since t, ∀ name, e.request = .deleteInterface name → e.done = true) :
    ∃ selected, t.selectedInterfaceByHost access.ip = some selected ∧
      T.OneTunnel selected address T' ∧
      ∀ (again : Net) (result : Except Failure Unit) (u : Session) (T'' : Table),
        (createAwgConnection access configText).run again.handle t = (result, u) →
        T'.After (t.since u) T'' → t.SetsUpAgain access selected u T' T'' := by
  obtain ⟨entries, selected, a, b, hread, hchoose, hestablish⟩ := stages_of_ok htest hparse hrun
  have hasked := (asks_establish _).run hestablish
  have hsb := (prefix_of_run hread).trans (prefix_of_run hchoose)
  have hsince : s.since t = s.since b ++ b.since t := since_trans hsb hasked.prefixed
  rw [hsince] at hafter hdone
  obtain ⟨middle, hfirst, hsecond⟩ := Table.after_append hafter
  obtain ⟨hentries, hholds⟩ := holds_of_chosen hparse haddress hread hchoose hfirst
  have hcompeting : findCompetingWireGuardInterfaces entries selected = competing T.entries selected := by
    rw [findCompeting_eq (nodup_of_shown hentries), hentries]
  have hrecord : t.selectedInterfaceByHost access.ip = some selected := by
    rw [hasked.selected]
    simp
  obtain ⟨hone, hmatch⟩ := oneTunnel_of_established hholds rfl hcompeting hestablish hsecond
    (List.forall_mem_append.mp hdone).2
  exact ⟨selected, hrecord, hone, fun again result u T'' hagain hfollows =>
    setsUpAgain_of_run htest hparse haddress hone hmatch hrecord hagain hfollows⟩

/-! A router with one tunnel of an older setup. The setup imports its own, the router does all that it is asked, and
the setup is made once more. -/

/-- The table after an exchange that makes nothing. -/
def Table.advance (T : Table) (e : Exchange) : Table where
  entries := (T.entries.filter fun entry => e.deleted? != some entry.1).map (switched e)
  nodup := by
    have hfst : Prod.fst ∘ switched e = Prod.fst := funext (Table.switched_fst e)
    rw [List.map_map, hfst]
    exact (List.filter_sublist.map Prod.fst).nodup T.nodup

theorem Table.after_advance {es : List Exchange} (hcreated : Table.MakesNone es)
    (hshow : ∀ e ∈ es, e.request ≠ .showInterfaces) (T : Table) :
    T.After es (es.foldl Table.advance T) := by
  induction es generalizing T with
  | nil => exact .nil T
  | cons e es ih =>
      obtain ⟨hnone, hnones⟩ := List.forall_mem_cons.mp hcreated
      obtain ⟨hother, hothers⟩ := List.forall_mem_cons.mp hshow
      refine .cons ⟨fun hrequest => absurd hrequest hother, fun name hname => ?_, fun _ => rfl⟩
        (ih hnones hothers _)
      rw [hnone] at hname
      cases hname

def Exchange.tunnels? (e : Exchange) : Option (List (String × Tunnel)) :=
  match e.json? with
  | some (.obj entries) => some (tunnelsOf entries)
  | _ => none

theorem Table.step_of_shown {T : Table} {e : Exchange} (hrequest : e.request = .showInterfaces)
    (htunnels : e.tunnels? = some T.entries) : T.Step e T := by
  have hidle : T.Idle e := Table.idle_of_show hrequest
  refine ⟨fun _ entries hjson => ?_, fun name hname => ?_, fun _ => hidle.entries_eq.symm⟩
  · rw [Exchange.tunnels?, hjson] at htunnels
    exact Option.some.inj htunnels
  · rw [hidle.created] at hname
    cases hname

def olderTable : Table := ⟨tunnelsOf [(twoTunnels "up")[1]], by decide⟩

def importedTable : Table :=
  ⟨olderTable.entries ++ [("Wireguard2", ⟨some "10.8.0.2", some "a", false⟩)], by decide⟩

def importingNet : Net where
  answers k :=
    if k = 0 then responds 200 (.json (.obj [(twoTunnels "up")[1]]))
    else if k = 1 then responds 200 (.json (.obj [("created", .str "Wireguard2")]))
    else if k = 5 then responds 200 (.json freshTunnel)
    else responds 200 .blank
  lookups _ := none

def sampleSetup (net : Net) : Session → Except Failure Unit × Session :=
  (createAwgConnection ⟨"192.168.1.1", false⟩ sampleConfigText).run net.handle

def importingSetup : Except Failure Unit × Session := sampleSetup importingNet freshSession

def installedTable : Table := (importingSetup.2.exchanges.drop 2).foldl Table.advance importedTable

/-- The router with the tunnel of the first setup. -/
def installedNet : Net where
  answers k :=
    if k = 8 then responds 200 (.json (.obj [("Wireguard2", .obj [("state", .str "up"),
      ("address", .str "10.8.0.2"), ("remote-endpoint-address", .str "a")])]))
    else responds 200 (.json freshTunnel)
  lookups _ := none

def setupAgain : Except Failure Unit × Session := sampleSetup installedNet importingSetup.2

theorem sampleConfig_address : ∃ config, parseConfig sampleConfigText = .ok config ∧
    firstIpv4 config.details.interfaceAddress = some "10.8.0.2" := by
  have hread : ((parseConfig sampleConfigText).toOption.bind fun config =>
      firstIpv4 config.details.interfaceAddress) = some "10.8.0.2" := by decide +kernel
  obtain ⟨config, hconfig, haddress⟩ := Option.bind_eq_some_iff.mp hread
  exact ⟨config, ok_of_toOption hconfig, haddress⟩

theorem after_importing {es : List Exchange}
    (hshown : (es[0]?.map fun e => (e.request, e.tunnels?)) = some (.showInterfaces, some olderTable.entries))
    (himported : (es[1]?.map fun e => (e.request, e.created?))
      = some (.importConfig sampleConfigText "router1_10.8.0.2.conf", some "Wireguard2"))
    (hrest : ∀ e ∈ es.drop 2, e.created? = none ∧ e.request ≠ .showInterfaces) :
    olderTable.After es ((es.drop 2).foldl Table.advance importedTable) := by
  obtain ⟨config, hparse, haddress⟩ := sampleConfig_address
  obtain _ | ⟨shown, _ | ⟨imported, rest⟩⟩ := es
  · cases hshown
  · cases himported
  · simp only [List.getElem?_cons_zero, Option.map_some, Option.some.injEq, Prod.mk.injEq] at hshown
    simp only [List.getElem?_cons_succ, List.getElem?_cons_zero, Option.map_some, Option.some.injEq,
      Prod.mk.injEq] at himported
    have hsecond : olderTable.Step imported importedTable := by
      refine ⟨fun hrequest => ?_, fun name hname => ?_, fun hnone => ?_⟩
      · rw [himported.1] at hrequest
        cases hrequest
      · obtain rfl := Option.some.inj (himported.2.symm.trans hname)
        exact ⟨by decide, sampleConfigText, _, config, _, olderTable.entries, [], himported.1, hparse,
          haddress.symm, by simp, rfl⟩
      · rw [himported.2] at hnone
        cases hnone
    exact .cons (Table.step_of_shown hshown.1 hshown.2) (.cons hsecond
      (Table.after_advance (fun e he => (hrest e he).1) (fun e he => (hrest e he).2) importedTable))

/-- The table follows a run that shows it and then makes nothing. -/
theorem after_shown {T : Table} {es : List Exchange}
    (hshown : (es[0]?.map fun e => (e.request, e.tunnels?)) = some (.showInterfaces, some T.entries))
    (hrest : ∀ e ∈ es.drop 1, e.created? = none ∧ e.request ≠ .showInterfaces) :
    T.After es ((es.drop 1).foldl Table.advance T) := by
  obtain _ | ⟨shown, rest⟩ := es
  · cases hshown
  · simp only [List.getElem?_cons_zero, Option.map_some, Option.some.injEq, Prod.mk.injEq] at hshown
    exact .cons (Table.step_of_shown hshown.1 hshown.2)
      (Table.after_advance (fun e he => (hrest e he).1) (fun e he => (hrest e he).2) T)

/-- The older tunnel is gone and the imported one is up, also after the second setup. -/
theorem imported_tunnel_alone :
    ∃ T'' selected, olderTable.After (freshSession.since importingSetup.2) installedTable ∧
      installedTable.After (importingSetup.2.since setupAgain.2) T'' ∧
      importingSetup.2.selectedInterfaceByHost "192.168.1.1" = some selected ∧
      olderTable.OneTunnel selected "10.8.0.2" installedTable ∧
      importingSetup.2.SetsUpAgain ⟨"192.168.1.1", false⟩ selected setupAgain.2 installedTable T'' := by
  have hfacts : importingSetup.1.toOption.isSome = true ∧
      (importingSetup.2.exchanges[0]?.map fun e => (e.request, e.tunnels?))
        = some (.showInterfaces, some olderTable.entries) ∧
      (importingSetup.2.exchanges[1]?.map fun e => (e.request, e.created?))
        = some (.importConfig sampleConfigText "router1_10.8.0.2.conf", some "Wireguard2") ∧
      (∀ e ∈ importingSetup.2.exchanges.drop 2, e.created? = none ∧ e.request ≠ .showInterfaces) ∧
      (∀ e ∈ importingSetup.2.exchanges, e.done = true) ∧
      ((importingSetup.2.since setupAgain.2)[0]?.map fun e => (e.request, e.tunnels?))
        = some (.showInterfaces, some installedTable.entries) ∧
      ∀ e ∈ (importingSetup.2.since setupAgain.2).drop 1, e.created? = none ∧ e.request ≠ .showInterfaces := by
    decide +kernel
  obtain ⟨hok, hshown, himported, hrest, hdone, hagain, hagainRest⟩ := hfacts
  obtain ⟨config, hparse, haddress⟩ := sampleConfig_address
  obtain ⟨value, hvalue⟩ := exists_ok hok
  have hrun : (createAwgConnection ⟨"192.168.1.1", false⟩ sampleConfigText).run importingNet.handle
      freshSession = (.ok (), importingSetup.2) := Prod.ext hvalue rfl
  have hafter : olderTable.After (freshSession.since importingSetup.2) installedTable :=
    after_importing hshown himported hrest
  have hlast := after_shown hagain hagainRest
  obtain ⟨selected, hselected, hone, hagain⟩ := setup_leaves_one_tunnel _ _ rfl hparse haddress hrun hafter
    fun e he _ _ => hdone e he
  exact ⟨_, selected, hafter, hlast, hselected, hone, hagain installedNet _ _ _ rfl hlast⟩

end Keenetic
