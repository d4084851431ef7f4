import Router1.Dart.LinkedMap
import Router1.Keenetic.Records
import Router1.Remote.Passes

/-!
# Attaching to a tunnel of the router

`attachAndCheckExistingTunnel` goes through the table once. It collects the names of the tunnels that lead
to a Router1 server and keeps the best one so far with its state in two variables. The loop is written
here as it stands; it ends with the first of these tunnels that is up, or with the first one if none is,
and with all their names. So the choice of the service is the one that `preferredCandidate` makes.
-/

namespace Keenetic

open Dart Remote
open Remote.Program (Throws)

/-! ### The loop -/

/-- The variables of the loop. -/
structure AttachScan where
  selected : Option String
  selectedIsUp : Bool
  candidates : List String

/-- One round of the loop. -/
def AttachScan.visit (interfaces : Json) (scan : AttachScan) (entry : String × Json) : AttachScan :=
  if startsWith entry.1 "Wireguard" then
    match wireGuardEndpoint interfaces entry.1 with
    | some endpoint =>
        if router1Endpoints.contains endpoint then
          let listed := { scan with candidates := scan.candidates ++ [entry.1] }
          let isUp := entry.2.isMap && (entry.2.field "state").isText "up"
          if scan.selected.isNone || (isUp && !scan.selectedIsUp) then
            { listed with selected := some entry.1, selectedIsUp := isUp }
          else listed
        else scan
    | none => scan
  else scan

def scanInterfaces (entries : List (String × Json)) : AttachScan :=
  entries.foldl (AttachScan.visit (.obj entries)) ⟨none, false, []⟩

/-- `attachAndCheckExistingTunnel` with its loop. -/
def attachByScan (access : KeeneticAccess) : Rci TunnelStatus := do
  match ← getJson .showInterfaces with
  | .obj entries =>
      let scan := scanInterfaces entries
      match scan.selected with
      | none => throw .notFound
      | some selected =>
          setSelectedInterface access.ip selected
          match scan.candidates.find? fun name => name != selected with
          | some standby => setStandbyInterface access.ip standby
          | none => pure ()
          readTunnelStatus selected
  | _ => throw .noConnectionList

/-! ### What the loop finds -/

/-- The entry is a tunnel to a Router1 server. -/
def leadsToRouter1 (interfaces : Json) (entry : String × Json) : Bool :=
  startsWith entry.1 "Wireguard" && hasEndpointIn interfaces entry.1 router1Endpoints

/-- The tunnels to Router1 servers, in the order of the table. -/
def router1Entries (entries : List (String × Json)) : List (String × Json) :=
  entries.filter (leadsToRouter1 (.obj entries))

def entryIsUp (entry : String × Json) : Bool := (entry.2.field "state").isText "up"

variable {entries : List (String × Json)} {interfaces : Json} {entry : String × Json} {name : String}

theorem isUp_eq (entry : String × Json) :
    (entry.2.isMap && (entry.2.field "state").isText "up") = entryIsUp entry := by
  unfold entryIsUp
  cases entry.2 with
  | obj fields => rfl
  | null | bool | int | double | str | arr => rfl

/-- A round keeps the better of two entries, if the new one leads to a Router1 server. -/
theorem visit_eq (kept : Option (String × Json) × Bool) (names : List String) (entry : String × Json) :
    AttachScan.visit interfaces ⟨kept.1.map Prod.fst, kept.2, names⟩ entry =
      if leadsToRouter1 interfaces entry then
        ⟨(keep entryIsUp kept entry).1.map Prod.fst, (keep entryIsUp kept entry).2, names ++ [entry.1]⟩
      else ⟨kept.1.map Prod.fst, kept.2, names⟩ := by
  unfold AttachScan.visit leadsToRouter1 hasEndpointIn
  cases startsWith entry.1 "Wireguard" with
  | false => rfl
  | true =>
      cases wireGuardEndpoint interfaces entry.1 with
      | none => rfl
      | some endpoint =>
          dsimp only
          rw [isUp_eq, Bool.true_and, if_pos rfl, keep, Option.isNone_map]
          split_ifs <;> rfl

theorem foldl_visit (entries : List (String × Json)) (kept : Option (String × Json) × Bool)
    (names : List String) :
    entries.foldl (AttachScan.visit interfaces) ⟨kept.1.map Prod.fst, kept.2, names⟩ =
      ⟨((entries.filter (leadsToRouter1 interfaces)).foldl (keep entryIsUp) kept).1.map Prod.fst,
        ((entries.filter (leadsToRouter1 interfaces)).foldl (keep entryIsUp) kept).2,
        names ++ (entries.filter (leadsToRouter1 interfaces)).map Prod.fst⟩ := by
  induction entries generalizing kept names with
  | nil => simp
  | cons entry entries ih =>
      rw [List.foldl_cons, visit_eq]
      split
      · next hleads =>
          rw [ih, List.filter_cons_of_pos hleads, List.foldl_cons, List.map_cons, List.append_assoc,
            List.singleton_append]
      · next hother =>
          rw [ih, List.filter_cons_of_neg hother]

/-- **The loop.** It ends with the first entry that is up, or else the first, and with all names. -/
theorem scanInterfaces_eq (entries : List (String × Json)) :
    scanInterfaces entries =
      ⟨(preferred entryIsUp (router1Entries entries)).map Prod.fst, (router1Entries entries).any entryIsUp,
        (router1Entries entries).map Prod.fst⟩ := by
  have hloop := @foldl_visit (.obj entries) entries (none, false) []
  have hkept : ((entries.filter (leadsToRouter1 (.obj entries))).foldl (keep entryIsUp) (none, false)) = _ :=
    foldl_keep entryIsUp _
  rw [hkept] at hloop
  exact hloop

/-! ### The choice of the service -/

theorem router1Candidates_eq (entries : List (String × Json)) :
    router1Candidates entries = (router1Entries entries).map Prod.fst := rfl

theorem showsUp_of_mem (hnodup : (keys entries).Nodup) (h : entry ∈ entries) :
    showsUp entries entry.1 = entryIsUp entry := by
  have hfound : entries.lookup entry.1 = some entry.2 := (lookup_eq_some_iff_mem hnodup).mpr h
  rw [showsUp, Json.get, hfound]
  rfl

theorem preferredCandidate_eq (hnodup : (keys entries).Nodup) :
    preferredCandidate entries = (preferred entryIsUp (router1Entries entries)).map Prod.fst := by
  have hup : (router1Entries entries).find? (showsUp entries ∘ Prod.fst) =
      (router1Entries entries).find? entryIsUp := by
    rw [← List.head?_filter, ← List.head?_filter]
    apply congrArg List.head?
    apply List.filter_congr
    intro entry hentry
    exact showsUp_of_mem hnodup (List.mem_of_mem_filter hentry)
  unfold preferredCandidate
  dsimp only
  rw [router1Candidates_eq, List.find?_map, hup, List.head?_map, preferred]
  cases (router1Entries entries).find? entryIsUp <;> rfl

variable {access : KeeneticAccess} {net : Net} {s m t : Session} {result : Except Failure TunnelStatus}

theorem run_attachByScan (hnodup : (keys entries).Nodup)
    (hread : (getJson .showInterfaces).run net.handle s = (.ok (.obj entries), m)) :
    (attachByScan access).run net.handle s =
      (attachAndCheckExistingTunnel access).run net.handle s := by
  unfold attachByScan attachAndCheckExistingTunnel
  rw [Program.run_bind_of_ok hread, Program.run_bind_of_ok hread]
  dsimp only
  rewrite [scanInterfaces_eq, preferredCandidate_eq hnodup, router1Candidates_eq]
  rfl

/-! ### What an attachment leaves -/

theorem error_of_handshakeSeconds {value : Json} {error : Failure}
    (h : handshakeSeconds value = .error error) : error = .unsupported := by
  unfold handshakeSeconds at h
  split at h
  · cases h
  · split at h
    · cases h
    · cases h
      rfl
  · cases h

theorem error_of_tunnelStatusOf {value : Json} {error : Failure}
    (h : tunnelStatusOf name value = .error error) : error ≠ .notFound := by
  cases value with
  | obj fields =>
      rw [tunnelStatusOf] at h
      simp only [bind, Except.bind] at h
      split at h
      · next hseconds =>
          cases h
          rw [error_of_handshakeSeconds hseconds]
          exact nofun
      · split at h
        · split at h <;> cases h
        · cases h
  | null | bool | int | double | str | arr =>
      cases h
      exact nofun

theorem throws_readTunnelStatus (name : String) : (readTunnelStatus name).Throws (· ≠ .notFound) := by
  have hget : (get (.showInterface name)).Throws (· ≠ .notFound) := by
    intro reply
    cases reply with
    | ok response => trivial
    | error cause =>
        show cause.failure ≠ .notFound
        cases cause <;> exact nofun
  refine Throws.bind (Throws.bind (throws_retryFrom hget 2) fun response => ?_) fun value => ?_
  · split
    · cases response.body with
      | json value => trivial
      | blank | malformed => exact nofun
    · exact nofun
  · cases hstatus : tunnelStatusOf name value with
    | ok status => trivial
    | error error => exact error_of_tunnelStatusOf hstatus

/-- The first tunnel that is up, or else the first, is selected, and the first other one is the standby. -/
theorem run_attachByScan_cases
    (hread : (getJson .showInterfaces).run net.handle s = (.ok (.obj entries), m))
    (hrun : (attachByScan access).run net.handle s = (result, t)) :
    (router1Entries entries = [] ∧ result = .error .notFound) ∨
      ∃ chosen, preferred entryIsUp (router1Entries entries) = some chosen ∧ result ≠ .error .notFound ∧
        t.selectedInterfaceByHost access.ip = some chosen.1 ∧
        ∀ standby, (router1Candidates entries).find? (fun name => name != chosen.1) = some standby →
          t.standbyInterfaceByHost access.ip = some standby := by
  unfold attachByScan at hrun
  rw [Program.run_bind_of_ok hread] at hrun
  dsimp only at hrun
  rw [scanInterfaces_eq, ← router1Candidates_eq] at hrun
  dsimp only at hrun
  cases hchosen : preferred entryIsUp (router1Entries entries) with
  | none =>
      rw [hchosen] at hrun
      cases hrun
      exact .inl ⟨preferred_eq_none_iff.mp hchosen, rfl⟩
  | some chosen =>
      have hasks : Asks (fun _ => True) (readTunnelStatus chosen.1) := calls_readTunnelStatus trivial
      have hother : ∀ {a b}, (readTunnelStatus chosen.1).run net.handle a = (result, b) →
          result ≠ .error .notFound := by
        rintro a b hstatus rfl
        exact (throws_readTunnelStatus chosen.1).run_error hstatus rfl
      rw [hchosen, Option.map_some] at hrun
      dsimp only at hrun
      rw [Program.run_bind_of_ok (run_setSelectedInterface access.ip chosen.1 m)] at hrun
      refine .inr ⟨chosen, rfl, ?_⟩
      split at hrun
      · next standby hstandby =>
          rw [Program.run_bind_of_ok (run_setStandbyInterface access.ip standby _)] at hrun
          have hasked := hasks.run hrun
          refine ⟨hother hrun, ?_, ?_⟩
          · rw [hasked.selected]
            exact if_pos rfl
          · intro other hfound
            obtain rfl : standby = other := Option.some.inj (hstandby.symm.trans hfound)
            rw [hasked.standby]
            exact if_pos rfl
      · next hnone =>
          have hasked := hasks.run hrun
          refine ⟨hother hrun, ?_, ?_⟩
          · rw [hasked.selected]
            exact if_pos rfl
          · intro other hfound
            rw [hnone] at hfound
            cases hfound

/-- What is promised of an attachment that has read the table. -/
structure Attached (entries : List (String × Json)) (host : String)
    (result : Except Failure TunnelStatus) (t : Session) : Prop where
  notFound : result = .error .notFound ↔ ∀ entry ∈ entries, leadsToRouter1 (.obj entries) entry = false
  selected : router1Entries entries ≠ [] →
    t.selectedInterfaceByHost host = (preferred entryIsUp (router1Entries entries)).map Prod.fst
  standby : 2 ≤ (router1Entries entries).length →
    ∃ standby ∈ router1Candidates entries, t.standbyInterfaceByHost host = some standby ∧
      t.selectedInterfaceByHost host ≠ some standby

theorem router1Entries_eq_nil_iff :
    router1Entries entries = [] ↔ ∀ entry ∈ entries, leadsToRouter1 (.obj entries) entry = false := by
  rw [router1Entries, List.filter_eq_nil_iff]
  simp only [Bool.not_eq_true]

theorem exists_other (hnodup : (keys entries).Nodup) (htwo : 2 ≤ (router1Entries entries).length)
    (chosen : String) :
    ∃ standby, (router1Candidates entries).find? (fun name => name != chosen) = some standby := by
  have hnames : (router1Candidates entries).Nodup :=
    hnodup.sublist (List.filter_sublist.map Prod.fst)
  rw [← Option.isSome_iff_exists, List.find?_isSome]
  rw [router1Candidates_eq] at hnames ⊢
  match hentries : router1Entries entries with
  | [] => simp [hentries] at htwo
  | [_] => simp [hentries] at htwo
  | first :: second :: rest =>
      rw [hentries, List.map_cons, List.map_cons, List.nodup_cons] at hnames
      have hdiffer : first.1 ≠ second.1 := fun heq => hnames.1 (heq ▸ List.mem_cons_self)
      by_cases hfirst : first.1 = chosen
      · exact ⟨second.1, by simp, by simpa [← hfirst] using hdiffer.symm⟩
      · exact ⟨first.1, by simp, by simpa using hfirst⟩

theorem attached_of_run (hnodup : (keys entries).Nodup)
    (hread : (getJson .showInterfaces).run net.handle s = (.ok (.obj entries), m))
    (hrun : (attachByScan access).run net.handle s = (result, t)) :
    Attached entries access.ip result t := by
  rcases run_attachByScan_cases hread hrun with ⟨hnone, hresult⟩ | ⟨chosen, hchosen, hresult, hselected, hstandby⟩
  · refine ⟨iff_of_true hresult (router1Entries_eq_nil_iff.mp hnone), fun hsome => absurd hnone hsome, ?_⟩
    intro htwo
    rw [hnone] at htwo
    cases htwo
  · have hsome : router1Entries entries ≠ [] := fun hnil => by
      rw [preferred_eq_none_iff.mpr hnil] at hchosen
      cases hchosen
    refine ⟨iff_of_false hresult fun hall => hsome (router1Entries_eq_nil_iff.mpr hall), fun _ => ?_, ?_⟩
    · rw [hselected, hchosen]
      rfl
    · intro htwo
      obtain ⟨other, hother⟩ := exists_other hnodup htwo chosen.1
      refine ⟨other, List.mem_of_find?_eq_some hother, hstandby other hother, ?_⟩
      rw [hselected]
      intro heq
      have hdiffers := List.find?_some hother
      rw [Option.some.inj heq] at hdiffers
      simp at hdiffers

/-! ### The order of the entries -/

section Order

variable {entries' : List (String × Json)}

theorem get_of_perm (hnodup : (keys entries).Nodup) (hperm : entries.Perm entries') (name : String) :
    Json.get entries name = Json.get entries' name := by
  have hnodup' : (keys entries').Nodup := (hperm.map Prod.fst).nodup_iff.mp hnodup
  have hlookup : entries.lookup name = entries'.lookup name := by
    ext value
    rw [lookup_eq_some_iff_mem hnodup, lookup_eq_some_iff_mem hnodup', hperm.mem_iff]
  rw [Json.get, hlookup, Json.get]

theorem router1Entries_perm (hnodup : (keys entries).Nodup) (hperm : entries.Perm entries') :
    (router1Entries entries).Perm (router1Entries entries') := by
  have hleads : leadsToRouter1 (.obj entries) = leadsToRouter1 (.obj entries') := by
    funext entry
    unfold leadsToRouter1 hasEndpointIn wireGuardEndpoint
    simp only [Json.field, get_of_perm hnodup hperm]
  unfold router1Entries
  rw [hleads]
  exact hperm.filter _

/-- The selected interface is up in the table. -/
def SelectsUp (entries : List (String × Json)) (host : String) (t : Session) : Prop :=
  ∃ name, t.selectedInterfaceByHost host = some name ∧ showsUp entries name = true

theorem selectsUp_iff (hnodup : (keys entries).Nodup) {host : String} (h : Attached entries host result t)
    (hsome : router1Entries entries ≠ []) :
    SelectsUp entries host t ↔ (router1Entries entries).any entryIsUp = true := by
  have hselected := h.selected hsome
  cases hchosen : preferred entryIsUp (router1Entries entries) with
  | none => exact absurd (preferred_eq_none_iff.mp hchosen) hsome
  | some chosen =>
      rw [hchosen, Option.map_some] at hselected
      have hmember : chosen ∈ entries := List.mem_of_mem_filter (mem_of_preferred hchosen)
      have hup : showsUp entries chosen.1 = (router1Entries entries).any entryIsUp := by
        rw [showsUp_of_mem hnodup hmember, good_of_preferred hchosen]
      constructor
      · rintro ⟨name, hname, hshown⟩
        obtain rfl : chosen.1 = name := Option.some.inj (hselected.symm.trans hname)
        rw [← hup, hshown]
      · intro hany
        exact ⟨chosen.1, hselected, hup.trans hany⟩

end Order

/-- **Attaching.** For every table that names no interface twice, an attachment fails with `notFound` if
and only if no tunnel leads to a Router1 server; otherwise it selects the first of these tunnels that is
up, or the first one if none is, and has another one of them as the standby if there are two. Whether the
selected tunnel is up is the same for every order of the entries. -/
theorem attach_chooses (hnodup : (keys entries).Nodup)
    (hread : (getJson .showInterfaces).run net.handle s = (.ok (.obj entries), m))
    (hrun : (attachByScan access).run net.handle s = (result, t)) :
    Attached entries access.ip result t ∧
      ∀ (entries' : List (String × Json)) (access' : KeeneticAccess) (net' : Net) (s' m' t' : Session)
        (result' : Except Failure TunnelStatus), entries.Perm entries' → router1Entries entries ≠ [] →
        (getJson .showInterfaces).run net'.handle s' = (.ok (.obj entries'), m') →
        (attachByScan access').run net'.handle s' = (result', t') →
          (SelectsUp entries access.ip t ↔ SelectsUp entries' access'.ip t') := by
  have hattached := attached_of_run hnodup hread hrun
  refine ⟨hattached, ?_⟩
  intro entries' access' net' s' m' t' result' hperm hsome hread' hrun'
  have hnodup' : (keys entries').Nodup := (hperm.map Prod.fst).nodup_iff.mp hnodup
  have hfound := router1Entries_perm hnodup hperm
  have hsome' : router1Entries entries' ≠ [] := fun hnil => hsome (List.perm_nil.mp (hnil ▸ hfound))
  rw [selectsUp_iff hnodup hattached hsome,
    selectsUp_iff hnodup' (attached_of_run hnodup' hread' hrun') hsome', hfound.any_eq]

/-! Two tunnels to Router1 servers, of which the second is up, and one to another server. -/

def mixedTable : List (String × Json) :=
  [("Bridge0", .str "up"),
    ("Wireguard0", .obj [("state", .str "down"), ("remote-endpoint-address", .str frEndpoint)]),
    ("Wireguard1", .obj [("state", .str "up"), ("remote-endpoint-address", .str "198.51.100.7")]),
    ("Wireguard2", .obj [("state", .str "up"), ("wireguard", .obj [("peer",
      .arr [.obj [("remote-endpoint-address", .str nl2Endpoint)]])])])]

def showingMixedTable : Net where
  answers _ := ⟨.ok ⟨200, .json (.obj mixedTable)⟩, fun _ => true⟩
  lookups _ := none

def nothingKnown : Session := ⟨fun _ => none, fun _ => none, [], []⟩

theorem mixedTable_attached :
    let attached := (attachByScan ⟨"192.168.1.1", false⟩).run showingMixedTable.handle nothingKnown
    Attached mixedTable "192.168.1.1" attached.1 attached.2 ∧
      attached.2.selectedInterfaceByHost "192.168.1.1" = some "Wireguard2" ∧
      attached.2.standbyInterfaceByHost "192.168.1.1" = some "Wireguard0" := by
  have hnodup : (keys mixedTable).Nodup := by decide
  have hread : (getJson .showInterfaces).run showingMixedTable.handle nothingKnown =
      (.ok (.obj mixedTable), (showingMixedTable.handle (.exchange .showInterfaces) nothingKnown).2) := rfl
  refine ⟨?_, by decide +kernel, by decide +kernel⟩
  exact (@attach_chooses _ ⟨"192.168.1.1", false⟩ _ _ _ _ _ hnodup hread rfl).1

end Keenetic
