import Router1.Keenetic.Setup

/-!
# Two readings of one table

`attachAndCheckExistingTunnel` and `_findCompetingWireGuardInterfaces` look for the tunnels among the
entries of the answer itself. `applySelectiveDnsRouting` looks for them one level below, under the key
`interface`, and shares the traffic out between the tunnels it finds there. The two readings are
compared on every answer: the endpoint each of them attributes to a name, and what follows from the
table as the first of them reads it for the interfaces the second one chooses.
-/

namespace Keenetic

open Dart

/-- The endpoint `attachAndCheckExistingTunnel` and `_findCompetingWireGuardInterfaces` attribute to a
name. -/
def attachEndpoint (table : Json) (name : String) : Option String := wireGuardEndpoint table name

/-- The endpoint `applySelectiveDnsRouting` attributes to a name. -/
def selectiveEndpoint (table : Json) (name : String) : Option String :=
  wireGuardEndpoint (table.field "interface") name

/-- The table shows the tunnel up, connected and at the server, as `attachAndCheckExistingTunnel` reads
it. -/
structure ShowsHealthy (table : Json) (server name : String) : Prop where
  isWireguard : startsWith name "Wireguard" = true
  up : ((table.field name).field "state").isText "up" = true
  connected : ((table.field name).field "connected").isText "yes" = true
  endpoint : attachEndpoint table name = some server

/-- What is promised of every answer. The media group and the media routes are bound to the
`mediaInterface`, those of AI to the `aiInterface`. -/
structure ReadAlike (table : Json) : Prop where
  endpoint : ∀ name, selectiveEndpoint table name = attachEndpoint table name
  selectedAtFr : ∀ selected, attachEndpoint table selected = some frEndpoint →
    (∃ other, ShowsHealthy table nl2Endpoint other) →
      ShowsHealthy table nl2Endpoint (Lanes.of table selected).mediaInterface ∧
        (Lanes.of table selected).aiInterface = selected
  selectedAtNl2 : ∀ selected, attachEndpoint table selected = some nl2Endpoint →
    (∃ other, ShowsHealthy table frEndpoint other) →
      ShowsHealthy table frEndpoint (Lanes.of table selected).aiInterface ∧
        (Lanes.of table selected).mediaInterface = selected

/-! ### What the table must look like -/

/-- The address an entry shows. -/
def entryEndpoint (entry : Json) : Option String := wireGuardEndpoint (.obj [("", entry)]) ""

theorem wireGuardEndpoint_eq (table : Json) (name : String) :
    wireGuardEndpoint table name = entryEndpoint (table.field name) := rfl

def entryNames : Json → List String
  | .obj fields => fields.map Prod.fst
  | _ => []

theorem field_eq_null {table : Json} {name : String} (h : name ∉ entryNames table) :
    table.field name = .null := by
  cases table with
  | obj fields =>
      have hnone : fields.lookup name = none := by
        rw [List.lookup_eq_none_iff]
        intro entry hentry
        rw [bne_iff_ne]
        rintro rfl
        exact h (List.mem_map_of_mem hentry)
      rw [Json.field, Json.get, hnone]
      rfl
  | null | bool | int | double | str | arr => rfl

/-- Every name shows the same address at the top of the answer and under `interface`, or none at
both. -/
def sameAddresses (table : Json) : Bool :=
  (entryNames table ++ entryNames (table.field "interface")).all fun name =>
    entryEndpoint (table.field name) == entryEndpoint ((table.field "interface").field name)

/-- Where a tunnel is shown at `here` and another one healthy at `there`, the first tunnel to `there`
that is healthy under `interface` is there, and is healthy at the top of the answer as well. -/
def FirstHealthyShown (table : Json) (here there : String) : Prop :=
  (∃ name, entryEndpoint (table.field name) = some here) →
    (∃ other, ShowsHealthy table there other) →
      ∃ other, findHealthyWireGuardByEndpoint (table.field "interface") [there] = some other ∧
        ShowsHealthy table there other

/-! ### The two readings agree exactly then -/

variable {table : Json} {selected : String}

theorem endpoints_agree_iff :
    (∀ name, selectiveEndpoint table name = attachEndpoint table name) ↔
      sameAddresses table = true := by
  simp only [sameAddresses, List.all_eq_true, beq_iff_eq, List.mem_append, selectiveEndpoint,
    attachEndpoint, wireGuardEndpoint_eq]
  constructor
  · intro h name _
    exact (h name).symm
  · intro h name
    by_cases hlisted : name ∈ entryNames table ∨ name ∈ entryNames (table.field "interface")
    · exact (h name hlisted).symm
    · rw [not_or] at hlisted
      rw [field_eq_null hlisted.1, field_eq_null hlisted.2]

theorem fr_ne_nl2 : frEndpoint ≠ nl2Endpoint := by decide

theorem mediaInterface_eq (lanes : Lanes) :
    lanes.mediaInterface =
      if lanes.endpoint = some frEndpoint then lanes.nl2.getD lanes.selected else lanes.selected := by
  rw [Lanes.mediaInterface]
  cases lanes.nl2 with
  | none => exact (ite_self _).symm
  | some nl2 => rfl

theorem aiInterface_eq (lanes : Lanes) :
    lanes.aiInterface =
      if lanes.endpoint = some nl2Endpoint then lanes.fr.getD lanes.selected else lanes.selected := by
  rw [Lanes.aiInterface]
  cases lanes.fr with
  | none => exact (ite_self _).symm
  | some fr => rfl

/-- Where the selected tunnel is at one server and keeps its own traffic, what is sent to the other server goes
through a tunnel the table shows healthy there if and only if the first healthy tunnel under `interface` is one. -/
theorem shared_iff {here there through own : String} (hne : here ≠ there)
    (hselected : attachEndpoint table selected = some here) {found : Option String}
    (hthrough : through = found.getD selected) (hown : own = selected) :
    (ShowsHealthy table there through ∧ own = selected) ↔
      ∃ other, found = some other ∧ ShowsHealthy table there other := by
  rw [and_iff_left hown, hthrough]
  cases found with
  | none =>
      refine iff_of_false (fun h => ?_) (by simp)
      have hendpoint := h.endpoint
      rw [Option.getD_none, hselected, Option.some.injEq] at hendpoint
      exact hne hendpoint
  | some other => simp

theorem selectedAtFr_iff (h : selectiveEndpoint table selected = attachEndpoint table selected)
    (hselected : attachEndpoint table selected = some frEndpoint) :
    (ShowsHealthy table nl2Endpoint (Lanes.of table selected).mediaInterface ∧
        (Lanes.of table selected).aiInterface = selected) ↔
      ∃ other, findHealthyWireGuardByEndpoint (table.field "interface") [nl2Endpoint] = some other ∧
        ShowsHealthy table nl2Endpoint other := by
  have hend : (Lanes.of table selected).endpoint = some frEndpoint := h.trans hselected
  refine shared_iff fr_ne_nl2 hselected ?_ ?_
  · rw [mediaInterface_eq, if_pos hend]
    rfl
  · rw [aiInterface_eq, hend, if_neg fun heq => fr_ne_nl2 (Option.some.inj heq)]
    rfl

theorem selectedAtNl2_iff (h : selectiveEndpoint table selected = attachEndpoint table selected)
    (hselected : attachEndpoint table selected = some nl2Endpoint) :
    (ShowsHealthy table frEndpoint (Lanes.of table selected).aiInterface ∧
        (Lanes.of table selected).mediaInterface = selected) ↔
      ∃ other, findHealthyWireGuardByEndpoint (table.field "interface") [frEndpoint] = some other ∧
        ShowsHealthy table frEndpoint other := by
  have hend : (Lanes.of table selected).endpoint = some nl2Endpoint := h.trans hselected
  refine shared_iff fr_ne_nl2.symm hselected ?_ ?_
  · rw [aiInterface_eq, if_pos hend]
    rfl
  · rw [mediaInterface_eq, hend, if_neg fun heq => fr_ne_nl2 (Option.some.inj heq).symm]
    rfl

/-- The answer is read alike if and only if it shows the same addresses at both levels and, where the
traffic is to be shared between the two servers, the first healthy tunnel under `interface` is healthy at
the top as well. -/
theorem readAlike_iff (table : Json) :
    ReadAlike table ↔
      sameAddresses table = true ∧ FirstHealthyShown table frEndpoint nl2Endpoint ∧
        FirstHealthyShown table nl2Endpoint frEndpoint := by
  rw [← endpoints_agree_iff]
  constructor
  · intro h
    refine ⟨h.endpoint, ?_, ?_⟩
    · rintro ⟨name, hname⟩ hother
      exact (selectedAtFr_iff (h.endpoint name) hname).mp (h.selectedAtFr name hname hother)
    · rintro ⟨name, hname⟩ hother
      exact (selectedAtNl2_iff (h.endpoint name) hname).mp (h.selectedAtNl2 name hname hother)
  · rintro ⟨hendpoint, hfr, hnl2⟩
    refine ⟨hendpoint, ?_, ?_⟩
    · intro selected hselected hother
      exact (selectedAtFr_iff (hendpoint selected) hselected).mpr (hfr ⟨selected, hselected⟩ hother)
    · intro selected hselected hother
      exact (selectedAtNl2_iff (hendpoint selected) hselected).mpr (hnl2 ⟨selected, hselected⟩ hother)

/-- A tunnel that is up and connected. -/
def healthyEntry (address : String) : Json :=
  .obj [("state", .str "up"), ("connected", .str "yes"), ("remote-endpoint-address", .str address)]

/-- The answer as `attachAndCheckExistingTunnel` expects it, with one tunnel to each server. -/
def flatTable : Json :=
  .obj [("Wireguard0", healthyEntry frEndpoint), ("Wireguard1", healthyEntry nl2Endpoint)]

/-- The routing finds no tunnel in it. -/
theorem flatTable_not_readAlike : ¬ReadAlike flatTable := by
  intro h
  have hendpoint := h.endpoint "Wireguard0"
  revert hendpoint
  decide +kernel

/-- The same answer with the map under the key `interface`, where the other two find no tunnel. -/
example : ¬ReadAlike (.obj [("interface", flatTable)]) := by
  intro h
  have hendpoint := h.endpoint "Wireguard0"
  revert hendpoint
  decide +kernel

end Keenetic
