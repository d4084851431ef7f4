import Router1.Dart.JsonText
import Router1.Keenetic.Batches

/-!
# Verifying the whole tunnel

After a change to the whole tunnel the service reads the route table and looks for three pieces in its
text: the two addresses of the half default routes, and the name of the selected interface. Where in the
table a piece stands is not asked. The answer is right exactly when the table does route both halves
through the selected interface, or when a piece is missing.
-/

namespace Keenetic

open Dart Remote
open Remote.Program (Calls)

variable {net : Net} {s t : Session} {access : KeeneticAccess} {selected : String} {table : Json}

/-! ### The check -/

/-- The test on the text of the route table. -/
def halvesMentioned (text selected : String) : Bool :=
  let firstHalf := contains text "0.0.0.0" &&
    (contains text "128.0.0.0" || contains text "0.0.0.0/1")
  let secondHalf := contains text "128.0.0.0" &&
    (contains text "128.0.0.0/1" || contains text "128.0.0.0")
  firstHalf && secondHalf && contains text selected

/-- `verifyFullTunnelRouting` once the selected interface is known. -/
def lookForHalves (selected : String) : Rci Bool := do
  let routes ← getJson .showIpRoute
  match jsonEncode routes with
  | none => throw .unsupported
  | some text => pure (halvesMentioned text selected)

def verifyFullTunnelRouting (access : KeeneticAccess) : Rci Bool := do
  if access.testMode then pure true
  else
    match ← selectedInterface access.ip with
    | none => pure false
    | some selected => lookForHalves selected

/-- The second address makes the other tests for it superfluous. -/
theorem halvesMentioned_iff (text selected : String) :
    halvesMentioned text selected = true ↔
      contains text "0.0.0.0" = true ∧ contains text "128.0.0.0" = true ∧
        contains text selected = true := by
  unfold halvesMentioned
  cases contains text "128.0.0.0" <;> simp

/-! ### The route table -/

/-- The routes of a table, which is a list of objects. -/
def routesOf : Json → List Json
  | .arr routes => routes
  | _ => []

/-- A route to one half of all addresses, with the length of the half or with its mask, through the
interface. -/
def IsHalfVia (route : Json) (network interface : String) : Prop :=
  (route.field "interface").isText interface = true ∧
    ((route.field "destination").isText (network ++ "/1") = true ∨
      ((route.field "destination").isText network = true ∧
        (route.field "mask").isText "128.0.0.0" = true))

/-- All IPv4 traffic goes through the interface. -/
def RoutesAllVia (table : Json) (interface : String) : Prop :=
  (∃ route ∈ routesOf table, IsHalfVia route "0.0.0.0" interface) ∧
    ∃ route ∈ routesOf table, IsHalfVia route "128.0.0.0" interface

/-- The text of the table has the three pieces somewhere. -/
def MentionsHalves (table : Json) (selected : String) : Prop :=
  ∃ text, jsonEncode table = some text ∧ contains text "0.0.0.0" = true ∧
    contains text "128.0.0.0" = true ∧ contains text selected = true

/-! ### Runs of the check -/

theorem run_verifyFullTunnelRouting (htest : access.testMode = false)
    (hselected : s.selectedInterfaceByHost access.ip = some selected) :
    (verifyFullTunnelRouting access).run net.handle s
      = (lookForHalves selected).run net.handle s := by
  simp only [verifyFullTunnelRouting, htest, Bool.false_eq_true, if_false]
  rw [Program.run_bind_of_ok (run_selectedInterface hselected)]

/-- A check that says yes has read a table that mentions the pieces. -/
theorem mentions_of_verified (htest : access.testMode = false)
    (hselected : s.selectedInterfaceByHost access.ip = some selected)
    (h : (verifyFullTunnelRouting access).run net.handle s = (.ok true, t)) :
    ∃ routes, s.Reads t .showIpRoute routes ∧ MentionsHalves routes selected := by
  rw [run_verifyFullTunnelRouting htest hselected] at h
  obtain ⟨routes, m, hread, hrest⟩ := Program.run_bind_ok h
  cases htext : jsonEncode routes with
  | none =>
      rw [htext] at hrest
      cases hrest
  | some text =>
      rw [htext] at hrest
      obtain ⟨hresult, rfl⟩ := Prod.mk.inj hrest
      exact ⟨routes, run_getJson_ok hread, text, htext,
        (halvesMentioned_iff text selected).mp (Except.ok.inj hresult)⟩

/-- The router answers every request with this table. -/
def shownTable (table : Json) : Net where
  answers _ := responds 200 (.json table)
  lookups _ := none

theorem run_shownTable (htest : access.testMode = false)
    (hselected : s.selectedInterfaceByHost access.ip = some selected)
    (h : MentionsHalves table selected) :
    (verifyFullTunnelRouting access).run (shownTable table).handle s
      = (.ok true, ((shownTable table).handle (.exchange .showIpRoute) s).2) := by
  obtain ⟨text, htext, hpieces⟩ := h
  have hread : (getJson .showIpRoute).run (shownTable table).handle s
      = (.ok table, ((shownTable table).handle (.exchange .showIpRoute) s).2) := rfl
  rw [run_verifyFullTunnelRouting htest hselected, lookForHalves, Program.run_bind_of_ok hread, htext]
  dsimp only
  rw [(halvesMentioned_iff text selected).mpr hpieces]
  rfl

/-- **Soundness of the check.** Whenever the check reads this table and says yes, both halves go through
the selected interface, if and only if they do or the text of the table lacks one of the pieces. -/
theorem verified_sound_iff (access : KeeneticAccess) (s : Session) (table : Json) :
    (∀ (net : Net) (t : Session), (verifyFullTunnelRouting access).run net.handle s = (.ok true, t) →
        (∃ e ∈ s.since t, e.request = .showIpRoute ∧ e.json? = some table) →
        ∃ selected, s.selectedInterfaceByHost access.ip = some selected ∧ RoutesAllVia table selected) ↔
      access.testMode = true ∨ ∀ selected, s.selectedInterfaceByHost access.ip = some selected →
        RoutesAllVia table selected ∨ ¬MentionsHalves table selected := by
  constructor
  · intro hsound
    cases htest : access.testMode with
    | true => exact .inl rfl
    | false =>
        right
        intro selected hselected
        rw [or_iff_not_imp_right, not_not]
        intro hmentions
        have hrun := run_shownTable htest hselected hmentions
        have hread : ∃ e ∈ s.since ((shownTable table).handle (.exchange .showIpRoute) s).2,
            e.request = .showIpRoute ∧ e.json? = some table := by
          rw [since_of_append rfl]
          exact ⟨_, List.mem_singleton_self _, rfl, rfl⟩
        obtain ⟨other, hother, hroutes⟩ := hsound _ _ hrun hread
        rw [hselected] at hother
        rw [Option.some.inj hother]
        exact hroutes
  · rintro hcondition net t hrun ⟨e, he, hrequest, hjson⟩
    cases htest : access.testMode with
    | true =>
        -- in test mode no table is read
        obtain rfl : s = t := by simpa [verifyFullTunnelRouting, htest] using hrun
        rw [since_self] at he
        cases he
    | false =>
        cases hselected : s.selectedInterfaceByHost access.ip with
        | none =>
            have hread : (selectedInterface access.ip).run net.handle s = (.ok none, s) :=
              run_selectedInterface hselected
            simp [verifyFullTunnelRouting, htest, Program.run_bind_of_ok hread] at hrun
        | some selected =>
            obtain ⟨routes, hreads, hmentions⟩ := mentions_of_verified htest hselected hrun
            obtain rfl : table = routes := hreads.2 e he table hjson
            have hroutes := hcondition.resolve_left (by simp [htest]) selected hselected
            exact ⟨selected, rfl, hroutes.resolve_right (not_not.mpr hmentions)⟩

/-! A table with the first half only, whose mask is the second address that the check looks for. -/

def onlyLowHalf : Json :=
  .arr [.obj [("destination", .str "0.0.0.0"), ("mask", .str "128.0.0.0"),
    ("interface", .str "Wireguard0")]]

/-- The check is content with one half. -/
theorem one_half_verified :
    ¬∀ (access : KeeneticAccess) (net : Net) (s t : Session) (table : Json),
      (verifyFullTunnelRouting access).run net.handle s = (.ok true, t) →
      (∃ e ∈ s.since t, e.request = .showIpRoute ∧ e.json? = some table) →
      ∃ selected, s.selectedInterfaceByHost access.ip = some selected ∧ RoutesAllVia table selected := by
  intro hclaim
  let start : Session := ⟨fun _ => some "Wireguard0", fun _ => none, [], []⟩
  have hmentions : MentionsHalves onlyLowHalf "Wireguard0" := ⟨_, rfl, by decide, by decide, by decide⟩
  have hrun : (verifyFullTunnelRouting ⟨"192.168.1.1", false⟩).run (shownTable onlyLowHalf).handle start
      = _ := run_shownTable rfl rfl hmentions
  obtain ⟨selected, hselected, -, route, hroute, hhalf⟩ := hclaim _ _ start _ onlyLowHalf hrun
    ⟨_, List.mem_singleton_self _, rfl, rfl⟩
  obtain rfl := List.mem_singleton.mp hroute
  rcases hhalf.2 with hdestination | ⟨hdestination, -⟩
  · exact absurd hdestination (by decide)
  · exact absurd hdestination (by decide)

end Keenetic
