import Mathlib.Data.List.Basic
import Mathlib.Logic.Function.Basic

/-!
# Loops that may throw

A loop over a list whose body changes a state or throws. What the body keeps, the loop keeps.
-/

namespace Java

variable {ε α β σ : Type} {step : σ → α → Except ε σ} {s t u : σ}

theorem bind_eq_ok {x : Except ε α} {next : α → Except ε β} {result : β} :
    (x >>= next) = .ok result ↔ ∃ value, x = .ok value ∧ next value = .ok result := by
  cases x with
  | error e =>
      constructor
      · intro h
        cases h
      · rintro ⟨value, h, -⟩
        cases h
  | ok value =>
      constructor
      · intro h
        exact ⟨value, rfl, h⟩
      · rintro ⟨other, h, hnext⟩
        cases h
        exact hnext

theorem foldlM_cons_ok {x : α} {xs : List α} (h : step s x = .ok t) :
    (x :: xs).foldlM step s = xs.foldlM step t := by
  rw [List.foldlM_cons, h]
  rfl

theorem foldlM_append_ok {xs ys : List α} (h : xs.foldlM step s = .ok t) :
    (xs ++ ys).foldlM step s = ys.foldlM step t := by
  rw [List.foldlM_append, h]
  rfl

theorem foldlM_option {value : Option β} {item : β → α} (hnone : value = none → s = t)
    (hsome : ∀ v, value = some v → step s (item v) = .ok t) :
    (value.toList.map item).foldlM step s = .ok t := by
  cases value with
  | none =>
      rw [hnone rfl]
      rfl
  | some v =>
      rw [Option.toList_some, List.map_singleton, foldlM_cons_ok (hsome v rfl)]
      rfl

/-- A turn of the loop for an item that is left out under a condition. -/
theorem foldlM_unless {skipped : Bool} {item : α} (hskipped : skipped = true → s = t)
    (hitem : skipped = false → step s item = .ok t) :
    (if skipped then [] else [item]).foldlM step s = .ok t := by
  cases skipped with
  | true =>
      rw [hskipped rfl]
      rfl
  | false =>
      rw [if_neg Bool.false_ne_true, foldlM_cons_ok (hitem rfl)]
      rfl

/-- **The invariant of a loop.** -/
theorem foldlM_keeps (inv : σ → Prop) {xs : List α}
    (hstep : ∀ s x t, x ∈ xs → inv s → step s x = .ok t → inv t) (hs : inv s)
    (h : xs.foldlM step s = .ok t) : inv t := by
  induction xs generalizing s with
  | nil =>
      cases h
      exact hs
  | cons x xs ih =>
      rw [List.foldlM_cons, bind_eq_ok] at h
      obtain ⟨u, hu, h⟩ := h
      have hkept := hstep s x u List.mem_cons_self hs hu
      exact ih (fun s y t hy => hstep s y t (List.mem_cons_of_mem x hy)) hkept h

theorem ite_mem_update {ι : Type} [DecidableEq ι] {β : ι → Type} (f g : (i : ι) → β i) {i : ι} {is : List ι} :
    (fun j => if j ∈ is then f j else Function.update g i (f i) j) =
      fun j => if j ∈ i :: is then f j else g j := by
  funext j
  by_cases hj : j = i
  · subst hj
    simp
  · simp [hj]

end Java
