import Mathlib.Algebra.Order.Monoid.Defs
import Mathlib.Data.List.Basic

/-!
# Starts that keep a distance

A list of starts in order, and marks that several parties keep of their own. When every start is behind
some mark, and every mark is a gap behind now, another start may follow.
-/

namespace Remote

variable {α : Type*} [AddCommMonoid α] [PartialOrder α] [IsOrderedAddMonoid α] {gap now : α}
  {starts marks : List α}

/-- Each start comes a gap after every earlier one. -/
def Spaced (gap : α) (starts : List α) : Prop := starts.Pairwise fun a b => a + gap ≤ b

/-- Every start is behind a mark. -/
def Covered (starts marks : List α) : Prop := ∀ a ∈ starts, ∃ mark ∈ marks, a ≤ mark

omit [AddCommMonoid α] [IsOrderedAddMonoid α] in
theorem covered_of_now (hpast : ∀ a ∈ starts, a ≤ now) (hnow : now ∈ marks) : Covered starts marks :=
  fun a ha => ⟨now, hnow, hpast a ha⟩

theorem Covered.add_gap_le (h : Covered starts marks) (hmarks : ∀ mark ∈ marks, mark + gap ≤ now) :
    ∀ a ∈ starts, a + gap ≤ now := by
  intro a ha
  obtain ⟨mark, hmark, hle⟩ := h a ha
  calc a + gap ≤ mark + gap := by gcongr
    _ ≤ now := hmarks mark hmark

omit [IsOrderedAddMonoid α] in
theorem Spaced.append_now (h : Spaced gap starts) (hgap : ∀ a ∈ starts, a + gap ≤ now) :
    Spaced gap (starts ++ [now]) := by
  refine List.pairwise_append.mpr ⟨h, List.pairwise_singleton _ _, ?_⟩
  intro a ha b hb
  rw [List.mem_singleton] at hb
  rw [hb]
  exact hgap a ha

end Remote
