import Mathlib.Data.List.Basic

/-!
# Items in groups

A list in which some items are heads is what stands before the first head, and for each head the items up to the
next one.
-/

namespace Text

variable {α : Type} {isHead : α → Bool}

/-- What stands before the first head, and the heads with what follows them. -/
def group (isHead : α → Bool) : List α → List α × List (α × List α)
  | [] => ([], [])
  | x :: xs =>
      if isHead x then ([], (x, (group isHead xs).1) :: (group isHead xs).2)
      else (x :: (group isHead xs).1, (group isHead xs).2)

/-- Groups written one after the other. -/
def ungroup (groups : List (α × List α)) : List α := groups.flatMap fun g => g.1 :: g.2

theorem group_append_of_neg {front xs : List α} (h : ∀ x ∈ front, isHead x = false) :
    group isHead (front ++ xs) = (front ++ (group isHead xs).1, (group isHead xs).2) := by
  induction front with
  | nil => rfl
  | cons x front ih =>
      obtain ⟨hx, hfront⟩ := List.forall_mem_cons.mp h
      rw [List.cons_append, group, ih hfront, hx, if_neg Bool.false_ne_true, List.cons_append]

theorem group_cons_of_pos {x : α} {xs : List α} (h : isHead x = true) :
    group isHead (x :: xs) = ([], (x, (group isHead xs).1) :: (group isHead xs).2) := by
  rw [group, h, if_pos rfl]

/-- **Grouping finds the groups.** -/
theorem group_ungroup {groups : List (α × List α)}
    (h : ∀ g ∈ groups, isHead g.1 = true ∧ ∀ x ∈ g.2, isHead x = false) :
    group isHead (ungroup groups) = ([], groups) := by
  induction groups with
  | nil => rfl
  | cons g groups ih =>
      obtain ⟨⟨hhead, htail⟩, hgroups⟩ := List.forall_mem_cons.mp h
      have hcons : ungroup (g :: groups) = g.1 :: (g.2 ++ ungroup groups) := by
        rw [ungroup, List.flatMap_cons, List.cons_append]
        rfl
      rw [hcons, group_cons_of_pos hhead, group_append_of_neg htail, ih hgroups, List.append_nil]

/-- A loop that works on one group at a time: a head closes the group before it and begins another one. -/
def groupLoop {σ τ : Type} (isHead : α → Bool) (begins : α → σ) (continues : σ → α → σ) (closes : τ → σ → τ)
    (s : σ × τ) (x : α) : σ × τ :=
  if isHead x then (begins x, closes s.2 s.1) else (continues s.1 x, s.2)

/-- **The loop closes the groups one after the other.** -/
theorem foldl_groupLoop {σ τ : Type} (isHead : α → Bool) (begins : α → σ) (continues : σ → α → σ) (closes : τ → σ → τ)
    (xs : List α) (current : σ) (closed : τ) :
    closes (xs.foldl (groupLoop isHead begins continues closes) (current, closed)).2
        (xs.foldl (groupLoop isHead begins continues closes) (current, closed)).1 =
      (group isHead xs).2.foldl (fun closed g => closes closed (g.2.foldl continues (begins g.1)))
        (closes closed ((group isHead xs).1.foldl continues current)) := by
  induction xs generalizing current closed with
  | nil => rfl
  | cons x xs ih =>
      rw [List.foldl_cons]
      cases hx : isHead x with
      | true =>
          have hstep : groupLoop isHead begins continues closes (current, closed) x =
              (begins x, closes closed current) := if_pos hx
          rw [hstep, ih, group_cons_of_pos hx]
          rfl
      | false =>
          have hstep : groupLoop isHead begins continues closes (current, closed) x =
              (continues current x, closed) := if_neg (by rw [hx]; exact Bool.false_ne_true)
          rw [hstep, ih, group, hx, if_neg Bool.false_ne_true]
          rfl

end Text
