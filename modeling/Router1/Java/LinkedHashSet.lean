import Mathlib.Data.List.Nodup

/-!
# Sets in the order of insertion

A `LinkedHashSet`: no element twice, in the order in which they were added first.
-/

namespace Java

variable {α : Type}

structure LinkedHashSet (α : Type) where
  elements : List α
  nodup : elements.Nodup

namespace LinkedHashSet

theorem ext {s t : LinkedHashSet α} (h : s.elements = t.elements) : s = t := by
  cases s
  cases t
  cases h
  rfl

def empty : LinkedHashSet α := ⟨[], List.nodup_nil⟩

def isEmpty (s : LinkedHashSet α) : Bool := s.elements.isEmpty

theorem eq_empty {s : LinkedHashSet α} (h : s.isEmpty = true) : s = empty :=
  ext (List.isEmpty_iff.mp h)

theorem nodup_add {s : LinkedHashSet α} {x : α} (h : x ∉ s.elements) : (s.elements ++ [x]).Nodup := by
  rw [← List.concat_eq_append]
  exact s.nodup.concat h

variable [DecidableEq α]

def add (s : LinkedHashSet α) (x : α) : LinkedHashSet α :=
  if h : x ∈ s.elements then s else ⟨s.elements ++ [x], nodup_add h⟩

def addAll (s : LinkedHashSet α) (xs : List α) : LinkedHashSet α := xs.foldl add s

theorem mem_add {s : LinkedHashSet α} {x y : α} : y ∈ (s.add x).elements ↔ y ∈ s.elements ∨ y = x := by
  rw [add]
  split
  next h =>
    refine ⟨Or.inl, ?_⟩
    rintro (hy | rfl)
    · exact hy
    · exact h
  next => rw [List.mem_append, List.mem_singleton]

theorem mem_addAll {s : LinkedHashSet α} {xs : List α} {y : α} :
    y ∈ (s.addAll xs).elements ↔ y ∈ s.elements ∨ y ∈ xs := by
  induction xs generalizing s with
  | nil => exact (or_iff_left List.not_mem_nil).symm
  | cons x xs ih =>
      have hstep : s.addAll (x :: xs) = (s.add x).addAll xs := rfl
      rw [hstep, ih, mem_add, List.mem_cons, or_assoc]

/-- Elements that are new and different are kept as they come. -/
theorem elements_addAll {s : LinkedHashSet α} {xs : List α} (h : (s.elements ++ xs).Nodup) :
    (s.addAll xs).elements = s.elements ++ xs := by
  induction xs generalizing s with
  | nil => exact (List.append_nil _).symm
  | cons x xs ih =>
      have hnew : x ∉ s.elements := fun hx => (List.nodup_append.mp h).2.2 x hx x List.mem_cons_self rfl
      have hadd : (s.add x).elements = s.elements ++ [x] := by rw [add, dif_neg hnew]
      have hstep : s.addAll (x :: xs) = (s.add x).addAll xs := rfl
      rw [hstep, ih, hadd, List.append_assoc, List.singleton_append]
      rw [hadd, List.append_assoc, List.singleton_append]
      exact h

theorem addAll_elements (s : LinkedHashSet α) : empty.addAll s.elements = s :=
  ext (elements_addAll (s := empty) s.nodup)

end LinkedHashSet

end Java
