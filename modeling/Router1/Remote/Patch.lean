import Mathlib.Data.Set.Basic

/-!
# Sequences of patches

A patch of a set drops some elements and then adds some. Applied one after the other from the empty
set, patches leave behind everything that was added and not dropped since. The last patch alone
decides the outcome exactly when every element an earlier patch adds is dropped again by a later one,
or is added by the last one anyway.
-/

namespace Remote

structure Patch (α : Type*) where
  drops : Set α
  adds : Set α

namespace Patch

variable {α : Type*}

def apply (p : Patch α) (S : Set α) : Set α := (S \ p.drops) ∪ p.adds

def applyAll (ps : List (Patch α)) (S : Set α) : Set α := ps.foldl (fun S p => p.apply S) S

theorem applyAll_append (ps ps' : List (Patch α)) (S : Set α) :
    applyAll (ps ++ ps') S = applyAll ps' (applyAll ps S) := List.foldl_append

theorem mem_apply {p : Patch α} {S : Set α} {x : α} :
    x ∈ p.apply S ↔ (x ∈ S ∧ x ∉ p.drops) ∨ x ∈ p.adds := Iff.rfl

/-- What is left of a sequence was there from the start or added by one of the patches, and not
dropped by any patch after that. -/
theorem mem_applyAll_iff (ps : List (Patch α)) (S : Set α) (x : α) :
    x ∈ applyAll ps S ↔
      (x ∈ S ∧ ∀ p ∈ ps, x ∉ p.drops) ∨
        ∃ pre p post, ps = pre ++ p :: post ∧ x ∈ p.adds ∧ ∀ q ∈ post, x ∉ q.drops := by
  induction ps generalizing S with
  | nil => simp [applyAll]
  | cons p ps ih =>
      have hstep : applyAll (p :: ps) S = applyAll ps (p.apply S) := rfl
      rw [hstep, ih, mem_apply]
      constructor
      · rintro (⟨⟨hS, hp⟩ | hadds, hps⟩ | ⟨pre, q, post, rfl, hadds, hpost⟩)
        · left
          refine ⟨hS, fun q hq => ?_⟩
          rcases List.mem_cons.mp hq with rfl | hq
          · exact hp
          · exact hps q hq
        · exact .inr ⟨[], p, ps, rfl, hadds, hps⟩
        · exact .inr ⟨p :: pre, q, post, rfl, hadds, hpost⟩
      · rintro (⟨hS, hps⟩ | ⟨pre, q, post, hsplit, hadds, hpost⟩)
        · exact .inl ⟨.inl ⟨hS, hps p List.mem_cons_self⟩,
            fun q hq => hps q (List.mem_cons_of_mem p hq)⟩
        · cases pre with
          | nil =>
              obtain ⟨rfl, rfl⟩ := List.cons.inj hsplit
              exact .inl ⟨.inr hadds, hpost⟩
          | cons r pre =>
              obtain ⟨rfl, rfl⟩ := List.cons.inj hsplit
              exact .inr ⟨pre, q, post, rfl, hadds, hpost⟩

/-- **The last patch decides** if and only if nothing that an earlier patch adds outlives the later
ones, unless the last one adds it too. -/
theorem applyAll_append_singleton_eq_iff (ps : List (Patch α)) (last : Patch α) :
    applyAll (ps ++ [last]) ∅ = applyAll [last] ∅ ↔
      ∀ pre p post, ps = pre ++ p :: post → ∀ x ∈ p.adds,
        (∃ q ∈ post ++ [last], x ∈ q.drops) ∨ x ∈ last.adds := by
  have halone : applyAll [last] ∅ = last.adds := by
    ext x
    show x ∈ last.apply ∅ ↔ x ∈ last.adds
    simp [mem_apply]
  have hboth : ∀ x, x ∈ applyAll (ps ++ [last]) ∅ ↔ (x ∈ applyAll ps ∅ ∧ x ∉ last.drops) ∨
      x ∈ last.adds := by
    intro x
    rw [applyAll_append]
    exact mem_apply
  rw [halone, Set.ext_iff]
  constructor
  · intro h pre p post hsplit x hx
    by_cases hlast : x ∈ last.adds
    · exact .inr hlast
    · left
      by_contra hkept
      push Not at hkept
      apply hlast
      rw [← h x, hboth]
      refine .inl ⟨(mem_applyAll_iff ps ∅ x).mpr (.inr ⟨pre, p, post, hsplit, hx, ?_⟩), ?_⟩
      · exact fun q hq => hkept q (List.mem_append_left _ hq)
      · exact hkept last (by simp)
  · intro h x
    rw [hboth]
    refine ⟨?_, .inr⟩
    rintro (⟨hold, hdrops⟩ | hlast)
    · rcases (mem_applyAll_iff ps ∅ x).mp hold with ⟨hempty, -⟩ | ⟨pre, p, post, hsplit, hx, hpost⟩
      · exact hempty.elim
      · rcases h pre p post hsplit x hx with ⟨q, hq, hqx⟩ | hlast
        · rcases List.mem_append.mp hq with hq | hq
          · exact absurd hqx (hpost q hq)
          · rw [List.mem_singleton.mp hq] at hqx
            exact absurd hqx hdrops
        · exact hlast
    · exact hlast

end Patch

end Remote
