import Mathlib.Data.Finset.Card

/-!
# Passes over a list

Two loops that go through a list once. The first keeps the best element it has seen, where an element is
good or not and a good one is not given up; it ends with the first good element, or with the first one if
none is good. The second adds elements to a list, each unless its key is there already, and stops after so
many new ones; it adds no key twice, and if there are few enough keys it leaves none out.
-/

namespace Remote

variable {α κ : Type*}

/-! ### The first good element, or the first -/

section Preferred

variable (good : α → Bool) {as : List α} {a : α}

def preferred (as : List α) : Option α := (as.find? good).or as.head?

/-- The element kept so far, whether it is good, and the next one. -/
def keep (kept : Option α × Bool) (a : α) : Option α × Bool :=
  if kept.1.isNone || (good a && !kept.2) then (some a, good a) else kept

theorem foldl_keep_some (a : α) (as : List α) :
    as.foldl (keep good) (some a, good a) =
      (if good a then some a else (as.find? good).or (some a), good a || as.any good) := by
  induction as generalizing a with
  | nil => simp
  | cons b as ih =>
      rw [List.foldl_cons, keep]
      cases ha : good a with
      | true =>
          have hkept := ih a
          rw [ha] at hkept
          simpa using hkept
      | false =>
          cases hb : good b with
          | true =>
              have hnext := ih b
              rw [hb] at hnext
              simpa [hb] using hnext
          | false =>
              have hkept := ih a
              rw [ha] at hkept
              simpa [hb] using hkept

/-- **The pass.** -/
theorem foldl_keep (as : List α) :
    as.foldl (keep good) (none, false) = (preferred good as, as.any good) := by
  cases as with
  | nil => rfl
  | cons a as =>
      have hfirst : keep good (none, false) a = (some a, good a) := rfl
      rw [List.foldl_cons, hfirst, foldl_keep_some, preferred]
      cases ha : good a with
      | true => simp [ha]
      | false => simp [ha]

variable {good}

theorem preferred_eq_none_iff : preferred good as = none ↔ as = [] := by
  rw [preferred, Option.or_eq_none_iff, List.head?_eq_none_iff]
  constructor
  · exact fun h => h.2
  · rintro rfl
    exact ⟨rfl, rfl⟩

theorem mem_of_preferred (h : preferred good as = some a) : a ∈ as := by
  rw [preferred, Option.or_eq_some_iff] at h
  rcases h with hgood | ⟨-, hfirst⟩
  · exact List.mem_of_find?_eq_some hgood
  · exact List.mem_of_mem_head? hfirst

theorem good_of_preferred (h : preferred good as = some a) : good a = as.any good := by
  rw [preferred, Option.or_eq_some_iff] at h
  rcases h with hgood | ⟨hnone, hfirst⟩
  · have ha := List.find?_some hgood
    rw [ha, eq_comm, List.any_eq_true]
    exact ⟨a, List.mem_of_find?_eq_some hgood, ha⟩
  · rw [List.find?_eq_none] at hnone
    have hmem : a ∈ as := List.mem_of_mem_head? hfirst
    have ha : good a = false := Bool.eq_false_iff.mpr (hnone a hmem)
    rw [ha, eq_comm, List.any_eq_false]
    exact hnone

end Preferred

/-! ### New elements, up to so many -/

section Fresh

variable [DecidableEq κ] (key : α → κ)

/-- The elements that are added to `as`. -/
def fresh : Nat → List α → List α → List α
  | 0, _, _ => []
  | _ + 1, _, [] => []
  | n + 1, as, b :: bs =>
      if key b ∈ as.map key then fresh (n + 1) as bs else b :: fresh n (as ++ [b]) bs

theorem fresh_nil (n : Nat) (as : List α) : fresh key n as [] = [] := by
  cases n <;> rfl

theorem fresh_sublist (n : Nat) (as bs : List α) : (fresh key n as bs).Sublist bs := by
  induction bs generalizing n as with
  | nil =>
      rw [fresh_nil]
  | cons b bs ih =>
      cases n with
      | zero => exact List.nil_sublist _
      | succ n =>
          rw [fresh]
          split
          · exact (ih (n + 1) as).cons b
          · exact (ih n (as ++ [b])).cons_cons b

theorem length_fresh_le (n : Nat) (as bs : List α) : (fresh key n as bs).length ≤ n := by
  induction bs generalizing n as with
  | nil =>
      rw [fresh_nil]
      exact Nat.zero_le n
  | cons b bs ih =>
      cases n with
      | zero => exact Nat.le_refl 0
      | succ n =>
          rw [fresh]
          split
          · exact ih (n + 1) as
          · exact Nat.succ_le_succ (ih n (as ++ [b]))

omit [DecidableEq κ] in
theorem nodup_concat {as : List α} {b : α} (has : (as.map key).Nodup) (hnew : key b ∉ as.map key) :
    ((as ++ [b]).map key).Nodup := by
  rw [List.map_append, List.nodup_append]
  refine ⟨has, List.nodup_singleton _, ?_⟩
  intro k hk k' hk' heq
  rw [List.map_singleton, List.mem_singleton] at hk'
  exact hnew (hk' ▸ heq ▸ hk)

theorem nodup_fresh (n : Nat) {as : List α} (has : (as.map key).Nodup) (bs : List α) :
    ((as ++ fresh key n as bs).map key).Nodup := by
  induction bs generalizing n as with
  | nil => rwa [fresh_nil, List.append_nil]
  | cons b bs ih =>
      cases n with
      | zero => rwa [fresh, List.append_nil]
      | succ n =>
          rw [fresh]
          split
          · exact ih (n + 1) has
          · next hnew =>
              have hrest := ih n (nodup_concat key has hnew)
              rwa [List.append_assoc, List.singleton_append] at hrest

theorem key_mem_of_full {as bs : List α} (has : (as.map key).Nodup)
    (hfew : ((as ++ bs).map key).toFinset.card ≤ as.length) : ∀ b ∈ bs, key b ∈ as.map key := by
  have hsubset : (as.map key).toFinset ⊆ ((as ++ bs).map key).toFinset := by
    intro k hk
    rw [List.mem_toFinset] at hk ⊢
    rw [List.map_append]
    exact List.mem_append_left _ hk
  have hcard : (as.map key).toFinset.card = as.length := by
    rw [List.toFinset_card_of_nodup has, List.length_map]
  have hall := Finset.eq_of_subset_of_card_le hsubset (hfew.trans_eq hcard.symm)
  intro b hb
  rw [← List.mem_toFinset, hall, List.mem_toFinset]
  exact List.mem_map_of_mem (List.mem_append_right as hb)

theorem key_mem_fresh {n : Nat} {as bs : List α} (has : (as.map key).Nodup)
    (hfew : ((as ++ bs).map key).toFinset.card ≤ as.length + n) :
    ∀ b ∈ bs, key b ∈ (as ++ fresh key n as bs).map key := by
  induction bs generalizing n as with
  | nil => nofun
  | cons b bs ih =>
      cases n with
      | zero =>
          rw [fresh, List.append_nil]
          exact key_mem_of_full key has hfew
      | succ n =>
          rw [fresh]
          split
          · next hold =>
              have hrest : ((as ++ bs).map key).toFinset.card ≤ as.length + (n + 1) := by
                refine le_trans (Finset.card_le_card ?_) hfew
                intro k hk
                simp only [List.mem_toFinset, List.mem_map, List.mem_append, List.mem_cons] at hk ⊢
                obtain ⟨a, ha | ha, rfl⟩ := hk
                · exact ⟨a, .inl ha, rfl⟩
                · exact ⟨a, .inr (.inr ha), rfl⟩
              intro c hc
              rcases List.mem_cons.mp hc with rfl | hc
              · rw [List.map_append]
                exact List.mem_append_left _ hold
              · exact ih has hrest c hc
          · next hnew =>
              have hlist : as ++ b :: fresh key n (as ++ [b]) bs =
                  (as ++ [b]) ++ fresh key n (as ++ [b]) bs := by
                rw [List.append_assoc, List.singleton_append]
              have hrest : (((as ++ [b]) ++ bs).map key).toFinset.card ≤ (as ++ [b]).length + n := by
                rw [List.append_assoc, List.singleton_append, List.length_append, List.length_singleton]
                omega
              rw [hlist]
              intro c hc
              rcases List.mem_cons.mp hc with rfl | hc
              · simp
              · exact ih (nodup_concat key has hnew) hrest c hc

end Fresh

end Remote
