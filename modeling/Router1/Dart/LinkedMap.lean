import Mathlib.Data.List.Nodup

/-!
# Maps that keep the order of insertion

A map is the list of its entries. Assigning to a key that is there replaces the value where it stands, and
a new key comes last, so a map never holds a key twice and its entries, assigned one after the other, give
the map again.
-/

namespace Dart

variable {κ α : Type} [DecidableEq κ]

/-- `map[key] = value`. -/
def put (key : κ) (value : α) : List (κ × α) → List (κ × α)
  | [] => [(key, value)]
  | entry :: entries =>
      if entry.1 = key then (key, value) :: entries else entry :: put key value entries

/-- A map made by assigning the entries one after the other. -/
def ofEntries (entries : List (κ × α)) : List (κ × α) :=
  entries.foldl (fun result entry => put entry.1 entry.2 result) []

def keys (entries : List (κ × α)) : List κ := entries.map Prod.fst

omit [DecidableEq κ] in
@[simp]
theorem keys_nil : keys ([] : List (κ × α)) = [] := rfl

omit [DecidableEq κ] in
@[simp]
theorem keys_cons (entry : κ × α) (entries : List (κ × α)) :
    keys (entry :: entries) = entry.1 :: keys entries := rfl

omit [DecidableEq κ] in
@[simp]
theorem keys_append (first second : List (κ × α)) :
    keys (first ++ second) = keys first ++ keys second := List.map_append

theorem put_of_notMem {key : κ} {value : α} {entries : List (κ × α)} (h : key ∉ keys entries) :
    put key value entries = entries ++ [(key, value)] := by
  induction entries with
  | nil => rfl
  | cons entry entries ih =>
      rw [keys_cons, List.mem_cons, not_or] at h
      rw [put, if_neg (Ne.symm h.1), ih h.2, List.cons_append]

theorem foldl_put {entries result : List (κ × α)} (h : (keys (result ++ entries)).Nodup) :
    entries.foldl (fun result entry => put entry.1 entry.2 result) result = result ++ entries := by
  induction entries generalizing result with
  | nil => rw [List.foldl_nil, List.append_nil]
  | cons entry entries ih =>
      have hfresh : entry.1 ∉ keys result := by
        rw [keys_append, List.nodup_append] at h
        intro hmem
        exact h.2.2 _ hmem _ List.mem_cons_self rfl
      rw [List.append_cons] at h
      rw [List.foldl_cons, put_of_notMem hfresh, ih h, List.append_assoc, List.singleton_append]

theorem ofEntries_of_nodup {entries : List (κ × α)} (h : (keys entries).Nodup) :
    ofEntries entries = entries := foldl_put h

theorem mem_keys_put {key other : κ} {value : α} {entries : List (κ × α)} :
    other ∈ keys (put key value entries) ↔ other = key ∨ other ∈ keys entries := by
  induction entries with
  | nil => simp [put]
  | cons entry entries ih =>
      rw [put]
      split
      · next h => simp [h]
      · rw [keys_cons, keys_cons, List.mem_cons, List.mem_cons, ih]
        exact or_left_comm

theorem mem_put {key : κ} {value : α} {entry : κ × α} {entries : List (κ × α)} (h : entry ∈ put key value entries) :
    entry = (key, value) ∨ entry ∈ entries := by
  induction entries with
  | nil => exact .inl (List.mem_singleton.mp h)
  | cons first entries ih =>
      rw [put] at h
      split at h
      · rcases List.mem_cons.mp h with rfl | hrest
        · exact .inl rfl
        · exact .inr (List.mem_cons_of_mem first hrest)
      · rcases List.mem_cons.mp h with rfl | hrest
        · exact .inr List.mem_cons_self
        · exact (ih hrest).imp_right (List.mem_cons_of_mem first)

theorem nodup_keys_put {key : κ} {value : α} {entries : List (κ × α)} (h : (keys entries).Nodup) :
    (keys (put key value entries)).Nodup := by
  induction entries with
  | nil => exact List.nodup_singleton key
  | cons entry entries ih =>
      rw [keys_cons, List.nodup_cons] at h
      rw [put]
      split
      · next hkey =>
          rw [keys_cons, List.nodup_cons, ← hkey]
          exact h
      · next hkey =>
          rw [keys_cons, List.nodup_cons, mem_keys_put, not_or]
          exact ⟨⟨hkey, h.1⟩, ih h.2⟩

theorem nodup_keys_ofEntries (entries : List (κ × α)) : (keys (ofEntries entries)).Nodup := by
  have hfold : ∀ result : List (κ × α), (keys result).Nodup →
      (keys (entries.foldl (fun result entry => put entry.1 entry.2 result) result)).Nodup := by
    induction entries with
    | nil => exact fun result h => h
    | cons entry entries ih => exact fun result h => ih _ (nodup_keys_put h)
  exact hfold [] List.nodup_nil

omit [DecidableEq κ] in
/-- What a map holds under a key is the value of the entry with that key. -/
theorem lookup_eq_some_iff_mem [BEq κ] [LawfulBEq κ] {entries : List (κ × α)} {key : κ} {value : α}
    (h : (keys entries).Nodup) : entries.lookup key = some value ↔ (key, value) ∈ entries := by
  induction entries with
  | nil => simp
  | cons entry entries ih =>
      obtain ⟨first, old⟩ := entry
      rw [keys_cons, List.nodup_cons] at h
      rw [List.lookup_cons, List.mem_cons, Prod.mk.injEq]
      by_cases hkey : key = first
      · subst hkey
        rw [beq_self_eq_true, Option.some.injEq, @eq_comm _ old]
        refine ⟨fun hvalue => .inl ⟨rfl, hvalue⟩, ?_⟩
        rintro (⟨-, hvalue⟩ | hmem)
        · exact hvalue
        · exact absurd (List.mem_map_of_mem hmem) h.1
      · rw [beq_eq_false_iff_ne.mpr hkey, ih h.2]
        simp [hkey]

end Dart
