import Mathlib.Data.List.Basic
import Router1.Dart.Lines

/-!
# Fields of a line

A line of fields is a text in which fields are separated by a mark with optional spaces around it. Both the
characters and what counts as a space are parameters. What a reader of such a line needs is that stripping the
spaces commutes with splitting at the marks, and that the fields of a joined line are those that were joined.
-/

namespace Text

open Dart

variable {α : Type} {space : α → Bool} {l before after : List α}

/-! ### Spaces at the ends -/

/-- A text without the spaces at its ends. -/
def strip (space : α → Bool) (l : List α) : List α := (l.dropWhile space).rdropWhile space

/-- No space stands at an end of the text. -/
def Stripped (space : α → Bool) (l : List α) : Prop := strip space l = l

theorem exists_strip (space : α → Bool) (l : List α) :
    ∃ before after, (∀ c ∈ before, space c = true) ∧ (∀ c ∈ after, space c = true) ∧
      l = before ++ (strip space l ++ after) := by
  refine ⟨l.takeWhile space, (l.dropWhile space).rtakeWhile space, ?_, ?_, ?_⟩
  · exact fun c hc => List.mem_takeWhile_imp hc
  · exact fun c hc => List.mem_rtakeWhile_imp hc
  · rw [strip, List.rdropWhile_append_rtakeWhile, List.takeWhile_append_dropWhile]

theorem strip_surrounded (hbefore : ∀ c ∈ before, space c = true) (hafter : ∀ c ∈ after, space c = true) :
    strip space (before ++ (l ++ after)) = strip space l := by
  rw [strip, List.dropWhile_append_of_pos hbefore, strip]
  by_cases hall : ∀ c ∈ l, space c = true
  · rw [List.dropWhile_append_of_pos hall, List.dropWhile_eq_nil_iff.mpr hall,
      List.dropWhile_eq_nil_iff.mpr hafter]
  · rw [List.dropWhile_append, if_neg, rdropWhile_append_of_pos hafter]
    simpa using hall

theorem strip_append (hafter : ∀ c ∈ after, space c = true) : strip space (l ++ after) = strip space l :=
  strip_surrounded (List.forall_mem_nil _) hafter

theorem strip_prepend (hbefore : ∀ c ∈ before, space c = true) :
    strip space (before ++ l) = strip space l := by
  have hsurrounded := strip_surrounded (l := l) hbefore (List.forall_mem_nil (space · = true))
  rwa [List.append_nil] at hsurrounded

theorem stripped_strip (l : List α) : Stripped space (strip space l) := by
  obtain ⟨before, after, hbefore, hafter, hl⟩ := exists_strip space l
  have hsurrounded := strip_surrounded (l := strip space l) hbefore hafter
  rw [← hl] at hsurrounded
  exact hsurrounded.symm

theorem stripped_of_ends {c d : α} (hc : space c = false) (hd : space d = false) (l : List α) :
    Stripped space (c :: (l ++ [d])) := by
  rw [Stripped, strip, List.dropWhile_cons_of_neg (by simp [hc]), ← List.cons_append,
    List.rdropWhile_concat_neg _ _ _ (by simp [hd])]

theorem stripped_of_visible (h : ∀ c ∈ l, space c = false) : Stripped space l := by
  rcases l with _ | ⟨c, l⟩
  · rfl
  obtain rfl | ⟨l, d, rfl⟩ := List.eq_nil_or_concat' l
  · rw [Stripped, strip, List.dropWhile_cons_of_neg (by simp [h])]
    exact List.rdropWhile_concat_neg _ [] _ (by simp [h])
  · exact stripped_of_ends (h c (by simp)) (h d (by simp)) l

theorem strip_congr {space' : α → Bool} (h : ∀ c ∈ l, space c = space' c) : strip space l = strip space' l := by
  have hfirst : ∀ l : List α, (∀ c ∈ l, space c = space' c) → l.dropWhile space = l.dropWhile space' := by
    intro l h
    induction l with
    | nil => rfl
    | cons c l ih =>
        obtain ⟨hc, hl⟩ := List.forall_mem_cons.mp h
        rw [List.dropWhile_cons, List.dropWhile_cons, hc, ih hl]
  have hsub : ∀ c ∈ (l.dropWhile space').reverse, space c = space' c :=
    fun c hc => h c ((List.dropWhile_suffix _).mem (List.mem_reverse.mp hc))
  rw [strip, strip, hfirst l h, List.rdropWhile, List.rdropWhile, hfirst _ hsub]

theorem strip_rdropWhile (l : List α) : strip space (l.rdropWhile space) = strip space l := by
  have hend : strip space (l.rdropWhile space ++ l.rtakeWhile space) = strip space (l.rdropWhile space) :=
    strip_append fun c hc => List.mem_rtakeWhile_imp hc
  rw [List.rdropWhile_append_rtakeWhile] at hend
  exact hend.symm

theorem mem_of_mem_strip {c : α} (h : c ∈ strip space l) : c ∈ l := by
  obtain ⟨before, after, -, -, hl⟩ := exists_strip space l
  rw [hl]
  exact List.mem_append_right _ (List.mem_append_left _ h)

theorem mem_strip_iff {c : α} (hc : space c = false) : c ∈ strip space l ↔ c ∈ l := by
  refine ⟨mem_of_mem_strip, fun h => ?_⟩
  obtain ⟨before, after, hbefore, hafter, hl⟩ := exists_strip space l
  rw [hl, List.mem_append, List.mem_append] at h
  rcases h with h | h | h
  · rw [hbefore c h] at hc
    cases hc
  · exact h
  · rw [hafter c h] at hc
    cases hc

theorem strip_append_cons {c : α} (hc : space c = false) (x y : List α) :
    strip space (x ++ c :: y) = x.dropWhile space ++ c :: y.rdropWhile space := by
  have hfirst : (x ++ c :: y).dropWhile space = x.dropWhile space ++ c :: y := by
    rw [List.dropWhile_append]
    split
    next h =>
      rw [List.isEmpty_iff.mp h, List.dropWhile_cons_of_neg (by simp [hc])]
      rfl
    next => rfl
  rw [strip, hfirst, rdropWhile_append_cons _ _ hc]

theorem ends_of_stripped {c : α} (hc : space c = false) {x y : List α} (h : Stripped space (x ++ c :: y)) :
    x.dropWhile space = x ∧ y.rdropWhile space = y := by
  rw [Stripped, strip_append_cons hc] at h
  have hx := (List.dropWhile_suffix space (l := x)).length_le
  have hy := (List.rdropWhile_prefix space y).length_le
  have hlength := congrArg List.length h
  simp only [List.length_append, List.length_cons] at hlength
  exact ⟨(List.dropWhile_suffix space).eq_of_length (by omega),
    (List.rdropWhile_prefix space y).eq_of_length (by omega)⟩

/-! ### Fields between marks -/

/-- The pieces after the first mark, without the spaces beside the marks. -/
def trimRest (space : α → Bool) : List (List α) → List (List α)
  | [] => []
  | [last] => [last.dropWhile space]
  | piece :: rest => strip space piece :: trimRest space rest

theorem trimRest_cons {piece : List α} {rest : List (List α)} (h : rest ≠ []) :
    trimRest space (piece :: rest) = strip space piece :: trimRest space rest := by
  rcases rest with _ | ⟨next, rest⟩
  · exact absurd rfl h
  · rfl

theorem dropWhile_eq_strip (h : l.rdropWhile space = l) : l.dropWhile space = strip space l := by
  rw [strip, eq_comm, List.rdropWhile_eq_self_iff]
  intro hne
  have hlast := List.rdropWhile_eq_self_iff.mp h (fun hnil => hne (by rw [hnil]; rfl))
  rwa [(List.dropWhile_suffix space).getLast hne]

/-- Pieces put together again. -/
def joinFields (mark sp : α) (pieces : List (List α)) : List α := List.intercalate [mark, sp] pieces

theorem joinFields_cons {mark sp : α} (x y : List α) (rest : List (List α)) :
    joinFields mark sp (x :: y :: rest) = x ++ mark :: sp :: joinFields mark sp (y :: rest) := by
  rw [joinFields, List.intercalate_cons_cons, joinFields]
  simp

theorem mem_joinFields_iff {mark sp : α} {pieces : List (List α)} (hpieces : ∀ x ∈ pieces, mark ∉ x) :
    mark ∈ joinFields mark sp pieces ↔ 2 ≤ pieces.length := by
  rcases pieces with _ | ⟨x, _ | ⟨y, rest⟩⟩
  · simp [joinFields]
  · simp [joinFields, hpieces x (by simp)]
  · rw [joinFields_cons]
    simp

section Fields

variable [DecidableEq α] {mark sp : α}

/-- Every text is free of the mark, or continues after its first mark. -/
@[elab_as_elim]
theorem markInduction {motive : List α → Prop} (mark : α) (hnone : ∀ l, mark ∉ l → motive l)
    (hmark : ∀ x y, mark ∉ x → motive y → motive (x ++ mark :: y)) (l : List α) : motive l := by
  induction hlength : l.length using Nat.strong_induction_on generalizing l with
  | _ n ih =>
      by_cases h : mark ∈ l
      · obtain ⟨x, y, rfl, hx⟩ := List.eq_append_cons_of_mem h
        exact hmark x y hx (ih y.length (by rw [← hlength]; simp; omega) y rfl)
      · exact hnone l h

/-- The pieces between marks, when a mark takes the spaces beside it with it. -/
def fields (space : α → Bool) (mark : α) (l : List α) : List (List α) :=
  match l.splitOn mark with
  | first :: next :: rest => first.rdropWhile space :: trimRest space (next :: rest)
  | single => single

/-- The pieces up to the last that is not empty. -/
def splitFields (space : α → Bool) (mark : α) (l : List α) : List (List α) :=
  if mark ∈ l then (fields space mark l).rdropWhile List.isEmpty else [l]

theorem trimRest_splitOn (hmark : space mark = false) (h : l.rdropWhile space = l) :
    trimRest space (l.splitOn mark) = (l.splitOn mark).map (strip space) := by
  induction l using markInduction mark with
  | hnone l hl =>
      rw [List.splitOn_eq_singleton hl, trimRest, dropWhile_eq_strip h]
      rfl
  | hmark x y hx ih =>
      rw [rdropWhile_append_cons x y hmark, List.append_cancel_left_eq, List.cons.injEq] at h
      rw [List.splitOn_append_cons_self_of_not_mem hx, trimRest_cons (List.splitOn_ne_nil _ _), ih h.2]
      rfl

theorem fields_cons {x y : List α} (hx : mark ∉ x) :
    fields space mark (x ++ mark :: y) = x.rdropWhile space :: trimRest space (y.splitOn mark) := by
  rw [fields, List.splitOn_append_cons_self_of_not_mem hx]
  have hne := List.splitOn_ne_nil mark y
  revert hne
  generalize y.splitOn mark = pieces
  intro hne
  rcases pieces with _ | ⟨next, rest⟩
  · exact absurd rfl hne
  · rfl

theorem fields_of_stripped (hmark : space mark = false) (h : Stripped space l) :
    fields space mark l = (l.splitOn mark).map (strip space) := by
  by_cases hl : mark ∈ l
  · obtain ⟨x, y, rfl, hx⟩ := List.eq_append_cons_of_mem hl
    obtain ⟨hfirst, hlast⟩ := ends_of_stripped hmark h
    rw [fields_cons hx, List.splitOn_append_cons_self_of_not_mem hx, trimRest_splitOn hmark hlast, List.map_cons,
      strip, hfirst]
  · rw [fields, List.splitOn_eq_singleton hl]
    exact congrArg (fun piece => [piece]) h.symm

theorem map_strip_splitOn_append (hmark : space mark = false) (hafter : ∀ c ∈ after, space c = true)
    (l : List α) : ((l ++ after).splitOn mark).map (strip space) = (l.splitOn mark).map (strip space) := by
  have hfree : mark ∉ after := by
    intro h
    rw [hafter mark h] at hmark
    cases hmark
  induction l using markInduction mark with
  | hnone l hl =>
      rw [List.splitOn_eq_singleton hl, List.splitOn_eq_singleton (by simp [hl, hfree]), List.map_singleton,
        strip_append hafter]
      rfl
  | hmark x y hx ih =>
      rw [List.append_assoc, List.cons_append, List.splitOn_append_cons_self_of_not_mem hx,
        List.splitOn_append_cons_self_of_not_mem hx, List.map_cons, ih]
      rfl

theorem map_strip_splitOn_prepend (hmark : space mark = false) (hbefore : ∀ c ∈ before, space c = true)
    (l : List α) : ((before ++ l).splitOn mark).map (strip space) = (l.splitOn mark).map (strip space) := by
  have hfree : mark ∉ before := by
    intro h
    rw [hbefore mark h] at hmark
    cases hmark
  by_cases hl : mark ∈ l
  · obtain ⟨x, y, rfl, hx⟩ := List.eq_append_cons_of_mem hl
    rw [← List.append_assoc, List.splitOn_append_cons_self_of_not_mem hx,
      List.splitOn_append_cons_self_of_not_mem (by simp [hx, hfree]), List.map_cons, strip_prepend hbefore]
    rfl
  · rw [List.splitOn_eq_singleton hl, List.splitOn_eq_singleton (by simp [hl, hfree]), List.map_singleton,
      strip_prepend hbefore]
    rfl

theorem map_strip_splitOn_strip (hmark : space mark = false) (l : List α) :
    ((strip space l).splitOn mark).map (strip space) = (l.splitOn mark).map (strip space) := by
  obtain ⟨before, after, hbefore, hafter, hl⟩ := exists_strip space l
  conv_rhs => rw [hl]
  rw [map_strip_splitOn_prepend hmark hbefore, map_strip_splitOn_append hmark hafter]

/-- **Splitting a stripped line.** -/
theorem splitFields_strip (hmark : space mark = false) (l : List α) :
    splitFields space mark (strip space l) =
      if mark ∈ l then ((l.splitOn mark).map (strip space)).rdropWhile List.isEmpty else [strip space l] := by
  rw [splitFields, fields_of_stripped hmark (stripped_strip l), map_strip_splitOn_strip hmark]
  simp only [mem_strip_iff hmark]

theorem mem_splitOn {x : List α} (hx : x ∈ l.splitOn mark) : mark ∉ x ∧ ∀ c ∈ x, c ∈ l := by
  induction l using markInduction mark with
  | hnone l hl =>
      rw [List.splitOn_eq_singleton hl, List.mem_singleton] at hx
      rw [hx]
      exact ⟨hl, fun _ hc => hc⟩
  | hmark y rest hy ih =>
      rw [List.splitOn_append_cons_self_of_not_mem hy, List.mem_cons] at hx
      rcases hx with rfl | hx
      · exact ⟨hy, fun c hc => List.mem_append_left _ hc⟩
      · obtain ⟨hfree, hsub⟩ := ih hx
        exact ⟨hfree, fun c hc => List.mem_append_right _ (List.mem_cons_of_mem _ (hsub c hc))⟩

theorem mem_splitFields {x : List α} (hmark : space mark = false) (h : Stripped space l)
    (hx : x ∈ splitFields space mark l) : mark ∉ x ∧ Stripped space x ∧ ∀ c ∈ x, c ∈ l := by
  rw [splitFields] at hx
  split at hx
  next hl =>
    have hfield := (List.rdropWhile_prefix _ _).mem hx
    rw [fields_of_stripped hmark h, List.mem_map] at hfield
    obtain ⟨piece, hpiece, rfl⟩ := hfield
    obtain ⟨hfree, hsub⟩ := mem_splitOn hpiece
    exact ⟨fun hc => hfree (mem_of_mem_strip hc), stripped_strip piece, fun c hc => hsub c (mem_of_mem_strip hc)⟩
  next hl =>
    rw [List.mem_singleton.mp hx]
    exact ⟨hl, h, fun _ hc => hc⟩

theorem map_strip_splitOn_joinFields (hmark : space mark = false) (hsp : space sp = true)
    {pieces : List (List α)} (hne : pieces ≠ []) (hpieces : ∀ x ∈ pieces, mark ∉ x ∧ Stripped space x) :
    ((joinFields mark sp pieces).splitOn mark).map (strip space) = pieces := by
  induction pieces with
  | nil => exact absurd rfl hne
  | cons x rest ih =>
      obtain ⟨⟨hfree, hstripped⟩, hrest⟩ := List.forall_mem_cons.mp hpieces
      rcases rest with _ | ⟨y, rest⟩
      · have hsingle : joinFields mark sp [x] = x := List.intercalate_singleton
        rw [hsingle, List.splitOn_eq_singleton hfree, List.map_singleton, hstripped]
      · rw [joinFields_cons, List.splitOn_append_cons_self_of_not_mem hfree, List.map_cons, hstripped]
        have hspace := map_strip_splitOn_prepend hmark (by simpa using hsp : ∀ c ∈ [sp], space c = true)
          (joinFields mark sp (y :: rest))
        rw [List.singleton_append] at hspace
        rw [hspace, ih (List.cons_ne_nil _ _) hrest]

/-- What is left of some pieces once they were joined and split again: empty pieces at the end of a line with a
mark are lost. -/
def kept (pieces : List (List α)) : List (List α) :=
  if 2 ≤ pieces.length then pieces.rdropWhile List.isEmpty else pieces

omit [DecidableEq α] in
theorem kept_of_ne_nil {pieces : List (List α)} (h : ∀ x ∈ pieces, x ≠ []) : kept pieces = pieces := by
  rw [kept]
  split
  next =>
    rw [List.rdropWhile_eq_self_iff]
    intro hne
    simpa using h _ (List.getLast_mem hne)
  next => rfl

omit [DecidableEq α] in
theorem kept_kept (pieces : List (List α)) : kept (kept pieces) = kept pieces := by
  by_cases hlong : 2 ≤ pieces.length
  · have hkept : kept pieces = pieces.rdropWhile List.isEmpty := by rw [kept, if_pos hlong]
    rw [hkept, kept]
    split
    next => rw [List.rdropWhile_idempotent]
    next => rfl
  · have hkept : kept pieces = pieces := by rw [kept, if_neg hlong]
    rw [hkept, hkept]

omit [DecidableEq α] in
theorem kept_eq_self_iff (pieces : List (List α)) :
    kept pieces = pieces ↔ (2 ≤ pieces.length → pieces.getLast? ≠ some []) := by
  by_cases hlong : 2 ≤ pieces.length
  · have hne : pieces ≠ [] := List.ne_nil_of_length_pos (by omega)
    rw [kept, if_pos hlong, List.rdropWhile_eq_self_iff, List.getLast?_eq_some_getLast hne]
    simp [hne, hlong]
  · rw [kept, if_neg hlong]
    exact ⟨fun _ h => absurd h hlong, fun _ => rfl⟩

omit [DecidableEq α] in
theorem kept_isPrefix (pieces : List (List α)) : kept pieces <+: pieces := by
  rw [kept]
  split
  next => exact List.rdropWhile_prefix _ _
  next => exact List.prefix_rfl

/-- **Joined and split again.** -/
theorem splitFields_joinFields (hmark : space mark = false) (hsp : space sp = true) {pieces : List (List α)}
    (hne : pieces ≠ []) (hpieces : ∀ x ∈ pieces, mark ∉ x ∧ Stripped space x) :
    splitFields space mark (strip space (joinFields mark sp pieces)) = kept pieces := by
  rw [splitFields_strip hmark, kept]
  simp only [mem_joinFields_iff fun x hx => (hpieces x hx).1]
  split
  next => rw [map_strip_splitOn_joinFields hmark hsp hne hpieces]
  next hshort =>
    rcases pieces with _ | ⟨x, _ | ⟨y, rest⟩⟩
    · exact absurd rfl hne
    · have hsingle : joinFields mark sp [x] = x := List.intercalate_singleton
      rw [hsingle, (hpieces x List.mem_cons_self).2]
    · simp at hshort

end Fields

end Text
