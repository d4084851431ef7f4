import Mathlib.Data.List.DropRight
import Router1.Dart.Text

/-!
# Lines and the white space around them

A text made of lines and their ends is taken apart into the same lines, and white space around a text is
not seen after `trim`.
-/

namespace Dart

/-! ### Lines -/

/-- The characters that end a line. -/
def isBreak (c : Char) : Bool := c == '\n' || c == '\r'

inductive LineEnd where
  | lf
  | crlf
  deriving DecidableEq, Repr

def LineEnd.chars : LineEnd → List Char
  | lf => ['\n']
  | crlf => ['\r', '\n']

/-- Lines with their ends, and what follows the last end. -/
def joinLines (lines : List (List Char × LineEnd)) (last : List Char) : List Char :=
  lines.flatMap (fun line => line.1 ++ line.2.chars) ++ last

theorem joinLines_cons (line : List Char × LineEnd) (lines : List (List Char × LineEnd)) (last : List Char) :
    joinLines (line :: lines) last = line.1 ++ (line.2.chars ++ joinLines lines last) := by
  simp [joinLines]

theorem linesOfChars_cons {line cs : List Char} {c : Char} (h : isBreak c = false) :
    linesOfChars line (c :: cs) = linesOfChars (c :: line) cs := by
  rw [isBreak, Bool.or_eq_false_iff, beq_eq_false_iff_ne, beq_eq_false_iff_ne] at h
  rw [linesOfChars]
  · exact fun _ hr => absurd hr h.2
  · exact h.2
  · exact h.1

theorem linesOfChars_append {line cs rest : List Char} (h : ∀ c ∈ cs, isBreak c = false) :
    linesOfChars line (cs ++ rest) = linesOfChars (cs.reverse ++ line) rest := by
  induction cs generalizing line with
  | nil => rfl
  | cons c cs ih =>
      rw [List.cons_append, linesOfChars_cons (h c List.mem_cons_self),
        ih fun other hother => h other (List.mem_cons_of_mem c hother)]
      simp

theorem linesOfChars_end (line cs : List Char) (lineEnd : LineEnd) :
    linesOfChars line (lineEnd.chars ++ cs) = line.reverse :: linesOfChars [] cs := by
  cases lineEnd with
  | lf =>
      show linesOfChars line ('\n' :: cs) = _
      rw [linesOfChars]
  | crlf =>
      show linesOfChars line ('\r' :: '\n' :: cs) = _
      rw [linesOfChars]

theorem linesOfChars_joinLines {lines : List (List Char × LineEnd)} {last : List Char}
    (hlines : ∀ line ∈ lines, ∀ c ∈ line.1, isBreak c = false) (hlast : ∀ c ∈ last, isBreak c = false) :
    linesOfChars [] (joinLines lines last) =
      lines.map Prod.fst ++ if last.isEmpty then [] else [last] := by
  induction lines with
  | nil =>
      have hsplit : linesOfChars [] (last ++ []) = linesOfChars (last.reverse ++ []) [] :=
        linesOfChars_append hlast
      rw [List.append_nil, List.append_nil] at hsplit
      rw [joinLines, List.flatMap_nil, List.nil_append, hsplit]
      cases last with
      | nil => rfl
      | cons c cs =>
          cases hreverse : (c :: cs).reverse with
          | nil => simp at hreverse
          | cons d ds =>
              rw [linesOfChars, ← hreverse, List.reverse_reverse]
              · rfl
              · simp
  | cons line lines ih =>
      rw [joinLines_cons, linesOfChars_append (hlines line List.mem_cons_self), linesOfChars_end,
        ih fun other hother => hlines other (List.mem_cons_of_mem line hother)]
      simp

/-! ### Pieces -/

section

variable {separator c : Char} {cs a b piece : List Char}

theorem splitChars_ne_nil (separator : Char) (cs : List Char) : splitChars separator cs ≠ [] := by
  cases cs with
  | nil => exact List.cons_ne_nil _ _
  | cons c cs =>
      rw [splitChars]
      split
      · exact List.cons_ne_nil _ _
      · split <;> exact List.cons_ne_nil _ _

theorem splitChars_cons (cs : List Char) (h : c ≠ separator) :
    ∃ piece pieces, splitChars separator cs = piece :: pieces ∧
      splitChars separator (c :: cs) = (c :: piece) :: pieces := by
  obtain ⟨piece, pieces, hpieces⟩ := List.exists_cons_of_ne_nil (splitChars_ne_nil separator cs)
  refine ⟨piece, pieces, hpieces, ?_⟩
  rw [splitChars, if_neg h, hpieces]

theorem splitChars_append (a b : List Char) :
    splitChars separator (a ++ separator :: b) = splitChars separator a ++ splitChars separator b := by
  induction a with
  | nil => simp [splitChars]
  | cons c a ih =>
      by_cases hc : c = separator
      · rw [hc, List.cons_append, splitChars, if_pos rfl, ih, splitChars, if_pos rfl, List.cons_append]
      · obtain ⟨piece, pieces, hpieces, hcons⟩ := splitChars_cons a hc
        rw [List.cons_append, splitChars, if_neg hc, ih, hpieces, hcons]
        rfl

theorem splitChars_of_not_mem (h : separator ∉ cs) : splitChars separator cs = [cs] := by
  induction cs with
  | nil => rfl
  | cons c cs ih =>
      rw [List.mem_cons, not_or] at h
      rw [splitChars, if_neg (Ne.symm h.1), ih h.2]

theorem splitChars_append_of_not_mem (h : separator ∉ a) (b : List Char) :
    ∃ piece pieces, splitChars separator b = piece :: pieces ∧
      splitChars separator (a ++ b) = (a ++ piece) :: pieces := by
  induction a with
  | nil =>
      obtain ⟨piece, pieces, hpieces⟩ := List.exists_cons_of_ne_nil (splitChars_ne_nil separator b)
      exact ⟨piece, pieces, hpieces, hpieces⟩
  | cons c a ih =>
      rw [List.mem_cons, not_or] at h
      obtain ⟨piece, pieces, hpieces, hall⟩ := ih h.2
      refine ⟨piece, pieces, hpieces, ?_⟩
      rw [List.cons_append, splitChars, if_neg (Ne.symm h.1), hall]
      rfl

theorem not_mem_of_mem_splitChars (h : piece ∈ splitChars separator cs) : separator ∉ piece := by
  induction cs generalizing piece with
  | nil => simp_all [splitChars]
  | cons c cs ih =>
      by_cases hc : c = separator
      · rw [splitChars, if_pos hc, List.mem_cons] at h
        obtain rfl | h := h
        · exact List.not_mem_nil
        · exact ih h
      · obtain ⟨first, pieces, hpieces, hcons⟩ := splitChars_cons cs hc
        rw [hcons, List.mem_cons] at h
        rw [hpieces] at ih
        obtain rfl | h := h
        · rw [List.mem_cons, not_or]
          exact ⟨Ne.symm hc, ih List.mem_cons_self⟩
        · exact ih (List.mem_cons_of_mem _ h)

/-- Every character is a separator or stands in a piece, and the pieces have no others. -/
theorem mem_iff_splitChars (h : c ≠ separator) :
    c ∈ cs ↔ ∃ piece ∈ splitChars separator cs, c ∈ piece := by
  induction cs with
  | nil => simp [splitChars]
  | cons d cs ih =>
      by_cases hd : d = separator
      · rw [splitChars, if_pos hd, List.mem_cons, ih]
        simp [hd, h]
      · obtain ⟨piece, pieces, hpieces, hcons⟩ := splitChars_cons cs hd
        rw [hcons, List.mem_cons, ih, hpieces]
        simp [or_and_right, exists_or, or_assoc]

theorem eq_of_splitChars_pair (h : splitChars separator cs = [a, b]) :
    cs = a ++ separator :: b ∧ separator ∉ a ∧ separator ∉ b := by
  have hpieces : ∀ piece ∈ [a, b], separator ∉ piece :=
    fun piece hpiece => not_mem_of_mem_splitChars (h ▸ hpiece)
  refine ⟨?_, hpieces a (by simp), hpieces b (by simp)⟩
  clear hpieces
  induction cs generalizing a with
  | nil => simp [splitChars] at h
  | cons c cs ih =>
      by_cases hc : c = separator
      · rw [splitChars, if_pos hc, List.cons.injEq] at h
        obtain ⟨rfl, h⟩ := h
        have hcs : separator ∉ cs := by
          intro hmem
          obtain ⟨x, y, rfl⟩ := List.append_of_mem hmem
          rw [splitChars_append] at h
          obtain ⟨p, ps, hp⟩ := List.exists_cons_of_ne_nil (splitChars_ne_nil separator x)
          rw [hp, List.cons_append, List.cons.injEq, List.append_eq_nil_iff] at h
          exact splitChars_ne_nil _ _ h.2.2
        rw [splitChars_of_not_mem hcs, List.cons.injEq] at h
        rw [hc, h.1]
        rfl
      · obtain ⟨piece, pieces, hpieces, hcons⟩ := splitChars_cons cs hc
        rw [hcons, List.cons.injEq] at h
        obtain ⟨rfl, rfl⟩ := h
        rw [ih hpieces, List.cons_append]

/-! ### The first place of a character -/

theorem prefix_append_cons_iff {p : List Char} (hc : c ∉ p) : p <+: a ++ c :: b ↔ p <+: a := by
  constructor
  · intro hstart
    obtain hshort | ⟨t, rfl⟩ := List.prefix_or_prefix_of_prefix hstart (List.prefix_append a (c :: b))
    · exact hshort
    · rw [List.prefix_append_right_inj] at hstart
      cases t with
      | nil => simp
      | cons d t =>
          rw [List.cons_prefix_cons] at hstart
          rw [hstart.1] at hc
          exact absurd (by simp) hc
  · intro hstart
    exact hstart.trans (List.prefix_append _ _)

/-- The first place of a character takes a text apart in one way. -/
theorem append_cons_inj {x y x' y' : List Char} {mark : Char} (hx : mark ∉ x) (hx' : mark ∉ x')
    (h : x ++ mark :: y = x' ++ mark :: y') : x = x' ∧ y = y' := by
  have hfront : ∀ u v : List Char, mark ∉ u → (u ++ mark :: v).takeWhile (· != mark) = u := by
    intro u v hu
    rw [List.takeWhile_append_of_pos]
    · simp
    · intro e he
      simpa using ne_of_mem_of_not_mem he hu
  have hsame : x = x' := by rw [← hfront x y hx, h, hfront x' y' hx']
  rw [hsame, List.append_cancel_left_eq, List.cons.injEq] at h
  exact ⟨hsame, h.2⟩

end

theorem forall_mem_of_all {p : Char → Bool} {b : Bool} {cs : List Char}
    (h : (cs.all fun c => p c == b) = true) : ∀ c ∈ cs, p c = b :=
  fun c hc => beq_iff_eq.mp (List.all_eq_true.mp h c hc)

/-! ### White space -/

theorem trimChars_eq (cs : List Char) :
    trimChars cs = (cs.dropWhile isWhitespace).rdropWhile isWhitespace := rfl

theorem rdropWhile_append_of_pos {α : Type} {p : α → Bool} {l l' : List α} (h : ∀ x ∈ l', p x = true) :
    (l ++ l').rdropWhile p = l.rdropWhile p := by
  rw [List.rdropWhile, List.reverse_append, List.dropWhile_append_of_pos, List.rdropWhile]
  exact fun x hx => h x (List.mem_reverse.mp hx)

theorem rdropWhile_append_cons {α : Type} {p : α → Bool} {x : α} (l l' : List α) (h : p x = false) :
    (l ++ x :: l').rdropWhile p = l ++ x :: l'.rdropWhile p := by
  induction l' using List.reverseRecOn with
  | nil => exact List.rdropWhile_concat_neg p l x (by simp [h])
  | append_singleton l' y ih =>
      rw [List.rdropWhile_concat, ← List.cons_append, ← List.append_assoc, List.rdropWhile_concat, ih]
      split
      · rfl
      · simp

theorem trimChars_surrounded {before cs after : List Char} (hbefore : ∀ c ∈ before, isWhitespace c = true)
    (hafter : ∀ c ∈ after, isWhitespace c = true) : trimChars (before ++ cs ++ after) = trimChars cs := by
  rw [trimChars_eq, List.append_assoc, List.dropWhile_append_of_pos hbefore, trimChars_eq]
  by_cases hall : ∀ c ∈ cs, isWhitespace c = true
  · rw [List.dropWhile_append_of_pos hall, List.dropWhile_eq_nil_iff.mpr hall,
      List.dropWhile_eq_nil_iff.mpr hafter]
  · rw [List.dropWhile_append, if_neg, rdropWhile_append_of_pos hafter]
    simpa using hall

theorem trimChars_rdropWhile (cs : List Char) : trimChars (cs.rdropWhile isWhitespace) = trimChars cs := by
  have hend : ∀ c ∈ cs.rtakeWhile isWhitespace, isWhitespace c = true :=
    fun c hc => List.mem_rtakeWhile_imp hc
  have hall : trimChars ([] ++ cs.rdropWhile isWhitespace ++ cs.rtakeWhile isWhitespace) =
      trimChars (cs.rdropWhile isWhitespace) := trimChars_surrounded (by simp) hend
  rw [List.nil_append, List.rdropWhile_append_rtakeWhile] at hall
  exact hall.symm

theorem trimChars_trimChars (cs : List Char) : trimChars (trimChars cs) = trimChars cs := by
  rw [trimChars_eq cs, trimChars_rdropWhile, trimChars_eq, List.dropWhile_idempotent]

theorem trim_trim (s : String) : trim (trim s) = trim s := by
  simp only [trim, String.toList_ofList, trimChars_trimChars]

theorem trimChars_whitespace {cs : List Char} (h : ∀ c ∈ cs, isWhitespace c = true) :
    trimChars cs = [] := by
  rw [trimChars_eq, List.dropWhile_eq_nil_iff.mpr h]
  rfl

/-- A text that starts with something visible loses white space only at its end. -/
theorem trimChars_cons {c : Char} (h : isWhitespace c = false) (cs : List Char) :
    trimChars (c :: cs) = c :: cs.rdropWhile isWhitespace := by
  rw [trimChars_eq, List.dropWhile_cons_of_neg (by simp [h])]
  exact rdropWhile_append_cons [] cs h

theorem trimChars_of_visible {cs : List Char} (h : ∀ c ∈ cs, isWhitespace c = false) :
    trimChars cs = cs := by
  cases cs with
  | nil => rfl
  | cons c cs =>
      rw [trimChars_cons (h c List.mem_cons_self), List.rdropWhile_eq_self_iff.mpr]
      intro hne
      rw [h _ (List.mem_cons_of_mem c (List.getLast_mem hne))]
      exact Bool.false_ne_true

end Dart
