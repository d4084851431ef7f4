import Mathlib.Data.List.TakeDrop
import Router1.Failover.DefaultRoutes

/-!
# The rows of a rewritten config

What the rewriting of the allowed addresses does to the rows of a text. The pattern is written for single
lines, but its white space also takes line ends: the row behind an empty value becomes the value, and where
a row ends with `\r\n` the place between the two is a line start, so that the `\n` before a rewritten row
disappears. Rows that are set apart are rewritten one by one, and rows that are not leave a row that no
config has.
-/

namespace Failover.WindowsAwgTunnelService

open Dart Cidr

/-! ### Rows -/

/-- What follows the `=` of a row of allowed addresses. -/
def allowedValue (row : List Char) : Option (List Char) :=
  match afterWord "allowedips".toList (row.dropWhile isSpace) with
  | none => none
  | some rest =>
      match rest.dropWhile isSpace with
      | '=' :: value => some value
      | _ => none

/-- The characters of which every row that is not blank has one: a key has its `=`, a section its bracket
and a comment its sign. -/
def isMark (c : Char) : Bool := c == '=' || c == '[' || c == '#' || c == ';'

structure IsRow (row : List Char) : Prop where
  unbroken : ∀ c ∈ row, isLineTerminator c = false
  marked : isBlank row = true ∨ ∃ c ∈ row, isMark c = true
  blocks : ∀ value, allowedValue row = some value → ∀ entry ∈ entriesOf value,
    ∃ block, Block.ofChars entry = some block

/-! ### The pattern at the start of a row -/

section

variable {c : Char} {row value cs rest x : List Char}

theorem isMark_cases (h : isMark c = true) : c = '=' ∨ c = '[' ∨ c = '#' ∨ c = ';' := by
  simpa [isMark, or_assoc] using h

theorem isSpace_of_isMark (h : isMark c = true) : isSpace c = false := by
  obtain rfl | rfl | rfl | rfl := isMark_cases h <;> rfl

theorem isBlockChar_of_isMark (h : isMark c = true) : isBlockChar c = false := by
  obtain rfl | rfl | rfl | rfl := isMark_cases h <;> rfl

theorem isBlank_of_mark (h : ∃ c ∈ row, isMark c = true) : isBlank row = false := by
  obtain ⟨c, hc, hmark⟩ := h
  rw [Bool.eq_false_iff]
  intro hblank
  have hspace := isBlank_iff.mp hblank c hc
  rw [isSpace_of_isMark hmark] at hspace
  cases hspace

theorem IsRow.mark (h : IsRow row) (hshown : isBlank row = false) : ∃ c ∈ row, isMark c = true := by
  obtain hblank | hmark := h.marked
  · rw [hshown] at hblank
    cases hblank
  · exact hmark

theorem allowedIpsAt_eq (cs : List Char) : allowedIpsAt cs = (allowedValue cs).bind valueAt := by
  rw [allowedIpsAt, allowedValue]
  cases afterWord "allowedips".toList (cs.dropWhile isSpace) with
  | none => rfl
  | some rest =>
      dsimp only
      cases rest.dropWhile isSpace with
      | nil => rfl
      | cons d tail =>
          by_cases hd : d = '='
          · rw [hd]
            rfl
          · simp [hd]

theorem allowedValue_eq_some :
    allowedValue row = some value ↔
      ∃ rest, afterWord "allowedips".toList (row.dropWhile isSpace) = some rest ∧
        rest.dropWhile isSpace = '=' :: value := by
  rw [allowedValue]
  cases afterWord "allowedips".toList (row.dropWhile isSpace) with
  | none => simp
  | some rest =>
      simp only [Option.some.injEq, exists_eq_left']
      split
      · next tail htail => simp [htail]
      · next hother =>
          refine iff_of_false nofun (hother value)

/-- White space in front, line ends included, is passed over. -/
theorem allowedValue_append_of_blank (h : isBlank row = true) (cs : List Char) :
    allowedValue (row ++ cs) = allowedValue cs := by
  rw [allowedValue, List.dropWhile_append_of_pos (isBlank_iff.mp h), ← allowedValue]

theorem allowedValue_of_blank (h : isBlank row = true) : allowedValue row = none := by
  rw [allowedValue, List.dropWhile_eq_nil_iff.mpr (isBlank_iff.mp h)]
  rfl

theorem dropWhile_append_of_mark (hmark : ∃ c ∈ row, isMark c = true) (x : List Char) :
    (row ++ x).dropWhile isSpace = row.dropWhile isSpace ++ x ∧
      ∃ c ∈ row.dropWhile isSpace, isMark c = true := by
  obtain ⟨c, hc, hmark⟩ := hmark
  have hspace := isSpace_of_isMark hmark
  have hdrop : c ∈ row.dropWhile isSpace := by
    rw [← List.takeWhile_append_dropWhile (p := isSpace) (l := row), List.mem_append] at hc
    obtain hc | hc := hc
    · rw [List.mem_takeWhile_imp hc] at hspace
      cases hspace
    · exact hc
  refine ⟨?_, c, hdrop, hmark⟩
  rw [List.dropWhile_append, if_neg]
  rw [List.isEmpty_iff]
  exact List.ne_nil_of_mem hdrop

theorem lowerAscii_of_isMark (h : isMark c = true) : lowerAscii c = c := by
  obtain rfl | rfl | rfl | rfl := isMark_cases h <;> rfl

theorem afterWord_append {word : List Char} (hword : ∀ c ∈ word, isMark c = false)
    (hmark : ∃ c ∈ cs, isMark c = true) (x : List Char) :
    afterWord word (cs ++ x) = (afterWord word cs).map (· ++ x) ∧
      ∀ rest, afterWord word cs = some rest → ∃ c ∈ rest, isMark c = true := by
  induction word generalizing cs with
  | nil =>
      refine ⟨rfl, fun rest hrest => ?_⟩
      cases hrest
      exact hmark
  | cons w word ih =>
      cases cs with
      | nil => simp at hmark
      | cons d cs =>
          rw [List.cons_append, afterWord, afterWord]
          by_cases hd : (lowerAscii d == w) = true
          · rw [if_pos hd, if_pos hd]
            apply ih fun c hc => hword c (List.mem_cons_of_mem _ hc)
            obtain ⟨c, hc, hmark⟩ := hmark
            obtain rfl | hc := List.mem_cons.mp hc
            · rw [lowerAscii_of_isMark hmark, beq_iff_eq] at hd
              rw [hd, hword w List.mem_cons_self] at hmark
              cases hmark
            · exact ⟨c, hc, hmark⟩
          · rw [if_neg hd, if_neg hd]
            exact ⟨rfl, nofun⟩

theorem allowedValue_append (hmark : ∃ c ∈ row, isMark c = true) (x : List Char) :
    allowedValue (row ++ x) = (allowedValue row).map (· ++ x) := by
  obtain ⟨hdrop, hmark⟩ := dropWhile_append_of_mark hmark x
  have hplain : ∀ c ∈ "allowedips".toList, isMark c = false := forall_mem_of_all (by decide)
  obtain ⟨hword, hrest⟩ := afterWord_append hplain hmark x
  rw [Option.ext_iff]
  intro value
  rw [allowedValue_eq_some, hdrop, hword, Option.map_eq_some_iff]
  constructor
  · rintro ⟨_, hall, hvalue⟩
    obtain ⟨rest, hafter, rfl⟩ := Option.map_eq_some_iff.mp hall
    obtain ⟨hspaces, c, hc, -⟩ := dropWhile_append_of_mark (hrest rest hafter) x
    obtain ⟨d, ds, hcons⟩ := List.exists_cons_of_ne_nil (List.ne_nil_of_mem hc)
    rw [hspaces, hcons, List.cons_append, List.cons.injEq] at hvalue
    refine ⟨ds, ?_, hvalue.2⟩
    rw [allowedValue_eq_some]
    exact ⟨rest, hafter, by rw [hcons, hvalue.1]⟩
  · rintro ⟨front, hfront, rfl⟩
    obtain ⟨rest, hafter, hvalue⟩ := allowedValue_eq_some.mp hfront
    obtain ⟨hspaces, -⟩ := dropWhile_append_of_mark (hrest rest hafter) x
    exact ⟨rest ++ x, by rw [hafter]; rfl, by rw [hspaces, hvalue]; rfl⟩

theorem afterWord_suffix {word : List Char} (h : afterWord word cs = some rest) : rest <:+ cs := by
  induction word generalizing cs with
  | nil =>
      cases h
      exact List.suffix_rfl
  | cons w word ih =>
      cases cs with
      | nil => cases h
      | cons d cs =>
          rw [afterWord] at h
          split at h
          · exact (ih h).trans (List.suffix_cons d cs)
          · cases h

theorem allowedValue_suffix (h : allowedValue row = some value) : '=' :: value <:+ row := by
  obtain ⟨rest, hafter, hvalue⟩ := allowedValue_eq_some.mp h
  rw [← hvalue]
  exact (List.dropWhile_suffix _).trans ((afterWord_suffix hafter).trans (List.dropWhile_suffix _))

theorem mark_of_allowedValue (h : allowedValue row = some value) : ∃ c ∈ row, isMark c = true :=
  ⟨'=', (allowedValue_suffix h).subset List.mem_cons_self, rfl⟩

end

/-! ### The rewriting at a row -/

section

variable {c : Char} {row value cs rest x : List Char} {n : Nat} {lineEnd : LineEnd}

theorem rewrite_cons (c : Char) (cs : List Char) :
    rewriteAllowedIps 0 false (c :: cs) = c :: rewriteAllowedIps 0 (isLineTerminator c) cs := by
  simp [rewriteAllowedIps]

theorem rewrite_append (h : ∀ c ∈ row, isLineTerminator c = false) (cs : List Char) :
    rewriteAllowedIps 0 false (row ++ cs) = row ++ rewriteAllowedIps 0 false cs := by
  induction row with
  | nil => rfl
  | cons c row ih =>
      rw [List.cons_append, rewrite_cons, h c List.mem_cons_self,
        ih fun d hd => h d (List.mem_cons_of_mem _ hd), List.cons_append]

theorem rewrite_skip (n : Nat) (cs : List Char) :
    rewriteAllowedIps n false cs = rewriteAllowedIps 0 false (cs.drop n) := by
  induction cs generalizing n with
  | nil => cases n <;> simp [rewriteAllowedIps]
  | cons c cs ih =>
      cases n with
      | zero => rfl
      | succ n => rw [rewriteAllowedIps, ih, List.drop_succ_cons]

theorem rewrite_of_none (h : allowedIpsAt cs = none) :
    rewriteAllowedIps 0 true cs = rewriteAllowedIps 0 false cs := by
  cases cs with
  | nil => simp [rewriteAllowedIps]
  | cons c cs => simp [rewriteAllowedIps, h]

theorem valueAt_suffix (h : valueAt cs = some (value, rest)) : rest <:+ cs := by
  rw [valueAt] at h
  split at h
  · rw [List.span_eq_takeWhile_dropWhile] at h
    split at h
    · cases h
    · next terminators c more hspan =>
        cases h
        obtain ⟨rfl, -⟩ := Prod.mk.inj hspan
        have hstart := List.takeWhile_prefix isLineTerminator (l := cs.reverse)
        rw [← List.reverse_suffix] at hstart
        rwa [List.reverse_reverse] at hstart
  · rw [List.span_eq_takeWhile_dropWhile] at h
    cases h
    exact (List.dropWhile_suffix _).trans (List.dropWhile_suffix _)

/-- Where the pattern matches, the value is rewritten and the text goes on behind it. -/
theorem rewrite_of_some (h : allowedIpsAt cs = some (value, rest)) :
    rewriteAllowedIps 0 true cs =
      "AllowedIPs = ".toList ++ splitDefaultRoutes value ++ rewriteAllowedIps 0 false rest := by
  have hmatch := h
  rw [allowedIpsAt_eq] at h
  obtain ⟨tail, htail, hvalue⟩ := Option.bind_eq_some_iff.mp h
  cases cs with
  | nil => cases htail
  | cons c cs =>
      have htail : tail <:+ cs := by
        obtain hall | hsuffix := List.suffix_cons_iff.mp (allowedValue_suffix htail)
        · rw [List.cons.injEq] at hall
          exact hall.2 ▸ List.suffix_rfl
        · exact (List.suffix_cons '=' tail).trans hsuffix
      have hrest : rest <:+ cs := (valueAt_suffix hvalue).trans htail
      rw [rewriteAllowedIps, if_pos rfl, hmatch]
      dsimp only
      rw [rewrite_skip, ← List.suffix_iff_eq_drop.mp hrest]

theorem allowedIpsAt_append_of_blank (h : isBlank row = true) (cs : List Char) :
    allowedIpsAt (row ++ cs) = allowedIpsAt cs := by
  rw [allowedIpsAt_eq, allowedIpsAt_eq, allowedValue_append_of_blank h]

theorem rewrite_eq_of_isSome (h : (allowedIpsAt cs).isSome = true) (hsame : allowedIpsAt x = allowedIpsAt cs) :
    rewriteAllowedIps 0 true x = rewriteAllowedIps 0 true cs := by
  obtain ⟨⟨value, rest⟩, hmatch⟩ := Option.isSome_iff_exists.mp h
  rw [rewrite_of_some hmatch, rewrite_of_some (hsame.trans hmatch)]

/-- A line end stays, except that the pattern also starts between `\r` and `\n`. -/
theorem rewrite_lineEnd (lineEnd : LineEnd) (cs : List Char) :
    rewriteAllowedIps 0 false (lineEnd.chars ++ cs) =
      (if lineEnd = .crlf ∧ (allowedIpsAt cs).isSome = true then ['\r'] else lineEnd.chars) ++
        rewriteAllowedIps 0 true cs := by
  cases lineEnd with
  | lf =>
      rw [if_neg (by simp)]
      exact rewrite_cons '\n' cs
  | crlf =>
      show rewriteAllowedIps 0 false ('\r' :: '\n' :: cs) = _
      have hskip : allowedIpsAt ('\n' :: cs) = allowedIpsAt cs :=
        allowedIpsAt_append_of_blank (rfl : isBlank ['\n'] = true) cs
      rw [rewrite_cons]
      change '\r' :: rewriteAllowedIps 0 true ('\n' :: cs) = _
      by_cases hmatch : (allowedIpsAt cs).isSome = true
      · rw [if_pos ⟨rfl, hmatch⟩, rewrite_eq_of_isSome hmatch hskip]
        rfl
      · rw [if_neg fun h => hmatch h.2]
        rw [Bool.not_eq_true, Option.isSome_eq_false_iff, Option.isNone_iff_eq_none] at hmatch
        rw [rewrite_of_none (hskip.trans hmatch), rewrite_cons]
        rfl

theorem rewrite_of_blank (h : isBlank cs = true) (lineStart : Bool) :
    rewriteAllowedIps 0 lineStart cs = cs := by
  induction cs generalizing lineStart with
  | nil => rw [rewriteAllowedIps]
  | cons c cs ih =>
      have hnone : allowedIpsAt (c :: cs) = none := by
        rw [allowedIpsAt_eq, allowedValue_of_blank h]
        rfl
      rw [isBlank, List.all_cons, Bool.and_eq_true] at h
      have hfalse : rewriteAllowedIps 0 false (c :: cs) = c :: cs := by
        rw [rewrite_cons, ih h.2]
      cases lineStart with
      | false => exact hfalse
      | true => rw [rewrite_of_none hnone, hfalse]

/-- The end of the text, or the end of a line. -/
def EndsRow (x : List Char) : Prop := ∀ c, x.head? = some c → isLineTerminator c = true

theorem endsRow_lineEnd (lineEnd : LineEnd) (cs : List Char) : EndsRow (lineEnd.chars ++ cs) := by
  intro c hc
  cases lineEnd <;> (cases hc; rfl)

theorem valueAt_of_dropWhile (h : cs.dropWhile isSpace = value ++ x) (hne : value ≠ [])
    (hvalue : ∀ c ∈ value, isLineTerminator c = false) (hx : EndsRow x) :
    valueAt cs = some (value, x) := by
  have hspan : (value ++ x).span (fun c => !isLineTerminator c) = (value, x) := by
    have hall : ∀ c ∈ value, (!isLineTerminator c) = true := by
      intro c hc
      rw [hvalue c hc]
      rfl
    rw [List.span_eq_takeWhile_dropWhile, List.takeWhile_append_of_pos hall,
      List.dropWhile_append_of_pos hall]
    cases x with
    | nil => simp
    | cons d x => simp [hx d rfl]
  rw [valueAt, h]
  split
  · next hnil => exact absurd (List.append_eq_nil_iff.mp hnil).1 hne
  · rw [hspan]

end

/-! ### Reading the rows of a text -/

/-- A row of a text with either line end. -/
def withoutReturn (row : List Char) : List Char := if row.getLast? = some '\r' then row.dropLast else row

def rowsOf (text : List Char) : List (List Char) := (splitChars '\n' text).map withoutReturn

section

variable {c : Char} {row value cs rest x w : List Char} {lineEnd : LineEnd}

theorem not_mem_of_unbroken (h : ∀ c ∈ row, isLineTerminator c = false) : '\r' ∉ row ∧ '\n' ∉ row :=
  ⟨fun hc => absurd (h _ hc) (by decide), fun hc => absurd (h _ hc) (by decide)⟩

theorem withoutReturn_of_not_mem (h : '\r' ∉ row) : withoutReturn row = row := by
  rw [withoutReturn, if_neg]
  intro hlast
  exact h (List.mem_of_getLast? hlast)

theorem withoutReturn_append (hx : x ≠ []) (row : List Char) :
    withoutReturn (row ++ x) = row ++ withoutReturn x := by
  rw [withoutReturn, withoutReturn, List.getLast?_append_of_ne_nil _ hx,
    List.dropLast_append_of_ne_nil hx]
  split <;> rfl

theorem mem_withoutReturn (hc : c ≠ '\r') (h : c ∈ row) : c ∈ withoutReturn row := by
  rw [withoutReturn]
  split
  · next hlast =>
      obtain ⟨front, rfl⟩ := List.getLast?_eq_some_iff.mp hlast
      rw [List.dropLast_concat]
      simpa [hc] using h
  · exact h

theorem rowsOf_append (h : '\n' ∉ row) (cs : List Char) :
    rowsOf (row ++ '\n' :: cs) = withoutReturn row :: rowsOf cs := by
  rw [rowsOf, splitChars_append, splitChars_of_not_mem h]
  rfl

theorem rowsOf_lineEnd (h : ∀ c ∈ row, isLineTerminator c = false) (lineEnd : LineEnd) (cs : List Char) :
    rowsOf (row ++ (lineEnd.chars ++ cs)) = row :: rowsOf cs := by
  obtain ⟨hr, hn⟩ := not_mem_of_unbroken h
  cases lineEnd with
  | lf =>
      show rowsOf (row ++ '\n' :: cs) = _
      rw [rowsOf_append hn, withoutReturn_of_not_mem hr]
  | crlf =>
      show rowsOf (row ++ '\r' :: '\n' :: cs) = _
      rw [List.append_cons, rowsOf_append (by simp [hn]), withoutReturn_append (List.cons_ne_nil _ _)]
      simp [withoutReturn]

theorem rowsOf_unbroken (h : ∀ c ∈ row, isLineTerminator c = false) : rowsOf row = [row] := by
  obtain ⟨hr, hn⟩ := not_mem_of_unbroken h
  rw [rowsOf, splitChars_of_not_mem hn, List.map_singleton, withoutReturn_of_not_mem hr]

theorem rowsOf_joinLines {lines : List (List Char × LineEnd)} {last : List Char}
    (hlines : ∀ line ∈ lines, ∀ c ∈ line.1, isLineTerminator c = false)
    (hlast : ∀ c ∈ last, isLineTerminator c = false) :
    rowsOf (joinLines lines last) = lines.map Prod.fst ++ [last] := by
  induction lines with
  | nil => exact rowsOf_unbroken hlast
  | cons line lines ih =>
      rw [joinLines_cons, rowsOf_lineEnd (hlines line List.mem_cons_self),
        ih fun other hother => hlines other (List.mem_cons_of_mem _ hother)]
      rfl

/-- The first row of a text starts with what has no line end. -/
theorem exists_rowsOf_append (h : '\n' ∉ row) (cs : List Char) :
    ∃ w, withoutReturn (row ++ w) ∈ rowsOf (row ++ cs) := by
  obtain ⟨piece, pieces, -, hall⟩ := splitChars_append_of_not_mem h cs
  refine ⟨piece, ?_⟩
  rw [rowsOf, hall, List.map_cons]
  exact List.mem_cons_self

end

/-! ### Rows on their own -/

/-- A row that says something: not a blank one and not an empty value. -/
def isEssential (row : List Char) : Bool := !isBlank row && (allowedValue row).all fun value => !isBlank value

def rewriteRow (row : List Char) : List Char :=
  match allowedValue row with
  | some value => "AllowedIPs = ".toList ++ splitDefaultRoutes (value.dropWhile isSpace)
  | none => row

section

variable {c : Char} {row value cs rest x w : List Char} {lineEnd : LineEnd}

theorem isEssential_iff :
    isEssential row = true ↔
      isBlank row = false ∧ ∀ value, allowedValue row = some value → isBlank value = false := by
  rw [isEssential, Bool.and_eq_true, Bool.not_eq_true', Option.all_eq_true]
  simp

theorem mark_of_isEssential (h : IsRow row) (hrow : isEssential row = true) :
    ∃ c ∈ row, isMark c = true := h.mark (isEssential_iff.mp hrow).1

theorem dropWhile_append_of_not_blank (h : isBlank row = false) (x : List Char) :
    (row ++ x).dropWhile isSpace = row.dropWhile isSpace ++ x ∧ row.dropWhile isSpace ≠ [] := by
  have hne : row.dropWhile isSpace ≠ [] := by
    intro hnil
    rw [isBlank_iff.mpr (List.dropWhile_eq_nil_iff.mp hnil)] at h
    cases h
  refine ⟨?_, hne⟩
  rw [List.dropWhile_append, if_neg]
  rwa [List.isEmpty_iff]

theorem mem_of_mem_splitDefaultRoutes (h : c ∈ splitDefaultRoutes cs) :
    c ∈ cs ∨ isLineTerminator c = false := by
  have hreplace : ∀ p r : List Char, (∀ d ∈ r, isLineTerminator d = false) → ∀ n cs,
      c ∈ replaceAllChars p r n cs → c ∈ cs ∨ isLineTerminator c = false := by
    intro p r hr n cs hc
    induction cs generalizing n with
    | nil => simp [replaceAllChars] at hc
    | cons d cs ih =>
        have hcs : ∀ n, c ∈ replaceAllChars p r n cs → c ∈ d :: cs ∨ isLineTerminator c = false :=
          fun n hc => (ih n hc).imp_left (List.mem_cons_of_mem d)
        cases n with
        | succ n =>
            rw [replaceAllChars] at hc
            exact hcs n hc
        | zero =>
            rw [replaceAllChars] at hc
            split at hc
            · obtain hc | hc := List.mem_append.mp hc
              · exact .inr (hr c hc)
              · exact hcs _ hc
            · obtain rfl | hc := List.mem_cons.mp hc
              · exact .inl List.mem_cons_self
              · exact hcs 0 hc
  obtain hc | hc := hreplace _ _ (forall_mem_of_all (by decide)) _ _ h
  · exact hreplace _ _ (forall_mem_of_all (by decide)) _ _ hc
  · exact .inr hc

theorem unbroken_of_allowedValue (h : IsRow row) (hvalue : allowedValue row = some value) :
    ∀ c ∈ value, isLineTerminator c = false :=
  fun c hc => h.unbroken c ((allowedValue_suffix hvalue).subset (List.mem_cons_of_mem _ hc))

theorem allowedValue_rewritten (cs : List Char) :
    allowedValue ("AllowedIPs = ".toList ++ cs) = some (' ' :: cs) := by
  rw [allowedValue_append ⟨'=', by decide, rfl⟩]
  rfl

theorem unbroken_key : ∀ c ∈ "AllowedIPs = ".toList, isLineTerminator c = false :=
  forall_mem_of_all (by decide)

theorem unbroken_rewriteRow (h : IsRow row) : ∀ c ∈ rewriteRow row, isLineTerminator c = false := by
  intro c hc
  rw [rewriteRow] at hc
  split at hc
  · next value hvalue =>
      obtain hc | hc := List.mem_append.mp hc
      · exact unbroken_key c hc
      · obtain hc | hc := mem_of_mem_splitDefaultRoutes hc
        · exact unbroken_of_allowedValue h hvalue c ((List.dropWhile_suffix _).subset hc)
        · exact hc
  · exact h.unbroken c hc

theorem mark_rewriteRow (h : IsRow row) (hrow : isEssential row = true) :
    ∃ c ∈ rewriteRow row, isMark c = true := by
  rw [rewriteRow]
  split
  · exact ⟨'=', by simp, rfl⟩
  · exact mark_of_isEssential h hrow

/-- A row that says something is rewritten on its own, up to its end. -/
theorem rewrite_row (h : IsRow row) (hrow : isEssential row = true) (hx : EndsRow x) :
    rewriteAllowedIps 0 true (row ++ x) = rewriteRow row ++ rewriteAllowedIps 0 false x := by
  have hmark := mark_of_isEssential h hrow
  rw [rewriteRow]
  split
  · next value hvalue =>
      obtain ⟨hdrop, hne⟩ := dropWhile_append_of_not_blank ((isEssential_iff.mp hrow).2 value hvalue) x
      have hmatch : allowedIpsAt (row ++ x) = some (value.dropWhile isSpace, x) := by
        rw [allowedIpsAt_eq, allowedValue_append hmark, hvalue]
        refine valueAt_of_dropWhile hdrop hne (fun c hc => ?_) hx
        exact unbroken_of_allowedValue h hvalue c ((List.dropWhile_suffix _).subset hc)
      rw [rewrite_of_some hmatch]
  · next hvalue =>
      have hnone : allowedIpsAt (row ++ x) = none := by
        rw [allowedIpsAt_eq, allowedValue_append hmark, hvalue]
        rfl
      rw [rewrite_of_none hnone, rewrite_append h.unbroken]

theorem rowsOf_rewrite_row (h : IsRow row) (hrow : isEssential row = true)
    (hnext : lineEnd = .crlf → allowedIpsAt cs = none) :
    rowsOf (rewriteAllowedIps 0 true (row ++ (lineEnd.chars ++ cs))) =
      rewriteRow row :: rowsOf (rewriteAllowedIps 0 true cs) := by
  have hfree : ¬(lineEnd = .crlf ∧ (allowedIpsAt cs).isSome = true) := by
    rintro ⟨hcrlf, hmatch⟩
    rw [hnext hcrlf] at hmatch
    cases hmatch
  rw [rewrite_row h hrow (endsRow_lineEnd lineEnd cs), rewrite_lineEnd, if_neg hfree,
    rowsOf_lineEnd (unbroken_rewriteRow h)]

/-- A row that no config text has: a visible one with a `\r` inside, or a mark in its value. -/
def Garbled (row : List Char) : Prop :=
  (allowedValue row = none ∧ isBlank row = false ∧ '\r' ∈ row) ∨
    ∃ value, allowedValue row = some value ∧ ∃ c ∈ value, isMark c = true

theorem garbled_rewrite_row (h : IsRow row) (hrow : isEssential row = true)
    (hnext : (allowedIpsAt cs).isSome = true) :
    ∃ other ∈ rowsOf (rewriteAllowedIps 0 true (row ++ (LineEnd.crlf.chars ++ cs))), Garbled other := by
  obtain ⟨⟨value, rest⟩, hmatch⟩ := Option.isSome_iff_exists.mp hnext
  obtain ⟨c, hc, hmark⟩ := mark_rewriteRow h hrow
  have hn : '\n' ∉ rewriteRow row ++ '\r' :: "AllowedIPs = ".toList := by
    intro hc
    obtain hc | hc := List.mem_append.mp hc
    · exact absurd (unbroken_rewriteRow h _ hc) (by decide)
    · exact absurd hc (by decide)
  have htext : rewriteAllowedIps 0 true (row ++ (LineEnd.crlf.chars ++ cs)) =
      (rewriteRow row ++ '\r' :: "AllowedIPs = ".toList) ++
        (splitDefaultRoutes value ++ rewriteAllowedIps 0 false rest) := by
    rw [rewrite_row h hrow (endsRow_lineEnd .crlf cs), rewrite_lineEnd, if_pos ⟨rfl, hnext⟩,
      rewrite_of_some hmatch]
    simp
  obtain ⟨w, hw⟩ := exists_rowsOf_append hn
    (splitDefaultRoutes value ++ rewriteAllowedIps 0 false rest)
  have hparts : withoutReturn (rewriteRow row ++ '\r' :: "AllowedIPs = ".toList ++ w) =
      rewriteRow row ++ ('\r' :: "AllowedIPs =".toList ++ withoutReturn (' ' :: w)) := by
    rw [← List.append_assoc, ← withoutReturn_append (List.cons_ne_nil _ _)]
    simp
  rw [hparts] at hw
  refine ⟨_, htext ▸ hw, ?_⟩
  have hvalue := allowedValue_append ⟨c, hc, hmark⟩ ('\r' :: "AllowedIPs =".toList ++ withoutReturn (' ' :: w))
  cases hfirst : allowedValue (rewriteRow row) with
  | none =>
      left
      exact ⟨by rw [hvalue, hfirst]; rfl, isBlank_of_mark ⟨c, List.mem_append_left _ hc, hmark⟩, by simp⟩
  | some front =>
      right
      refine ⟨_, by rw [hvalue, hfirst]; rfl, '=', by simp, rfl⟩

theorem garbled_of_swallowed (hmatch : allowedIpsAt cs = some (value, rest))
    (hvalue : ∀ c ∈ value, isLineTerminator c = false) (hmark : ∃ c ∈ value, isMark c = true) :
    ∃ other ∈ rowsOf (rewriteAllowedIps 0 true cs), Garbled other := by
  obtain ⟨c, hc, hmark⟩ := hmark
  have hn : '\n' ∉ "AllowedIPs = ".toList ++ splitDefaultRoutes value := by
    intro hc
    obtain hc | hc := List.mem_append.mp hc
    · exact absurd hc (by decide)
    · obtain hc | hc := mem_of_mem_splitDefaultRoutes hc
      · exact absurd (hvalue _ hc) (by decide)
      · exact absurd hc (by decide)
  have hshown : c ∈ splitDefaultRoutes value :=
    mem_splitDefaultRoutes (isBlockChar_of_isMark hmark) hc
  obtain ⟨w, hw⟩ := exists_rowsOf_append hn (rewriteAllowedIps 0 false rest)
  rw [List.append_assoc _ _ w, withoutReturn_append] at hw
  · refine ⟨_, (rewrite_of_some hmatch).symm ▸ hw, .inr ⟨_, allowedValue_rewritten _, c, ?_, hmark⟩⟩
    apply List.mem_cons_of_mem
    apply mem_withoutReturn
    · rintro rfl
      cases hmark
    · exact List.mem_append_left _ hshown
  · exact List.ne_nil_of_mem (List.mem_append_left _ hshown)

theorem isBlank_withoutReturn (h : isBlank row = true) : isBlank (withoutReturn row) = true := by
  rw [withoutReturn]
  split
  · rw [isBlank_iff] at h ⊢
    exact fun c hc => h c (List.dropLast_subset _ hc)
  · exact h

theorem isBlank_of_mem_splitChars {piece : List Char} (h : isBlank cs = true)
    (hpiece : piece ∈ splitChars '\n' cs) : isBlank piece = true := by
  rw [isBlank_iff] at h ⊢
  intro c hc
  have hn : c ≠ '\n' := ne_of_mem_of_not_mem hc (not_mem_of_mem_splitChars hpiece)
  exact h c ((mem_iff_splitChars hn).mpr ⟨piece, hpiece, hc⟩)

theorem isEssential_of_blank (h : isBlank row = true) : isEssential row = false := by
  rw [isEssential, h]
  rfl

theorem isEssential_of_value (h : allowedValue row = some value) (hblank : isBlank value = true) :
    isEssential row = false := by
  simp [isEssential, h, hblank]

theorem isEssential_of_append (hrow : ∀ c ∈ row, isLineTerminator c = false)
    (hvalue : allowedValue row = some value) (hblank : isBlank value = true) (hcs : isBlank cs = true) :
    ∀ other ∈ rowsOf (row ++ cs), isEssential other = false := by
  obtain ⟨hr, hn⟩ := not_mem_of_unbroken hrow
  obtain ⟨piece, pieces, hpieces, hall⟩ := splitChars_append_of_not_mem hn cs
  have hblanks : ∀ other ∈ piece :: pieces, isBlank other = true :=
    fun other hother => isBlank_of_mem_splitChars hcs (hpieces ▸ hother)
  rw [rowsOf, hall, List.map_cons]
  intro other hother
  obtain rfl | hother := List.mem_cons.mp hother
  · by_cases hempty : piece = []
    · rw [hempty, List.append_nil, withoutReturn_of_not_mem hr]
      exact isEssential_of_value hvalue hblank
    · have hend : isBlank (withoutReturn piece) = true :=
        isBlank_withoutReturn (hblanks piece List.mem_cons_self)
      have hlonger : allowedValue (row ++ withoutReturn piece) = some (value ++ withoutReturn piece) := by
        rw [allowedValue_append (mark_of_allowedValue hvalue), hvalue]
        rfl
      rw [withoutReturn_append hempty]
      apply isEssential_of_value hlonger
      rw [isBlank_append, hblank, hend]
      rfl
  · obtain ⟨other, hmem, rfl⟩ := List.mem_map.mp hother
    exact isEssential_of_blank (isBlank_withoutReturn (hblanks other (List.mem_cons_of_mem _ hmem)))

theorem valueAt_of_blank (h : isBlank cs = true) (hmatch : valueAt cs = some (value, rest)) :
    ∃ c, value = [c] ∧ isBlank (c :: rest) = true := by
  have hrest : isBlank rest = true := by
    rw [isBlank_iff] at h ⊢
    exact fun c hc => h c ((valueAt_suffix hmatch).subset hc)
  rw [valueAt, List.dropWhile_eq_nil_iff.mpr (isBlank_iff.mp h)] at hmatch
  dsimp only at hmatch
  split at hmatch
  · cases hmatch
  · next terminators c more hspan =>
      cases hmatch
      refine ⟨c, rfl, ?_⟩
      have hc : c ∈ cs := by
        rw [List.span_eq_takeWhile_dropWhile, Prod.mk.injEq] at hspan
        have hmem : c ∈ cs.reverse.dropWhile isLineTerminator := hspan.2 ▸ List.mem_cons_self
        exact List.mem_reverse.mp ((List.dropWhile_suffix _).subset hmem)
      rw [isBlank, List.all_cons, ← isBlank, hrest, isBlank_iff.mp h c hc]
      rfl

/-- **An empty value at the end.** The text goes on without anything that says something. -/
theorem isEssential_of_empty (h : IsRow row) (hvalue : allowedValue row = some value)
    (hblank : isBlank value = true) (hcs : isBlank cs = true) :
    ∀ other ∈ rowsOf (rewriteAllowedIps 0 true (row ++ cs)), isEssential other = false := by
  have hall : isBlank (value ++ cs) = true := by
    rw [isBlank_append, hblank, hcs]
    rfl
  have hat : allowedIpsAt (row ++ cs) = valueAt (value ++ cs) := by
    rw [allowedIpsAt_eq, allowedValue_append (mark_of_allowedValue hvalue), hvalue]
    rfl
  cases hmatch : valueAt (value ++ cs) with
  | none =>
      rw [rewrite_of_none (hat.trans hmatch), rewrite_append h.unbroken, rewrite_of_blank hcs]
      exact isEssential_of_append h.unbroken hvalue hblank hcs
  | some found =>
      obtain ⟨shown, rest⟩ := found
      obtain ⟨c, rfl, hrest⟩ := valueAt_of_blank hall hmatch
      have hsplit : isBlank [c] = true ∧ isBlank rest = true := by
        simpa [isBlank] using hrest
      rw [rewrite_of_some (hat.trans hmatch), splitDefaultRoutes_of_blank hsplit.1,
        rewrite_of_blank hsplit.2, List.append_assoc]
      have hempty : allowedValue "AllowedIPs = ".toList = some [' '] := rfl
      exact isEssential_of_append unbroken_key hempty rfl hrest

end

/-! ### All rows -/

/-- The rows are set apart: behind an empty value there is only white space, and no visible row ends with
`\r\n` where the pattern matches behind it. -/
def Separated (last : List Char) : List (List Char × LineEnd) → Prop
  | [] => True
  | (row, lineEnd) :: lines =>
      (∀ value, allowedValue row = some value → isBlank value = true →
        isBlank (joinLines lines last) = true) ∧
      (lineEnd = .crlf → isBlank row = false → allowedIpsAt (joinLines lines last) = none) ∧
      Separated last lines

section

variable {last : List Char} {lines : List (List Char × LineEnd)}

theorem isBlank_chars (lineEnd : LineEnd) : isBlank lineEnd.chars = true := by
  cases lineEnd <;> rfl

theorem isBlank_joinLines_cons (line : List Char × LineEnd) :
    isBlank (joinLines (line :: lines) last) = (isBlank line.1 && isBlank (joinLines lines last)) := by
  rw [joinLines_cons, isBlank_append, isBlank_append, isBlank_chars, Bool.true_and]

theorem isBlank_row_of_joinLines (hlines : ∀ line ∈ lines, ∀ c ∈ line.1, isLineTerminator c = false)
    (hlast : ∀ c ∈ last, isLineTerminator c = false) (h : isBlank (joinLines lines last) = true) :
    ∀ row ∈ lines.map Prod.fst ++ [last], isBlank row = true := by
  rw [← rowsOf_joinLines hlines hlast, rowsOf]
  intro row hrow
  obtain ⟨piece, hpiece, rfl⟩ := List.mem_map.mp hrow
  exact isBlank_withoutReturn (isBlank_of_mem_splitChars h hpiece)

theorem separated_of_blank (h : isBlank (joinLines lines last) = true) : Separated last lines := by
  induction lines with
  | nil => trivial
  | cons line lines ih =>
      rw [isBlank_joinLines_cons, Bool.and_eq_true] at h
      refine ⟨fun _ _ _ => h.2, fun _ hshown => ?_, ih h.2⟩
      rw [h.1] at hshown
      cases hshown

theorem exists_visible_row (hlines : ∀ line ∈ lines, IsRow line.1) (hlast : IsRow last)
    (h : isBlank (joinLines lines last) = false) :
    ∃ row x, (joinLines lines last).dropWhile isSpace = row.dropWhile isSpace ++ x ∧ IsRow row ∧
      isBlank row = false ∧ EndsRow x := by
  induction lines with
  | nil => exact ⟨last, [], by simp [joinLines], hlast, h, nofun⟩
  | cons line lines ih =>
      cases hrow : isBlank line.1 with
      | false =>
          refine ⟨line.1, _, ?_, hlines line List.mem_cons_self, hrow,
            endsRow_lineEnd line.2 (joinLines lines last)⟩
          rw [joinLines_cons, (dropWhile_append_of_not_blank hrow _).1]
      | true =>
          rw [isBlank_joinLines_cons, hrow, Bool.true_and] at h
          have hskip : (joinLines (line :: lines) last).dropWhile isSpace =
              (joinLines lines last).dropWhile isSpace := by
            rw [joinLines_cons, List.dropWhile_append_of_pos (isBlank_iff.mp hrow),
              List.dropWhile_append_of_pos (isBlank_iff.mp (isBlank_chars line.2))]
          rw [hskip]
          exact ih (fun other hother => hlines other (List.mem_cons_of_mem _ hother)) h

/-- **A row taken in.** Something visible behind an empty value becomes the value. -/
theorem garbled_of_empty {row value : List Char} (lineEnd : LineEnd)
    (hlines : ∀ line ∈ lines, IsRow line.1) (hlast : IsRow last)
    (hvalue : allowedValue row = some value) (hblank : isBlank value = true)
    (h : isBlank (joinLines lines last) = false) :
    ∃ other ∈ rowsOf (rewriteAllowedIps 0 true (row ++ (lineEnd.chars ++ joinLines lines last))),
      Garbled other := by
  obtain ⟨next, x, hnext, hrow, hshown, hx⟩ := exists_visible_row hlines hlast h
  have hmark : ∃ c ∈ next, isMark c = true := hrow.mark hshown
  have hunbroken : ∀ c ∈ next.dropWhile isSpace, isLineTerminator c = false :=
    fun c hc => hrow.unbroken c ((List.dropWhile_suffix _).subset hc)
  have hmatch : allowedIpsAt (row ++ (lineEnd.chars ++ joinLines lines last)) =
      some (next.dropWhile isSpace, x) := by
    rw [allowedIpsAt_eq, allowedValue_append (mark_of_allowedValue hvalue), hvalue]
    refine valueAt_of_dropWhile ?_ (dropWhile_append_of_not_blank hshown x).2 hunbroken hx
    rw [List.dropWhile_append_of_pos (isBlank_iff.mp hblank),
      List.dropWhile_append_of_pos (isBlank_iff.mp (isBlank_chars lineEnd)), hnext]
  exact garbled_of_swallowed hmatch hunbroken (dropWhile_append_of_mark hmark x).2

/-- Blank rows are passed over where the pattern matches behind them and stay elsewhere. -/
theorem rowsOf_rewrite_blank {row : List Char} (h : IsRow row) (hblank : isBlank row = true)
    (lineEnd : LineEnd) (cs : List Char) :
    rowsOf (rewriteAllowedIps 0 true (row ++ (lineEnd.chars ++ cs))) =
      (if (allowedIpsAt cs).isSome then [] else [row]) ++ rowsOf (rewriteAllowedIps 0 true cs) := by
  have hskip : allowedIpsAt (row ++ (lineEnd.chars ++ cs)) = allowedIpsAt cs := by
    rw [allowedIpsAt_append_of_blank hblank, allowedIpsAt_append_of_blank (isBlank_chars lineEnd)]
  by_cases hmatch : (allowedIpsAt cs).isSome = true
  · rw [if_pos hmatch, rewrite_eq_of_isSome hmatch hskip, List.nil_append]
  · rw [if_neg hmatch]
    rw [Bool.not_eq_true, Option.isSome_eq_false_iff, Option.isNone_iff_eq_none] at hmatch
    rw [rewrite_of_none (hskip.trans hmatch), rewrite_append h.unbroken, rewrite_lineEnd,
      if_neg (by simp [hmatch]), rowsOf_lineEnd h.unbroken]
    rfl

theorem row_cases (row : List Char) :
    isBlank row = true ∨ isEssential row = true ∨
      ∃ value, allowedValue row = some value ∧ isBlank value = true := by
  by_cases hblank : isBlank row = true
  · exact .inl hblank
  · by_cases hessential : isEssential row = true
    · exact .inr (.inl hessential)
    · rw [isEssential_iff] at hessential
      push Not at hessential
      obtain ⟨value, hvalue, hempty⟩ := hessential (Bool.not_eq_true _ ▸ hblank)
      exact .inr (.inr ⟨value, hvalue, Bool.not_eq_false _ ▸ hempty⟩)

theorem separated_of_rows (hlines : ∀ line ∈ lines, IsRow line.1) (hlast : IsRow last)
    (h : ∀ other ∈ rowsOf (rewriteAllowedIps 0 true (joinLines lines last)), ¬Garbled other) :
    Separated last lines := by
  induction lines with
  | nil => trivial
  | cons line lines ih =>
      obtain ⟨row, lineEnd⟩ := line
      have hrow : IsRow row := hlines (row, lineEnd) List.mem_cons_self
      have htail : ∀ line ∈ lines, IsRow line.1 :=
        fun other hother => hlines other (List.mem_cons_of_mem _ hother)
      rw [joinLines_cons] at h
      obtain hblank | hessential | ⟨value, hvalue, hblank⟩ := row_cases row
      · refine ⟨fun value hvalue => ?_, fun _ hshown => ?_, ih htail fun other hother => ?_⟩
        · rw [allowedValue_of_blank hblank] at hvalue
          cases hvalue
        · rw [hblank] at hshown
          cases hshown
        · rw [rowsOf_rewrite_blank hrow hblank] at h
          exact h other (List.mem_append_right _ hother)
      · have hnext : lineEnd = .crlf → allowedIpsAt (joinLines lines last) = none := by
          rintro rfl
          by_contra hsome
          obtain ⟨other, hother, hgarbled⟩ :=
            garbled_rewrite_row hrow hessential (Option.isSome_iff_ne_none.mpr hsome)
          exact h other hother hgarbled
        refine ⟨fun value hvalue hempty => ?_, fun hcrlf _ => hnext hcrlf, ih htail fun other hother => ?_⟩
        · rw [(isEssential_iff.mp hessential).2 value hvalue] at hempty
          cases hempty
        · rw [rowsOf_rewrite_row hrow hessential hnext] at h
          exact h other (List.mem_cons_of_mem _ hother)
      · have hrest : isBlank (joinLines lines last) = true := by
          by_contra hshown
          rw [Bool.not_eq_true] at hshown
          obtain ⟨other, hother, hgarbled⟩ := garbled_of_empty lineEnd htail hlast hvalue hblank hshown
          exact h other hother hgarbled
        refine ⟨fun _ _ _ => hrest, fun _ _ => ?_, separated_of_blank hrest⟩
        rw [allowedIpsAt_eq, allowedValue_of_blank hrest]
        rfl

theorem isEssential_rewriteRow {row : List Char} (h : IsRow row) (hrow : isEssential row = true) :
    isEssential (rewriteRow row) = true := by
  have hshown := isBlank_of_mark (mark_rewriteRow h hrow)
  rw [isEssential_iff] at hrow ⊢
  constructor
  · exact hshown
  · intro shown hshown
    rw [rewriteRow] at hshown
    split at hshown
    · next value hvalue =>
        rw [allowedValue_rewritten] at hshown
        cases hshown
        rw [Bool.eq_false_iff]
        intro hblank
        rw [isBlank, List.all_cons, Bool.and_eq_true, ← isBlank] at hblank
        have hdropped := isBlank_of_splitDefaultRoutes hblank.2
        have hempty : isBlank value = true := by
          rw [← List.takeWhile_append_dropWhile (p := isSpace) (l := value), isBlank_append, hdropped,
            isBlank_iff.mpr fun d hd => List.mem_takeWhile_imp hd]
          rfl
        rw [hrow.2 value hvalue] at hempty
        cases hempty
    · exact hrow.2 shown hshown

/-- **Rows set apart.** Each row that says something is rewritten on its own, in order, and no others say
anything. -/
theorem essential_rows (hlines : ∀ line ∈ lines, IsRow line.1) (hlast : IsRow last)
    (h : Separated last lines) :
    (rowsOf (rewriteAllowedIps 0 true (joinLines lines last))).filter isEssential =
      ((lines.map Prod.fst ++ [last]).filter isEssential).map rewriteRow := by
  induction lines with
  | nil =>
      have hjoin : joinLines [] last = last := rfl
      rw [hjoin, List.map_nil, List.nil_append]
      obtain hblank | hessential | ⟨value, hvalue, hblank⟩ := row_cases last
      · rw [rewrite_of_blank hblank, rowsOf_unbroken hlast.unbroken]
        simp [isEssential_of_blank hblank]
      · have hrewrite := rewrite_row hlast hessential (x := []) nofun
        rw [List.append_nil, rewriteAllowedIps, List.append_nil] at hrewrite
        rw [hrewrite, rowsOf_unbroken (unbroken_rewriteRow hlast)]
        simp [hessential, isEssential_rewriteRow hlast hessential]
      · have hnone := isEssential_of_empty hlast hvalue hblank (rfl : isBlank [] = true)
        rw [List.append_nil] at hnone
        rw [List.filter_eq_nil_iff.mpr fun other hother => by simp [hnone other hother]]
        simp [isEssential_of_value hvalue hblank]
  | cons line lines ih =>
      obtain ⟨row, lineEnd⟩ := line
      obtain ⟨hempty, hnext, hseparated⟩ := h
      have hrow : IsRow row := hlines (row, lineEnd) List.mem_cons_self
      have hrows : ∀ line ∈ lines, IsRow line.1 :=
        fun other hother => hlines other (List.mem_cons_of_mem _ hother)
      have hunbroken : ∀ line ∈ lines, ∀ c ∈ line.1, isLineTerminator c = false :=
        fun other hother => (hrows other hother).unbroken
      have htail := ih hrows hseparated
      rw [joinLines_cons, List.map_cons, List.cons_append]
      obtain hblank | hessential | ⟨value, hvalue, hblank⟩ := row_cases row
      · rw [rowsOf_rewrite_blank hrow hblank, List.filter_append, htail,
          List.filter_cons_of_neg (by simp [isEssential_of_blank hblank])]
        split <;> simp [isEssential_of_blank hblank]
      · have hshown := (isEssential_iff.mp hessential).1
        rw [rowsOf_rewrite_row hrow hessential fun hcrlf => hnext hcrlf hshown,
          List.filter_cons_of_pos (isEssential_rewriteRow hrow hessential), htail,
          List.filter_cons_of_pos hessential, List.map_cons]
      · have hrest := hempty value hvalue hblank
        have hbehind : isBlank (lineEnd.chars ++ joinLines lines last) = true := by
          rw [isBlank_append, isBlank_chars, hrest]
          rfl
        rw [List.filter_eq_nil_iff.mpr fun other hother => by
            simp [isEssential_of_empty hrow hvalue hblank hbehind other hother],
          List.filter_cons_of_neg (by simp [isEssential_of_value hvalue hblank]),
          List.filter_eq_nil_iff.mpr, List.map_nil]
        intro other hother
        rw [isEssential_of_blank (isBlank_row_of_joinLines hunbroken hlast.unbroken hrest other hother)]
        exact Bool.false_ne_true

end

end Failover.WindowsAwgTunnelService
