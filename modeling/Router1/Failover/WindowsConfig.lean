import Mathlib.Data.List.Forall2
import Router1.Failover.WindowsRows

/-!
# The config that Windows gets

Whether the text that `_writeConfig` leaves means what the config meant: no allowed address is a default
route, every peer covers the same addresses, and all other rows are the same. It does if and only if the rows
are set apart, every default route is spelled such that its text is found, and the halves that replace the
default routes of a peer cover what these covered.
-/

namespace Failover.WindowsAwgTunnelService

open Dart Cidr

/-! ### What a text means -/

def isHeader (row : List Char) : Bool := (strip row).head? == some '['

def isPeerHeader (row : List Char) : Bool := (strip row).map lowerAscii == "[peer]".toList

/-- A row in front of others, of which the entries before the first section and those of each peer are
known. -/
def addRow (row : List Char) (read : List (List Char) × List (List (List Char))) :
    List (List Char) × List (List (List Char)) :=
  match allowedValue row with
  | some value => (entriesOf value ++ read.1, read.2)
  | none =>
      if isPeerHeader row then ([], read.1 :: read.2)
      else if isHeader row then ([], read.2)
      else read

/-- The entries of every peer. -/
def peersOf (rows : List (List Char)) : List (List (List Char)) := (rows.foldr addRow ([], [])).2

def otherRows (rows : List (List Char)) : List (List Char) :=
  rows.filter fun row => !isBlank row && (allowedValue row).isNone

structure KeepsMeaning (config text : String) : Prop where
  noDefault : ∀ row ∈ rowsOf text.toList, ∀ value, allowedValue row = some value →
    ∀ entry ∈ entriesOf value, ∃ block, Block.ofChars entry = some block ∧ block.length ≠ 0
  covered : List.Forall₂ (fun before after => ∀ a, Covered before a ↔ Covered after a)
    (peersOf (rowsOf config.toList)) (peersOf (rowsOf text.toList))
  others : otherRows (rowsOf text.toList) = otherRows (rowsOf config.toList)

example : peersOf (rowsOf "[Interface]\r\nDNS = 1.1.1.1\r\n[Peer]\r\nallowedips=10.0.0.0/8,::/0".toList) =
    [["10.0.0.0/8".toList, "::/0".toList]] := by decide +kernel

/-- A config text of lines that end with `\n` or `\r\n`, whose values of allowed addresses are empty or
blocks that commas separate. -/
structure ConfigText where
  lines : List (List Char × LineEnd)
  last : List Char
  isRow : ∀ line ∈ lines, IsRow line.1
  isRow_last : IsRow last

namespace ConfigText

def chars (c : ConfigText) : List Char := joinLines c.lines c.last

def text (c : ConfigText) : String := String.ofList c.chars

def rows (c : ConfigText) : List (List Char) := c.lines.map Prod.fst ++ [c.last]

/-- Every default route is spelled such that its text is found. -/
def Found (c : ConfigText) : Prop :=
  ∀ row ∈ c.rows, ∀ value, allowedValue row = some value → ∀ entry ∈ entriesOf value,
    ∀ block, Block.ofChars entry = some block → block.length = 0 → IsReplaced entry

/-- The halves that replace the default routes of a peer cover what these covered. -/
def Halved (c : ConfigText) : Prop := ∀ entries ∈ peersOf c.rows, ∀ half, KeepsHalf entries half

end ConfigText

/-! ### Rows that say something -/

section

variable {row value : List Char} {rows : List (List Char)}

theorem addRow_of_not_essential (h : isEssential row = false)
    (read : List (List Char) × List (List (List Char))) : addRow row read = read := by
  obtain hblank | hessential | ⟨value, hvalue, hempty⟩ := row_cases row
  · have hstrip : strip row = [] := by
      rw [strip, List.dropWhile_eq_nil_iff.mpr (isBlank_iff.mp hblank)]
      rfl
    rw [addRow, allowedValue_of_blank hblank]
    simp [isPeerHeader, isHeader, hstrip]
  · rw [h] at hessential
    cases hessential
  · rw [addRow, hvalue]
    simp [entriesOf, hempty]

theorem foldr_addRow_filter (rows : List (List Char)) (read : List (List Char) × List (List (List Char))) :
    (rows.filter isEssential).foldr addRow read = rows.foldr addRow read := by
  induction rows with
  | nil => rfl
  | cons row rows ih =>
      cases hrow : isEssential row with
      | true => rw [List.filter_cons_of_pos hrow, List.foldr_cons, List.foldr_cons, ih]
      | false =>
          rw [List.filter_cons_of_neg (by simp [hrow]), List.foldr_cons, ih,
            addRow_of_not_essential hrow]

theorem peersOf_filter (rows : List (List Char)) : peersOf (rows.filter isEssential) = peersOf rows := by
  rw [peersOf, foldr_addRow_filter, ← peersOf]

theorem otherRows_filter (rows : List (List Char)) :
    otherRows (rows.filter isEssential) = otherRows rows := by
  rw [otherRows, List.filter_filter, otherRows]
  apply List.filter_congr
  intro row _
  rw [isEssential]
  cases isBlank row with
  | true => rfl
  | false => cases allowedValue row <;> simp

theorem isEssential_of_entry {entry : List Char} (h : allowedValue row = some value)
    (hentry : entry ∈ entriesOf value) : isEssential row = true := by
  obtain hblank | hessential | ⟨other, hother, hempty⟩ := row_cases row
  · rw [allowedValue_of_blank hblank] at h
    cases h
  · exact hessential
  · rw [h] at hother
    cases hother
    rw [entriesOf, if_pos hempty] at hentry
    cases hentry

theorem rewriteRow_of_none (h : allowedValue row = none) : rewriteRow row = row := by
  rw [rewriteRow, h]

theorem allowedValue_rewriteRow (h : allowedValue row = some value) :
    allowedValue (rewriteRow row) = some (' ' :: splitDefaultRoutes (value.dropWhile isSpace)) := by
  rw [rewriteRow, h]
  exact allowedValue_rewritten _

theorem entriesOf_rewritten
    (h : ∀ entry ∈ entriesOf value, ∃ block, Block.ofChars entry = some block) :
    entriesOf (' ' :: splitDefaultRoutes (value.dropWhile isSpace)) =
      (entriesOf value).flatMap rewriteEntry := by
  have hspaces : isBlank (value.takeWhile isSpace) = true :=
    isBlank_iff.mpr fun c hc => List.mem_takeWhile_imp hc
  have hsame : entriesOf (value.dropWhile isSpace) = entriesOf value := by
    rw [← entriesOf_append hspaces, List.takeWhile_append_dropWhile]
  have hfirst : entriesOf (' ' :: splitDefaultRoutes (value.dropWhile isSpace)) =
      entriesOf (splitDefaultRoutes (value.dropWhile isSpace)) :=
    entriesOf_append (rfl : isBlank [' '] = true) _
  rw [hfirst, entriesOf_splitDefaultRoutes (hsame ▸ h), hsame]

theorem otherRows_map (rows : List (List Char)) : otherRows (rows.map rewriteRow) = otherRows rows := by
  induction rows with
  | nil => rfl
  | cons row rows ih =>
      simp only [otherRows] at ih ⊢
      cases hvalue : allowedValue row with
      | none => rw [List.map_cons, rewriteRow_of_none hvalue, List.filter_cons, List.filter_cons, ih]
      | some value =>
          rw [List.map_cons, List.filter_cons_of_neg (by simp [allowedValue_rewriteRow hvalue]), ih,
            List.filter_cons_of_neg (by simp [hvalue])]

theorem foldr_addRow_map (h : ∀ row ∈ rows, IsRow row) :
    (rows.map rewriteRow).foldr addRow ([], []) =
      ((rows.foldr addRow ([], [])).1.flatMap rewriteEntry,
        (rows.foldr addRow ([], [])).2.map (List.flatMap rewriteEntry)) := by
  induction rows with
  | nil => rfl
  | cons row rows ih =>
      rw [List.map_cons, List.foldr_cons, List.foldr_cons,
        ih fun other hother => h other (List.mem_cons_of_mem _ hother)]
      cases hvalue : allowedValue row with
      | none =>
          rw [rewriteRow_of_none hvalue, addRow, addRow, hvalue]
          dsimp only
          split
          · rfl
          · split <;> rfl
      | some value =>
          rw [addRow, allowedValue_rewriteRow hvalue, addRow, hvalue]
          dsimp only
          rw [entriesOf_rewritten ((h row List.mem_cons_self).blocks value hvalue), List.flatMap_append]

theorem exists_row_of_foldr {entry : List Char}
    (h : entry ∈ (rows.foldr addRow ([], [])).1 ∨ ∃ entries ∈ peersOf rows, entry ∈ entries) :
    ∃ row ∈ rows, ∃ value, allowedValue row = some value ∧ entry ∈ entriesOf value := by
  induction rows with
  | nil => simp [peersOf] at h
  | cons row rows ih =>
      have hrest : (entry ∈ (rows.foldr addRow ([], [])).1 ∨ ∃ entries ∈ peersOf rows, entry ∈ entries) →
          ∃ other ∈ row :: rows, ∃ value, allowedValue other = some value ∧ entry ∈ entriesOf value := by
        intro hread
        obtain ⟨other, hother, hvalue⟩ := ih hread
        exact ⟨other, List.mem_cons_of_mem _ hother, hvalue⟩
      rw [peersOf, List.foldr_cons] at h
      generalize hread : rows.foldr addRow ([], []) = read at h
      rw [peersOf, hread] at hrest
      rw [addRow] at h
      split at h
      · next value hvalue =>
          obtain hentry | hentries := h
          · obtain hentry | hentry := List.mem_append.mp hentry
            · exact ⟨row, List.mem_cons_self, value, hvalue, hentry⟩
            · exact hrest (.inl hentry)
          · exact hrest (.inr hentries)
      · split at h
        · obtain hentry | ⟨entries, hentries, hentry⟩ := h
          · cases hentry
          · obtain rfl | hentries := List.mem_cons.mp hentries
            · exact hrest (.inl hentry)
            · exact hrest (.inr ⟨entries, hentries, hentry⟩)
        · split at h
          · obtain hentry | hentries := h
            · cases hentry
            · exact hrest (.inr hentries)
          · exact hrest h

end

/-! ### Whole texts -/

namespace ConfigText

variable (c : ConfigText)

theorem rowsOf_chars : rowsOf c.chars = c.rows :=
  rowsOf_joinLines (fun line hline => (c.isRow line hline).unbroken) c.isRow_last.unbroken

theorem isRow_of_mem {row : List Char} (h : row ∈ c.rows) : IsRow row := by
  obtain h | h := List.mem_append.mp h
  · obtain ⟨line, hline, rfl⟩ := List.mem_map.mp h
    exact c.isRow line hline
  · rw [List.mem_singleton.mp h]
    exact c.isRow_last

/-- The rows of the rewritten text. -/
def written : List (List Char) := rowsOf (rewriteAllowedIps 0 true c.chars)

theorem keepsMeaning_iff :
    KeepsMeaning c.text (windowsConfig c.text) ↔
      (∀ row ∈ c.written, ∀ value, allowedValue row = some value →
        ∀ entry ∈ entriesOf value, ∃ block, Block.ofChars entry = some block ∧ block.length ≠ 0) ∧
      List.Forall₂ (fun before after => ∀ a, Covered before a ↔ Covered after a)
        (peersOf c.rows) (peersOf c.written) ∧
      otherRows c.written = otherRows c.rows := by
  have hconfig : c.text.toList = c.chars := String.toList_ofList
  have htext : (windowsConfig c.text).toList = rewriteAllowedIps 0 true c.chars := by
    rw [windowsConfig, String.toList_ofList, hconfig]
  constructor
  · rintro ⟨hnoDefault, hcovered, hothers⟩
    rw [htext] at hnoDefault hcovered hothers
    rw [hconfig, rowsOf_chars] at hcovered hothers
    exact ⟨hnoDefault, hcovered, hothers⟩
  · rintro ⟨hnoDefault, hcovered, hothers⟩
    refine ⟨?_, ?_, ?_⟩
    · rw [htext]
      exact hnoDefault
    · rw [htext, hconfig, rowsOf_chars]
      exact hcovered
    · rw [htext, hconfig, rowsOf_chars]
      exact hothers

variable {c}

theorem not_garbled (h : KeepsMeaning c.text (windowsConfig c.text)) :
    ∀ row ∈ c.written, ¬Garbled row := by
  obtain ⟨hnoDefault, -, hothers⟩ := (keepsMeaning_iff c).mp h
  rintro row hrow (⟨hvalue, hshown, hreturn⟩ | ⟨value, hvalue, mark, hmem, hmark⟩)
  · have hother : row ∈ otherRows c.written := by
      rw [otherRows, List.mem_filter, hshown, hvalue]
      exact ⟨hrow, rfl⟩
    rw [hothers, otherRows] at hother
    have hterminator := (c.isRow_of_mem (List.mem_of_mem_filter hother)).unbroken _ hreturn
    exact absurd hterminator (by decide)
  · have hblocks : ∀ entry ∈ entriesOf value, ∃ block, Block.ofChars entry = some block := by
      intro entry hentry
      obtain ⟨block, hblock, -⟩ := hnoDefault row hrow value hvalue entry hentry
      exact ⟨block, hblock⟩
    obtain rfl | hspace | hblock := isBlockChar_of_entries hblocks hmem
    · cases hmark
    · rw [isSpace_of_isMark hmark] at hspace
      cases hspace
    · rw [isBlockChar_of_isMark hmark] at hblock
      cases hblock

theorem written_essential (h : Separated c.last c.lines) :
    c.written.filter isEssential = (c.rows.filter isEssential).map rewriteRow :=
  essential_rows c.isRow c.isRow_last h

theorem isRow_of_essential {row : List Char} (h : row ∈ c.rows.filter isEssential) : IsRow row :=
  c.isRow_of_mem (List.mem_of_mem_filter h)

theorem otherRows_written (h : Separated c.last c.lines) : otherRows c.written = otherRows c.rows := by
  rw [← otherRows_filter c.written, written_essential h, otherRows_map, otherRows_filter]

theorem peersOf_written (h : Separated c.last c.lines) :
    peersOf c.written = (peersOf c.rows).map (List.flatMap rewriteEntry) := by
  rw [← peersOf_filter c.written, written_essential h, peersOf,
    foldr_addRow_map fun row hrow => isRow_of_essential hrow]
  exact congrArg _ (peersOf_filter c.rows)

theorem noDefault_iff (h : Separated c.last c.lines) :
    (∀ row ∈ c.written, ∀ value, allowedValue row = some value →
      ∀ entry ∈ entriesOf value, ∃ block, Block.ofChars entry = some block ∧ block.length ≠ 0) ↔
      c.Found := by
  constructor
  · intro hnoDefault row hrow value hvalue entry hentry block hblock
    have hblocks := (c.isRow_of_mem hrow).blocks value hvalue
    have hmem : rewriteRow row ∈ c.written := by
      have hessential : row ∈ c.rows.filter isEssential :=
        List.mem_filter.mpr ⟨hrow, isEssential_of_entry hvalue hentry⟩
      have hmapped := List.mem_map_of_mem (f := rewriteRow) hessential
      rw [← written_essential h] at hmapped
      exact List.mem_of_mem_filter hmapped
    refine (rewriteEntry_blocks hblock).2.mp fun e he b hb => ?_
    have hrewritten : e ∈ entriesOf (' ' :: splitDefaultRoutes (value.dropWhile isSpace)) := by
      rw [entriesOf_rewritten hblocks]
      exact List.mem_flatMap.mpr ⟨entry, hentry, he⟩
    obtain ⟨b', hb', hlength⟩ := hnoDefault _ hmem _ (allowedValue_rewriteRow hvalue) e hrewritten
    rw [hb] at hb'
    cases hb'
    exact hlength
  · intro hfound row hrow value hvalue entry hentry
    have hmapped : row ∈ (c.rows.filter isEssential).map rewriteRow := by
      rw [← written_essential h]
      exact List.mem_filter.mpr ⟨hrow, isEssential_of_entry hvalue hentry⟩
    obtain ⟨source, hsource, rfl⟩ := List.mem_map.mp hmapped
    have hsourceRow := List.mem_of_mem_filter hsource
    cases hfirst : allowedValue source with
    | none =>
        rw [rewriteRow_of_none hfirst, hfirst] at hvalue
        cases hvalue
    | some first =>
        have hblocks := (c.isRow_of_mem hsourceRow).blocks first hfirst
        rw [allowedValue_rewriteRow hfirst] at hvalue
        cases hvalue
        rw [entriesOf_rewritten hblocks] at hentry
        obtain ⟨old, hold, hnew⟩ := List.mem_flatMap.mp hentry
        obtain ⟨block, hblock⟩ := hblocks old hold
        obtain ⟨hblocksNew, hlengths⟩ := rewriteEntry_blocks hblock
        obtain ⟨b, hb⟩ := hblocksNew entry hnew
        exact ⟨b, hb, hlengths.mpr (hfound source hsourceRow first hfirst old hold block hblock) entry hnew b hb⟩

theorem covered_iff (h : Separated c.last c.lines) (hfound : c.Found) :
    List.Forall₂ (fun before after => ∀ a, Covered before a ↔ Covered after a)
      (peersOf c.rows) (peersOf c.written) ↔ c.Halved := by
  rw [peersOf_written h, List.forall₂_map_right_iff, List.forall₂_same]
  refine forall₂_congr fun entries hentries => covered_flatMap_iff (fun entry hentry => ?_)
    fun entry hentry block hblock hzero => ?_
  · obtain ⟨row, hrow, value, hvalue, hmem⟩ := exists_row_of_foldr (.inr ⟨entries, hentries, hentry⟩)
    exact (c.isRow_of_mem hrow).blocks value hvalue entry hmem
  · obtain ⟨row, hrow, value, hvalue, hmem⟩ := exists_row_of_foldr (.inr ⟨entries, hentries, hentry⟩)
    exact hfound row hrow value hvalue entry hmem block hblock hzero

end ConfigText

/-- **The text keeps its meaning** if and only if its rows are set apart, its default routes are found and
their halves cover what they covered. -/
theorem written_keeps_meaning_iff (c : ConfigText) {d t : Desktop} {changed : Bool}
    (hwrite : d.writeConfig c.text = .ok (t, changed)) :
    ∃ text, t.file = some text ∧
      (KeepsMeaning c.text text ↔ Separated c.last c.lines ∧ c.Found ∧ c.Halved) := by
  have hfile : t.file = some (windowsConfig c.text) := by
    rw [Desktop.writeConfig] at hwrite
    split at hwrite
    · cases hwrite
      rfl
    · cases hwrite
  refine ⟨windowsConfig c.text, hfile, ?_⟩
  constructor
  · intro hkeeps
    have hseparated : Separated c.last c.lines :=
      separated_of_rows c.isRow c.isRow_last (ConfigText.not_garbled hkeeps)
    obtain ⟨hnoDefault, hcovered, -⟩ := c.keepsMeaning_iff.mp hkeeps
    have hfound : c.Found := (ConfigText.noDefault_iff hseparated).mp hnoDefault
    exact ⟨hseparated, hfound, (ConfigText.covered_iff hseparated hfound).mp hcovered⟩
  · rintro ⟨hseparated, hfound, hhalved⟩
    exact c.keepsMeaning_iff.mpr ⟨(ConfigText.noDefault_iff hseparated).mpr hfound,
      (ConfigText.covered_iff hseparated hfound).mpr hhalved, ConfigText.otherRows_written hseparated⟩

/-! ### Two line ends -/

theorem isRow_iff {row : List Char} :
    IsRow row ↔ (row.all fun c => isLineTerminator c == false) = true ∧
      (isBlank row || row.any isMark) = true ∧
      ((allowedValue row).all fun value =>
        (entriesOf value).all fun entry => (Block.ofChars entry).isSome) = true := by
  constructor
  · intro h
    refine ⟨?_, ?_, ?_⟩
    · exact List.all_eq_true.mpr fun c hc => beq_iff_eq.mpr (h.unbroken c hc)
    · rw [Bool.or_eq_true, List.any_eq_true]
      exact h.marked
    · rw [Option.all_eq_true]
      intro value hvalue
      rw [List.all_eq_true]
      exact fun entry hentry => Option.isSome_iff_exists.mpr (h.blocks value hvalue entry hentry)
  · rintro ⟨hunbroken, hmarked, hblocks⟩
    rw [Bool.or_eq_true, List.any_eq_true] at hmarked
    rw [Option.all_eq_true] at hblocks
    refine ⟨forall_mem_of_all hunbroken, hmarked, fun value hvalue entry hentry => ?_⟩
    exact Option.isSome_iff_exists.mp (List.all_eq_true.mp (hblocks value hvalue) entry hentry)

instance (row : List Char) : Decidable (IsRow row) := decidable_of_iff _ isRow_iff.symm

instance (entry : List Char) : Decidable (IsReplaced entry) := inferInstanceAs (Decidable (_ ∨ _))

theorem separated_of_lf {last : List Char} {lines : List (List Char × LineEnd)}
    (h : ∀ line ∈ lines, line.2 = .lf ∧ ∀ value ∈ allowedValue line.1, isBlank value = false) :
    Separated last lines := by
  induction lines with
  | nil => trivial
  | cons line lines ih =>
      obtain ⟨hlf, hvalues⟩ := h line List.mem_cons_self
      refine ⟨fun value hvalue hblank => ?_, fun hcrlf _ => ?_,
        ih fun other hother => h other (List.mem_cons_of_mem _ hother)⟩
      · rw [hvalues value hvalue] at hblank
        cases hblank
      · rw [hlf] at hcrlf
        cases hcrlf

def homeConfig (lineEnd : LineEnd) : ConfigText where
  lines := [("[Interface]".toList, lineEnd), ("PrivateKey = k".toList, lineEnd),
    ("[Peer]".toList, lineEnd), ("AllowedIPs = 0.0.0.0/0, ::/0".toList, lineEnd)]
  last := "Endpoint = a:1".toList
  isRow := by cases lineEnd <;> decide +kernel
  isRow_last := by decide +kernel

theorem writeConfig_homeConfig (lineEnd : LineEnd) :
    Desktop.fresh.writeConfig (homeConfig lineEnd).text =
      .ok ({ Desktop.fresh with file := some (windowsConfig (homeConfig lineEnd).text) }, true) := by
  have haccepts : accepts (homeConfig lineEnd).text = true := by cases lineEnd <;> decide +kernel
  rw [Desktop.writeConfig, if_pos haccepts]
  rfl

theorem homeConfig_found : (homeConfig .lf).Found := by
  have h : ∀ row ∈ (homeConfig .lf).rows, ∀ value ∈ allowedValue row, ∀ entry ∈ entriesOf value,
      ∀ block ∈ Block.ofChars entry, block.length = 0 → IsReplaced entry := by decide +kernel
  exact h

theorem homeConfig_halved : (homeConfig .lf).Halved := by
  have hpeers : peersOf (homeConfig .lf).rows = [["0.0.0.0/0".toList, "::/0".toList]] := by decide +kernel
  have hhalves : ∀ family ∈ [InternetAddressType.ipv4, .ipv6], ∀ upper ∈ [false, true],
      (∃ entry ∈ ["0.0.0.0/0".toList, "::/0".toList], ∃ block ∈ Block.ofChars entry,
        block.length = 0 ∧ block.address.family = family) ∧
      ∃ entry ∈ ["0.0.0.0/0".toList, "::/0".toList], ∃ block ∈ Block.ofChars entry,
        block.length = 0 ∧ Half.mk family upper ∈ halvesOf entry block.address := by decide +kernel
  intro entries hentries half
  rw [hpeers, List.mem_singleton] at hentries
  rw [hentries]
  obtain ⟨hwhole, hreplaced⟩ := hhalves half.family (by cases half.family <;> decide) half.upper
    (by cases half.upper <;> decide)
  exact .inr (iff_of_true hwhole hreplaced)

theorem lf_config_keeps_meaning :
    ∃ t text, Desktop.fresh.writeConfig (homeConfig .lf).text = .ok (t, true) ∧ t.file = some text ∧
      KeepsMeaning (homeConfig .lf).text text := by
  obtain ⟨text, hfile, hiff⟩ := written_keeps_meaning_iff (homeConfig .lf) (writeConfig_homeConfig .lf)
  have hseparated : Separated (homeConfig .lf).last (homeConfig .lf).lines :=
    separated_of_lf (by decide +kernel)
  exact ⟨_, text, writeConfig_homeConfig .lf, hfile,
    hiff.mpr ⟨hseparated, homeConfig_found, homeConfig_halved⟩⟩

/-- With `\r\n` the header of the peer and its addresses become one line. -/
theorem crlf_config_loses_meaning :
    ¬∀ (c : ConfigText) (d t : Desktop) (changed : Bool), d.writeConfig c.text = .ok (t, changed) →
      ∀ text, t.file = some text → KeepsMeaning c.text text := by
  intro hall
  have hkeeps := hall (homeConfig .crlf) _ _ _ (writeConfig_homeConfig .crlf) _ rfl
  exact absurd hkeeps.others (by decide +kernel)

end Failover.WindowsAwgTunnelService
