import Router1.Dart.Lines
import Router1.Dart.LinkedMap
import Router1.Keenetic.ConfigSections

/-!
# Writing a tunnel config

A config written as one `[Interface]` and one `[Peer]` section is read back, however it is laid out: the
fields of a section in any order and letter case, white space wherever it may stand, blank lines and comments
anywhere, and either kind of line end. The rows of such a text are a type of their own, and a text is what
its rows say, one after the other.
-/

namespace Keenetic

open Dart Api

/-! ### Rows -/

/-- One line of a config that is written down. -/
inductive Row where
  | blank (spaces : List Char)
  | comment (indent : List Char) (mark : Char) (text : List Char)
  | header (indent : List Char) (name : String) (trailing : List Char)
  | field (indent : List Char) (key : String) (before after : List Char) (value : String)
      (trailing : List Char)

/-- White space within a line. -/
def IsSpacing (cs : List Char) : Prop := ∀ c ∈ cs, isWhitespace c = true ∧ isBreak c = false

/-- A key that can be told from the rest of its line. -/
structure IsKey (key : String) : Prop where
  nonempty : key.toList ≠ []
  plain : ∀ c ∈ key.toList, c ≠ '=' ∧ isWhitespace c = false
  start : ∀ c ∈ key.toList.head?, c ≠ '#' ∧ c ≠ ';' ∧ c ≠ '['

structure IsValue (value : String) : Prop where
  trimmed : trim value = value
  oneLine : ∀ c ∈ value.toList, isBreak c = false

namespace Row

def chars : Row → List Char
  | blank spaces => spaces
  | comment indent mark text => indent ++ mark :: text
  | header indent name trailing => indent ++ ('[' :: name.toList ++ [']']) ++ trailing
  | field indent key before after value trailing =>
      indent ++ (key.toList ++ before ++ '=' :: (after ++ value.toList)) ++ trailing

/-- The row stands for what it is meant to. -/
def Ok : Row → Prop
  | blank spaces => IsSpacing spaces
  | comment indent mark text =>
      IsSpacing indent ∧ (mark = '#' ∨ mark = ';') ∧ ∀ c ∈ text, isBreak c = false
  | header indent name trailing =>
      IsSpacing indent ∧ IsSpacing trailing ∧ ∀ c ∈ name.toList, isBreak c = false
  | field indent key before after value trailing =>
      IsSpacing indent ∧ IsKey key ∧ IsSpacing before ∧ IsSpacing after ∧ IsValue value ∧
        IsSpacing trailing

def field? : Row → Option (String × String)
  | field _ key _ _ value _ => some (key, value)
  | _ => none

def isHeader : Row → Bool
  | header _ _ _ => true
  | _ => false

/-- What the parser makes of a row. -/
def line (lower : String → String) : Row → ConfigLine
  | blank _ | comment _ _ _ => .nothing
  | header _ name _ => .header (lower name)
  | field _ key _ _ value _ => .field (lower key) value

end Row

variable {lower : String → String} {cs : List Char}

theorem IsSpacing.whitespace (h : IsSpacing cs) : ∀ c ∈ cs, isWhitespace c = true := fun c hc => (h c hc).1

theorem IsSpacing.oneLine (h : IsSpacing cs) : ∀ c ∈ cs, isBreak c = false := fun c hc => (h c hc).2

theorem isBreak_of_visible {c : Char} (h : isWhitespace c = false) : isBreak c = false := by
  rw [isBreak, Bool.or_eq_false_iff, beq_eq_false_iff_ne, beq_eq_false_iff_ne]
  constructor
  · rintro rfl
    exact absurd h (by decide)
  · rintro rfl
    exact absurd h (by decide)

theorem Row.Ok.oneLine {row : Row} (h : row.Ok) : ∀ c ∈ row.chars, isBreak c = false := by
  intro c hc
  cases row with
  | blank spaces => exact IsSpacing.oneLine h c hc
  | comment indent mark text =>
      obtain ⟨hindent, hmark, htext⟩ := h
      simp only [Row.chars, List.mem_append, List.mem_cons] at hc
      obtain hc | rfl | hc := hc
      · exact hindent.oneLine c hc
      · obtain rfl | rfl := hmark <;> decide
      · exact htext c hc
  | header indent name trailing =>
      obtain ⟨hindent, htrailing, hname⟩ := h
      simp only [Row.chars, List.mem_append, List.mem_cons, List.not_mem_nil, or_false] at hc
      obtain (hc | (rfl | hc) | rfl) | hc := hc
      · exact hindent.oneLine c hc
      · decide
      · exact hname c hc
      · decide
      · exact htrailing.oneLine c hc
  | field indent key before after value trailing =>
      obtain ⟨hindent, hkey, hbefore, hafter, hvalue, htrailing⟩ := h
      simp only [Row.chars, List.mem_append, List.mem_cons] at hc
      obtain (hc | (hc | hc) | rfl | hc | hc) | hc := hc
      · exact hindent.oneLine c hc
      · exact isBreak_of_visible (hkey.plain c hc).2
      · exact hbefore.oneLine c hc
      · decide
      · exact hafter.oneLine c hc
      · exact hvalue.oneLine c hc
      · exact htrailing.oneLine c hc

/-! ### Reading a row -/

theorem trim_ofList (cs : List Char) : trim (String.ofList cs) = String.ofList (trimChars cs) := by
  rw [trim, String.toList_ofList]

theorem startsWith_mark {mark : String} {c first : Char} (hmark : mark.toList = [c]) (rest : List Char) :
    startsWith (String.ofList (first :: rest)) mark = (c == first) := by
  rw [startsWith, hmark, String.toList_ofList, List.isPrefixOf, List.isPrefixOf, Bool.and_true]

theorem not_isEmpty_ofList (first : Char) (rest : List Char) :
    (String.ofList (first :: rest)).isEmpty = false := by
  rw [String.isEmpty_eq_false_iff]
  intro h
  have hnil := congrArg String.toList h
  rw [String.toList_ofList] at hnil
  cases hnil

theorem readLine_field {first : Char} {before rest : List Char}
    (hstart : first ≠ '#' ∧ first ≠ ';' ∧ first ≠ '[')
    (hbefore : ∀ c ∈ first :: before, c ≠ '=') (htrimmed : trimChars cs = first :: (before ++ '=' :: rest)) :
    readLine lower (String.ofList cs) =
      .field (lower (trim (String.ofList (first :: before)))) (trim (String.ofList rest)) := by
  have hwhile : (first :: (before ++ '=' :: rest)).takeWhile (· != '=') = first :: before := by
    rw [← List.cons_append, List.takeWhile_append_of_pos fun c hc => by simpa using hbefore c hc]
    simp
  unfold readLine
  simp only [trim_ofList, htrimmed, not_isEmpty_ofList, Bool.false_or]
  rw [startsWith_mark (c := '#') rfl, startsWith_mark (c := ';') rfl, startsWith_mark (c := '[') rfl,
    beq_eq_false_iff_ne.mpr hstart.1.symm, beq_eq_false_iff_ne.mpr hstart.2.1.symm,
    beq_eq_false_iff_ne.mpr hstart.2.2.symm, Bool.false_or, if_neg Bool.false_ne_true, Bool.false_and,
    if_neg Bool.false_ne_true, String.toList_ofList, hwhile, if_neg (by simp)]
  simp

theorem readLine_blank {spaces : List Char} (h : IsSpacing spaces) :
    readLine lower (String.ofList spaces) = .nothing := by
  unfold readLine
  simp only [trim_ofList, trimChars_whitespace h.whitespace]
  rfl

theorem readLine_comment {indent text : List Char} {mark : Char} (hindent : IsSpacing indent)
    (hmark : mark = '#' ∨ mark = ';') :
    readLine lower (String.ofList (indent ++ mark :: text)) = .nothing := by
  have hvisible : isWhitespace mark = false := by obtain rfl | rfl := hmark <;> decide
  have htrimmed : trimChars (indent ++ mark :: text) = mark :: text.rdropWhile isWhitespace := by
    rw [← trimChars_cons hvisible, ← List.append_nil (indent ++ mark :: text)]
    exact trimChars_surrounded hindent.whitespace (by simp)
  unfold readLine
  simp only [trim_ofList, htrimmed]
  rw [startsWith_mark (c := '#') rfl, startsWith_mark (c := ';') rfl, if_pos]
  obtain rfl | rfl := hmark <;> simp

theorem readLine_header {indent trailing : List Char} {name : String} (hindent : IsSpacing indent)
    (htrailing : IsSpacing trailing) :
    readLine lower (String.ofList (indent ++ ('[' :: name.toList ++ [']']) ++ trailing)) =
      .header (lower name) := by
  have htrimmed : trimChars (indent ++ ('[' :: name.toList ++ [']']) ++ trailing) =
      '[' :: (name.toList ++ [']']) := by
    rw [trimChars_surrounded hindent.whitespace htrailing.whitespace, List.cons_append,
      trimChars_cons (by decide), rdropWhile_append_cons name.toList [] (by decide)]
    rfl
  have hlast : endsWith (String.ofList ('[' :: (name.toList ++ [']']))) "]" = true := by
    rw [endsWith, List.isSuffixOf_iff_suffix]
    exact ⟨'[' :: name.toList, String.toList_ofList.symm⟩
  unfold readLine
  simp only [trim_ofList, htrimmed, not_isEmpty_ofList, Bool.false_or, hlast, Bool.and_true,
    String.toList_ofList]
  rw [startsWith_mark (c := '#') rfl, startsWith_mark (c := ';') rfl, startsWith_mark (c := '[') rfl,
    if_neg (by decide), if_pos (by decide), List.drop_one, List.tail_cons, List.dropLast_concat,
    String.ofList_toList]

theorem trim_key {key : String} {before : List Char} (hkey : IsKey key) (hbefore : IsSpacing before) :
    trim (String.ofList (key.toList ++ before)) = key := by
  have hsurrounded : trimChars ([] ++ key.toList ++ before) = trimChars key.toList :=
    trimChars_surrounded (by simp) hbefore.whitespace
  rw [trim_ofList, ← List.nil_append key.toList, hsurrounded,
    trimChars_of_visible fun c hc => (hkey.plain c hc).2, String.ofList_toList]

theorem trim_value {value : String} {after : List Char} (hvalue : IsValue value) (hafter : IsSpacing after) :
    trim (String.ofList ((after ++ value.toList).rdropWhile isWhitespace)) = value := by
  have hsurrounded : trimChars (after ++ value.toList ++ []) = trimChars value.toList :=
    trimChars_surrounded hafter.whitespace (by simp)
  rw [trim_ofList, trimChars_rdropWhile, ← List.append_nil (after ++ value.toList), hsurrounded]
  exact hvalue.trimmed

theorem readLine_chars {row : Row} (h : row.Ok) :
    readLine lower (String.ofList row.chars) = row.line lower := by
  cases row with
  | blank spaces => exact readLine_blank h
  | comment indent mark text => exact readLine_comment h.1 h.2.1
  | header indent name trailing => exact readLine_header h.1 h.2.1
  | field indent key before after value trailing =>
      obtain ⟨hindent, hkey, hbefore, hafter, hvalue, htrailing⟩ := h
      obtain ⟨first, rest, hfirst⟩ := List.exists_cons_of_ne_nil hkey.nonempty
      have hvisible : isWhitespace first = false :=
        (hkey.plain first (by rw [hfirst]; exact List.mem_cons_self)).2
      have htrimmed : trimChars (Row.field indent key before after value trailing).chars =
          first :: ((rest ++ before) ++ '=' :: (after ++ value.toList).rdropWhile isWhitespace) := by
        rw [Row.chars, trimChars_surrounded hindent.whitespace htrailing.whitespace, hfirst,
          List.cons_append, List.cons_append, trimChars_cons hvisible,
          rdropWhile_append_cons _ _ (by decide)]
      have hplain : ∀ c ∈ first :: (rest ++ before), c ≠ '=' := by
        intro c hc
        rw [← List.cons_append, ← hfirst, List.mem_append] at hc
        obtain hc | hc := hc
        · exact (hkey.plain c hc).1
        · rintro rfl
          exact absurd (hbefore.whitespace '=' hc) (by decide)
      rw [readLine_field (hkey.start first (by rw [hfirst]; rfl)) hplain htrimmed, ← List.cons_append,
        ← hfirst, trim_key hkey hbefore, trim_value hvalue hafter]
      rfl

/-! ### A written config -/

/-- Fields under keys that differ in more than their letter case. -/
structure FieldMap (lower : String → String) where
  entries : List (String × String)
  keys : ∀ entry ∈ entries, IsKey entry.1
  values : ∀ entry ∈ entries, IsValue entry.2
  distinct : (entries.map fun entry => lower entry.1).Nodup

namespace FieldMap

/-- The fields under their keys in lower case. -/
def folded (fields : FieldMap lower) : List (String × String) :=
  fields.entries.map fun entry => (lower entry.1, entry.2)

/-- The field of this name, whatever its letter case. -/
def get? (fields : FieldMap lower) (name : String) : Option String := fields.folded.lookup name

/-- The same, empty when there is no such field. -/
def get (fields : FieldMap lower) (name : String) : String := (fields.get? name).getD ""

end FieldMap

/-- The fields of some rows, under their keys in lower case. -/
def fieldsOf (lower : String → String) (rows : List Row) : List (String × String) :=
  (rows.filterMap Row.field?).map fun field => (lower field.1, field.2)

/-- The rows of one section: the fields in any order and letter case, blank lines and comments. -/
structure RendersSection (fields : FieldMap lower) (rows : List Row) : Prop where
  ok : ∀ row ∈ rows, row.Ok
  headless : ∀ row ∈ rows, row.isHeader = false
  fields : (fieldsOf lower rows).Perm fields.folded

/-- Two sections, each under a header with its name, with blank lines and comments before them. -/
structure RendersInOrder (name : String) (fields : FieldMap lower) (name' : String)
    (fields' : FieldMap lower) (rows : List Row) : Prop where
  split : ∃ preamble indent title trailing section₁ indent' title' trailing' section₂,
    rows = preamble ++ Row.header indent title trailing :: section₁ ++
      Row.header indent' title' trailing' :: section₂ ∧
    (∀ row ∈ preamble, row.Ok ∧ row.isHeader = false ∧ row.field? = none) ∧
    (Row.header indent title trailing).Ok ∧ lower title = name ∧ RendersSection fields section₁ ∧
    (Row.header indent' title' trailing').Ok ∧ lower title' = name' ∧ RendersSection fields' section₂

/-- The rows of a text with their ends; the last row may have none. -/
structure Layout where
  rows : List (Row × LineEnd)
  last : Option Row

namespace Layout

def allRows (layout : Layout) : List Row := layout.rows.map Prod.fst ++ layout.last.toList

def text (layout : Layout) : String :=
  String.ofList (joinLines (layout.rows.map fun row => (row.1.chars, row.2))
    ((layout.last.map Row.chars).getD []))

end Layout

/-- The text is one `[Interface]` and one `[Peer]` section with these fields. -/
def Renders (iface peer : FieldMap lower) (text : String) : Prop :=
  ∃ layout : Layout, layout.text = text ∧
    (RendersInOrder "interface" iface "peer" peer layout.allRows ∨
      RendersInOrder "peer" peer "interface" iface layout.allRows)

/-! ### Its sections -/

theorem RendersInOrder.ok {name name' : String} {fields fields' : FieldMap lower} {rows : List Row}
    (h : RendersInOrder name fields name' fields' rows) : ∀ row ∈ rows, row.Ok := by
  obtain ⟨preamble, indent, title, trailing, section₁, indent', title', trailing', section₂, rfl,
    hpreamble, hheader, -, hsection, hheader', -, hsection'⟩ := h.split
  intro row hrow
  simp only [List.mem_append, List.mem_cons] at hrow
  obtain (hrow | rfl | hrow) | rfl | hrow := hrow
  · exact (hpreamble row hrow).1
  · exact hheader
  · exact hsection.ok row hrow
  · exact hheader'
  · exact hsection'.ok row hrow

theorem line_of_chars_nil {row : Row} (h : row.Ok) (hempty : row.chars = []) :
    row.line lower = .nothing := by
  rw [← readLine_chars h, hempty]
  exact readLine_blank (by simp [IsSpacing])

theorem readLines_joinLines {lines : List (List Char × LineEnd)} {last : List Char}
    (hlines : ∀ line ∈ lines, ∀ c ∈ line.1, isBreak c = false) (hlast : ∀ c ∈ last, isBreak c = false) :
    (lineSplitter (String.ofList (joinLines lines last))).map (readLine lower) =
      lines.map (fun line => readLine lower (String.ofList line.1)) ++
        if last.isEmpty then [] else [readLine lower (String.ofList last)] := by
  rw [lineSplitter, String.toList_ofList, linesOfChars_joinLines hlines hlast]
  cases last with
  | nil => simp [Function.comp_def]
  | cons c cs => simp [Function.comp_def]

theorem readLines_layout {rows : List (Row × LineEnd)} (hrows : ∀ row ∈ rows, row.1.Ok) {last : List Char}
    (hlast : ∀ c ∈ last, isBreak c = false) :
    (lineSplitter (String.ofList (joinLines (rows.map fun row => (row.1.chars, row.2)) last))).map
        (readLine lower) =
      (rows.map Prod.fst).map (Row.line lower) ++
        if last.isEmpty then [] else [readLine lower (String.ofList last)] := by
  have hread : (rows.map fun row => (row.1.chars, row.2)).map
      (fun line => readLine lower (String.ofList line.1)) = (rows.map Prod.fst).map (Row.line lower) := by
    rw [List.map_map, List.map_map]
    apply List.map_congr_left
    intro row hrow
    simp only [Function.comp_apply, readLine_chars (hrows row hrow)]
  have hlines : ∀ line ∈ rows.map (fun row => (row.1.chars, row.2)), ∀ c ∈ line.1, isBreak c = false := by
    intro line hline c hc
    obtain ⟨row, hrow, rfl⟩ := List.mem_map.mp hline
    exact (hrows row hrow).oneLine c hc
  rw [readLines_joinLines hlines hlast, hread]

theorem blocksOfText_layout (layout : Layout) (hok : ∀ row ∈ layout.allRows, row.Ok) :
    blocksOfText lower layout.text = blocksOf (layout.allRows.map (Row.line lower)) := by
  obtain ⟨rows, last⟩ := layout
  have hrows : ∀ row ∈ rows, row.1.Ok := fun row hrow =>
    hok row.1 (List.mem_append_left _ (List.mem_map_of_mem hrow))
  rw [Layout.allRows, List.map_append, blocksOfText, Layout.text]
  cases last with
  | none =>
      dsimp only [Option.map_none, Option.getD_none]
      rw [readLines_layout hrows (by simp)]
      rfl
  | some row =>
      have hrow : row.Ok := hok row (by simp [Layout.allRows])
      dsimp only [Option.map_some, Option.getD_some]
      rw [readLines_layout hrows hrow.oneLine, readLine_chars hrow]
      by_cases hempty : row.chars = []
      · rw [hempty, blocksOf, blocksOf, List.foldl_append, List.foldl_append, Option.toList_some,
          List.map_singleton, line_of_chars_nil hrow hempty]
        rfl
      · rw [if_neg (by simpa using hempty)]
        rfl

theorem foldl_addLine_rows {name : String} (hname : name.isEmpty = false) {rows : List Row}
    (hheadless : ∀ row ∈ rows, row.isHeader = false) (fields : Section) (rest : List (String × Section)) :
    (rows.map (Row.line lower)).foldl addLine ((name, fields) :: rest) =
      (name, (fieldsOf lower rows).foldl (fun fields field => put field.1 field.2 fields) fields) ::
        rest := by
  induction rows generalizing fields with
  | nil => rfl
  | cons row rows ih =>
      have hrest : ∀ other ∈ rows, other.isHeader = false :=
        fun other hother => hheadless other (List.mem_cons_of_mem row hother)
      cases row with
      | blank spaces => exact ih hrest fields
      | comment indent mark text => exact ih hrest fields
      | header indent title trailing => cases hheadless _ List.mem_cons_self
      | field indent key before after value trailing =>
          rw [List.map_cons, List.foldl_cons, Row.line, addLine, hname, if_neg Bool.false_ne_true,
            ih hrest]
          rfl

theorem foldl_addLine_preamble {rows : List Row}
    (h : ∀ row ∈ rows, row.Ok ∧ row.isHeader = false ∧ row.field? = none)
    (blocks : List (String × Section)) : (rows.map (Row.line lower)).foldl addLine blocks = blocks := by
  induction rows with
  | nil => rfl
  | cons row rows ih =>
      have hrest := ih fun other hother => h other (List.mem_cons_of_mem row hother)
      obtain ⟨-, hheader, hfield⟩ := h row List.mem_cons_self
      cases row with
      | blank spaces => exact hrest
      | comment indent mark text => exact hrest
      | header indent title trailing => cases hheader
      | field indent key before after value trailing => cases hfield

theorem lookup_foldl_put (assignments fields : Section) (key : String) :
    (assignments.foldl (fun fields field => put field.1 field.2 fields) fields).lookup key =
      (assignments.reverse.lookup key).or (fields.lookup key) := by
  induction assignments generalizing fields with
  | nil => rfl
  | cons field assignments ih =>
      rw [List.foldl_cons, ih, lookup_put, List.reverse_cons, List.lookup_append, lookup_cons_eq,
        List.lookup_nil, Option.or_assoc]
      by_cases hkey : key = field.1 <;> simp [hkey]

theorem RendersSection.lookup {fields : FieldMap lower} {rows : List Row} (h : RendersSection fields rows)
    (key : String) :
    ((fieldsOf lower rows).foldl (fun fields field => put field.1 field.2 fields) []).lookup key =
      fields.get? key := by
  have hfolded : (fields.folded.map Prod.fst).Nodup := by
    rw [FieldMap.folded, List.map_map]
    exact fields.distinct
  have hreversed : ((fieldsOf lower rows).reverse.map Prod.fst).Nodup :=
    ((((fieldsOf lower rows).reverse_perm.trans h.fields).map Prod.fst).nodup_iff).mpr hfolded
  rw [lookup_foldl_put, List.lookup_nil, Option.or_none, FieldMap.get?]
  refine Option.ext fun value => ?_
  rw [lookup_eq_some_iff_mem hreversed, lookup_eq_some_iff_mem hfolded, List.mem_reverse, h.fields.mem_iff]

/-- The two sections of a written config, the later one first. -/
theorem RendersInOrder.blocks {name name' : String} {fields fields' : FieldMap lower} {rows : List Row}
    (h : RendersInOrder name fields name' fields' rows) (hname : name.isEmpty = false)
    (hname' : name'.isEmpty = false) :
    ∃ first second, blocksOf (rows.map (Row.line lower)) = [(name', second), (name, first)] ∧
      (∀ key, first.lookup key = fields.get? key) ∧ ∀ key, second.lookup key = fields'.get? key := by
  obtain ⟨preamble, indent, title, trailing, section₁, indent', title', trailing', section₂, rfl,
    hpreamble, -, rfl, hsection, -, rfl, hsection'⟩ := h.split
  refine ⟨_, _, ?_, hsection.lookup, hsection'.lookup⟩
  rw [blocksOf, List.append_assoc, List.map_append, List.foldl_append, foldl_addLine_preamble hpreamble,
    List.cons_append, List.map_cons, List.foldl_cons, List.map_append, List.foldl_append, Row.line, addLine,
    foldl_addLine_rows hname hsection.headless, List.map_cons, List.foldl_cons, Row.line, addLine,
    foldl_addLine_rows hname' hsection'.headless]

/-- Of two sections with different names each is read for itself. -/
theorem lastValue_two {name name' : String} (hne : name ≠ name') (first second : Section) (key : String) :
    lastValue [(name', second), (name, first)] name key = first.lookup key ∧
      lastValue [(name', second), (name, first)] name' key = second.lookup key := by
  simp only [lastValue, List.findSome?_cons, List.findSome?_nil, if_neg hne, if_neg hne.symm, if_true]
  cases first.lookup key <;> cases second.lookup key <;> exact ⟨rfl, rfl⟩

theorem Renders.read {iface peer : FieldMap lower} {text : String} (h : Renders iface peer text) :
    ∃ readIface readPeer,
      ((lineSplitter text).foldl (parseLine lower) ⟨[], ""⟩).sections.lookup "interface" = some readIface ∧
      ((lineSplitter text).foldl (parseLine lower) ⟨[], ""⟩).sections.lookup "peer" = some readPeer ∧
      (∀ key, readIface.lookup key = iface.get? key) ∧ ∀ key, readPeer.lookup key = peer.get? key := by
  have hmirrors : Mirrors ((lineSplitter text).foldl (parseLine lower) ⟨[], ""⟩)
      (blocksOfText lower text) := mirrors_start.run (lineSplitter text)
  have hsections : (∃ block ∈ blocksOfText lower text, block.1 = "interface") ∧
      (∃ block ∈ blocksOfText lower text, block.1 = "peer") ∧
      (∀ key, lastValue (blocksOfText lower text) "interface" key = iface.get? key) ∧
      ∀ key, lastValue (blocksOfText lower text) "peer" key = peer.get? key := by
    obtain ⟨layout, rfl, horder | horder⟩ := h
    · obtain ⟨first, second, hblocks, hfirst, hsecond⟩ := horder.blocks (by decide) (by decide)
      have hvalues := lastValue_two (by decide : "interface" ≠ "peer") first second
      rw [blocksOfText_layout layout horder.ok, hblocks]
      refine ⟨⟨_, List.mem_cons_of_mem _ List.mem_cons_self, rfl⟩, ⟨_, List.mem_cons_self, rfl⟩,
        fun key => ?_, fun key => ?_⟩
      · rw [(hvalues key).1, hfirst]
      · rw [(hvalues key).2, hsecond]
    · obtain ⟨first, second, hblocks, hfirst, hsecond⟩ := horder.blocks (by decide) (by decide)
      have hvalues := lastValue_two (by decide : "peer" ≠ "interface") first second
      rw [blocksOfText_layout layout horder.ok, hblocks]
      refine ⟨⟨_, List.mem_cons_self, rfl⟩, ⟨_, List.mem_cons_of_mem _ List.mem_cons_self, rfl⟩,
        fun key => ?_, fun key => ?_⟩
      · rw [(hvalues key).2, hsecond]
      · rw [(hvalues key).1, hfirst]
  obtain ⟨hinterface, hpeer, hinterfaceValues, hpeerValues⟩ := hsections
  obtain ⟨readIface, hreadIface⟩ := Option.isSome_iff_exists.mp ((hmirrors.opened "interface").mpr hinterface)
  obtain ⟨readPeer, hreadPeer⟩ := Option.isSome_iff_exists.mp ((hmirrors.opened "peer").mpr hpeer)
  refine ⟨readIface, readPeer, hreadIface, hreadPeer, fun key => ?_, fun key => ?_⟩
  · rw [← hinterfaceValues, ← hmirrors.values, hreadIface]
    rfl
  · rw [← hpeerValues, ← hmirrors.values, hreadPeer]
    rfl

/-! ### Reading it back -/

/-- The details are those that were written. -/
structure Returns (iface peer : FieldMap lower) (details : AwgConfigDetails) : Prop where
  interfaceAddress : details.interfaceAddress = iface.get "address"
  dns : details.dns = iface.get "dns"
  endpoint : details.endpoint = peer.get "endpoint"
  allowedIps : details.allowedIps = peer.get "allowedips"
  persistentKeepalive : details.persistentKeepalive = peer.get "persistentkeepalive"
  hasAwgObfuscation : details.hasAwgObfuscation = true ↔ ∃ key ∈ awgKeys, (iface.get? key).isSome = true
  noAddress : "В конфиге нет Address." ∈ details.warnings ↔ iface.get "address" = ""
  noDns : "В конфиге нет DNS." ∈ details.warnings ↔ iface.get "dns" = ""
  noAllowedIps : "В конфиге нет AllowedIPs." ∈ details.warnings ↔ peer.get "allowedips" = ""
  noKeepalive : "PersistentKeepalive пустой; на мобильных сетях лучше 25-30." ∈ details.warnings ↔
    peer.get "persistentkeepalive" = ""

theorem mem_if_singleton {α : Type} {c : Prop} [Decidable c] {x y : α} :
    x ∈ (if c then [y] else []) ↔ c ∧ x = y := by
  split
  · next hc => simp [hc]
  · next hc => simp [hc]

/-- **Reading inverts writing.** A written config is refused exactly when the key of the interface, the key
of the peer or the endpoint is missing or empty, and what is returned otherwise is what was written. -/
theorem parseAwgConfig_renders {iface peer : FieldMap lower} {text : String} (h : Renders iface peer text) :
    ((∃ error, parseAwgConfigWith lower text = .error error) ↔
      iface.get "privatekey" = "" ∨ peer.get "publickey" = "" ∨ peer.get "endpoint" = "") ∧
    ∀ details, parseAwgConfigWith lower text = .ok details → Returns iface peer details := by
  obtain ⟨readIface, readPeer, hreadIface, hreadPeer, hiface, hpeer⟩ := h.read
  have hget : ∀ key, (readIface.lookup key).getD "" = iface.get key := fun key => by
    rw [hiface, FieldMap.get]
  have hgetPeer : ∀ key, (readPeer.lookup key).getD "" = peer.get key := fun key => by
    rw [hpeer, FieldMap.get]
  unfold parseAwgConfigWith parseConfigWith
  simp only [hreadIface, hreadPeer, hget, hgetPeer]
  split
  · next hmissing =>
      simp only [Bool.or_eq_true, String.isEmpty_iff, or_assoc] at hmissing
      exact ⟨iff_of_true ⟨_, rfl⟩ hmissing, nofun⟩
  · next hcomplete =>
      simp only [Bool.or_eq_true, String.isEmpty_iff, or_assoc] at hcomplete
      refine ⟨iff_of_false (fun ⟨error, herror⟩ => nomatch herror) hcomplete, ?_⟩
      intro details hdetails
      cases hdetails
      refine ⟨rfl, rfl, rfl, rfl, rfl, ?_, ?_, ?_, ?_, ?_⟩
      · simp only [List.any_eq_true, hiface]
      all_goals
        simp only [List.mem_append, mem_if_singleton, String.isEmpty_iff]
        simp

/-! A config with a key in another letter case, a comment, both kinds of line ends and no DNS. -/

theorem isKey_of_check {key : String}
    (hplain : (key.toList.all fun c => c != '=' && !isWhitespace c) = true)
    (hstart : (key.toList.head?.any fun c => c != '#' && c != ';' && c != '[') = true) : IsKey key where
  nonempty := by
    intro hnil
    rw [hnil] at hstart
    cases hstart
  plain := by simpa using hplain
  start := by
    intro c hc
    rw [Option.mem_def.mp hc] at hstart
    simpa [and_assoc] using hstart

theorem isValue_of_check {value : String} (htrimmed : trim value = value)
    (hline : (value.toList.all fun c => isBreak c == false) = true) : IsValue value :=
  ⟨htrimmed, forall_mem_of_all hline⟩

def writtenIface : FieldMap toLowerCase where
  entries := [("PrivateKey", "k="), ("Address", "10.8.0.2/32"), ("Jc", "4")]
  keys := by
    intro entry hentry
    simp only [List.mem_cons, List.not_mem_nil, or_false] at hentry
    obtain rfl | rfl | rfl := hentry <;> exact isKey_of_check (by decide) (by decide)
  values := by
    intro entry hentry
    simp only [List.mem_cons, List.not_mem_nil, or_false] at hentry
    obtain rfl | rfl | rfl := hentry <;> exact isValue_of_check (by decide) (by decide)
  distinct := by decide

def writtenPeer : FieldMap toLowerCase where
  entries := [("PublicKey", "a="), ("Endpoint", "213.176.93.13:51820"), ("AllowedIPs", "0.0.0.0/0")]
  keys := by
    intro entry hentry
    simp only [List.mem_cons, List.not_mem_nil, or_false] at hentry
    obtain rfl | rfl | rfl := hentry <;> exact isKey_of_check (by decide) (by decide)
  values := by
    intro entry hentry
    simp only [List.mem_cons, List.not_mem_nil, or_false] at hentry
    obtain rfl | rfl | rfl := hentry <;> exact isValue_of_check (by decide) (by decide)
  distinct := by decide

def plainField (key value : String) : Row := .field [] key [' '] [' '] value []

def writtenIfaceRows : List Row :=
  [plainField "address" "10.8.0.2/32", plainField "PRIVATEKEY" "k=", .comment [' '] '#' "obfuscation".toList,
    plainField "Jc" "4", .blank []]

def writtenPeerRows : List Row :=
  [plainField "PublicKey" "a=", plainField "AllowedIPs" "0.0.0.0/0",
    plainField "Endpoint" "213.176.93.13:51820"]

def writtenLayout : Layout where
  rows := (.comment [] ';' "Router1".toList, .lf) :: (.header [] "Interface" [' '], .crlf) ::
    writtenIfaceRows.map (·, .crlf) ++ (.header [] "peer" [], .lf) :: (writtenPeerRows.take 2).map (·, .lf)
  last := some (plainField "Endpoint" "213.176.93.13:51820")

theorem isSpacing_space : IsSpacing [' '] := by
  intro c hc
  rw [List.mem_singleton.mp hc]
  decide

theorem plainField_ok {key value : String} (hkey : IsKey key) (hvalue : IsValue value) :
    (plainField key value).Ok := ⟨nofun, hkey, isSpacing_space, isSpacing_space, hvalue, nofun⟩

theorem rendersSection_writtenIface : RendersSection writtenIface writtenIfaceRows where
  ok := by
    intro row hrow
    simp only [writtenIfaceRows, List.mem_cons, List.not_mem_nil, or_false] at hrow
    obtain rfl | rfl | rfl | rfl | rfl := hrow
    · exact plainField_ok (isKey_of_check (by decide) (by decide)) (isValue_of_check (by decide) (by decide))
    · exact plainField_ok (isKey_of_check (by decide) (by decide)) (isValue_of_check (by decide) (by decide))
    · exact ⟨isSpacing_space, .inl rfl, forall_mem_of_all (by decide)⟩
    · exact plainField_ok (isKey_of_check (by decide) (by decide)) (isValue_of_check (by decide) (by decide))
    · exact nofun
  headless := by decide
  fields := by decide +kernel

theorem rendersSection_writtenPeer : RendersSection writtenPeer writtenPeerRows where
  ok := by
    intro row hrow
    simp only [writtenPeerRows, List.mem_cons, List.not_mem_nil, or_false] at hrow
    obtain rfl | rfl | rfl := hrow <;>
      exact plainField_ok (isKey_of_check (by decide) (by decide)) (isValue_of_check (by decide) (by decide))
  headless := by decide
  fields := by decide +kernel

theorem written_config_returned :
    ∃ details, parseAwgConfigWith toLowerCase writtenLayout.text = .ok details ∧
      Returns writtenIface writtenPeer details ∧ "В конфиге нет DNS." ∈ details.warnings := by
  have hrenders : Renders writtenIface writtenPeer writtenLayout.text := by
    refine ⟨writtenLayout, rfl, .inl ⟨[.comment [] ';' "Router1".toList], [], "Interface", [' '],
      writtenIfaceRows, [], "peer", [], writtenPeerRows, rfl, ?_, ?_, by decide,
      rendersSection_writtenIface, ?_, by decide, rendersSection_writtenPeer⟩⟩
    · intro row hrow
      rw [List.mem_singleton.mp hrow]
      exact ⟨⟨nofun, .inr rfl, forall_mem_of_all (by decide)⟩, rfl, rfl⟩
    · exact ⟨nofun, isSpacing_space, forall_mem_of_all (by decide)⟩
    · exact ⟨nofun, nofun, forall_mem_of_all (by decide)⟩
  obtain ⟨hthrows, hreturns⟩ := parseAwgConfig_renders hrenders
  cases hparsed : parseAwgConfigWith toLowerCase writtenLayout.text with
  | error error => exact absurd (hthrows.mp ⟨error, hparsed⟩) (by decide)
  | ok details =>
      have hdetails := hreturns details hparsed
      exact ⟨details, rfl, hdetails, hdetails.noDns.mpr (by decide)⟩

end Keenetic
