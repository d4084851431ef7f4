import Mathlib.Data.List.Infix
import Router1.Dart.Lines
import Router1.Failover.WindowsService

/-!
# What the service manager prints

`sc.exe query` prints one field in a line: a name in the language of the system, a colon, and a value that
starts with a number. `status` takes the service for running if a 4 alone stands behind some colon, or if
the word `RUNNING` stands somewhere. It does not look at the name of a field, so an exit code of 4 is taken
for the state as well. `Clear` says that nothing but the state can be taken for it.
-/

namespace Failover

open Dart

namespace WindowsAwgTunnelService

/-! ### The output -/

inductive ServiceState where
  | stopped
  | startPending
  | stopPending
  | running
  | continuePending
  | pausePending
  | paused
  deriving DecidableEq, Repr

namespace ServiceState

def code : ServiceState → Nat
  | stopped => 1
  | startPending => 2
  | stopPending => 3
  | running => 4
  | continuePending => 5
  | pausePending => 6
  | paused => 7

def name : ServiceState → String
  | stopped => "STOPPED"
  | startPending => "START_PENDING"
  | stopPending => "STOP_PENDING"
  | running => "RUNNING"
  | continuePending => "CONTINUE_PENDING"
  | pausePending => "PAUSE_PENDING"
  | paused => "PAUSED"

end ServiceState

/-- One field: its name, the white space behind the colon, the number, and what follows the number, which
may go on in lines without a colon. -/
structure ScField where
  name : List Char
  gap : List Char
  number : List Char
  rest : List Char
  name_unmarked : name.all (· != ':') = true := by decide
  gap_blank : gap.all isSpace = true := by decide
  number_visible : (!number.isEmpty && number.all fun c => c != ':' && !isSpace c) = true := by decide
  rest_unmarked : rest.all (· != ':') = true := by decide
  rest_apart : rest.head?.all isSpace = true := by decide

def ScField.chars (f : ScField) : List Char := f.name ++ ':' :: (f.gap ++ (f.number ++ f.rest))

/-- The field of the state: behind its code stand the name of the state and the controls it accepts. -/
structure StateField where
  name : List Char
  gap : List Char
  state : ServiceState
  separator : List Char
  controls : List Char
  name_unmarked : name.all (· != ':') = true := by decide
  gap_blank : gap.all isSpace = true := by decide
  separator_blank : (!separator.isEmpty && separator.all isSpace) = true := by decide
  controls_unmarked : controls.all (· != ':') = true := by decide
  controls_apart : controls.head?.all isSpace = true := by decide

namespace StateField

def rest (f : StateField) : List Char := f.separator ++ (f.state.name.toList ++ f.controls)

def toField (f : StateField) : ScField where
  name := f.name
  gap := f.gap
  number := (toString f.state.code).toList
  rest := f.rest
  name_unmarked := f.name_unmarked
  gap_blank := f.gap_blank
  number_visible := by cases f.state <;> decide
  rest_unmarked := by
    have hseparator := f.separator_blank
    have hname : f.state.name.toList.all (· != ':') = true := by cases f.state <;> decide
    have hspace : f.separator.all (· != ':') = true := by
      rw [Bool.and_eq_true, List.all_eq_true] at hseparator
      rw [List.all_eq_true]
      intro c hc
      have hblank := hseparator.2 c hc
      apply bne_iff_ne.mpr
      rintro rfl
      exact absurd hblank (by decide)
    rw [rest, List.all_append, List.all_append, hspace, hname, f.controls_unmarked]
    rfl
  rest_apart := by
    have hseparator := f.separator_blank
    rw [rest]
    cases hchars : f.separator with
    | nil =>
        rw [hchars] at hseparator
        cases hseparator
    | cons c cs =>
        rw [hchars, Bool.and_eq_true, List.all_eq_true] at hseparator
        exact hseparator.2 c List.mem_cons_self

end StateField

/-- The output about a service, with the field of its state somewhere among the others. -/
structure ServiceQuery where
  before : List (ScField × LineEnd)
  stateField : StateField
  lineEnd : LineEnd
  after : List (ScField × LineEnd)

namespace ServiceQuery

def others (q : ServiceQuery) : List (ScField × LineEnd) := q.before ++ q.after

def fields (q : ServiceQuery) : List (ScField × LineEnd) :=
  q.before ++ (q.stateField.toField, q.lineEnd) :: q.after

def chars (fields : List (ScField × LineEnd)) (last : List Char) : List Char :=
  joinLines (fields.map fun f => (f.1.chars, f.2)) last

def result (q : ServiceQuery) : ProcessResult where
  exitCode := 0
  stdout := String.ofList (chars q.fields [])
  stderr := ""

end ServiceQuery

/-! ### Upper case

The characters that upper case changes are letters before and after, so it moves no colon, no digit and no
white space. -/

section Upper

variable {c mark : Char}

theorem toNat_ofNat {n : Nat} (h : n < 0xD800) : (Char.ofNat n).toNat = n := by
  rw [Char.ofNat, dif_pos (.inl h)]
  rfl

/-- The letters that `upperChar` is about. -/
def IsCased (c : Char) : Prop :=
  0x41 ≤ c.toNat ∧ c.toNat ≤ 0x5A ∨ 0x61 ≤ c.toNat ∧ c.toNat ≤ 0x7A ∨ c.toNat = 0x131 ∨ c.toNat = 0x17F

theorem upperChar_cases (c : Char) : upperChar c = c ∨ IsCased c ∧ IsCased (upperChar c) := by
  unfold upperChar
  split_ifs with hlatin hdotless hlong
  · right
    simp only [Bool.and_eq_true, decide_eq_true_eq] at hlatin
    refine ⟨.inr (.inl hlatin), .inl ?_⟩
    rw [toNat_ofNat (by omega)]
    omega
  · exact .inr ⟨.inr (.inr (.inl hdotless)), .inl (by decide)⟩
  · exact .inr ⟨.inr (.inr (.inr hlong)), .inl (by decide)⟩
  · exact .inl rfl

theorem isSpace_of_isCased (h : IsCased c) : isSpace c = false := by
  unfold IsCased at h
  unfold isSpace Dart.isWhitespace
  simp only [Bool.and_eq_false_iff, Bool.or_eq_false_iff, beq_eq_false_iff_ne, decide_eq_false_iff_not,
    bne_eq_false_iff_eq]
  omega

theorem isSpace_upperChar (c : Char) : isSpace (upperChar c) = isSpace c := by
  rcases upperChar_cases c with hsame | ⟨hcased, hupper⟩
  · rw [hsame]
  · rw [isSpace_of_isCased hcased, isSpace_of_isCased hupper]

theorem upperChar_eq_iff (hmark : ¬IsCased mark) : upperChar c = mark ↔ c = mark := by
  rcases upperChar_cases c with hsame | ⟨hcased, hupper⟩
  · rw [hsame]
  · refine iff_of_false ?_ ?_
    · rintro rfl
      exact hmark hupper
    · rintro rfl
      exact hmark hcased

theorem upperChar_colon_iff : upperChar c = ':' ↔ c = ':' := upperChar_eq_iff (by unfold IsCased; decide)

theorem upperChar_four_iff : upperChar c = '4' ↔ c = '4' := upperChar_eq_iff (by unfold IsCased; decide)

end Upper

/-! ### The number 4 behind a colon -/

section Four

variable {a b cs : List Char} {c : Char}

theorem stateFourAt_of_ne (h : c ≠ ':') (cs : List Char) : stateFourAt (c :: cs) = false := by
  unfold stateFourAt
  split
  · next heq => exact absurd (List.cons.inj heq).1 h
  · rfl

theorem any_tails_append (h : a.all (· != ':') = true) (b : List Char) :
    (a ++ b).tails.any stateFourAt = b.tails.any stateFourAt := by
  induction a with
  | nil => rfl
  | cons c a ih =>
      rw [List.all_cons, Bool.and_eq_true, bne_iff_ne] at h
      rw [List.cons_append, List.tails_cons, List.any_cons, stateFourAt_of_ne h.1, Bool.false_or, ih h.2]

theorem stateFourAt_field (f : ScField) {c : Char} (hc : isSpace c = true) (cs : List Char) :
    stateFourAt (':' :: (f.gap ++ (f.number ++ (f.rest ++ c :: cs)))) = (f.number == ['4']) := by
  have hgap : ∀ c ∈ f.gap, isSpace c = true := List.all_eq_true.mp f.gap_blank
  have hvisible := f.number_visible
  cases hnumber : f.number with
  | nil =>
      rw [hnumber] at hvisible
      cases hvisible
  | cons d ds =>
      simp only [hnumber, List.isEmpty_cons, Bool.not_false, Bool.true_and, List.all_cons, Bool.and_eq_true,
        Bool.not_eq_true', bne_iff_ne] at hvisible
      obtain ⟨⟨-, hd⟩, hds⟩ := hvisible
      have hdrop : (f.gap ++ (d :: ds ++ (f.rest ++ c :: cs))).dropWhile isSpace =
          d :: (ds ++ (f.rest ++ c :: cs)) := by
        rw [List.dropWhile_append_of_pos hgap, List.cons_append, List.dropWhile_cons_of_neg (by simp [hd])]
      rw [stateFourAt, hdrop]
      by_cases hfour : d = '4'
      · subst hfour
        cases ds with
        | nil =>
            have hrest := f.rest_apart
            cases hchars : f.rest with
            | nil => simpa [hchars] using hc
            | cons e es => simpa [hchars] using hrest
        | cons e es =>
            simp only [List.all_cons, Bool.and_eq_true, Bool.not_eq_true'] at hds
            simpa using hds.1.2
      · split
        · next heq => exact absurd (List.cons.inj heq).1 hfour
        · simp [hfour]

theorem all_unmarked_value (f : ScField) : (f.gap ++ (f.number ++ f.rest)).all (· != ':') = true := by
  have hgap : f.gap.all (· != ':') = true := by
    rw [List.all_eq_true]
    intro c hc
    have hblank : isSpace c = true := List.all_eq_true.mp f.gap_blank c hc
    apply bne_iff_ne.mpr
    rintro rfl
    exact absurd hblank (by decide)
  have hnumber : f.number.all (· != ':') = true := by
    have hvisible := f.number_visible
    rw [Bool.and_eq_true, List.all_eq_true] at hvisible
    rw [List.all_eq_true]
    exact fun c hc => (Bool.and_eq_true_iff.mp (hvisible.2 c hc)).1
  rw [List.all_append, List.all_append, hgap, hnumber, f.rest_unmarked]
  rfl

theorem any_tails_field (f : ScField) (lineEnd : LineEnd) (cs : List Char) :
    (f.chars ++ (lineEnd.chars ++ cs)).tails.any stateFourAt =
      (f.number == ['4'] || cs.tails.any stateFourAt) := by
  obtain ⟨c, rest, hend, hc⟩ : ∃ c rest, lineEnd.chars = c :: rest ∧ isSpace c = true := by
    cases lineEnd with
    | lf => exact ⟨'\n', [], rfl, by decide⟩
    | crlf => exact ⟨'\r', ['\n'], rfl, by decide⟩
  have hbreaks : lineEnd.chars.all (· != ':') = true := by cases lineEnd <;> decide
  have hvalue := all_unmarked_value f
  rw [ScField.chars, List.append_assoc, any_tails_append f.name_unmarked, List.cons_append,
    List.tails_cons, List.any_cons, any_tails_append hvalue, any_tails_append hbreaks]
  simp only [List.append_assoc, hend, List.cons_append]
  rw [stateFourAt_field f hc]

theorem any_tails_fields (fields : List (ScField × LineEnd)) {last : List Char}
    (hlast : last.all (· != ':') = true) :
    (ServiceQuery.chars fields last).tails.any stateFourAt = fields.any (·.1.number == ['4']) := by
  induction fields with
  | nil =>
      have hnone := any_tails_append hlast []
      rw [List.append_nil] at hnone
      exact hnone
  | cons f fields ih =>
      rw [ServiceQuery.chars, List.map_cons, joinLines_cons, any_tails_field, List.any_cons]
      exact congrArg _ ih

/-- What `:\s*4\s+` asks of the characters behind the white space. -/
theorem stateFourAt_iff {c : Char} : stateFourAt (c :: cs) = true ↔
    c = ':' ∧ ∃ d ds, cs.dropWhile isSpace = '4' :: d :: ds ∧ isSpace d = true := by
  by_cases hc : c = ':'
  · subst hc
    rw [stateFourAt]
    split
    · next d ds heq => simp [heq]
    · next hother =>
        simp only [Bool.false_eq_true, true_and, false_iff, not_exists, not_and]
        exact fun d ds heq => absurd heq (hother d ds)
  · simp [stateFourAt_of_ne hc, hc]

theorem stateFourAt_map (cs : List Char) : stateFourAt (cs.map upperChar) = stateFourAt cs := by
  have hdrop : ∀ cs : List Char,
      (cs.map upperChar).dropWhile isSpace = (cs.dropWhile isSpace).map upperChar := by
    intro cs
    rw [List.dropWhile_map]
    congr 2
    funext c
    exact isSpace_upperChar c
  cases cs with
  | nil => rfl
  | cons c cs =>
      rw [Bool.eq_iff_iff, List.map_cons, stateFourAt_iff, stateFourAt_iff, upperChar_colon_iff, hdrop]
      apply and_congr_right
      intro _
      constructor
      · rintro ⟨d, ds, heq, hd⟩
        obtain ⟨four, others, hothers, hfour, hrest⟩ := List.map_eq_cons_iff.mp heq
        obtain ⟨e, es, rfl, rfl, -⟩ := List.map_eq_cons_iff.mp hrest
        rw [upperChar_four_iff] at hfour
        rw [isSpace_upperChar] at hd
        exact ⟨e, es, by rw [hothers, hfour], hd⟩
      · rintro ⟨d, ds, heq, hd⟩
        refine ⟨upperChar d, ds.map upperChar, ?_, ?_⟩
        · rw [heq]
          rfl
        · rw [isSpace_upperChar, hd]

theorem any_tails_map (cs : List Char) :
    (cs.map upperChar).tails.any stateFourAt = cs.tails.any stateFourAt := by
  rw [List.map_tails, List.any_map]
  congr 1
  funext rest
  exact stateFourAt_map rest

end Four

/-! ### The word -/

/-- The word stands somewhere in the text, in some case. -/
def saysRunning (cs : List Char) : Bool := hasRunning false (cs.map upperChar)

section Word

variable {a b cs : List Char} {c : Char}

/-- The word at the start, ended by what is no part of a word. -/
def runningAt (cs : List Char) : Bool :=
  "RUNNING".toList.isPrefixOf cs && !((cs.drop 7).head?.any isWord)

theorem runningAt_append (hc : isWord c = false) (a b : List Char) :
    runningAt (a ++ c :: b) = runningAt a := by
  have habsent : c ∉ "RUNNING".toList := by
    intro hmem
    have hall : ("RUNNING".toList.all fun c => isWord c) = true := by decide
    rw [List.all_eq_true.mp hall c hmem] at hc
    cases hc
  have hbegins : "RUNNING".toList.isPrefixOf (a ++ c :: b) = "RUNNING".toList.isPrefixOf a := by
    rw [Bool.eq_iff_iff, List.isPrefixOf_iff_prefix, List.isPrefixOf_iff_prefix,
      prefix_append_cons_iff habsent]
  unfold runningAt
  rw [hbegins]
  cases hstart : "RUNNING".toList.isPrefixOf a with
  | false => rfl
  | true =>
      have hlength : 7 ≤ a.length := (List.isPrefixOf_iff_prefix.mp hstart).length_le
      rw [List.drop_append_of_le_length hlength]
      cases a.drop 7 with
      | nil => simp [hc]
      | cons d ds => rfl

theorem hasRunning_cons (afterWord : Bool) (c : Char) (cs : List Char) :
    hasRunning afterWord (c :: cs) = (!afterWord && runningAt (c :: cs) || hasRunning (isWord c) cs) := by
  rw [hasRunning, runningAt, Bool.and_assoc]

/-- What is no part of a word separates the places where the word can stand. -/
theorem hasRunning_append (hc : isWord c = false) (afterWord : Bool) (a b : List Char) :
    hasRunning afterWord (a ++ c :: b) = (hasRunning afterWord a || hasRunning false b) := by
  induction a generalizing afterWord with
  | nil =>
      have hnone : runningAt (c :: b) = false := runningAt_append hc [] b
      rw [List.nil_append, hasRunning_cons, hnone, hc, Bool.and_false, Bool.false_or]
      rfl
  | cons d a ih =>
      have hsame : runningAt (d :: (a ++ c :: b)) = runningAt (d :: a) := runningAt_append hc (d :: a) b
      rw [List.cons_append, hasRunning_cons, hsame, ih, hasRunning_cons, Bool.or_assoc]

theorem saysRunning_append (hc : isWord (upperChar c) = false) (a b : List Char) :
    saysRunning (a ++ c :: b) = (saysRunning a || saysRunning b) := by
  unfold saysRunning
  rw [List.map_append, List.map_cons, hasRunning_append hc]

theorem saysRunning_cons (hc : isWord (upperChar c) = false) (b : List Char) :
    saysRunning (c :: b) = saysRunning b := saysRunning_append hc [] b

theorem isWord_of_isSpace (h : isSpace c = true) : isWord (upperChar c) = false := by
  rcases upperChar_cases c with hsame | ⟨hcased, -⟩
  · rw [hsame]
    unfold isSpace Dart.isWhitespace at h
    unfold isWord Dart.isDigit
    simp only [Bool.and_eq_true, Bool.or_eq_true, beq_iff_eq, decide_eq_true_eq, bne_iff_ne] at h
    simp only [Bool.or_eq_false_iff, Bool.and_eq_false_iff, decide_eq_false_iff_not, beq_eq_false_iff_ne]
    have hunderscore : c ≠ '_' := by
      rintro rfl
      simp at h
    have hzero : '0'.toNat = 48 := rfl
    have hnine : '9'.toNat = 57 := rfl
    rw [hzero, hnine]
    refine ⟨⟨⟨?_, hunderscore⟩, ?_⟩, ?_⟩ <;> omega
  · rw [isSpace_of_isCased hcased] at h
    cases h

theorem saysRunning_blank (ha : a.all isSpace = true) (b : List Char) :
    saysRunning (a ++ b) = saysRunning b := by
  induction a with
  | nil => rfl
  | cons c a ih =>
      rw [List.all_cons, Bool.and_eq_true] at ha
      rw [List.cons_append, saysRunning_cons (isWord_of_isSpace ha.1), ih ha.2]

/-- Two texts with white space between them, or with nothing behind the first one. -/
theorem saysRunning_apart (a : List Char) (hb : b.head?.all isSpace = true) :
    saysRunning (a ++ b) = (saysRunning a || saysRunning b) := by
  cases b with
  | nil =>
      rw [List.append_nil]
      exact (Bool.or_false _).symm
  | cons c cs =>
      have hc : isSpace c = true := hb
      rw [saysRunning_append (isWord_of_isSpace hc), saysRunning_cons (isWord_of_isSpace hc)]

theorem saysRunning_line (line : List Char) (lineEnd : LineEnd) (cs : List Char) :
    saysRunning (line ++ (lineEnd.chars ++ cs)) = (saysRunning line || saysRunning cs) := by
  cases lineEnd with
  | lf => exact saysRunning_append (by decide) line cs
  | crlf =>
      have hreturn : saysRunning (line ++ '\r' :: '\n' :: cs) = _ :=
        saysRunning_append (by decide) line ('\n' :: cs)
      have hfeed : saysRunning ('\n' :: cs) = saysRunning cs := saysRunning_cons (by decide) cs
      rw [hfeed] at hreturn
      exact hreturn

theorem saysRunning_fields (fields : List (ScField × LineEnd)) {last : List Char}
    (hlast : saysRunning last = false) :
    saysRunning (ServiceQuery.chars fields last) = fields.any fun f => saysRunning f.1.chars := by
  induction fields with
  | nil => exact hlast
  | cons f fields ih =>
      rw [ServiceQuery.chars, List.map_cons, joinLines_cons, saysRunning_line, List.any_cons]
      exact congrArg _ ih

theorem saysRunning_stateField (f : StateField) :
    saysRunning f.toField.chars =
      (saysRunning f.name || (f.state == .running || saysRunning f.controls)) := by
  have hseparator : f.separator.all isSpace = true := (Bool.and_eq_true_iff.mp f.separator_blank).2
  have hnumber : saysRunning (toString f.state.code).toList = false := by
    cases f.state <;> decide
  have hname : saysRunning f.state.name.toList = (f.state == .running) := by
    cases f.state <;> decide
  have hrest : f.rest.head?.all isSpace = true := f.toField.rest_apart
  show saysRunning (f.name ++ ':' :: (f.gap ++ ((toString f.state.code).toList ++ f.rest))) = _
  rw [saysRunning_append (by decide), saysRunning_blank f.gap_blank, saysRunning_apart _ hrest, hnumber, Bool.false_or,
    StateField.rest,
    saysRunning_blank hseparator, saysRunning_apart _ f.controls_apart, hname]

end Word

/-! ### The state and what can be taken for it -/

def takesForRunning (output : List Char) : Bool :=
  output.tails.any stateFourAt || hasRunning false output

theorem status_of_success {query : ProcessResult} (h : query.exitCode = 0) (stats : Int × Int) :
    status query stats =
      let connected :=
        takesForRunning ((query.stdout.toList ++ '\n' :: query.stderr.toList).map upperChar)
      ⟨connected, true, (if connected then stats else (0, 0)).1, (if connected then stats else (0, 0)).2⟩ := by
  rw [status, if_neg (by simp [h])]
  rfl

namespace ServiceQuery

variable {q : ServiceQuery}

/-- No other field has the number 4, and the word stands nowhere but as the name of the state. -/
structure Clear (q : ServiceQuery) : Prop where
  numbers : ∀ f ∈ q.others, f.1.number ≠ ['4']
  words : ∀ f ∈ q.others, saysRunning f.1.chars = false
  label : saysRunning q.stateField.name = false
  controls : saysRunning q.stateField.controls = false

theorem any_fields (p : ScField × LineEnd → Bool) :
    q.fields.any p = (p (q.stateField.toField, q.lineEnd) || q.others.any p) := by
  rw [fields, others, List.any_append, List.any_cons, List.any_append]
  ac_rfl

theorem connected_result (q : ServiceQuery) (stats : Int × Int) :
    (status q.result stats).connected =
      (q.fields.any (·.1.number == ['4']) || q.fields.any fun f => saysRunning f.1.chars) := by
  have houtput : q.result.stdout.toList ++ '\n' :: q.result.stderr.toList = chars q.fields ['\n'] := by
    simp [result, chars, joinLines]
  rw [status_of_success rfl, houtput]
  dsimp only
  rw [takesForRunning, any_tails_map, any_tails_fields _ (by decide)]
  exact congrArg _ (saysRunning_fields _ (by decide))

theorem code_eq_four_iff (q : ServiceQuery) :
    (q.stateField.toField.number == ['4']) = (q.stateField.state == .running) := by
  show ((toString q.stateField.state.code).toList == ['4']) = _
  cases q.stateField.state <;> decide

theorem clear_iff (q : ServiceQuery) :
    q.Clear ↔ ((q.others.any (·.1.number == ['4']) || q.others.any fun f => saysRunning f.1.chars) ||
      (saysRunning q.stateField.name || saysRunning q.stateField.controls)) = false := by
  simp only [Bool.or_eq_false_iff, List.any_eq_false, beq_iff_eq, Bool.not_eq_true]
  constructor
  · intro hclear
    exact ⟨⟨hclear.numbers, hclear.words⟩, hclear.label, hclear.controls⟩
  · rintro ⟨⟨hnumbers, hwords⟩, hlabel, hcontrols⟩
    exact ⟨hnumbers, hwords, hlabel, hcontrols⟩

theorem connected_iff (q : ServiceQuery) (stats : Int × Int) :
    (status q.result stats).connected = true ↔ q.stateField.state = .running ∨ ¬q.Clear := by
  have hparts : (status q.result stats).connected = (q.stateField.state == .running ||
      ((q.others.any (·.1.number == ['4']) || q.others.any fun f => saysRunning f.1.chars) ||
        (saysRunning q.stateField.name || saysRunning q.stateField.controls))) := by
    rw [connected_result, any_fields, any_fields, code_eq_four_iff, saysRunning_stateField]
    cases q.stateField.state == .running
    · simp only [Bool.false_or]
      ac_rfl
    · rfl
  rw [hparts, Bool.or_eq_true, beq_iff_eq, clear_iff, Bool.not_eq_false]

/-- **The state of the service.** `status` reports a connection exactly for a service in state 4, if and
only if the service is in that state or nothing else in the output can be taken for it. -/
theorem reads_state_iff (q : ServiceQuery) (stats : Int × Int) :
    ((status q.result stats).connected = true ↔ q.stateField.state.code = 4) ↔
      q.stateField.state.code = 4 ∨ q.Clear := by
  have hcode : q.stateField.state.code = 4 ↔ q.stateField.state = .running := by
    cases q.stateField.state <;> decide
  rw [connected_iff, hcode]
  tauto

theorem truthful {q : ServiceQuery} {service : TunnelService}
    (hstate : q.stateField.state = .running → ∃ config, service = .running config) (hclear : q.Clear) :
    Desktop.Truthful service q.result := by
  intro hconnected
  obtain hrunning | hunclear := (connected_iff q (0, 0)).mp hconnected
  · exact hstate hrunning
  · exact absurd hclear hunclear

/-! The tunnel's service has stopped with an exit code of its own. -/

def exitCode : ScField where
  name := "        SERVICE_EXIT_CODE  ".toList
  gap := " ".toList
  number := "4".toList
  rest := "  (0x4)".toList

def exitedWithFour : ServiceQuery where
  before :=
    [({ name := "\r\nSERVICE_NAME".toList
        gap := " ".toList
        number := "AmneziaWGTunnel$r1pc".toList
        rest := " ".toList }, .crlf),
      ({ name := "        TYPE               ".toList
         gap := " ".toList
         number := "10".toList
         rest := "  WIN32_OWN_PROCESS  ".toList }, .crlf)]
  stateField :=
    { name := "        STATE              ".toList
      gap := " ".toList
      state := .stopped
      separator := "  ".toList
      controls := " ".toList }
  lineEnd := .crlf
  after :=
    [({ name := "        WIN32_EXIT_CODE    ".toList
        gap := " ".toList
        number := "1066".toList
        rest := "  (0x42a)".toList }, .crlf),
      (exitCode, .crlf),
      ({ name := "        CHECKPOINT         ".toList
         gap := " ".toList
         number := "0x0".toList
         rest := [] }, .crlf),
      ({ name := "        WAIT_HINT          ".toList
         gap := " ".toList
         number := "0x0".toList
         rest := [] }, .crlf)]

theorem exit_code_taken_for_state :
    ¬∀ (q : ServiceQuery) (stats : Int × Int),
      (status q.result stats).connected = true ↔ q.stateField.state.code = 4 := by
  intro hclaim
  have hmember : (exitCode, .crlf) ∈ exitedWithFour.others :=
    List.mem_append_right _ (List.mem_cons_of_mem _ List.mem_cons_self)
  have hconnected : (status exitedWithFour.result (0, 0)).connected = true := by
    rw [connected_iff]
    exact .inr fun hclear => hclear.numbers _ hmember rfl
  exact absurd ((hclaim exitedWithFour (0, 0)).mp hconnected) (by decide)

end ServiceQuery

end WindowsAwgTunnelService

end Failover
