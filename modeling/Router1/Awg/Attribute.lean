import Router1.Awg.Platform

/-!
# Lines and their values

`Attribute` takes a line apart into a key and a value, a value into fields, and puts fields together.
`Integer.parseInt` reads a number. In a text whose blanks are all `\s`, which is every text without control
characters and without blanks beyond ASCII, trimming a line and stripping a value are the same.
-/

namespace Awg

open Dart Text

variable (P : Platform)

/-- `Integer.parseInt` of the digits after a sign. -/
def parseDigits (cs : List Char) : Option Nat :=
  if cs.isEmpty then none
  else (cs.mapM P.digit).map fun digits => digits.foldl (fun value d => 10 * value + d) 0

/-- `Integer.parseInt` before it looks at the size. -/
def signedValue (cs : List Char) : Option Int :=
  match cs with
  | '-' :: rest => (parseDigits P rest).map fun n => -Int.ofNat n
  | '+' :: rest => (parseDigits P rest).map Int.ofNat
  | _ => (parseDigits P cs).map Int.ofNat

def parseInt (cs : List Char) : Option Int :=
  (signedValue P cs).filter fun value => -2147483648 ≤ value && value ≤ 2147483647

/-- The text of a number that is not negative. -/
def decimal (n : Nat) : List Char := Nat.toDigits 10 n

structure Attribute where
  key : List Char
  value : List Char
  deriving DecidableEq

namespace Attribute

/-- `parse`: the match of `(\w+)\s*=\s*(.*?)\s*$`, which is unique because `=` is neither `\w` nor `\s`. -/
def parse (line : List Char) : Option Attribute :=
  match (line.dropWhile P.word).dropWhile P.space with
  | '=' :: tail =>
      if line.takeWhile P.word ≠ [] ∧ (strip P.space tail).all P.dot then
        some ⟨line.takeWhile P.word, strip P.space tail⟩
      else none
  | _ => none

/-- `split`: the matches of `\s*,\s*` are left out, and so are empty texts at the end. -/
def split (value : List Char) : List (List Char) := splitFields P.space ',' value

def join : List (List Char) → List Char
  | [] => []
  | value :: values => value ++ values.flatMap fun next => ", ".toList ++ next

end Attribute

section Numbers

variable {P}

theorem mapM_digit {cs : List Char} (h : ∀ c ∈ cs, isDigit c = true) :
    cs.mapM P.digit = some (cs.map fun c => c.toNat - '0'.toNat) := by
  induction cs with
  | nil => rfl
  | cons c cs ih =>
      obtain ⟨hc, hcs⟩ := List.forall_mem_cons.mp h
      rw [List.mapM_cons, P.digit_ascii c hc, ih hcs]
      rfl

theorem decimal_ne_nil (n : Nat) : decimal n ≠ [] := List.ne_nil_of_length_pos Nat.length_toDigits_pos

theorem parseDigits_decimal (n : Nat) : parseDigits P (decimal n) = some n := by
  have hdigits : ∀ c ∈ decimal n, isDigit c = true := fun c hc => isDigit_digit hc
  rw [parseDigits, if_neg (by simpa using decimal_ne_nil n), mapM_digit hdigits, Option.map_some, List.foldl_map]
  exact congrArg some (digitsValue_toDigits n)

theorem signedValue_digit {c : Char} (cs : List Char) (h : isDigit c = true) :
    signedValue P (c :: cs) = (parseDigits P (c :: cs)).map Int.ofNat := by
  rw [signedValue]
  · rintro rest heq
    rw [(List.cons.inj heq).1] at h
    revert h
    decide
  · rintro rest heq
    rw [(List.cons.inj heq).1] at h
    revert h
    decide

theorem parseInt_decimal {n : Nat} (h : n < 2147483648) : parseInt P (decimal n) = some (n : Int) := by
  obtain ⟨c, cs, hcs⟩ := List.exists_cons_of_ne_nil (decimal_ne_nil n)
  have hc : isDigit c = true := isDigit_digit (n := n) (by rw [← decimal, hcs]; exact List.mem_cons_self)
  rw [parseInt, hcs, signedValue_digit cs hc, ← hcs, parseDigits_decimal, Option.map_some,
    Option.filter_some_pos (by simp; omega)]
  rfl

end Numbers

section Lines

variable {P} {name value line : List Char}

/-- A character that stays in its line and is a blank of both kinds or of none. -/
structure Inline (P : Platform) (c : Char) : Prop where
  comment : c ≠ '#'
  unbroken : isBreak c = false
  dot : P.dot c = true
  blank : P.space c = blank c

theorem Visible.blank {c : Char} (h : Visible c) : blank c = false := by
  simp only [Awg.blank, decide_eq_false_iff_not]
  have := h.1
  omega

theorem Visible.inline {c : Char} (h : Visible c) (hc : c ≠ '#') : Inline P c where
  comment := hc
  unbroken := by
    have hlow := h.1
    rw [isBreak, Bool.or_eq_false_iff, beq_eq_false_iff_ne, beq_eq_false_iff_ne]
    constructor
    · rintro rfl
      revert hlow
      decide
    · rintro rfl
      revert hlow
      decide
  dot := P.dot_visible c h
  blank := by rw [P.space_visible c h, h.blank]

theorem inline_blank : Inline P ' ' where
  comment := by decide
  unbroken := by decide
  dot := P.dot_blank
  blank := by
    rw [P.space_blank]
    rfl

/-- On the characters of a line it does not matter which blanks are stripped. -/
theorem strip_space_eq (h : ∀ c ∈ value, Inline P c) : strip P.space value = trim value :=
  strip_congr fun c hc => (h c hc).blank

/-- The key of a printed line. -/
structure IsName (P : Platform) (name : List Char) : Prop where
  ne_nil : name ≠ []
  visible : ∀ c ∈ name, Visible c
  word : ∀ c ∈ name, P.word c = true

def lineOf (name value : List Char) : List Char := name ++ (" = ".toList ++ value)

theorem trim_lineOf (hname : IsName P name) (value : List Char) :
    trim (lineOf name value) = name ++ ' ' :: '=' :: (' ' :: value).rdropWhile blank := by
  have hequals : blank '=' = false := by decide
  have hfirst : (name ++ [' ']).dropWhile blank = name ++ [' '] := by
    obtain ⟨c, rest, rfl⟩ := List.exists_cons_of_ne_nil hname.ne_nil
    rw [List.cons_append, List.dropWhile_cons_of_neg]
    rw [(hname.visible c List.mem_cons_self).blank]
    exact Bool.false_ne_true
  have hline : lineOf name value = (name ++ [' ']) ++ '=' :: (' ' :: value) := by
    rw [lineOf, List.append_assoc]
    rfl
  rw [hline, trim, strip_append_cons hequals, hfirst, List.append_assoc]
  rfl

theorem parse_key (hname : IsName P name) (tail : List Char) (hdot : ∀ c ∈ strip P.space tail, P.dot c = true) :
    Attribute.parse P (name ++ ' ' :: '=' :: tail) = some ⟨name, strip P.space tail⟩ := by
  have hequals : P.space '=' = false := P.space_visible '=' (by decide)
  have hkey : (name ++ ' ' :: '=' :: tail).takeWhile P.word = name := by
    rw [List.takeWhile_append_of_pos hname.word, List.takeWhile_cons_of_neg (by simp [P.word_blank])]
    exact List.append_nil name
  have hrest : ((name ++ ' ' :: '=' :: tail).dropWhile P.word).dropWhile P.space = '=' :: tail := by
    rw [List.dropWhile_append_of_pos hname.word, List.dropWhile_cons_of_neg (by simp [P.word_blank]),
      List.dropWhile_cons_of_pos P.space_blank, List.dropWhile_cons_of_neg (by simp [hequals])]
  rw [Attribute.parse, hrest]
  simp only [hkey]
  rw [if_pos ⟨hname.ne_nil, List.all_eq_true.mpr hdot⟩]

/-- **A printed line.** It is read as its key and its value. -/
theorem parse_lineOf (hname : IsName P name) (hvalue : ∀ c ∈ value, Inline P c) :
    Attribute.parse P (trim (lineOf name value)) = some ⟨name, strip P.space value⟩ := by
  have hinline : ∀ c ∈ ' ' :: value, Inline P c := List.forall_mem_cons.mpr ⟨inline_blank, hvalue⟩
  have htail : strip P.space ((' ' :: value).rdropWhile blank) = strip P.space value := by
    rw [strip_space_eq fun c hc => hinline c ((List.rdropWhile_prefix _ _).mem hc), trim, strip_rdropWhile,
      ← trim, ← strip_space_eq hinline]
    exact strip_prepend (by simpa using P.space_blank : ∀ c ∈ [' '], P.space c = true)
  rw [trim_lineOf hname, parse_key hname, htail]
  rw [htail]
  exact fun c hc => (hvalue c (mem_of_mem_strip hc)).dot

theorem parse_spec {a : Attribute} (h : Attribute.parse P line = some a) :
    Stripped P.space a.value ∧ (∀ c ∈ a.value, c ∈ line ∧ P.dot c = true) := by
  rw [Attribute.parse] at h
  split at h
  next tail hrest =>
    split at h
    next hgood =>
      cases h
      refine ⟨stripped_strip tail, fun c hc => ⟨?_, List.all_eq_true.mp hgood.2 c hc⟩⟩
      have htail : c ∈ '=' :: tail := List.mem_cons_of_mem _ (mem_of_mem_strip hc)
      rw [← hrest] at htail
      exact (List.dropWhile_suffix _).mem ((List.dropWhile_suffix _).mem htail)
    next => cases h
  next => cases h

theorem join_eq (values : List (List Char)) : Attribute.join values = joinFields ',' ' ' values := by
  rcases values with _ | ⟨value, values⟩
  · rfl
  induction values generalizing value with
  | nil =>
      rw [Attribute.join, List.flatMap_nil, List.append_nil]
      exact List.intercalate_singleton.symm
  | cons next values ih =>
      rw [joinFields_cons, ← ih next, Attribute.join, Attribute.join, List.flatMap_cons, List.append_assoc]
      rfl

/-- Values that are joined in a line can be told apart in it. -/
structure IsField (P : Platform) (value : List Char) : Prop where
  comma : ',' ∉ value
  stripped : Stripped P.space value
  inline : ∀ c ∈ value, Inline P c

theorem inline_join {values : List (List Char)} (h : ∀ value ∈ values, IsField P value) :
    ∀ c ∈ Attribute.join values, Inline P c := by
  have hcomma : Inline P ',' := Visible.inline (by decide) (by decide)
  rcases values with _ | ⟨value, values⟩
  · exact List.forall_mem_nil _
  obtain ⟨hvalue, hvalues⟩ := List.forall_mem_cons.mp h
  intro c hc
  rw [Attribute.join, List.mem_append, List.mem_flatMap] at hc
  rcases hc with hc | ⟨next, hnext, hc⟩
  · exact hvalue.inline c hc
  · rcases List.mem_append.mp hc with hc | hc
    · have hmark : c = ',' ∨ c = ' ' := by simpa using hc
      rcases hmark with rfl | rfl
      · exact hcomma
      · exact inline_blank
    · exact (hvalues next hnext).inline c hc

/-- **A printed list.** -/
theorem split_join {values : List (List Char)} (hne : values ≠ []) (h : ∀ value ∈ values, IsField P value) :
    Attribute.split P (strip P.space (Attribute.join values)) = kept values := by
  rw [Attribute.split, join_eq]
  exact splitFields_joinFields (P.space_visible ',' (by decide)) P.space_blank hne
    fun x hx => ⟨(h x hx).comma, (h x hx).stripped⟩

end Lines

end Awg
