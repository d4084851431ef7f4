import Mathlib.Algebra.Group.Int.Defs
import Router1.Dart.Json
import Router1.Dart.LinkedMap

/-!
# JSON as text

`jsonEncode` and `jsonDecode`, on the characters of a text. The encoder writes no white space, escapes
quotes, backslashes and control characters, and has no text for a number that is not finite. The decoder
accepts the whole grammar. A whole number that does not fit into 64 bits is read as a double; what double
a literal stands for is a parameter. Half of a surrogate pair, which an escape can stand for, is no
character here and is refused.

The main result is that the decoder reads back what the encoder writes, for values without doubles whose
maps hold no key twice.
-/

namespace Dart

/-! ### The encoder -/

/-- A hexadecimal digit, in lower case. -/
def hexDigit (n : Nat) : Char := if n < 10 then Char.ofNat (48 + n) else Char.ofNat (87 + n)

/-- A character inside a quoted text. -/
def escapeChar (c : Char) : List Char :=
  if c = '"' then ['\\', '"']
  else if c = '\\' then ['\\', '\\']
  else if c = '\x08' then ['\\', 'b']
  else if c = '\t' then ['\\', 't']
  else if c = '\n' then ['\\', 'n']
  else if c = '\x0c' then ['\\', 'f']
  else if c = '\r' then ['\\', 'r']
  else if c.toNat < 32 then ['\\', 'u', '0', '0', hexDigit (c.toNat / 16), hexDigit (c.toNat % 16)]
  else [c]

/-- A text between quotes. -/
def quoteChars (s : String) : List Char := '"' :: (s.toList.flatMap escapeChar ++ ['"'])

namespace Json

mutual

def encodeChars : Json → List Char
  | null => ['n', 'u', 'l', 'l']
  | bool true => ['t', 'r', 'u', 'e']
  | bool false => ['f', 'a', 'l', 's', 'e']
  | int value => (toString value).toList
  | double value => value.text.toList
  | str value => quoteChars value
  | arr items => '[' :: (encodeItems items ++ [']'])
  | obj fields => '{' :: (encodeFields fields ++ ['}'])

def encodeItems : List Json → List Char
  | [] => []
  | [item] => encodeChars item
  | item :: items => encodeChars item ++ ',' :: encodeItems items

def encodeFields : List (String × Json) → List Char
  | [] => []
  | [(key, value)] => quoteChars key ++ ':' :: encodeChars value
  | (key, value) :: fields => quoteChars key ++ ':' :: (encodeChars value ++ ',' :: encodeFields fields)

end

mutual

/-- No number in the value is infinite. -/
def isFinite : Json → Bool
  | double value => value.toInt.isSome
  | arr items => finiteItems items
  | obj fields => finiteFields fields
  | _ => true

def finiteItems : List Json → Bool
  | [] => true
  | item :: items => item.isFinite && finiteItems items

def finiteFields : List (String × Json) → Bool
  | [] => true
  | (_, value) :: fields => value.isFinite && finiteFields fields

end

end Json

/-- `jsonEncode`, which throws on a number that is not finite. -/
def jsonEncode (value : Json) : Option String :=
  if value.isFinite then some (String.ofList value.encodeChars) else none

/-! ### The decoder -/

def isJsonSpace (c : Char) : Bool := c = ' ' || c = '\t' || c = '\n' || c = '\r'

def skipSpace (cs : List Char) : List Char := cs.dropWhile isJsonSpace

def hexValue (c : Char) : Option Nat :=
  let n := c.toNat
  if 48 ≤ n ∧ n ≤ 57 then some (n - 48)
  else if 97 ≤ n ∧ n ≤ 102 then some (n - 87)
  else if 65 ≤ n ∧ n ≤ 70 then some (n - 55)
  else none

/-- The code unit of four hexadecimal digits. -/
def unitValue (a b c d : Char) : Option Nat := do
  let a ← hexValue a
  let b ← hexValue b
  let c ← hexValue c
  let d ← hexValue d
  some (((a * 16 + b) * 16 + c) * 16 + d)

/-- The character of an escape that has a letter of its own. -/
def unescapeChar (c : Char) : Option Char :=
  if c = '"' ∨ c = '\\' ∨ c = '/' then some c
  else if c = 'b' then some '\x08'
  else if c = 't' then some '\t'
  else if c = 'n' then some '\n'
  else if c = 'f' then some '\x0c'
  else if c = 'r' then some '\r'
  else none

/-- The escape after a backslash; a pair of surrogates takes two. -/
def readEscape : List Char → Option (Char × List Char)
  | 'u' :: a :: b :: c :: d :: rest => do
      let high ← unitValue a b c d
      if 0xD800 ≤ high ∧ high < 0xDC00 then
        match rest with
        | '\\' :: 'u' :: a :: b :: c :: d :: rest => do
            let low ← unitValue a b c d
            if 0xDC00 ≤ low ∧ low < 0xE000 then
              some (Char.ofNat (0x10000 + (high - 0xD800) * 0x400 + (low - 0xDC00)), rest)
            else none
        | _ => none
      else if 0xDC00 ≤ high ∧ high < 0xE000 then none
      else some (Char.ofNat high, rest)
  | c :: rest => (unescapeChar c).map fun value => (value, rest)
  | [] => none

/-- A quoted text from behind its first quote on. -/
def readChars : Nat → List Char → Option (List Char × List Char)
  | 0, _ => none
  | _ + 1, [] => none
  | fuel + 1, c :: rest =>
      if c = '"' then some ([], rest)
      else if c = '\\' then do
        let (value, rest) ← readEscape rest
        let (values, rest) ← readChars fuel rest
        some (value :: values, rest)
      else if c.toNat < 32 then none
      else do
        let (values, rest) ← readChars fuel rest
        some (c :: values, rest)

def readQuoted (cs : List Char) : Option (String × List Char) :=
  (readChars (cs.length + 1) cs).map fun read => (String.ofList read.1, read.2)

def isNumberChar (c : Char) : Bool :=
  isDigit c || c = '-' || c = '+' || c = '.' || c = 'e' || c = 'E'

/-- Digits without a leading zero. -/
def isWhole : List Char → Bool
  | [] => false
  | c :: cs => isDigit c && cs.all isDigit && (cs.isEmpty || c != '0')

def isDigits (cs : List Char) : Bool := !cs.isEmpty && cs.all isDigit

def withoutSign : List Char → List Char
  | '-' :: cs => cs
  | cs => cs

/-- The value of a literal without fraction and exponent. -/
def intLiteral (cs : List Char) : Option Int :=
  if isWhole (withoutSign cs) then
    some (if cs.head? = some '-' then -(digitsValue (withoutSign cs) : Int)
      else digitsValue (withoutSign cs))
  else none

def isDoubleLiteral (cs : List Char) : Bool :=
  let mantissa := (withoutSign cs).takeWhile fun c => c != 'e' && c != 'E'
  let exponent := (withoutSign cs).dropWhile fun c => c != 'e' && c != 'E'
  let fraction := mantissa.dropWhile (· != '.')
  isWhole (mantissa.takeWhile (· != '.')) &&
    (fraction.isEmpty || isDigits (fraction.drop 1)) &&
    (exponent.isEmpty || isDigits (exponent.drop 1) ||
      (['+', '-'].contains ((exponent.drop 1).headD '0') && isDigits (exponent.drop 2)))

def fitsInt64 (value : Int) : Bool := -2 ^ 63 ≤ value && value < 2 ^ 63

section

variable (parseDouble : String → Double)

def readNumber (cs : List Char) : Option (Json × List Char) :=
  let literal := cs.takeWhile isNumberChar
  let rest := cs.dropWhile isNumberChar
  match intLiteral literal with
  | some value =>
      some (if fitsInt64 value then .int value else .double (parseDouble (String.ofList literal)), rest)
  | none =>
      if isDoubleLiteral literal then some (.double (parseDouble (String.ofList literal)), rest) else none

mutual

/-- A value at the head of a text, and the rest of the text. -/
def readValue : Nat → List Char → Option (Json × List Char)
  | 0, _ => none
  | fuel + 1, cs =>
      match skipSpace cs with
      | '{' :: rest =>
          match skipSpace rest with
          | '}' :: rest => some (.obj [], rest)
          | rest => (readFields fuel [] rest).map fun read => (.obj read.1, read.2)
      | '[' :: rest =>
          match skipSpace rest with
          | ']' :: rest => some (.arr [], rest)
          | rest => (readItems fuel rest).map fun read => (.arr read.1, read.2)
      | '"' :: rest => (readQuoted rest).map fun read => (.str read.1, read.2)
      | 'n' :: 'u' :: 'l' :: 'l' :: rest => some (.null, rest)
      | 't' :: 'r' :: 'u' :: 'e' :: rest => some (.bool true, rest)
      | 'f' :: 'a' :: 'l' :: 's' :: 'e' :: rest => some (.bool false, rest)
      | rest => readNumber parseDouble rest

/-- The items of a list that is not empty, up to its bracket. -/
def readItems : Nat → List Char → Option (List Json × List Char)
  | 0, _ => none
  | fuel + 1, cs => do
      let (item, rest) ← readValue fuel cs
      match skipSpace rest with
      | ',' :: rest => do
          let (items, rest) ← readItems fuel rest
          some (item :: items, rest)
      | ']' :: rest => some ([item], rest)
      | _ => none

/-- The entries of a map that is not empty, up to its brace. -/
def readFields : Nat → List (String × Json) → List Char → Option (List (String × Json) × List Char)
  | 0, _, _ => none
  | fuel + 1, fields, cs =>
      match skipSpace cs with
      | '"' :: rest => do
          let (key, rest) ← readQuoted rest
          match skipSpace rest with
          | ':' :: rest => do
              let (value, rest) ← readValue fuel rest
              match skipSpace rest with
              | ',' :: rest => readFields fuel (put key value fields) rest
              | '}' :: rest => some (put key value fields, rest)
              | _ => none
          | _ => none
      | _ => none

end

/-- `jsonDecode`, which throws on a text that is not JSON. -/
def jsonDecode (text : String) : Option Json := do
  let (value, rest) ← readValue parseDouble (text.length + 1) text.toList
  if (skipSpace rest).isEmpty then some value else none

end

example : (jsonDecode (fun text => ⟨none, text⟩) " \x7b\"a\":[1, -20 ,true]\x7d").map Json.toText =
    some "\x7ba: [1, -20, true]\x7d" := by decide +kernel

/-! ### Reading back a text -/

theorem hexValue_hexDigit {n : Nat} (h : n < 16) : hexValue (hexDigit n) = some n := by
  have hall : ∀ n < 16, hexValue (hexDigit n) = some n := by decide
  exact hall n h

theorem readEscape_control {n : Nat} (h : n < 32) (rest : List Char) :
    readEscape ('u' :: '0' :: '0' :: hexDigit (n / 16) :: hexDigit (n % 16) :: rest) =
      some (Char.ofNat n, rest) := by
  have hunit : unitValue '0' '0' (hexDigit (n / 16)) (hexDigit (n % 16)) = some n := by
    rw [unitValue, hexValue_hexDigit (by omega), hexValue_hexDigit (by omega)]
    show some (((0 * 16 + 0) * 16 + n / 16) * 16 + n % 16) = some n
    congr 1
    omega
  rw [readEscape, hunit]
  simp only [Option.bind_eq_bind, Option.bind_some]
  rw [if_neg (by omega), if_neg (by omega)]

/-- A character is written as an escape that reads back as itself, or stands for itself. -/
theorem escapeChar_cases (c : Char) :
    (∃ code, escapeChar c = '\\' :: code ∧ ∀ rest, readEscape (code ++ rest) = some (c, rest)) ∨
      (escapeChar c = [c] ∧ c ≠ '"' ∧ c ≠ '\\' ∧ ¬c.toNat < 32) := by
  by_cases hquote : c = '"'
  · exact .inl ⟨['"'], by rw [hquote]; rfl, fun rest => by rw [hquote]; rfl⟩
  by_cases hbackslash : c = '\\'
  · exact .inl ⟨['\\'], by rw [hbackslash]; rfl, fun rest => by rw [hbackslash]; rfl⟩
  by_cases hb : c = '\x08'
  · exact .inl ⟨['b'], by rw [hb]; rfl, fun rest => by rw [hb]; rfl⟩
  by_cases ht : c = '\t'
  · exact .inl ⟨['t'], by rw [ht]; rfl, fun rest => by rw [ht]; rfl⟩
  by_cases hn : c = '\n'
  · exact .inl ⟨['n'], by rw [hn]; rfl, fun rest => by rw [hn]; rfl⟩
  by_cases hf : c = '\x0c'
  · exact .inl ⟨['f'], by rw [hf]; rfl, fun rest => by rw [hf]; rfl⟩
  by_cases hr : c = '\r'
  · exact .inl ⟨['r'], by rw [hr]; rfl, fun rest => by rw [hr]; rfl⟩
  rw [escapeChar, if_neg hquote, if_neg hbackslash, if_neg hb, if_neg ht, if_neg hn, if_neg hf, if_neg hr]
  by_cases hcontrol : c.toNat < 32
  · rw [if_pos hcontrol]
    refine .inl ⟨_, rfl, fun rest => ?_⟩
    have hread := readEscape_control hcontrol rest
    rw [Char.ofNat_toNat] at hread
    exact hread
  · rw [if_neg hcontrol]
    exact .inr ⟨rfl, hquote, hbackslash, hcontrol⟩

theorem readChars_escapeChar (fuel : Nat) (c : Char) (rest : List Char) :
    readChars (fuel + 1) (escapeChar c ++ rest) =
      (readChars fuel rest).map fun read => (c :: read.1, read.2) := by
  obtain ⟨code, hescape, hread⟩ | ⟨hescape, hquote, hbackslash, hcontrol⟩ := escapeChar_cases c
  · rw [hescape, List.cons_append, readChars, if_neg (by decide), if_pos rfl, hread rest]
    simp only [Option.bind_eq_bind, Option.bind_some]
    cases readChars fuel rest <;> rfl
  · rw [hescape, List.singleton_append, readChars, if_neg hquote, if_neg hbackslash, if_neg hcontrol]
    cases readChars fuel rest <;> rfl

theorem readChars_escaped {fuel : Nat} (cs rest : List Char) (h : cs.length < fuel) :
    readChars fuel (cs.flatMap escapeChar ++ '"' :: rest) = some (cs, rest) := by
  induction cs generalizing fuel with
  | nil =>
      obtain ⟨fuel, rfl⟩ : ∃ n, fuel = n + 1 := ⟨fuel - 1, by simp at h; omega⟩
      rw [List.flatMap_nil, List.nil_append, readChars, if_pos rfl]
  | cons c cs ih =>
      obtain ⟨fuel, rfl⟩ : ∃ n, fuel = n + 1 := ⟨fuel - 1, by omega⟩
      rw [List.length_cons, Nat.add_lt_add_iff_right] at h
      rw [List.flatMap_cons, List.append_assoc, readChars_escapeChar, ih h]
      rfl

theorem length_le_flatMap_escapeChar (cs : List Char) : cs.length ≤ (cs.flatMap escapeChar).length := by
  induction cs with
  | nil => exact Nat.le_refl 0
  | cons c cs ih =>
      have hone : 1 ≤ (escapeChar c).length := by
        obtain ⟨code, hescape, -⟩ | ⟨hescape, -⟩ := escapeChar_cases c
        · rw [hescape, List.length_cons]
          omega
        · rw [hescape]
          exact Nat.le_refl 1
      rw [List.flatMap_cons, List.length_append, List.length_cons]
      omega

theorem readQuoted_quoteChars (s : String) (rest : List Char) :
    readQuoted (s.toList.flatMap escapeChar ++ '"' :: rest) = some (s, rest) := by
  have hfuel : s.toList.length < (s.toList.flatMap escapeChar ++ '"' :: rest).length + 1 := by
    have hlength := length_le_flatMap_escapeChar s.toList
    rw [List.length_append]
    omega
  rw [readQuoted, readChars_escaped _ _ hfuel]
  simp only [Option.map_some, String.ofList_toList]

/-! ### Reading back a number -/

theorem isDigit_digit {n : Nat} {c : Char} (h : c ∈ Nat.toDigits 10 n) : isDigit c = true := by
  have hdigit := Nat.isDigit_of_mem_toDigits (by decide) (by decide) h
  rw [Char.isDigit, Bool.and_eq_true, decide_eq_true_iff, decide_eq_true_iff] at hdigit
  rw [isDigit, Bool.and_eq_true, decide_eq_true_iff, decide_eq_true_iff]
  exact hdigit

/-- The digits of a positive number start with one that is not zero. -/
theorem exists_toDigits {n : Nat} (h : 0 < n) : ∃ c cs, Nat.toDigits 10 n = c :: cs ∧ c ≠ '0' := by
  induction n using Nat.strongRecOn with
  | ind n ih =>
      by_cases hbase : n < 10
      · refine ⟨n.digitChar, [], Nat.toDigits_of_lt_base hbase, ?_⟩
        rw [ne_eq, Nat.digitChar_eq_zero]
        omega
      · obtain ⟨c, cs, hdigits, hc⟩ := ih (n / 10) (by omega) (by omega)
        refine ⟨c, cs ++ [(n % 10).digitChar], ?_, hc⟩
        rw [Nat.toDigits_of_base_le (by decide) (by omega), hdigits, List.cons_append]

theorem isWhole_toDigits (n : Nat) : isWhole (Nat.toDigits 10 n) = true := by
  have hall : ∀ c ∈ Nat.toDigits 10 n, isDigit c = true := fun c hc => isDigit_digit hc
  obtain rfl | hpositive := Nat.eq_zero_or_pos n
  · rfl
  · obtain ⟨c, cs, hdigits, hc⟩ := exists_toDigits hpositive
    rw [hdigits, List.forall_mem_cons] at hall
    rw [hdigits, isWhole, hall.1, List.all_eq_true.mpr hall.2, bne_iff_ne.mpr hc, Bool.or_true]
    rfl

theorem digitsValue_toDigits (n : Nat) : digitsValue (Nat.toDigits 10 n) = n := by
  rw [digitsValue, ← Nat.ofDigitChars_eq_foldl, Nat.ofDigitChars_ten_toDigits]

theorem toList_toString (value : Int) :
    (toString value).toList =
      if 0 ≤ value then Nat.toDigits 10 value.toNat else '-' :: Nat.toDigits 10 (-value).toNat := by
  rw [Int.toString_eq_repr, Int.repr_eq_if]
  split
  · rw [Nat.toList_repr]
  · rw [String.toList_append, Nat.toList_repr]
    rfl

theorem signless_of_isDigit {cs : List Char} (h : ∀ c ∈ cs, isDigit c = true) :
    withoutSign cs = cs ∧ cs.head? ≠ some '-' := by
  cases cs with
  | nil => exact ⟨rfl, nofun⟩
  | cons c cs =>
      have hc : c ≠ '-' := by
        intro hminus
        have hdigit := h c List.mem_cons_self
        rw [hminus] at hdigit
        cases hdigit
      constructor
      · rw [withoutSign]
        intro rest hrest
        exact hc (List.cons.inj hrest).1
      · rw [List.head?_cons, ne_eq, Option.some.injEq]
        exact hc

theorem intLiteral_toString (value : Int) : intLiteral (toString value).toList = some value := by
  rw [toList_toString]
  split
  · next hnonneg =>
      have hdigits : ∀ c ∈ Nat.toDigits 10 value.toNat, isDigit c = true := fun c hc => isDigit_digit hc
      obtain ⟨hwithout, hhead⟩ := signless_of_isDigit hdigits
      rw [intLiteral, hwithout, if_pos (isWhole_toDigits _), if_neg hhead, digitsValue_toDigits,
        Int.toNat_of_nonneg hnonneg]
  · next hnegative =>
      rw [intLiteral, withoutSign, if_pos (isWhole_toDigits _), List.head?_cons, if_pos rfl,
        digitsValue_toDigits, Int.toNat_of_nonneg (by omega), Int.neg_neg]

theorem isNumberChar_toString {value : Int} {c : Char} (h : c ∈ (toString value).toList) :
    isNumberChar c = true := by
  rw [toList_toString] at h
  rw [isNumberChar]
  split at h
  · rw [isDigit_digit h]
    rfl
  · obtain rfl | h := List.mem_cons.mp h
    · rfl
    · rw [isDigit_digit h]
      rfl

/-- The rest of a text does not go on with a number. -/
def EndsNumber (rest : List Char) : Prop := ∀ c ∈ rest.head?, isNumberChar c = false

theorem takeWhile_number {literal rest : List Char} (hliteral : ∀ c ∈ literal, isNumberChar c = true)
    (hrest : EndsNumber rest) :
    (literal ++ rest).takeWhile isNumberChar = literal ∧
      (literal ++ rest).dropWhile isNumberChar = rest := by
  rw [List.takeWhile_append_of_pos hliteral, List.dropWhile_append_of_pos hliteral]
  cases rest with
  | nil => exact ⟨List.append_nil literal, rfl⟩
  | cons c rest =>
      have hc : isNumberChar c = false := hrest c rfl
      rw [List.takeWhile_cons, List.dropWhile_cons, hc]
      exact ⟨List.append_nil literal, rfl⟩

theorem readNumber_toString (parseDouble : String → Double) {value : Int} {rest : List Char}
    (hfits : fitsInt64 value = true) (hrest : EndsNumber rest) :
    readNumber parseDouble ((toString value).toList ++ rest) = some (.int value, rest) := by
  obtain ⟨htake, hdrop⟩ := takeWhile_number (fun c hc => isNumberChar_toString hc) hrest
  rw [readNumber, htake, hdrop, intLiteral_toString]
  simp only [hfits, if_true]

/-! ### Reading back a value -/

namespace Json

mutual

/-- The values the decoder gives back: whole numbers fit into 64 bits, there is no double, and no map
holds a key twice. -/
def Exact : Json → Prop
  | int value => fitsInt64 value = true
  | double _ => False
  | arr items => ExactItems items
  | obj fields => (keys fields).Nodup ∧ ExactFields fields
  | _ => True

def ExactItems : List Json → Prop
  | [] => True
  | item :: items => item.Exact ∧ ExactItems items

def ExactFields : List (String × Json) → Prop
  | [] => True
  | (_, value) :: fields => value.Exact ∧ ExactFields fields

end

mutual

theorem isFinite_of_exact {value : Json} (h : value.Exact) : value.isFinite = true := by
  cases value with
  | arr items => exact finiteItems_of_exact h
  | obj fields =>
      rw [Exact] at h
      exact finiteFields_of_exact h.2
  | double value => cases h
  | _ => rfl

theorem finiteItems_of_exact {items : List Json} (h : ExactItems items) : finiteItems items = true := by
  cases items with
  | nil => rfl
  | cons item items =>
      rw [ExactItems] at h
      rw [finiteItems, isFinite_of_exact h.1, finiteItems_of_exact h.2]
      rfl

theorem finiteFields_of_exact {fields : List (String × Json)} (h : ExactFields fields) :
    finiteFields fields = true := by
  cases fields with
  | nil => rfl
  | cons field fields =>
      rw [ExactFields] at h
      rw [finiteFields, isFinite_of_exact h.1, finiteFields_of_exact h.2]
      rfl

end

variable {parseDouble : String → Double} {fuel : Nat} {rest : List Char}

theorem skipSpace_cons {c : Char} {cs : List Char} (h : isJsonSpace c = false) :
    skipSpace (c :: cs) = c :: cs := by
  rw [skipSpace, List.dropWhile_cons, h]
  rfl

theorem ne_of_number {c d : Char} (hc : isNumberChar c = true) (hd : isNumberChar d = false) : c ≠ d := by
  intro heq
  rw [heq, hd] at hc
  cases hc

theorem isJsonSpace_of_number {c : Char} (h : isNumberChar c = true) : isJsonSpace c = false := by
  rw [isJsonSpace, decide_eq_false (ne_of_number h rfl), decide_eq_false (ne_of_number h rfl),
    decide_eq_false (ne_of_number h rfl), decide_eq_false (ne_of_number h rfl)]
  rfl

theorem readValue_number {c : Char} {cs : List Char} (h : isNumberChar c = true) :
    readValue parseDouble (fuel + 1) (c :: cs) = readNumber parseDouble (c :: cs) := by
  rw [readValue, skipSpace_cons (isJsonSpace_of_number h)]
  split
  · next heq => exact absurd (List.cons.inj heq).1 (ne_of_number h rfl)
  · next heq => exact absurd (List.cons.inj heq).1 (ne_of_number h rfl)
  · next heq => exact absurd (List.cons.inj heq).1 (ne_of_number h rfl)
  · next heq => exact absurd (List.cons.inj heq).1 (ne_of_number h rfl)
  · next heq => exact absurd (List.cons.inj heq).1 (ne_of_number h rfl)
  · next heq => exact absurd (List.cons.inj heq).1 (ne_of_number h rfl)
  · rfl

theorem readValue_int {value : Int} (hfits : fitsInt64 value = true) (hrest : EndsNumber rest) :
    readValue parseDouble (fuel + 1) ((toString value).toList ++ rest) = some (.int value, rest) := by
  have hread := readNumber_toString parseDouble hfits hrest
  have hchars : ∀ c ∈ (toString value).toList, isNumberChar c = true :=
    fun c hc => isNumberChar_toString hc
  have hne : (toString value).toList ≠ [] := by
    rw [toList_toString]
    split
    · exact Nat.toDigits_ne_nil
    · exact List.cons_ne_nil _ _
  obtain ⟨c, cs, hcons⟩ := List.exists_cons_of_ne_nil hne
  rw [hcons, List.cons_append] at hread ⊢
  rw [readValue_number, hread]
  rw [hcons] at hchars
  exact hchars c List.mem_cons_self

theorem readValue_str {value : String} :
    readValue parseDouble (fuel + 1) (quoteChars value ++ rest) = some (.str value, rest) := by
  rw [quoteChars, List.cons_append, List.append_assoc, readValue, skipSpace_cons rfl]
  simp only [List.singleton_append]
  rw [readQuoted_quoteChars]
  rfl

/-- The text of a value starts with a character that is no white space and closes no list. -/
theorem exists_encodeChars {value : Json} (h : value.Exact) :
    ∃ c cs, value.encodeChars = c :: cs ∧ isJsonSpace c = false ∧ c ≠ ']' := by
  cases value with
  | null => exact ⟨_, _, rfl, rfl, by decide⟩
  | bool value => cases value <;> exact ⟨_, _, rfl, rfl, by decide⟩
  | int value =>
      rw [encodeChars, toList_toString]
      split
      · have hne : Nat.toDigits 10 value.toNat ≠ [] := Nat.toDigits_ne_nil
        obtain ⟨c, cs, hcons⟩ := List.exists_cons_of_ne_nil hne
        have hdigit : isDigit c = true := isDigit_digit (by rw [hcons]; exact List.mem_cons_self)
        have hnumber : isNumberChar c = true := by rw [isNumberChar, hdigit]; rfl
        exact ⟨c, cs, hcons, isJsonSpace_of_number hnumber, ne_of_number hnumber rfl⟩
      · exact ⟨_, _, rfl, rfl, by decide⟩
  | double value => cases h
  | str value => exact ⟨_, _, rfl, rfl, by decide⟩
  | arr items => exact ⟨_, _, rfl, rfl, by decide⟩
  | obj fields => exact ⟨_, _, rfl, rfl, by decide⟩

theorem readValue_arr {c : Char} {cs : List Char} (hspace : isJsonSpace c = false) (hc : c ≠ ']') :
    readValue parseDouble (fuel + 1) ('[' :: c :: cs) =
      (readItems parseDouble fuel (c :: cs)).map fun read => (.arr read.1, read.2) := by
  rw [readValue, skipSpace_cons rfl]
  simp only
  rw [skipSpace_cons hspace]
  split
  · next heq => exact absurd (List.cons.inj heq).1 hc
  · rfl

theorem readValue_obj {cs : List Char} :
    readValue parseDouble (fuel + 1) ('{' :: '"' :: cs) =
      (readFields parseDouble fuel [] ('"' :: cs)).map fun read => (.obj read.1, read.2) := by
  rw [readValue, skipSpace_cons rfl]
  simp only
  rw [skipSpace_cons rfl]
  rfl

theorem encodeItems_cons_cons (item next : Json) (items : List Json) :
    encodeItems (item :: next :: items) = encodeChars item ++ ',' :: encodeItems (next :: items) := by
  rw [encodeItems]
  exact List.cons_ne_nil next items

theorem encodeFields_cons_cons (key : String) (value : Json) (next : String × Json)
    (fields : List (String × Json)) :
    encodeFields ((key, value) :: next :: fields) =
      quoteChars key ++ ':' :: (encodeChars value ++ ',' :: encodeFields (next :: fields)) := by
  rw [encodeFields]
  exact List.cons_ne_nil next fields

theorem exists_encodeItems {items : List Json} (h : ExactItems items) (hne : items ≠ []) :
    ∃ c cs, encodeItems items = c :: cs ∧ isJsonSpace c = false ∧ c ≠ ']' := by
  cases items with
  | nil => exact absurd rfl hne
  | cons item items =>
      rw [ExactItems] at h
      obtain ⟨c, cs, hcons, hspace, hc⟩ := exists_encodeChars h.1
      cases items with
      | nil =>
          rw [encodeItems]
          exact ⟨c, cs, hcons, hspace, hc⟩
      | cons next items =>
          rw [encodeItems_cons_cons, hcons]
          exact ⟨c, _, rfl, hspace, hc⟩

theorem exists_encodeFields {fields : List (String × Json)} (hne : fields ≠ []) :
    ∃ cs, encodeFields fields = '"' :: cs := by
  cases fields with
  | nil => exact absurd rfl hne
  | cons field fields =>
      cases fields with
      | nil => exact ⟨_, rfl⟩
      | cons next fields =>
          rw [encodeFields_cons_cons, quoteChars]
          exact ⟨_, rfl⟩

theorem endsNumber_cons {c : Char} (h : isNumberChar c = false) : EndsNumber (c :: rest) := by
  intro other hother
  cases hother
  exact h

theorem readFields_quoteChars {result : List (String × Json)} {key : String} {cs : List Char} :
    readFields parseDouble (fuel + 1) result (quoteChars key ++ ':' :: cs) =
      (do
        let (value, rest) ← readValue parseDouble fuel cs
        match skipSpace rest with
        | ',' :: rest => readFields parseDouble fuel (put key value result) rest
        | '}' :: rest => some (put key value result, rest)
        | _ => none) := by
  rw [quoteChars, List.cons_append, List.append_assoc, List.singleton_append, readFields,
    skipSpace_cons rfl]
  simp only [readQuoted_quoteChars, Option.bind_eq_bind, Option.bind_some]
  rw [skipSpace_cons rfl]
  rfl

mutual

/-- The decoder reads back what the encoder wrote, whatever comes after it. The fuel is more than the
text is long: each call into a value, an item or an entry has used up a character of it. -/
theorem readValue_encodeChars {value : Json} {rest : List Char} {fuel : Nat} (h : value.Exact)
    (hrest : EndsNumber rest) (hfuel : value.encodeChars.length < fuel) :
    readValue parseDouble fuel (value.encodeChars ++ rest) = some (value, rest) := by
  obtain ⟨fuel, rfl⟩ : ∃ n, fuel = n + 1 := ⟨fuel - 1, by omega⟩
  cases value with
  | null => rfl
  | bool value => cases value <;> rfl
  | int value => exact readValue_int h hrest
  | double value => cases h
  | str value => exact readValue_str
  | arr items =>
      rw [encodeChars, List.length_cons, List.length_append, List.length_singleton] at hfuel
      rw [encodeChars, List.cons_append, List.append_assoc, List.singleton_append]
      by_cases hne : items = []
      · rw [hne]
        rfl
      · have hread : readItems parseDouble fuel (encodeItems items ++ ']' :: rest) = some (items, rest) :=
          readItems_encodeItems h hne (by omega)
        obtain ⟨c, cs, hcons, hspace, hc⟩ := exists_encodeItems h hne
        rw [hcons, List.cons_append] at hread ⊢
        rw [readValue_arr hspace hc, hread]
        rfl
  | obj fields =>
      rw [encodeChars, List.length_cons, List.length_append, List.length_singleton] at hfuel
      rw [encodeChars, List.cons_append, List.append_assoc, List.singleton_append]
      by_cases hne : fields = []
      · rw [hne]
        rfl
      · rw [Exact] at h
        have hread : readFields parseDouble fuel [] (encodeFields fields ++ '}' :: rest) =
            some (fields, rest) := readFields_encodeFields h.2 hne h.1 (by omega)
        obtain ⟨cs, hcons⟩ := exists_encodeFields hne
        rw [hcons, List.cons_append] at hread ⊢
        rw [readValue_obj, hread]
        rfl

theorem readItems_encodeItems {items : List Json} {rest : List Char} {fuel : Nat} (h : ExactItems items)
    (hne : items ≠ []) (hfuel : (encodeItems items).length + 1 < fuel) :
    readItems parseDouble fuel (encodeItems items ++ ']' :: rest) = some (items, rest) := by
  obtain ⟨fuel, rfl⟩ : ∃ n, fuel = n + 1 := ⟨fuel - 1, by omega⟩
  cases items with
  | nil => exact absurd rfl hne
  | cons item items =>
      rw [ExactItems] at h
      cases items with
      | nil =>
          rw [encodeItems] at hfuel ⊢
          rw [readItems, readValue_encodeChars h.1 (endsNumber_cons rfl) (by omega)]
          rfl
      | cons next items =>
          rw [encodeItems_cons_cons, List.length_append, List.length_cons] at hfuel
          have hitem : readValue parseDouble fuel
              (encodeChars item ++ ',' :: (encodeItems (next :: items) ++ ']' :: rest)) =
              some (item, ',' :: (encodeItems (next :: items) ++ ']' :: rest)) :=
            readValue_encodeChars h.1 (endsNumber_cons rfl) (by omega)
          have hitems : readItems parseDouble fuel (encodeItems (next :: items) ++ ']' :: rest) =
              some (next :: items, rest) :=
            readItems_encodeItems h.2 (List.cons_ne_nil next items) (by omega)
          rw [encodeItems_cons_cons, List.append_assoc, List.cons_append, readItems, hitem]
          simp only [Option.bind_eq_bind, Option.bind_some]
          rw [skipSpace_cons rfl]
          simp only [hitems, Option.bind_some]

theorem readFields_encodeFields {fields result : List (String × Json)} {rest : List Char} {fuel : Nat}
    (h : ExactFields fields) (hne : fields ≠ []) (hkeys : (keys (result ++ fields)).Nodup)
    (hfuel : (encodeFields fields).length + 1 < fuel) :
    readFields parseDouble fuel result (encodeFields fields ++ '}' :: rest) =
      some (result ++ fields, rest) := by
  obtain ⟨fuel, rfl⟩ : ∃ n, fuel = n + 1 := ⟨fuel - 1, by omega⟩
  cases fields with
  | nil => exact absurd rfl hne
  | cons field fields =>
      obtain ⟨key, value⟩ := field
      rw [ExactFields] at h
      have hput : put key value result = result ++ [(key, value)] := by
        apply put_of_notMem
        rw [keys_append, List.nodup_append] at hkeys
        intro hmem
        exact hkeys.2.2 key hmem key List.mem_cons_self rfl
      cases fields with
      | nil =>
          rw [encodeFields, List.length_append, List.length_cons] at hfuel
          have hvalue : readValue parseDouble fuel (encodeChars value ++ '}' :: rest) =
              some (value, '}' :: rest) :=
            readValue_encodeChars h.1 (endsNumber_cons rfl) (by omega)
          rw [encodeFields, List.append_assoc, List.cons_append, readFields_quoteChars, hvalue]
          simp only [Option.bind_eq_bind, Option.bind_some]
          rw [skipSpace_cons rfl]
          simp only [hput]
      | cons next fields =>
          rw [encodeFields_cons_cons, List.length_append, List.length_cons, List.length_append,
            List.length_cons] at hfuel
          rw [List.append_cons] at hkeys
          have hvalue : readValue parseDouble fuel
              (encodeChars value ++ ',' :: (encodeFields (next :: fields) ++ '}' :: rest)) =
              some (value, ',' :: (encodeFields (next :: fields) ++ '}' :: rest)) :=
            readValue_encodeChars h.1 (endsNumber_cons rfl) (by omega)
          have hfields : readFields parseDouble fuel (result ++ [(key, value)])
              (encodeFields (next :: fields) ++ '}' :: rest) =
              some (result ++ [(key, value)] ++ next :: fields, rest) :=
            readFields_encodeFields h.2 (List.cons_ne_nil next fields) hkeys (by omega)
          rw [encodeFields_cons_cons, List.append_assoc, List.cons_append, List.append_assoc,
            List.cons_append, readFields_quoteChars, hvalue]
          simp only [Option.bind_eq_bind, Option.bind_some]
          rw [skipSpace_cons rfl]
          simp only [hput, hfields, List.append_assoc, List.singleton_append]

end

/-- **Round trip.** What is encoded exactly is decoded again. -/
theorem jsonDecode_jsonEncode (parseDouble : String → Double) {value : Json} (h : value.Exact) :
    jsonEncode value >>= jsonDecode parseDouble = some value := by
  have hread : readValue parseDouble (value.encodeChars.length + 1) (value.encodeChars ++ []) =
      some (value, []) := readValue_encodeChars h nofun (Nat.lt_succ_self _)
  rw [List.append_nil] at hread
  rw [jsonEncode, isFinite_of_exact h, if_pos rfl, Option.bind_eq_bind, Option.bind_some, jsonDecode,
    String.toList_ofList, String.length_ofList, hread]
  rfl

end Json

end Dart
