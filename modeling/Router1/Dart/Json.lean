import Router1.Dart.Text

/-!
# Decoded JSON

The values `jsonDecode` returns. A map keeps its entries in the order of the text, and reading a key
that is absent gives `null`, as indexing a map does. Floating point is not modelled: a number with a
fraction or an exponent is known by what the services ask of it, its integer part, absent when it is
infinite, and its text.
-/

namespace Dart

structure Double where
  toInt : Option Int
  text : String
  deriving DecidableEq, Repr

inductive Json where
  | null
  | bool (value : Bool)
  | int (value : Int)
  | double (value : Double)
  | str (value : String)
  | arr (items : List Json)
  | obj (fields : List (String × Json))

namespace Json

/-- `map[key]`, which is `null` for an absent key. -/
def get (fields : List (String × Json)) (key : String) : Json := (fields.lookup key).getD null

/-- `value[key]` after the test that `value` is a map. -/
def field : Json → String → Json
  | obj fields, key => get fields key
  | _, _ => null

/-- `value == text` for a string literal. -/
def isText (value : Json) (text : String) : Bool :=
  match value with
  | str other => other == text
  | _ => false

def isTrue : Json → Bool
  | bool true => true
  | _ => false

def isMap : Json → Bool
  | obj _ => true
  | _ => false

mutual

/-- `toString()`. -/
def toText : Json → String
  | null => "null"
  | bool value => if value then "true" else "false"
  | int value => toString value
  | double value => value.text
  | str value => value
  | arr items => "[" ++ ", ".intercalate (itemTexts items) ++ "]"
  | obj fields => "\x7b" ++ ", ".intercalate (fieldTexts fields) ++ "\x7d"

def itemTexts : List Json → List String
  | [] => []
  | item :: items => toText item :: itemTexts items

def fieldTexts : List (String × Json) → List String
  | [] => []
  | (key, value) :: fields => (key ++ ": " ++ toText value) :: fieldTexts fields

end

/-- `value?.toString()`. -/
def toText? : Json → Option String
  | null => none
  | value => some value.toText

/-- The first element of a list that is not empty, when it is a map, as `peers.first as Map`. -/
def firstMap? : Json → Option Json
  | arr (obj fields :: _) => some (obj fields)
  | _ => none

end Json

end Dart
