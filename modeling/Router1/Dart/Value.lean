import Router1.Dart.LinkedMap

/-!
# Values in memory

What a variable of the type `Object?` holds when it was read from JSON. Strings are their UTF-16 code
units, in which half of a surrogate pair may stand alone, because cutting a string counts these. Floating
point is not modelled: a number that is not an integer is known by its text.
-/

namespace Dart

/-- The code units of a string. -/
abbrev Units := List UInt16

def charUnits (c : Char) : Units :=
  let n := c.toNat
  if n < 0x10000 then [n.toUInt16]
  else [(0xD800 + (n - 0x10000) / 0x400).toUInt16, (0xDC00 + (n - 0x10000) % 0x400).toUInt16]

/-- The code units of a literal. -/
def units (s : String) : Units := s.toList.flatMap charUnits

namespace Units

def contains (s part : Units) : Bool := s.tails.any fun rest => part.isPrefixOf rest

def endsWith (s last : Units) : Bool := last.isSuffixOf s

/-- A string cut after so many code units, with dots for the rest. -/
def shortened (limit : Nat) (s : Units) : Units :=
  if limit < s.length then s.take limit ++ units "..." else s

theorem length_dots : (units "...").length = 3 := by decide

theorem shortened_shortened (limit : Nat) (s : Units) :
    shortened limit (shortened limit s) = shortened limit s := by
  by_cases hlong : limit < s.length
  · have hcut : (s.take limit).length = limit := by
      rw [List.length_take]
      omega
    have hagain : limit < (s.take limit ++ units "...").length := by
      rw [List.length_append, hcut, length_dots]
      omega
    rw [shortened, shortened, if_pos hlong, if_pos hagain,
      List.take_append_of_le_length (Nat.le_of_eq hcut.symm),
      List.take_of_length_le (Nat.le_of_eq hcut)]
  · rw [shortened, shortened, if_neg hlong, if_neg hlong]

end Units

inductive Value where
  | null
  | bool (value : Bool)
  | int (value : Int)
  | double (text : String)
  | string (units : Units)
  | list (items : List Value)
  | map (entries : List (Units × Value))

namespace Value

mutual

/-- No map in the value holds a key twice. -/
def Distinct : Value → Prop
  | list items => DistinctItems items
  | map entries => (keys entries).Nodup ∧ DistinctEntries entries
  | _ => True

def DistinctItems : List Value → Prop
  | [] => True
  | item :: items => item.Distinct ∧ DistinctItems items

def DistinctEntries : List (Units × Value) → Prop
  | [] => True
  | (_, value) :: entries => value.Distinct ∧ DistinctEntries entries

end

end Value

structure JsonValue where
  value : Value
  distinct : value.Distinct

end Dart
