/-!
# Values of configuration files

What a TOML file holds. Tables keep the order in which their keys are met. Dates and times are kept as their normal
text.
-/

namespace Delimited.Toml

/-- A value of a TOML file. -/
inductive Value where
  | string (s : String)
  | integer (n : Int)
  | float (x : Float)
  /-- A word that has the form of a number but no value as one: it is too great, or lacks digits. -/
  | noNumber
  | boolean (b : Bool)
  | datetime (text : String)
  | array (items : List Value)
  | table (entries : List (String × Value))

instance : Inhabited Value := ⟨.table []⟩

/-! ### Numbers -/

mutual

/-- Whether all numbers in the value have a value, and all integers are at least `least` and less than `limit`. -/
def Value.numbersWithin (least limit : Int) : Value → Bool
  | .integer n => least ≤ n && n < limit
  | .noNumber => false
  | .array items => itemsWithin least limit items
  | .table entries => entriesWithin least limit entries
  | _ => true

/-- Whether all numbers in the items are in the range. -/
def itemsWithin (least limit : Int) : List Value → Bool
  | [] => true
  | v :: rest => v.numbersWithin least limit && itemsWithin least limit rest

/-- Whether all numbers in the entries are in the range. -/
def entriesWithin (least limit : Int) : List (String × Value) → Bool
  | [] => true
  | (_, v) :: rest => v.numbersWithin least limit && entriesWithin least limit rest

end

end Delimited.Toml
