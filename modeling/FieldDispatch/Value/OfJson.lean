import FieldDispatch.Json.Basic
import FieldDispatch.Value.Basic

/-!
JSON trees as field values. An integer of the signed 64-bit range stays an integer, any other
number becomes a float; an object becomes a map by increasing key, the last of equal keys kept.
-/

namespace FieldDispatch

def Json.Number.toValue : Json.Number → Value
  | .integer value =>
      if Int64.minValue.toInt ≤ value ∧ value ≤ Int64.maxValue.toInt then .int (Int64.ofInt value)
      else .float (Double.ofInt value)
  | .double value => .float value

namespace Value

mutual

def ofJson : Json → Value
  | .null => .null
  | .bool value => .boolean value
  | .number value => value.toValue
  | .string value => .string value
  | .array items => .list (ofItems items)
  | .object entries => .map (sortEntries (ofEntries entries))

def ofItems : List Json → List Value
  | [] => []
  | item :: rest => ofJson item :: ofItems rest

def ofEntries : List (String × Json) → List (String × Value)
  | [] => []
  | (key, value) :: rest => (key, ofJson value) :: ofEntries rest

end

end Value

end FieldDispatch
