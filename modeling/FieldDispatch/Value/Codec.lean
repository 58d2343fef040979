import FieldDispatch.Json.Query
import FieldDispatch.Value.Basic

/-!
Values as JSON without loss. Null, booleans, strings and lists stand for themselves; integers are
decimal texts, floats the digits of their bits, maps lists of pairs, and objects carry their type
name and the key of their host. The host type of a key is not written.
-/

namespace FieldDispatch

namespace Double

def hexText (x : Double) : String :=
  let digits := Nat.toDigits 16 x.bits.toNat
  String.ofList (List.replicate (16 - digits.length) '0' ++ digits)

def quietNaN : Double := ⟨0x7ff8000000000000⟩

/-- All NaNs share one text. -/
def text (x : Double) : String := if x.isNaN then "nan" else x.hexText

def hexValue (c : Char) : Nat :=
  if c.isDigit then c.toNat - '0'.toNat else c.toNat - 'a'.toNat + 10

def ofText (text : String) : Double :=
  if text = "nan" then quietNaN
  else ⟨UInt64.ofNat (text.toList.foldl (fun value c => value * 16 + hexValue c) 0)⟩

end Double

namespace Value

mutual

def toTagged : Value → Json
  | .null => .null
  | .boolean value => .bool value
  | .int value => .object [("int", .string (toString value.toInt))]
  | .float value => .object [("float", .string value.text)]
  | .string value => .string value
  | .list items => .array (toTaggedItems items)
  | .map entries => .object [("map", .array (toTaggedEntries entries))]
  | .object value =>
      .object [("object", .string value.typeName), ("host", .string value.host.key)]

def toTaggedItems : List Value → List Json
  | [] => []
  | item :: rest => toTagged item :: toTaggedItems rest

def toTaggedEntries : List (String × Value) → List Json
  | [] => []
  | (key, value) :: rest => .array [.string key, toTagged value] :: toTaggedEntries rest

end

/-- Reads a value that nests at most `fuel` deep; `hostType` gives the host type of a key. -/
def readTagged? (hostType : String → String) : Nat → Json → Option Value
  | 0, _ => none
  | fuel + 1, tree =>
      match tree with
      | .null => some .null
      | .bool value => some (.boolean value)
      | .number _ => none
      | .string value => some (.string value)
      | .array items => (items.mapM (readTagged? hostType fuel)).map .list
      | .object [("int", .string digits)] =>
          digits.toInt?.map fun value => .int (Int64.ofInt value)
      | .object [("float", .string digits)] => some (.float (Double.ofText digits))
      | .object [("map", .array entries)] =>
          (entries.mapM (Json.pair? (readTagged? hostType fuel))).map .map
      | .object entries => do
          let typeName ← (Json.object entries).string? "object"
          let key ← (Json.object entries).string? "host"
          some (.object ⟨typeName, ⟨hostType key, key⟩⟩)

/-- Texts of JSON nest no deeper than this. -/
def depthLimit : Nat := 128

def ofTagged? (hostType : String → String) (tree : Json) : Option Value :=
  readTagged? hostType depthLimit tree

end Value

end FieldDispatch
