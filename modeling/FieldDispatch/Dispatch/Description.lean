import FieldDispatch.Dispatch.Resolution
import FieldDispatch.Double.Shortest
import FieldDispatch.Text.Quoted

/-!
Descriptions of values, errors and resolutions for a reader: constructor names with their
arguments, floats with the fewest digits that read back.
-/

namespace FieldDispatch

/-- A float is positional from one ten-thousandth up to sixteen digits before the point. -/
def Value.floatLayout : Double.Layout := ⟨-4, 16⟩

def joinComma (texts : List String) : String := ", ".intercalate texts

def describeBool (value : Bool) : String := if value then "true" else "false"

namespace Value

mutual

def describe : Value → String
  | .null => "Null"
  | .boolean value => s!"Boolean({describeBool value})"
  | .int value => s!"Int({value.toInt})"
  | .float value => s!"Float({value.layOut floatLayout})"
  | .string value => s!"String({Text.quote value})"
  | .list items => "List([" ++ joinComma (describeItems items) ++ "])"
  | .map entries => "Map([" ++ joinComma (describeEntries entries) ++ "])"
  | .object value => s!"Object(ObjectValue({value.typeName}))"

def describeItems : List Value → List String
  | [] => []
  | item :: rest => describe item :: describeItems rest

def describeEntries : List (String × Value) → List String
  | [] => []
  | (key, value) :: rest =>
      s!"({Text.quote key}, {describe value})" :: describeEntries rest

end

end Value

/-- A constructor with named fields. -/
def describeFields (name : String) (fields : List (String × String)) : String :=
  let written := fields.map fun field => field.1 ++ ": " ++ field.2
  name ++ " \x7b " ++ joinComma written ++ " \x7d"

def describeOption : Option String → String
  | none => "None"
  | some text => s!"Some({Text.quote text})"

def ResolverError.describe : ResolverError → String
  | .receiverMismatch expected found =>
      describeFields "ReceiverMismatch"
        [("expected", Text.quote expected), ("found", Text.quote found.text)]
  | .argument slot name fault =>
      describeFields "Argument"
        [("slot", toString slot.toNat), ("name", Text.quote name),
          ("message", Text.quote fault.text)]
  | .type fault => s!"TypeError({Text.quote fault.text})"
  | .cancelled => "Cancelled"
  | .failed message code =>
      describeFields "Failed"
        [("message", Text.quote message), ("code", describeOption code)]
  | .external message => s!"External({Text.quote message})"

def describeOutcome : Outcome → String
  | .ok value => s!"Ok({value.describe})"
  | .error error => s!"Err({error.describe})"

/-- A suspended resolution stays so in its description after it has answered. -/
def Resolution.describe {Task : Type} : Resolution Task → String
  | .completed outcome => s!"AsyncResult::Ready({describeOutcome outcome})"
  | .consumed => "AsyncResult::Consumed"
  | .suspended _ _ => "AsyncResult::Pending(..)"

end FieldDispatch
