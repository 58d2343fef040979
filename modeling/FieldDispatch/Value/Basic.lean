import FieldDispatch.Double.Basic

/-!
Field values. A value is data, or a reference to an object of the host program: the object is
known by its identity and its host type, and carries the type name under which it was handed out.
Equality of values treats floats as numbers, so it is not reflexive on a value that holds a NaN.
-/

namespace FieldDispatch

/-- The identity of an object of the host program. -/
structure HostRef where
  hostType : String
  key : String
  deriving DecidableEq, Inhabited

structure ObjectRef where
  typeName : String
  host : HostRef
  deriving DecidableEq, Inhabited

namespace ObjectRef

/-- The type name belongs to the reference, not to the object. -/
def sameHost (a b : ObjectRef) : Bool := a.host = b.host

/-- The object, if its host type is the given one. -/
def downcast? (object : ObjectRef) (hostType : String) : Option HostRef :=
  if object.host.hostType = hostType then some object.host else none

end ObjectRef

inductive Value where
  | null
  | boolean (value : Bool)
  | int (value : Int64)
  | float (value : Double)
  | string (value : String)
  | list (items : List Value)
  | map (entries : List (String × Value))
  | object (value : ObjectRef)
  deriving Inhabited

namespace Value

def typeName : Value → String
  | .null => "Null"
  | .boolean _ => "Boolean"
  | .int _ => "Int"
  | .float _ => "Float"
  | .string _ => "String"
  | .list _ => "List"
  | .map _ => "Map"
  | .object value => value.typeName

def isNull : Value → Bool
  | .null => true
  | _ => false

def asInt? : Value → Option Int64
  | .int value => some value
  | _ => none

/-- An integer is also a float, the nearest one. -/
def asFloat? : Value → Option Double
  | .float value => some value
  | .int value => some (Double.ofInt value.toInt)
  | _ => none

def asString? : Value → Option String
  | .string value => some value
  | _ => none

def asBoolean? : Value → Option Bool
  | .boolean value => some value
  | _ => none

def asList? : Value → Option (List Value)
  | .list items => some items
  | _ => none

def asObject? : Value → Option ObjectRef
  | .object value => some value
  | _ => none

mutual

/-- Maps are compared entry by entry, in order. -/
def equals : Value → Value → Bool
  | .null, .null => true
  | .boolean a, .boolean b => a == b
  | .int a, .int b => a == b
  | .float a, .float b => a.equals b
  | .string a, .string b => a == b
  | .list a, .list b => equalItems a b
  | .map a, .map b => equalEntries a b
  | .object a, .object b => a.typeName == b.typeName && a.sameHost b
  | _, _ => false

def equalItems : List Value → List Value → Bool
  | [], [] => true
  | a :: as, b :: bs => equals a b && equalItems as bs
  | _, _ => false

def equalEntries : List (String × Value) → List (String × Value) → Bool
  | [], [] => true
  | (j, a) :: as, (k, b) :: bs => j == k && equals a b && equalEntries as bs
  | _, _ => false

end

def ofOption {α : Type} (ofValue : α → Value) (value : Option α) : Value :=
  (value.map ofValue).getD .null

def ofInt32 (value : Int32) : Value := .int value.toInt64

def ofList {α : Type} (ofValue : α → Value) (values : List α) : Value :=
  .list (values.map ofValue)

end Value

end FieldDispatch
