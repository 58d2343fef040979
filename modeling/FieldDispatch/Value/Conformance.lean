import FieldDispatch.TypeText.Tree
import FieldDispatch.Value.Basic

/-!
When a value may be bound to a parameter of a type. Five names are scalars; any other may name an
enumeration, a scalar of the schema or an input object, and takes any scalar or map. An object
must be of the named type. `Value.HasType` says the same of a type tree without reading text.
-/

namespace FieldDispatch.Value

/-- Whether a value that is neither null nor a list is of a named type. -/
def isNamed (name : String) (value : Value) : Bool :=
  match name, value with
  | "Int", .int _ => true
  | "Int", _ => false
  | "Float", .float _ => true
  | "Float", .int _ => true
  | "Float", _ => false
  | "String", .string _ => true
  | "String", _ => false
  | "ID", .string _ => true
  | "ID", .int _ => true
  | "ID", _ => false
  | "Boolean", .boolean _ => true
  | "Boolean", _ => false
  | _, .object found => found.typeName = name
  | _, .null => false
  | _, .list _ => false
  | _, _ => true

mutual

/-- The type is read as it is written, one mark and one pair of brackets at a time. -/
def conformsTo : Value → TypeText → Bool
  | .null, type => !type.isNonNull
  | .list items, type =>
      match type.nullable.listItem? with
      | some item => allConformTo items item
      | none => false
  | value, type => type.nullable.listItem?.isNone && value.isNamed type.nullable.text

def allConformTo : List Value → TypeText → Bool
  | [], _ => true
  | value :: rest, type => conformsTo value type && allConformTo rest type

end

/-- The names that mean a scalar wherever they stand. -/
def scalarNames : List String := ["Int", "Float", "String", "ID", "Boolean"]

/-- Scalars and maps. -/
def isData : Value → Bool
  | .null => false
  | .list _ => false
  | .object _ => false
  | _ => true

/-- The values of a named type: for the name of a scalar those of the scalar, an integer being also
a float and an identifier, and for any other name objects of that type and all data. -/
inductive IsOfName : String → Value → Prop
  | int (value : Int64) : IsOfName "Int" (.int value)
  | float (value : Double) : IsOfName "Float" (.float value)
  | intAsFloat (value : Int64) : IsOfName "Float" (.int value)
  | string (value : String) : IsOfName "String" (.string value)
  | stringAsId (value : String) : IsOfName "ID" (.string value)
  | intAsId (value : Int64) : IsOfName "ID" (.int value)
  | boolean (value : Bool) : IsOfName "Boolean" (.boolean value)
  | object {name : String} {value : ObjectRef} (free : name ∉ scalarNames)
      (same : value.typeName = name) : IsOfName name (.object value)
  | data {name : String} {value : Value} (free : name ∉ scalarNames) (data : value.isData = true) :
      IsOfName name value

/-- The values of a type tree. A mark excludes null and nothing else. -/
inductive HasType : TypeTree → Value → Prop
  | null {tree : TypeTree} (unmarked : tree.isNonNull = false) : HasType tree .null
  | named {name : TypeName} {value : Value} (nonNull : Bool) (ofName : IsOfName name.text value) :
      HasType (.named name nonNull) value
  | list {item : TypeTree} {items : List Value} (nonNull : Bool)
      (all : ∀ value ∈ items, HasType item value) : HasType (.list item nonNull) (.list items)

end FieldDispatch.Value
