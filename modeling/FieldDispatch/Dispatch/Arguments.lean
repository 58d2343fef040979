import FieldDispatch.Dispatch.Error
import FieldDispatch.Value.Basic

/-!
The argument values of one call, by position, and the typed ways to read them.
-/

namespace FieldDispatch

structure Arguments where
  values : List Value
  deriving Inhabited

namespace Arguments

def size (arguments : Arguments) : Nat := arguments.values.length

def isEmpty (arguments : Arguments) : Bool := arguments.values.isEmpty

def get? (arguments : Arguments) (index : Nat) : Option Value := arguments.values[index]?

def value (arguments : Arguments) (index : Nat) : Except ResolverError Value :=
  match arguments.get? index with
  | some value => .ok value
  | none => .error (.type (.outOfRange index arguments.size))

/-- Reads a value through a partial view; `expected` names what the view accepts. -/
def read {α : Type} (arguments : Arguments) (expected : String) (view? : Value → Option α)
    (index : Nat) : Except ResolverError α :=
  match arguments.value index with
  | .error error => .error error
  | .ok value =>
      match view? value with
      | some seen => .ok seen
      | none => .error (.type (.unexpected index expected value.typeName))

def int (arguments : Arguments) : Nat → Except ResolverError Int64 :=
  arguments.read "Int" Value.asInt?

def float (arguments : Arguments) : Nat → Except ResolverError Double :=
  arguments.read "Float" Value.asFloat?

def string (arguments : Arguments) : Nat → Except ResolverError String :=
  arguments.read "String" Value.asString?

def boolean (arguments : Arguments) : Nat → Except ResolverError Bool :=
  arguments.read "Boolean" Value.asBoolean?

/-- An object of the given host type. -/
def object (arguments : Arguments) (hostType : String) : Nat → Except ResolverError HostRef :=
  arguments.read hostType fun value => value.asObject?.bind fun object => object.downcast? hostType

end Arguments

end FieldDispatch
