import FieldDispatch.Diagnostic
import FieldDispatch.Resolver.Basic

/-!
Why a dispatch, a registration or a compilation fails, and the text of each failure.
-/

namespace FieldDispatch

/-- What stood where a receiver of another type was expected. -/
inductive FoundReceiver where
  | noParent
  | parent (typeName : String)
  | noReceiver
  | hostObject (typeName : String)
  deriving DecidableEq, Inhabited

def FoundReceiver.text : FoundReceiver → String
  | .noParent => "no parent"
  | .parent typeName => s!"'{typeName}'"
  | .noReceiver => "no receiver"
  | .hostObject typeName => s!"host object of '{typeName}'"

/-- The place in a request that a slot reads. -/
inductive Origin where
  | argument (name : String)
  | parent
  | state (key : String)
  deriving DecidableEq, Inhabited

def Origin.text : Origin → String
  | .argument name => s!"argument '{name}'"
  | .parent => "parent"
  | .state key => s!"state '{key}'"

inductive ArgumentFault where
  | missing (origin : Origin)
  | nonconforming (origin : Origin) (found : String) (type : TypeText)
  deriving DecidableEq, Inhabited

def ArgumentFault.text : ArgumentFault → String
  | .missing origin => s!"required {origin.text} was not provided"
  | .nonconforming origin found type =>
      s!"{origin.text} of type {found} does not conform to {type.text}"

/-- How a body can misread its arguments; `other` is a complaint of its own. -/
inductive TypeFault where
  | outOfRange (index bound : Nat)
  | unexpected (index : Nat) (expected found : String)
  | other (message : String)
  deriving DecidableEq, Inhabited

def TypeFault.text : TypeFault → String
  | .outOfRange index bound => s!"argument {index} out of range ({bound} bound)"
  | .unexpected index expected found => s!"argument {index}: expected {expected}, found {found}"
  | .other message => message

/-- Why one field could not be resolved. -/
inductive ResolverError where
  | receiverMismatch (expected : String) (found : FoundReceiver)
  | argument (slot : UInt64) (name : String) (fault : ArgumentFault)
  | type (fault : TypeFault)
  | cancelled
  | failed (message : String) (code : Option String)
  | external (message : String)
  deriving DecidableEq, Inhabited

namespace ResolverError

def message : ResolverError → String
  | .receiverMismatch expected found =>
      s!"receiver mismatch: expected parent of type '{expected}', found {found.text}"
  | .argument slot name fault => s!"argument error: slot {slot.toNat} ('{name}'): {fault.text}"
  | .type fault => s!"type error: {fault.text}"
  | .cancelled => "resolver cancelled"
  | .failed message _ => message
  | .external message => message

def isCancelled : ResolverError → Bool
  | .cancelled => true
  | _ => false

end ResolverError

/-- Why dispatchers could not be attached to a type or put into a table. -/
inductive RegistrationError where
  | typeMismatch (expected found : String)
  | unknownField (typeName field : String)
  | duplicateResolver (typeName member : String)
  | configure (message : String)
  deriving DecidableEq, Inhabited

def RegistrationError.message : RegistrationError → String
  | .typeMismatch expected found =>
      s!"type mismatch: initializer for '{expected}' applied to descriptor of '{found}'"
  | .unknownField typeName field => s!"field error: no field '{field}' declared on {typeName}"
  | .duplicateResolver typeName member => s!"duplicate resolver '{typeName}.{member}'"
  | .configure message => s!"configure failed: {message}"

/-- Why an extension could not be compiled. The diagnostics include the warnings. -/
inductive CompileError where
  | invalid (typeName : String) (diagnostics : List Diagnostic)
  | missingBody (typeName member : String)
  | bodyMismatch (resolver : ResolverName) (expected found : ResolverKind)
  | registration (error : RegistrationError)
  deriving DecidableEq, Inhabited

def CompileError.message : CompileError → String
  | .invalid typeName diagnostics =>
      s!"extension '{typeName}' has {Diagnostic.errorCount diagnostics} error(s)"
  | .missingBody typeName member => s!"no binding supplied for member '{member}' of {typeName}"
  | .bodyMismatch resolver expected found =>
      s!"binding for '{resolver.text}' is {found.text} but the member is {expected.text}"
  | .registration error => error.message

end FieldDispatch
