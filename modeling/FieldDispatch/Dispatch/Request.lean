import FieldDispatch.Dispatch.Resolution
import FieldDispatch.OrderedMap
import FieldDispatch.Value.Conformance
import FieldDispatch.Value.OfJson

/-!
What a dispatcher may ask of the engine that calls it, and a request that answers from bindings.
Field arguments and state are separate name spaces; in each the last binding of a name counts. A
value that is not bound is null, and every answer conforms to the type of its slot.
-/

namespace FieldDispatch

/-- The questions of a dispatcher. Answering may itself act on the world. -/
structure FieldContext (H : Host) where
  /-- The current parent, which must be of exactly the given runtime type. -/
  parent : String → Attempt H.Env ObjectRef
  /-- The value for a slot. -/
  argument : Slot → Attempt H.Env Value
  /-- The token that cancels the request. -/
  token : Action H.Env Token

structure Request where
  parent : Option ObjectRef
  arguments : OrderedMap Value
  state : OrderedMap Value
  token : Token

namespace Request

def new (token : Token) : Request := ⟨none, .empty, .empty, token⟩

def withParent (request : Request) (parent : ObjectRef) : Request :=
  { request with parent := some parent }

def withArgument (request : Request) (name : String) (value : Value) : Request :=
  { request with arguments := request.arguments.insert name value }

/-- Binds every entry of a JSON object as a field argument. -/
def withJsonArguments (request : Request) (entries : List (String × Json)) : Request :=
  entries.foldl (fun request entry => request.withArgument entry.1 (Value.ofJson entry.2)) request

def withState (request : Request) (key : String) (value : Value) : Request :=
  { request with state := request.state.insert key value }

def withToken (request : Request) (token : Token) : Request := { request with token }

def origin (slot : Slot) : Origin :=
  match slot.source with
  | .argument name => .argument (name.getD slot.name)
  | .parent => .parent
  | .state key => .state key

/-- The value bound at a place of the request, or null. -/
def lookup (request : Request) : Origin → Value
  | .argument name => (request.arguments.get? name).getD .null
  | .parent => Value.ofOption .object request.parent
  | .state key => (request.state.get? key).getD .null

def fault (slot : Slot) (value : Value) : ArgumentFault :=
  if value.isNull then .missing (origin slot)
  else .nonconforming (origin slot) value.typeName slot.type

/-- The value bound to a slot, if it conforms to the slot's type. -/
def bind (request : Request) (slot : Slot) : Except ResolverError Value :=
  let value := request.lookup (origin slot)
  if value.conformsTo slot.type then .ok value
  else .error (.argument slot.index slot.name (fault slot value))

def parentOf (request : Request) (runtimeType : String) : Except ResolverError ObjectRef :=
  match request.parent with
  | none => .error (.receiverMismatch runtimeType .noParent)
  | some parent =>
      if parent.typeName = runtimeType then .ok parent
      else .error (.receiverMismatch runtimeType (.parent parent.typeName))

/-- A request as a context. Its answers do not touch the world. -/
def toContext {H : Host} (request : Request) : FieldContext H :=
  { parent := fun runtimeType => .ofExcept (request.parentOf runtimeType)
    argument := fun slot => .ofExcept (request.bind slot)
    token := pure request.token }

end Request

end FieldDispatch
