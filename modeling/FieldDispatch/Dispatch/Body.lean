import FieldDispatch.Dispatch.Arguments
import FieldDispatch.Dispatch.Resolution
import FieldDispatch.OrderedMap

/-!
Member bodies: the code that a dispatcher runs once receiver and arguments are there. The typed
constructors unwrap the receiver. A synchronous body with the wrong receiver fails at once; an
asynchronous one starts a future that has already failed.
-/

namespace FieldDispatch

inductive MemberBody (H : Host) where
  | method (run : Option ObjectRef → Arguments → Attempt H.Env Value)
  | async (start : Option ObjectRef → Arguments → Action H.Env (Future H.Task))
  | property (run : Option ObjectRef → Attempt H.Env Value)

/-- The receiver as an object of the given host type. -/
def unwrapReceiver (hostType : String) : Option ObjectRef → Except ResolverError HostRef
  | none => .error (.receiverMismatch hostType .noReceiver)
  | some object =>
      match object.downcast? hostType with
      | some host => .ok host
      | none => .error (.receiverMismatch hostType (.hostObject object.typeName))

namespace MemberBody

variable {H : Host}

/-- The kind of resolver that the body can back. -/
def kind : MemberBody H → ResolverKind
  | .method _ => .sync
  | .async _ => .async
  | .property _ => .property

/-- A name for the form of the body, its code left out. -/
def describe : MemberBody H → String
  | .method _ => "MemberBinding::Method(...)"
  | .async _ => "MemberBinding::AsyncMethod(...)"
  | .property _ => "MemberBinding::Property(...)"

def instanceMethod (hostType : String) (run : HostRef → Arguments → Attempt H.Env Value) :
    MemberBody H :=
  .method fun receiver arguments =>
    match unwrapReceiver hostType receiver with
    | .ok host => run host arguments
    | .error error => throw error

def staticMethod (run : Arguments → Attempt H.Env Value) : MemberBody H :=
  .method fun _ arguments => run arguments

def instanceAsync (hostType : String)
    (start : HostRef → Arguments → Action H.Env (Future H.Task)) : MemberBody H :=
  .async fun receiver arguments =>
    match unwrapReceiver hostType receiver with
    | .ok host => start host arguments
    | .error error => pure (.finished (.error error))

def staticAsync (start : Arguments → Action H.Env (Future H.Task)) : MemberBody H :=
  .async fun _ arguments => start arguments

/-- A property body of this form cannot fail once it has its receiver. -/
def instanceProperty (hostType : String) (run : HostRef → Action H.Env Value) : MemberBody H :=
  .property fun receiver =>
    match unwrapReceiver hostType receiver with
    | .ok host => ExceptT.lift (run host)
    | .error error => throw error

def staticProperty (run : Action H.Env Value) : MemberBody H :=
  .property fun _ => ExceptT.lift run

end MemberBody

/-- The bodies of one extension, by member name. -/
abbrev Bodies (H : Host) := OrderedMap (MemberBody H)

end FieldDispatch
