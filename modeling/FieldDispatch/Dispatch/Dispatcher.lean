import FieldDispatch.Dispatch.Body
import FieldDispatch.Dispatch.Request
import FieldDispatch.Extension.Plan

/-!
Dispatchers: one function for each resolver, from the questions of its plan and the body of its
member. Arguments are asked for in slot order, then the parent if there is one to ask for, then
the body runs; the first failure ends the dispatch and is its answer. An asynchronous dispatcher
first looks whether the request was cancelled. A dispatcher is told from another by its handle.
-/

namespace FieldDispatch

structure Dispatcher (H : Host) where
  handle : Nat
  call : FieldContext H → Action H.Env (Resolution H.Task)

namespace Dispatcher

variable {H : Host}

/-- Whether two dispatchers are one and the same. -/
def same (a b : Dispatcher H) : Bool := a.handle = b.handle

/-- A dispatcher that answers one value to every context. -/
def constant (handle : Nat) (value : Value) : Dispatcher H :=
  ⟨handle, fun _ => pure (.completed (.ok value))⟩

/-- The values for the slots, asked for in order up to the first that fails. -/
def askSlots (context : FieldContext H) : List Slot → Attempt H.Env (List Value)
  | [] => pure []
  | slot :: rest => do
      let value ← context.argument slot
      let values ← askSlots context rest
      return value :: values

def askArguments (context : FieldContext H) (plan : ArgumentPlan) : Attempt H.Env Arguments := do
  return ⟨← askSlots context plan.slots⟩

/-- A static member has no receiver and asks for none. -/
def askReceiver (context : FieldContext H) : Receiver → Attempt H.Env (Option ObjectRef)
  | .static _ => pure none
  | .parent runtimeType => do return some (← context.parent runtimeType)

def callMethod (plan : ResolverPlan)
    (run : Option ObjectRef → Arguments → Attempt H.Env Value) (context : FieldContext H) :
    Action H.Env (Resolution H.Task) := do
  let attempt : Attempt H.Env Value := do
    let arguments ← askArguments context plan.arguments
    let receiver ← askReceiver context plan.receiver
    run receiver arguments
  return .completed (← attempt.run)

def callAsync (plan : ResolverPlan)
    (start : Option ObjectRef → Arguments → Action H.Env (Future H.Task))
    (context : FieldContext H) : Action H.Env (Resolution H.Task) := do
  let token ← context.token
  if ← Action.isFired token then return .failed .cancelled
  let attempt : Attempt H.Env (Future H.Task) := do
    let arguments ← askArguments context plan.arguments
    let receiver ← askReceiver context plan.receiver
    start receiver arguments
  match ← attempt.run with
  | .ok future => return .cancellable future token
  | .error error => return .failed error

/-- A property asks for no arguments, whatever slots its plan has. -/
def callProperty (plan : ResolverPlan) (run : Option ObjectRef → Attempt H.Env Value)
    (context : FieldContext H) : Action H.Env (Resolution H.Task) := do
  let attempt : Attempt H.Env Value := do
    let receiver ← askReceiver context plan.receiver
    run receiver
  return .completed (← attempt.run)

/-- The dispatcher of a plan, if the body is of the planned kind. -/
def ofPlan (handle : Nat) (plan : ResolverPlan) (body : MemberBody H) :
    Except CompileError (Dispatcher H) :=
  match plan.kind, body with
  | .sync, .method run => .ok ⟨handle, callMethod plan run⟩
  | .async, .async start => .ok ⟨handle, callAsync plan start⟩
  | .property, .property run => .ok ⟨handle, callProperty plan run⟩
  | expected, other => .error (.bodyMismatch plan.name expected other.kind)

end Dispatcher

end FieldDispatch
