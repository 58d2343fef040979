import FieldDispatch.Dispatch.ObjectType
import FieldDispatch.Script.Basic

/-!
Scripts as member bodies and as hooks. A script is bound to an instance, to nothing, or to the
receiver as it comes; only a property in the last form can fail by itself, in the others a failure
of the script is null.
-/

namespace FieldDispatch.Script

inductive Form where
  | method
  | async
  | property
  deriving DecidableEq, Inhabited

inductive Attachment where
  | toInstance
  | toNothing
  | raw
  deriving DecidableEq, Inhabited

/-- The body of one member. The suspension counts for asynchronous forms only. -/
structure Binding where
  form : Form
  attachment : Attachment
  script : Script
  polls : Nat
  gate : Option String
  forever : Bool

namespace Binding

/-- The frame of a call with a receiver that the script sees as it is. -/
def rawFrame (recordType : String) (receiver : Option ObjectRef) (arguments : Arguments) : Frame :=
  ⟨recordType, receiver, receiver.bind fun object => object.downcast? recordType, arguments⟩

def recordFrame (recordType : String) (host : HostRef) (arguments : Arguments) : Frame :=
  ⟨recordType, none, some host, arguments⟩

def staticFrame (recordType : String) (arguments : Arguments) : Frame :=
  ⟨recordType, none, none, arguments⟩

def start (binding : Binding) (frame : Frame) : Action Env (Future Task) :=
  pure (.running ⟨binding.polls, binding.gate, binding.forever, frame, binding.script⟩)

def evalOrNull (binding : Binding) (frame : Frame) : Action Env Value := do
  match ← (eval frame binding.script).run with
  | .ok value => return value
  | .error _ => return .null

/-- The body of a binding, where records are objects of the host type `recordType`. -/
def body (recordType : String) (binding : Binding) : MemberBody host :=
  let run (frame : Frame) : Attempt Env Value := eval frame binding.script
  match binding.form, binding.attachment with
  | .method, .toInstance =>
      .instanceMethod recordType fun object arguments => run (recordFrame recordType object arguments)
  | .method, .toNothing => .staticMethod fun arguments => run (staticFrame recordType arguments)
  | .method, .raw => .method fun receiver arguments => run (rawFrame recordType receiver arguments)
  | .async, .toInstance =>
      .instanceAsync recordType fun object arguments =>
        binding.start (recordFrame recordType object arguments)
  | .async, .toNothing =>
      .staticAsync fun arguments => binding.start (staticFrame recordType arguments)
  | .async, .raw =>
      .async fun receiver arguments => binding.start (rawFrame recordType receiver arguments)
  | .property, .toInstance =>
      .instanceProperty recordType fun object =>
        binding.evalOrNull (recordFrame recordType object default)
  | .property, .toNothing => .staticProperty (binding.evalOrNull (staticFrame recordType default))
  | .property, .raw => .property fun receiver => run (rawFrame recordType receiver default)

end Binding

/-- One action of a scripted hook. -/
inductive HookAction where
  | field (name : String) (value : Value)
  | node (value : Value)
  | log (text : String)
  | fail (message : String)
  deriving Inhabited

namespace HookAction

variable {D : Type} [TypeRegistry host D]

/-- Every registration of a value makes a dispatcher of its own. -/
def perform : HookAction → Registration host D Unit
  | .field name value => do
      let handle ← Registration.ofAction (takeHandles 1)
      .ofOperation (TypeRegistry.registerField name (Dispatcher.constant handle value))
  | .node value => do
      let handle ← Registration.ofAction (takeHandles 1)
      .ofOperation (TypeRegistry.registerNode (Dispatcher.constant handle value))
  | .log text => do
      let typeName := TypeRegistry.typeName (← get)
      .ofAction (Action.modifyEnv fun env => env.writeLog (text ++ ":" ++ typeName))
  | .fail message => throw (.configure message)

/-- The hook of a list of actions; the first that fails ends it. -/
def hook : List HookAction → Registration host D Unit
  | [] => pure ()
  | action :: rest => do
      action.perform
      hook rest

end HookAction

end FieldDispatch.Script
