import FieldDispatch.Dispatch.Arguments
import FieldDispatch.Dispatch.Resolution
import FieldDispatch.OrderedMap

/-!
Scripts: member bodies written as data, over host objects that are records of values. A script
reads and writes the record it is invoked on, reads its arguments, fails, fires tokens and writes
to a log. Evaluation goes from left to right and stops at the first failure.
-/

namespace FieldDispatch

/-- The ways in which a script reads an argument. -/
inductive Script.View where
  | value
  | int
  | float
  | string
  | boolean
  | object
  deriving DecidableEq, Inhabited

inductive Script where
  | const (value : Value)
  | field (name : String)
  | set (name : String) (value : Script)
  | tick
  | receiver
  | argument (index : Nat) (view : Script.View)
  | arguments
  | argumentCount
  | list (items : List Script)
  | fail (message : String) (code : Option String)
  | external (message : String)
  | typeError (message : String)
  | cancelled
  | fire (token : String) (next : Script)
  | log (text : String) (next : Script)
  deriving Inhabited

namespace Script

/-- A host object that scripts can use: fields by name, and a counter. -/
structure Record where
  fields : OrderedMap Value
  count : Nat
  deriving Inhabited

def Record.new (fields : List (String × Value)) : Record :=
  ⟨fields.foldl (fun map entry => map.insert entry.1 entry.2) .empty, 0⟩

/-- Everything that scripts share. A record that was never written is empty, and a token gets its
name when it is first asked for. -/
structure Env where
  records : OrderedMap Record
  openGates : List String
  log : List String
  tokens : OrderedMap Token
  nextToken : Nat
  nextHandle : Nat

namespace Env

def empty : Env := ⟨.empty, [], [], .empty, 0, 0⟩

def record (env : Env) (host : HostRef) : Record :=
  (env.records.get? host.key).getD ⟨.empty, 0⟩

def setRecord (env : Env) (host : HostRef) (record : Record) : Env :=
  { env with records := env.records.insert host.key record }

def openGate (env : Env) (gate : String) : Env :=
  { env with openGates := gate :: env.openGates }

def writeLog (env : Env) (text : String) : Env := { env with log := env.log ++ [text] }

end Env

/-- A token that no one else has. -/
def newToken : Action Env Token := do
  let env ← Action.getEnv
  Action.setEnv { env with nextToken := env.nextToken + 1 }
  return ⟨env.nextToken⟩

def namedToken (name : String) : Action Env Token := do
  match (← Action.getEnv).tokens.get? name with
  | some token => return token
  | none =>
      let token ← newToken
      Action.modifyEnv fun env => { env with tokens := env.tokens.insert name token }
      return token

/-- The first of so many numbers that no dispatcher has yet. -/
def takeHandles (count : Nat) : Action Env Nat := do
  let env ← Action.getEnv
  Action.setEnv { env with nextHandle := env.nextHandle + count }
  return env.nextHandle

/-- What a script sees of its call. The receiver is visible only to a body that takes it as it
is; the record is there if the receiver is one. -/
structure Frame where
  recordType : String
  receiver : Option ObjectRef
  record : Option HostRef
  arguments : Arguments

def readArgument (frame : Frame) (index : Nat) : View → Except ResolverError Value
  | .value => frame.arguments.value index
  | .int => (frame.arguments.int index).map .int
  | .float => (frame.arguments.float index).map .float
  | .string => (frame.arguments.string index).map .string
  | .boolean => (frame.arguments.boolean index).map .boolean
  | .object => (frame.arguments.object frame.recordType index).map fun host => .string host.key

def readField (frame : Frame) (name : String) : Action Env Value := do
  match frame.record with
  | none => return .null
  | some host => return (((← Action.getEnv).record host).fields.get? name).getD .null

def writeField (frame : Frame) (name : String) (value : Value) : Action Env Unit := do
  match frame.record with
  | none => return ()
  | some host =>
      Action.modifyEnv fun env =>
        let record := env.record host
        env.setRecord host { record with fields := record.fields.insert name value }

def countUp (frame : Frame) : Action Env Value := do
  match frame.record with
  | none => return .null
  | some host =>
      let env ← Action.getEnv
      let record := env.record host
      Action.setEnv (env.setRecord host { record with count := record.count + 1 })
      return .int (Int64.ofNat (record.count + 1))

mutual

def eval (frame : Frame) : Script → Attempt Env Value
  | .const value => pure value
  | .field name => ExceptT.lift (readField frame name)
  | .set name value => do
      let written ← eval frame value
      ExceptT.lift (writeField frame name written)
      return written
  | .tick => ExceptT.lift (countUp frame)
  | .receiver => pure (Value.ofOption .object frame.receiver)
  | .argument index view => .ofExcept (readArgument frame index view)
  | .arguments => pure (.list frame.arguments.values)
  | .argumentCount => pure (.int (Int64.ofNat frame.arguments.size))
  | .list items => do return .list (← evalItems frame items)
  | .fail message code => throw (.failed message code)
  | .external message => throw (.external message)
  | .typeError message => throw (.type (.other message))
  | .cancelled => throw .cancelled
  | .fire token next => do
      ExceptT.lift (do Action.fire (← namedToken token))
      eval frame next
  | .log text next => do
      ExceptT.lift (Action.modifyEnv fun env => env.writeLog text)
      eval frame next

def evalItems (frame : Frame) : List Script → Attempt Env (List Value)
  | [] => pure []
  | item :: rest => do
      let value ← eval frame item
      let values ← evalItems frame rest
      return value :: values

end

/-- A script that runs after some suspension: so many polls, then until a gate is open. -/
structure Task where
  polls : Nat
  gate : Option String
  forever : Bool
  frame : Frame
  script : Script

def Task.isHeld (task : Task) (env : Env) : Bool :=
  task.forever || task.gate.any fun gate => gate ∉ env.openGates

def Task.advance (task : Task) : Action Env (Future Task) := do
  if 0 < task.polls then return .running { task with polls := task.polls - 1 }
  if task.isHeld (← Action.getEnv) then return .running task
  return .finished (← (eval task.frame task.script).run)

/-- The host program whose members are scripts. -/
def host : Host := ⟨Env, Task, Task.advance⟩

end Script

end FieldDispatch
