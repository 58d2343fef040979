import FieldDispatch.Dispatch.Request
import FieldDispatch.Script.Binding
import FieldDispatch.Value.Codec

/-!
Hosts, scripts, bindings, hooks and requests read from JSON. Hosts are known by key; those that
are not declared to be something else are records, empty at first.
-/

namespace FieldDispatch.Script

/-- The host types of a program: records, and what is not a record. -/
structure HostTypes where
  record : String
  other : String
  /-- The keys of the hosts that are not records. -/
  others : List String

def HostTypes.typeOf (types : HostTypes) (key : String) : String :=
  if key ∈ types.others then types.other else types.record

variable (types : HostTypes)

def readValue? (tree : Json) : Option Value := Value.ofTagged? types.typeOf tree

def isOther (entry : String × Json) : Bool := entry.2.string? "kind" = some "opaque"

/-- The keys of the hosts that are declared not to be records. -/
def readOthers? (tree : Json) : Option (List String) := do
  return ((← tree.entries? "hosts").filter isOther).map Prod.fst

/-- The environment in which the declared records stand. -/
def readEnv? (tree : Json) : Option Env := do
  let records := (← tree.entries? "hosts").filter fun entry => !isOther entry
  records.foldlM (fun env (key, host) => do
    let fields ← (← host.entries? "fields").mapM fun (name, value) =>
      (readValue? types value).map (name, ·)
    return env.setRecord ⟨types.record, key⟩ (Record.new fields)) Env.empty

def readView? : String → Option View
  | "value" => some .value
  | "int" => some .int
  | "float" => some .float
  | "string" => some .string
  | "boolean" => some .boolean
  | "object" => some .object
  | _ => none

/-- Reads a script that nests at most `fuel` deep. -/
def readScript? : Nat → Json → Option Script
  | 0, _ => none
  | fuel + 1, tree => do
      let part? (key : String) : Option Script := (tree.get? key).bind (readScript? fuel)
      match ← tree.string? "do" with
      | "const" => return .const (← (tree.get? "value").bind (readValue? types))
      | "field" => return .field (← tree.string? "name")
      | "set" => return .set (← tree.string? "name") (← part? "value")
      | "tick" => return .tick
      | "receiver" => return .receiver
      | "arg" =>
          return .argument (← tree.natural? "index") (← (tree.string? "as").bind readView?)
      | "args" => return .arguments
      | "len" => return .argumentCount
      | "list" => return .list (← (← tree.items? "items").mapM (readScript? fuel))
      | "fail" => return .fail (← tree.string? "message") (← tree.stringOrNone? "code")
      | "external" => return .external (← tree.string? "message")
      | "type_error" => return .typeError (← tree.string? "message")
      | "cancelled" => return .cancelled
      | "cancel" => return .fire (← tree.string? "token") (← part? "then")
      | "log" => return .log (← tree.string? "text") (← part? "then")
      | _ => none

def readForm? : String → Option Form
  | "method" => some .method
  | "async" => some .async
  | "property" => some .property
  | _ => none

def readAttachment? : String → Option Attachment
  | "instance" => some .toInstance
  | "static" => some .toNothing
  | "raw" => some .raw
  | _ => none

/-- A binding with the name of its member. -/
def readBinding? (tree : Json) : Option (String × Binding) := do
  let member ← tree.string? "member"
  let binding : Binding := {
    form := ← (tree.string? "bind").bind readForm?
    attachment := ← (tree.string? "on").bind readAttachment?
    script := ← (tree.get? "body").bind (readScript? types Value.depthLimit)
    polls := ← tree.orElse? "yields" 0 Json.asNat?
    gate := ← tree.stringOrNone? "gate"
    forever := ← tree.bool? "forever" }
  return (member, binding)

def readHookAction? (tree : Json) : Option HookAction :=
  match tree.string? "field", tree.string? "log", tree.string? "fail" with
  | some name, _, _ => do return .field name (← (tree.get? "value").bind (readValue? types))
  | none, some text, _ => some (.log text)
  | none, none, some message => some (.fail message)
  | none, none, none => do return .node (← (tree.get? "node").bind (readValue? types))

/-- Applies the bindings of a request to one that has only its token. JSON arguments are bound
before the others. -/
def readRequest? (token : Token) (tree : Json) : Option Request := do
  let value? := readValue? types
  let parent ← tree.orElse? "parent" none fun part =>
    (value? part).bind fun value => value.asObject?.map some
  let fromJson ← tree.entries? "json_arguments"
  let arguments ← (← tree.items? "arguments").mapM (Json.pair? value?)
  let state ← (← tree.items? "state").mapM (Json.pair? value?)
  let request := (({ Request.new token with parent } : Request).withJsonArguments fromJson)
  let request := arguments.foldl (fun request entry => request.withArgument entry.1 entry.2) request
  return state.foldl (fun request entry => request.withState entry.1 entry.2) request

end FieldDispatch.Script
