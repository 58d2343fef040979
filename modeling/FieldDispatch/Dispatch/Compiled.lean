import FieldDispatch.Dispatch.ObjectType
import FieldDispatch.Dispatch.Table

/-!
Compiled extensions: the table of an extension's dispatchers and the steps that register it. The
node resolver comes first, then one field for each entry in table order, then the hook that was
installed by hand, if any. Compilation stops at the first resolver without a body of its kind.
-/

namespace FieldDispatch

/-- The node resolver of an extension, which is no table entry. -/
structure NodeResolver (H : Host) where
  plan : ResolverPlan
  dispatcher : Dispatcher H

inductive RegistrationStep (H : Host) where
  | node (dispatcher : Dispatcher H)
  | field (name : String) (id : Nat) (dispatcher : Dispatcher H)

/-- `Hook H D` is configuration by hand of a descriptor of the form `D`. -/
abbrev Hook (H : Host) (D : Type) := Registration H D Unit

structure CompiledExtension (H : Host) (D : Type) where
  runtimeType : String
  extensionType : String
  node : Option (NodeResolver H)
  table : DispatchTable H
  steps : List (RegistrationStep H)
  omitted : List OmittedMember
  hook : Option (Hook H D)
  warnings : List Diagnostic

namespace RegistrationStep

variable {H : Host} {D : Type}

/-- The step for the entry with an id. -/
def ofEntry (id : Nat) (entry : DispatchTable.Entry H) : RegistrationStep H :=
  .field entry.plan.name.memberName id entry.dispatcher

def describe (first : UInt32) : RegistrationStep H → Manifest.Step
  | .node _ => .node
  | .field name id _ => .field name (first + UInt32.ofNat id)

def register [TypeRegistry H D] : RegistrationStep H → Registration H D Unit
  | .node dispatcher => .ofOperation (TypeRegistry.registerNode dispatcher)
  | .field name _ dispatcher => .ofOperation (TypeRegistry.registerField name dispatcher)

def registerAll [TypeRegistry H D] : List (RegistrationStep H) → Registration H D Unit
  | [] => pure ()
  | step :: rest => do
      step.register
      registerAll rest

end RegistrationStep

namespace CompiledExtension

variable {H : Host} {D : Type}

/-- The steps for a node resolver and a table. -/
def stepsFor (node : Option (NodeResolver H)) (table : DispatchTable H) :
    List (RegistrationStep H) :=
  (node.map fun node => RegistrationStep.node node.dispatcher).toList ++
    table.entries.mapIdx RegistrationStep.ofEntry

/-- The dispatcher of a member that became a resolver. -/
def dispatcher? (compiled : CompiledExtension H D) (member : String) : Option (Dispatcher H) :=
  compiled.table.dispatcher? compiled.runtimeType member

def nodeDispatcher? (compiled : CompiledExtension H D) : Option (Dispatcher H) :=
  compiled.node.map NodeResolver.dispatcher

/-- Installs a hook in the place of an earlier one. -/
def withHook (compiled : CompiledExtension H D) (hook : Hook H D) : CompiledExtension H D :=
  { compiled with hook := some hook }

/-- Registers everything on a descriptor of the runtime type; touches no other descriptor. -/
def register [TypeRegistry H D] (compiled : CompiledExtension H D) : Registration H D Unit := do
  let found := TypeRegistry.typeName (← get)
  if found = compiled.runtimeType then
    RegistrationStep.registerAll compiled.steps
    match compiled.hook with
    | some hook => hook
    | none => pure ()
  else throw (.typeMismatch compiled.runtimeType found)

/-- The manifest entry, its resolvers numbered from `first`. -/
def describe (compiled : CompiledExtension H D) (first : UInt32) : Manifest.Entry :=
  { runtimeType := compiled.runtimeType
    extensionType := compiled.extensionType
    nodeResolver := compiled.node.map fun node => node.plan.describe none
    resolvers := compiled.table.describe first
    omitted := compiled.omitted.map OmittedMember.describe
    steps := compiled.steps.map (RegistrationStep.describe first) ++ [.configure] }

end CompiledExtension

namespace ResolverPlan

variable {H : Host}

/-- The dispatcher of a plan, from the body bound under its member's name. -/
def bind (plan : ResolverPlan) (bodies : Bodies H) (handle : Nat) :
    Except CompileError (Dispatcher H) :=
  match bodies.get? plan.name.memberName with
  | none => .error (.missingBody plan.name.typeName plan.name.memberName)
  | some body => Dispatcher.ofPlan handle plan body

def bindNode (bodies : Bodies H) (handle : Nat) :
    Option ResolverPlan → Except CompileError (Option (NodeResolver H))
  | none => .ok none
  | some plan => do return some ⟨plan, ← plan.bind bodies handle⟩

/-- Binds plans in order and adds their dispatchers to a table. -/
def bindAll (bodies : Bodies H) (handle : Nat) (table : DispatchTable H) :
    List ResolverPlan → Except CompileError (DispatchTable H)
  | [] => .ok table
  | plan :: rest => do
      let dispatcher ← plan.bind bodies handle
      let (_, extended) ← (table.insert ⟨plan, dispatcher⟩).mapError CompileError.registration
      bindAll bodies (handle + 1) extended rest

end ResolverPlan

namespace Extension

variable {H : Host} {D : Type}

/-- Compiles an extension. The node resolver takes the handle `first`, the others follow it. -/
def compile (policy : Policy) (extension : Extension) (bodies : Bodies H) (first : Nat) :
    Except CompileError (CompiledExtension H D) := do
  let (plan, diagnostics) := extension.plan policy
  if Diagnostic.hasErrors diagnostics then
    throw (.invalid extension.runtimeType diagnostics)
  let node ← ResolverPlan.bindNode bodies first plan.nodeResolver
  let table ← ResolverPlan.bindAll bodies (first + 1) .empty plan.resolvers
  return {
    runtimeType := plan.runtimeType
    extensionType := plan.extensionType
    node
    table
    steps := CompiledExtension.stepsFor node table
    omitted := plan.omitted
    hook := none
    warnings := diagnostics }

end Extension

end FieldDispatch
