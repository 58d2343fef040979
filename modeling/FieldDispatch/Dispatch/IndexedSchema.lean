import FieldDispatch.Dispatch.IndexedTable
import FieldDispatch.Dispatch.Schema

/-!
Compiled extensions and schemas whose tables are stored. The entries of an extension are numbered
when they are put into its table, and its registration steps carry those numbers. In the table of
the schema the entries are numbered anew. The manifest keeps the numbers of the extensions and
counts each of them on from the sizes of the tables before.
-/

namespace FieldDispatch

inductive IndexedStep (H : Host) where
  | node (dispatcher : Dispatcher H)
  | field (name : String) (id : UInt32) (dispatcher : Dispatcher H)

structure IndexedExtension (H : Host) (D : Type) where
  runtimeType : String
  extensionType : String
  node : Option (NodeResolver H)
  table : IndexedTable H
  steps : List (IndexedStep H)
  omitted : List OmittedMember
  hook : Option (Hook H D)
  warnings : List Diagnostic

structure IndexedSchema (H : Host) (D : Type) where
  extensions : List (IndexedExtension H D)
  table : IndexedTable H

namespace IndexedStep

variable {H : Host}

/-- The step for an entry, under the id that is stored with it. -/
def ofEntry (entry : IndexedTable.Entry H) : IndexedStep H :=
  .field entry.plan.name.memberName entry.id entry.dispatcher

def describe (first : UInt32) : IndexedStep H → Manifest.Step
  | .node _ => .node
  | .field name id _ => .field name (first + id)

end IndexedStep

namespace IndexedExtension

variable {H : Host} {D : Type}

/-- The steps for a node resolver and a table. -/
def stepsFor (node : Option (NodeResolver H)) (table : IndexedTable H) : List (IndexedStep H) :=
  (node.map fun node => IndexedStep.node node.dispatcher).toList ++
    table.entries.map IndexedStep.ofEntry

/-- The manifest entry; ids are counted on from `first`. -/
def describe (compiled : IndexedExtension H D) (first : UInt32) : Manifest.Entry :=
  { runtimeType := compiled.runtimeType
    extensionType := compiled.extensionType
    nodeResolver := compiled.node.map fun node => node.plan.describe none
    resolvers := compiled.table.entries.map fun entry =>
      { entry.describe with id := some (first + entry.id) }
    omitted := compiled.omitted.map OmittedMember.describe
    steps := compiled.steps.map (IndexedStep.describe first) ++ [.configure] }

end IndexedExtension

/-- Binds plans in order and stores their dispatchers in a table. -/
def ResolverPlan.storeAll {H : Host} (bodies : Bodies H) (handle : Nat) (table : IndexedTable H) :
    List ResolverPlan → Except CompileError (IndexedTable H)
  | [] => .ok table
  | plan :: rest => do
      let dispatcher ← plan.bind bodies handle
      match table.insert ⟨⟨plan, dispatcher⟩, 0⟩ with
      | (.ok _, extended) => storeAll bodies (handle + 1) extended rest
      | (.error error, _) => .error (.registration error)

/-- Compiles an extension to a stored table. Handles are given as in `Extension.compile`. -/
def Extension.compileIndexed {H : Host} {D : Type} (policy : Policy) (extension : Extension)
    (bodies : Bodies H) (first : Nat) : Except CompileError (IndexedExtension H D) := do
  let (plan, diagnostics) := extension.plan policy
  if Diagnostic.hasErrors diagnostics then
    throw (.invalid extension.runtimeType diagnostics)
  let node ← ResolverPlan.bindNode bodies first plan.nodeResolver
  let table ← ResolverPlan.storeAll bodies (first + 1) .empty plan.resolvers
  return {
    runtimeType := plan.runtimeType
    extensionType := plan.extensionType
    node
    table
    steps := IndexedExtension.stepsFor node table
    omitted := plan.omitted
    hook := none
    warnings := diagnostics }

namespace IndexedSchema

variable {H : Host} {D : Type}

def empty : IndexedSchema H D := ⟨[], .empty⟩

instance : Inhabited (IndexedSchema H D) := ⟨empty⟩

/-- Adds an extension and a copy of its entries under new ids. -/
def add (schema : IndexedSchema H D) (compiled : IndexedExtension H D) :
    Except CompileError (IndexedSchema H D) :=
  match schema.table.append compiled.table with
  | (.ok _, table) => .ok ⟨schema.extensions ++ [compiled], table⟩
  | (.error error, _) => .error (.registration error)

/-- Compiles units in order and adds each to the schema. -/
def extend (policy : Policy) (handle : Nat) (schema : IndexedSchema H D) :
    List (Extension × Bodies H) → Except CompileError (IndexedSchema H D)
  | [] => .ok schema
  | (extension, bodies) :: rest => do
      let compiled ← extension.compileIndexed policy bodies handle
      let extended ← schema.add compiled
      extended.extend policy (handle + compiled.table.size + 1) rest

/-- The schema of a list of extensions with their bodies. -/
def compile (policy : Policy) (units : List (Extension × Bodies H)) (first : Nat) :
    Except CompileError (IndexedSchema H D) :=
  empty.extend policy first units

def describeFrom (next : UInt32) : List (IndexedExtension H D) → List Manifest.Entry
  | [] => []
  | compiled :: rest =>
      compiled.describe next :: describeFrom (next + UInt32.ofNat compiled.table.size) rest

/-- The manifest, made of the extensions; the table of the schema has no part in it. -/
def manifest (schema : IndexedSchema H D) : Manifest :=
  Manifest.ofEntries (describeFrom 0 schema.extensions)

end IndexedSchema

end FieldDispatch
