import FieldDispatch.Dispatch.Compiled

/-!
Compiled schemas: extensions compiled one after the other, with one table that holds the entries
of all of them. The ids of that table are those of the schema's manifest.
-/

namespace FieldDispatch

structure CompiledSchema (H : Host) (D : Type) where
  extensions : List (CompiledExtension H D)
  table : DispatchTable H

namespace CompiledSchema

variable {H : Host} {D : Type}

def empty : CompiledSchema H D := ⟨[], .empty⟩

instance : Inhabited (CompiledSchema H D) := ⟨empty⟩

/-- Adds an extension, unless a member of its table is already in the schema's. -/
def add (schema : CompiledSchema H D) (compiled : CompiledExtension H D) :
    Except CompileError (CompiledSchema H D) :=
  match schema.table.append compiled.table with
  | (.ok _, table) => .ok ⟨schema.extensions ++ [compiled], table⟩
  | (.error error, _) => .error (.registration error)

/-- Compiles units in order and adds each to the schema. Handles are counted on from `handle`. -/
def extend (policy : Policy) (handle : Nat) (schema : CompiledSchema H D) :
    List (Extension × Bodies H) → Except CompileError (CompiledSchema H D)
  | [] => .ok schema
  | (extension, bodies) :: rest => do
      let compiled ← extension.compile policy bodies handle
      let extended ← schema.add compiled
      extended.extend policy (handle + compiled.table.size + 1) rest

/-- The schema of a list of extensions with their bodies. -/
def compile (policy : Policy) (units : List (Extension × Bodies H)) (first : Nat) :
    Except CompileError (CompiledSchema H D) :=
  empty.extend policy first units

/-- The first extension with an extension type. -/
def extension? (schema : CompiledSchema H D) (extensionType : String) :
    Option (CompiledExtension H D) :=
  schema.extensions.find? fun compiled => compiled.extensionType = extensionType

/-- The extensions of a runtime type, in order of compilation. -/
def extensionsOf (schema : CompiledSchema H D) (runtimeType : String) :
    List (CompiledExtension H D) :=
  schema.extensions.filter fun compiled => compiled.runtimeType = runtimeType

/-- Installs a hook on the first extension with an extension type. -/
def installHook (extensionType : String) (hook : Hook H D) :
    List (CompiledExtension H D) → List (CompiledExtension H D)
  | [] => []
  | compiled :: rest =>
      if compiled.extensionType = extensionType then compiled.withHook hook :: rest
      else compiled :: installHook extensionType hook rest

/-- Installs a hook, and says whether there is an extension to take it. -/
def configure (schema : CompiledSchema H D) (extensionType : String) (hook : Hook H D) :
    Bool × CompiledSchema H D :=
  ((schema.extension? extensionType).isSome,
    { schema with extensions := installHook extensionType hook schema.extensions })

def describeFrom (next : UInt32) : List (CompiledExtension H D) → List Manifest.Entry
  | [] => []
  | compiled :: rest =>
      compiled.describe next :: describeFrom (next + UInt32.ofNat compiled.table.size) rest

/-- The manifest, numbered as the table is. -/
def manifest (schema : CompiledSchema H D) : Manifest :=
  Manifest.ofEntries (describeFrom 0 schema.extensions)

end CompiledSchema

end FieldDispatch
