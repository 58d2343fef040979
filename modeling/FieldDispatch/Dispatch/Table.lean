import FieldDispatch.Dispatch.Dispatcher

/-!
Dispatch tables. Entries stand in the order of insertion and the id of an entry is its position,
so an id stays valid whatever is inserted later. A type and member name one entry at most: a table
has no two entries with one key, and refuses a key that it has.
-/

namespace FieldDispatch

structure DispatchTable.Entry (H : Host) where
  plan : ResolverPlan
  dispatcher : Dispatcher H

namespace DispatchTable.Entry

variable {H : Host}

/-- The type and the member under which the entry is found. -/
def key (entry : Entry H) : String × String :=
  (entry.plan.name.typeName, entry.plan.name.memberName)

end DispatchTable.Entry

structure DispatchTable (H : Host) where
  entries : List (DispatchTable.Entry H)
  distinct : (entries.map DispatchTable.Entry.key).Nodup

namespace DispatchTable

variable {H : Host}

def empty : DispatchTable H := ⟨[], List.nodup_nil⟩

instance : Inhabited (DispatchTable H) := ⟨empty⟩

def size (table : DispatchTable H) : Nat := table.entries.length

def isEmpty (table : DispatchTable H) : Bool := table.entries.isEmpty

def keys (table : DispatchTable H) : List (String × String) := table.entries.map Entry.key

/-- The id of the entry for a member of a type. -/
def lookup? (table : DispatchTable H) (typeName member : String) : Option Nat :=
  table.entries.findIdx? fun entry => entry.key = (typeName, member)

def get? (table : DispatchTable H) (id : Nat) : Option (Entry H) := table.entries[id]?

/-- The entry for a member of a type. -/
def find? (table : DispatchTable H) (typeName member : String) : Option (Entry H) :=
  (table.lookup? typeName member).bind table.get?

def dispatcher? (table : DispatchTable H) (typeName member : String) : Option (Dispatcher H) :=
  (table.find? typeName member).map Entry.dispatcher

/-- Runs the dispatcher with an id, if there is one. -/
def dispatch? (table : DispatchTable H) (id : Nat) (context : FieldContext H) :
    Option (Action H.Env (Resolution H.Task)) :=
  (table.get? id).map fun entry => entry.dispatcher.call context

theorem nodup_append_singleton (table : DispatchTable H) {entry : Entry H}
    (absent : entry.key ∉ table.keys) : ((table.entries ++ [entry]).map Entry.key).Nodup := by
  rw [List.map_append]
  refine List.nodup_append.mpr ⟨table.distinct, by simp, ?_⟩
  intro other member last found same
  rw [List.map_singleton, List.mem_singleton] at found
  exact absent (found ▸ same ▸ member)

/-- Adds an entry under the next id; gives that id and the new table. -/
def insert (table : DispatchTable H) (entry : Entry H) :
    Except RegistrationError (Nat × DispatchTable H) :=
  if absent : entry.key ∉ table.keys then
    .ok (table.size, ⟨table.entries ++ [entry], table.nodup_append_singleton absent⟩)
  else .error (.duplicateResolver entry.key.1 entry.key.2)

/-- Inserts entries in order until one fails; those before it stay. -/
def insertAll (table : DispatchTable H) :
    List (Entry H) → Except RegistrationError (List Nat) × DispatchTable H
  | [] => (.ok [], table)
  | entry :: rest =>
      match table.insert entry with
      | .error error => (.error error, table)
      | .ok (id, extended) =>
          let (ids, final) := extended.insertAll rest
          (ids.map (id :: ·), final)

/-- Appends the entries of another table under new ids. -/
def append (table other : DispatchTable H) :
    Except RegistrationError (List Nat) × DispatchTable H :=
  table.insertAll other.entries

/-- The manifest resolvers of the entries, numbered by id from `first` on. -/
def describe (table : DispatchTable H) (first : UInt32) : List Manifest.Resolver :=
  table.entries.mapIdx fun id entry => entry.plan.describe (some (first + UInt32.ofNat id))

end DispatchTable

end FieldDispatch
