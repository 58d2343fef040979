import FieldDispatch.Dispatch.Table

/-!
Dispatch tables as they are stored. Each entry carries its id, and an index beside the entries leads
from a type and member name to an id, so that a lookup does not search the entries. An entry that is
put into a table loses the id that it had before. Ids are words; a table never has as many entries
as there are words.
-/

namespace FieldDispatch

structure IndexedTable.Entry (H : Host) extends DispatchTable.Entry H where
  id : UInt32

def IndexedTable.Entry.describe {H : Host} (entry : IndexedTable.Entry H) : Manifest.Resolver :=
  entry.plan.describe (some entry.id)

structure IndexedTable (H : Host) where
  entries : List (IndexedTable.Entry H)
  index : List ((String × String) × UInt32)

namespace IndexedTable

variable {H : Host}

def empty : IndexedTable H := ⟨[], []⟩

instance : Inhabited (IndexedTable H) := ⟨empty⟩

def size (table : IndexedTable H) : Nat := table.entries.length

def isEmpty (table : IndexedTable H) : Bool := table.entries.isEmpty

/-- What the index has for a member of a type. A key that is written again hides its old id. -/
def lookup? (table : IndexedTable H) (typeName member : String) : Option UInt32 :=
  table.index.lookup (typeName, member)

def get? (table : IndexedTable H) (id : UInt32) : Option (Entry H) := table.entries[id.toNat]?

def dispatcher? (table : IndexedTable H) (typeName member : String) : Option (Dispatcher H) :=
  ((table.lookup? typeName member).bind table.get?).map fun entry => entry.dispatcher

/-- Runs the dispatcher with an id, if there is one. -/
def dispatch? (table : IndexedTable H) (id : UInt32) (context : FieldContext H) :
    Option (Action H.Env (Resolution H.Task)) :=
  (table.get? id).map fun entry => entry.dispatcher.call context

/-- Stores an entry under the next id, unless its key is in the index. -/
def insert (table : IndexedTable H) (entry : Entry H) :
    Except RegistrationError UInt32 × IndexedTable H :=
  if (table.index.lookup entry.key).isSome then
    (.error (.duplicateResolver entry.key.1 entry.key.2), table)
  else
    let id := UInt32.ofNat table.size
    (.ok id, ⟨table.entries ++ [{ entry with id }], (entry.key, id) :: table.index⟩)

/-- Inserts entries in order until one fails; those before it stay. -/
def insertAll (table : IndexedTable H) :
    List (Entry H) → Except RegistrationError (List UInt32) × IndexedTable H
  | [] => (.ok [], table)
  | entry :: rest =>
      match table.insert entry with
      | (.error error, unchanged) => (.error error, unchanged)
      | (.ok id, extended) =>
          let (ids, final) := extended.insertAll rest
          (ids.map (id :: ·), final)

/-- Appends the entries of another table under new ids. -/
def append (table other : IndexedTable H) :
    Except RegistrationError (List UInt32) × IndexedTable H :=
  table.insertAll other.entries

/-- The stored form of a table. -/
def ofTable (table : DispatchTable H) : IndexedTable H :=
  (empty.insertAll (table.entries.map fun entry => ⟨entry, 0⟩)).2

/-- The manifest resolvers of the entries. -/
def describe (table : IndexedTable H) : List Manifest.Resolver :=
  table.entries.map Entry.describe

end IndexedTable

end FieldDispatch
