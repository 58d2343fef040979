/-!
Maps from names that remember the order of first insertion. Writing a name again replaces its
value in place, so no name stands twice. The laws say that a write is read back, that other names
do not see it, and where a new name goes.
-/

namespace FieldDispatch

structure OrderedMap (α : Type) where
  entries : List (String × α)
  distinct : (entries.map Prod.fst).Nodup

namespace OrderedMap

variable {α : Type}

def empty : OrderedMap α := ⟨[], List.nodup_nil⟩

instance : Inhabited (OrderedMap α) := ⟨empty⟩

def names (map : OrderedMap α) : List String := map.entries.map Prod.fst

def size (map : OrderedMap α) : Nat := map.entries.length

def isEmpty (map : OrderedMap α) : Bool := map.entries.isEmpty

def find? (name : String) : List (String × α) → Option α
  | [] => none
  | (other, value) :: rest => if other = name then some value else find? name rest

def get? (map : OrderedMap α) (name : String) : Option α := find? name map.entries

def write (name : String) (value : α) : List (String × α) → List (String × α)
  | [] => [(name, value)]
  | (other, kept) :: rest =>
      if other = name then (other, value) :: rest
      else (other, kept) :: write name value rest

theorem find?_write (name other : String) (value : α) (entries : List (String × α)) :
    find? other (write name value entries) =
      if other = name then some value else find? other entries := by
  induction entries with
  | nil => grind [find?, write]
  | cons entry rest induction => grind [find?, write]

theorem map_fst_write (name : String) (value : α) (entries : List (String × α)) :
    (write name value entries).map Prod.fst =
      if name ∈ entries.map Prod.fst then entries.map Prod.fst
      else entries.map Prod.fst ++ [name] := by
  induction entries with
  | nil => simp [write]
  | cons entry rest induction =>
      by_cases same : entry.1 = name
      · simp [write, same]
      · have other : name ≠ entry.1 := fun h => same h.symm
        simp only [write, same, if_false, List.map_cons, induction, List.mem_cons, other,
          false_or]
        split <;> simp

theorem nodup_write (name : String) (value : α) {entries : List (String × α)}
    (distinct : (entries.map Prod.fst).Nodup) :
    ((write name value entries).map Prod.fst).Nodup := by
  rw [map_fst_write]
  split
  · exact distinct
  · next absent =>
    refine List.nodup_append.mpr ⟨distinct, by simp, ?_⟩
    intro other member last found same
    rw [List.mem_singleton.mp found] at same
    exact absent (same ▸ member)

def insert (map : OrderedMap α) (name : String) (value : α) : OrderedMap α :=
  ⟨write name value map.entries, nodup_write name value map.distinct⟩

/-- Forgets a name, and leaves the others in their order. -/
def erase (map : OrderedMap α) (name : String) : OrderedMap α :=
  ⟨map.entries.filter fun entry => entry.1 ≠ name,
    (List.filter_sublist.map Prod.fst).nodup map.distinct⟩

@[simp]
theorem get?_insert_self (map : OrderedMap α) (name : String) (value : α) :
    (map.insert name value).get? name = some value := by
  simp [get?, insert, find?_write]

theorem get?_insert_of_ne (map : OrderedMap α) {name other : String} (value : α)
    (distinct : other ≠ name) : (map.insert name value).get? other = map.get? other := by
  simp [get?, insert, find?_write, distinct]

/-- A name keeps its place when it is written again, and goes to the end when it is new. -/
theorem names_insert (map : OrderedMap α) (name : String) (value : α) :
    (map.insert name value).names =
      if name ∈ map.names then map.names else map.names ++ [name] :=
  map_fst_write name value map.entries

end OrderedMap

end FieldDispatch
