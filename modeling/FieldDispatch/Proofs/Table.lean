import FieldDispatch.Dispatch.Table
import Mathlib.Data.List.Nodup

/-!
What dispatch tables contain. A successful insertion puts one entry at the end, a successful append
all entries of the other table in their order, and nothing already present moves. Because keys are
distinct, looking a key up finds the one entry that has it, at its position.
-/

namespace FieldDispatch.DispatchTable

variable {H : Host}

theorem insert_eq_ok_iff (table extended : DispatchTable H) (entry : Entry H) (id : Nat) :
    table.insert entry = .ok (id, extended) ↔
      entry.key ∉ table.keys ∧ id = table.size ∧ extended.entries = table.entries ++ [entry] := by
  unfold insert
  split
  · next absent =>
    constructor
    · intro success
      cases success
      exact ⟨absent, rfl, rfl⟩
    · rintro ⟨-, rfl, same⟩
      cases extended
      cases same
      rfl
  · next present => simp [present]

theorem insertAll_eq_ok {table final : DispatchTable H} {entries : List (Entry H)}
    {ids : List Nat} (success : table.insertAll entries = (.ok ids, final)) :
    final.entries = table.entries ++ entries ∧
      ids = List.range' table.size entries.length := by
  induction entries generalizing table ids with
  | nil =>
      cases success
      exact ⟨(List.append_nil _).symm, rfl⟩
  | cons entry rest induction =>
      rw [insertAll] at success
      cases inserted : table.insert entry with
      | error error => simp [inserted] at success
      | ok result =>
          obtain ⟨id, extended⟩ := result
          obtain ⟨-, first, grown⟩ := (insert_eq_ok_iff _ _ _ _).mp inserted
          cases later : extended.insertAll rest with
          | mk result last =>
              simp only [inserted, later, Prod.mk.injEq] at success
              obtain ⟨mapped, rfl⟩ := success
              cases result with
              | error error => simp [Except.map] at mapped
              | ok laterIds =>
                  obtain ⟨entriesEq, idsEq⟩ := induction later
                  have size : extended.size = table.size + 1 := by simp [DispatchTable.size, grown]
                  constructor
                  · rw [entriesEq, grown, List.append_assoc, List.singleton_append]
                  · rw [← Except.ok.inj mapped, idsEq, first, size]
                    rfl

/-- The first of some keys that is already taken. -/
def firstTaken? (taken : List (String × String)) (keys : List (String × String)) :
    Option (String × String) :=
  keys.find? fun key => taken.contains key

theorem firstTaken?_cons_of_mem {taken : List (String × String)} {key : String × String}
    (present : key ∈ taken) (rest : List (String × String)) :
    firstTaken? taken (key :: rest) = some key :=
  List.find?_cons_of_pos (List.contains_iff_mem.mpr present)

theorem firstTaken?_cons_of_not_mem {taken : List (String × String)} {key : String × String}
    (absent : key ∉ taken) (rest : List (String × String)) :
    firstTaken? taken (key :: rest) = firstTaken? taken rest :=
  List.find?_cons_of_neg (by simpa using absent)

theorem firstTaken?_eq_none_iff (taken keys : List (String × String)) :
    firstTaken? taken keys = none ↔ ∀ key ∈ keys, key ∉ taken := by
  simp [firstTaken?]

/-- One more taken key does not matter to keys that differ from it. -/
theorem firstTaken?_append_singleton {taken keys : List (String × String)}
    {key : String × String} (other : key ∉ keys) :
    firstTaken? (taken ++ [key]) keys = firstTaken? taken keys := by
  unfold firstTaken?
  rw [← List.head?_filter, ← List.head?_filter]
  apply congrArg List.head?
  apply List.filter_congr
  intro later present
  have distinct : later ≠ key := fun same => other (same ▸ present)
  simp [distinct]

theorem insert_of_mem (table : DispatchTable H) {entry : Entry H}
    (present : entry.key ∈ table.keys) :
    table.insert entry = .error (.duplicateResolver entry.key.1 entry.key.2) := by
  rw [insert, dif_neg (not_not.mpr present)]

theorem insert_of_not_mem (table : DispatchTable H) {entry : Entry H}
    (absent : entry.key ∉ table.keys) :
    ∃ extended, table.insert entry = .ok (table.size, extended) ∧
      extended.keys = table.keys ++ [entry.key] := by
  refine ⟨_, dif_pos absent, ?_⟩
  rw [keys, List.map_append]
  rfl

/-- Entries with keys of their own are refused at the first key that the table has. -/
theorem insertAll_eq_error_iff (table : DispatchTable H) {entries : List (Entry H)}
    (distinct : (entries.map Entry.key).Nodup) (error : RegistrationError) :
    (table.insertAll entries).1 = .error error ↔
      ∃ key, firstTaken? table.keys (entries.map Entry.key) = some key ∧
        error = .duplicateResolver key.1 key.2 := by
  induction entries generalizing table with
  | nil => simp [insertAll, firstTaken?]
  | cons entry rest induction =>
      rw [List.map_cons, List.nodup_cons] at distinct
      rw [insertAll, List.map_cons]
      by_cases present : entry.key ∈ table.keys
      · rw [table.insert_of_mem present, firstTaken?_cons_of_mem present]
        simp [eq_comm]
      · obtain ⟨extended, inserted, keysEq⟩ := table.insert_of_not_mem present
        have later := induction extended distinct.2
        rw [keysEq, firstTaken?_append_singleton distinct.1] at later
        rw [inserted, firstTaken?_cons_of_not_mem present, ← later]
        dsimp only
        cases (extended.insertAll rest).1 <;> simp [Except.map]

/-- Appending keeps the entries of both tables, those of the other one last. -/
theorem entries_append {table other final : DispatchTable H} {ids : List Nat}
    (success : table.append other = (.ok ids, final)) :
    final.entries = table.entries ++ other.entries :=
  (insertAll_eq_ok success).1

theorem mem_keys_iff (table : DispatchTable H) (typeName member : String) :
    (typeName, member) ∈ table.keys ↔
      ∃ entry ∈ table.entries, entry.key = (typeName, member) :=
  List.mem_map

/-- Two entries with one key are the same entry at the same place. -/
theorem position_eq_of_key_eq (table : DispatchTable H) {i j : Nat}
    (iBound : i < table.entries.length) (jBound : j < table.entries.length)
    (same : table.entries[i].key = table.entries[j].key) : i = j := by
  have iKey : i < (table.entries.map Entry.key).length := by simpa using iBound
  have jKey : j < (table.entries.map Entry.key).length := by simpa using jBound
  have keysEq : (table.entries.map Entry.key)[i] = (table.entries.map Entry.key)[j] := by
    simpa using same
  exact table.distinct.getElem_inj_iff.mp keysEq

theorem lookup?_eq_some_iff (table : DispatchTable H) (typeName member : String) (id : Nat) :
    table.lookup? typeName member = some id ↔
      ∃ entry, table.get? id = some entry ∧ entry.key = (typeName, member) := by
  unfold lookup? get?
  rw [List.findIdx?_eq_some_iff_getElem]
  constructor
  · rintro ⟨bound, found, -⟩
    exact ⟨table.entries[id], List.getElem?_eq_getElem bound, of_decide_eq_true found⟩
  · rintro ⟨entry, found, named⟩
    obtain ⟨bound, rfl⟩ := List.getElem?_eq_some_iff.mp found
    refine ⟨bound, decide_eq_true named, ?_⟩
    intro earlier before sameKey
    have earlierBound : earlier < table.entries.length := by omega
    have keysEq : table.entries[earlier].key = table.entries[id].key := by
      rw [named]
      simpa using sameKey
    have := table.position_eq_of_key_eq earlierBound bound keysEq
    omega

theorem find?_eq_some_iff (table : DispatchTable H) (typeName member : String)
    (entry : Entry H) :
    table.find? typeName member = some entry ↔
      entry ∈ table.entries ∧ entry.key = (typeName, member) := by
  unfold find?
  rw [Option.bind_eq_some_iff]
  constructor
  · rintro ⟨id, found, there⟩
    obtain ⟨other, otherThere, named⟩ := (lookup?_eq_some_iff _ _ _ _).mp found
    cases there.symm.trans otherThere
    exact ⟨List.mem_of_getElem? there, named⟩
  · rintro ⟨member, named⟩
    obtain ⟨id, there⟩ := List.getElem?_of_mem member
    exact ⟨id, (lookup?_eq_some_iff _ _ _ _).mpr ⟨entry, there, named⟩, there⟩

theorem isSome_lookup?_iff (table : DispatchTable H) (typeName member : String) :
    (table.lookup? typeName member).isSome ↔ (typeName, member) ∈ table.keys := by
  rw [Option.isSome_iff_exists, mem_keys_iff]
  constructor
  · rintro ⟨id, found⟩
    obtain ⟨entry, there, named⟩ := (lookup?_eq_some_iff _ _ _ _).mp found
    exact ⟨entry, List.mem_of_getElem? there, named⟩
  · rintro ⟨entry, present, named⟩
    obtain ⟨id, there⟩ := List.getElem?_of_mem present
    exact ⟨id, (lookup?_eq_some_iff _ _ _ _).mpr ⟨entry, there, named⟩⟩

end FieldDispatch.DispatchTable
