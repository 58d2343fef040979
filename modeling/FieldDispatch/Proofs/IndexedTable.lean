import FieldDispatch.Dispatch.IndexedTable
import FieldDispatch.Proofs.Compilation
import Mathlib.Logic.Relation

/-!
Stored tables stand for dispatch tables: whatever is inserted or appended, and whatever of it is
refused, the index leads to the place where a search of the entries would end. Calls only ever add
behind what is there, so an entry keeps its id in every later table. Ids are the places of their
entries as long as they do not wrap.
-/

namespace FieldDispatch

/-- The entries of a table have keys of their own, so inserting them again refuses none. -/
theorem DispatchTable.insertAll_own_entries {H : Host} (table : DispatchTable H) :
    (empty.insertAll table.entries).2 = table := by
  cases inserted : empty.insertAll table.entries with
  | mk result final =>
      cases result with
      | error error =>
          obtain ⟨key, taken, -⟩ := (empty.insertAll_eq_error_iff table.distinct error).mp
            (congrArg Prod.fst inserted)
          have free : firstTaken? [] (table.entries.map Entry.key) = none :=
            (firstTaken?_eq_none_iff _ _).mpr fun _ _ => List.not_mem_nil
          cases taken.symm.trans free
      | ok ids =>
          have entries : final.entries = table.entries := (insertAll_eq_ok inserted).1
          cases table
          cases final
          cases entries
          rfl

theorem DispatchTable.lookup?_of_entries_append {H : Host} {table extended : DispatchTable H}
    {entry : Entry H} (entries : extended.entries = table.entries ++ [entry])
    (absent : entry.key ∉ table.keys) (typeName member : String) :
    extended.lookup? typeName member =
      if entry.key = (typeName, member) then some table.size
      else table.lookup? typeName member := by
  unfold lookup?
  rw [entries, List.findIdx?_append]
  by_cases same : entry.key = (typeName, member)
  · have missing : table.lookup? typeName member = none := by
      rw [← Option.not_isSome_iff_eq_none, table.isSome_lookup?_iff, ← same]
      exact absent
    change Option.or (table.lookup? typeName member) _ = _
    simp [missing, same, List.findIdx?_cons, size]
  · simp [same, List.findIdx?_cons]

namespace IndexedTable

variable {H : Host}

theorem insertAll_cons_of_error {table : IndexedTable H} {entry : Entry H}
    {error : RegistrationError} (refused : (table.insert entry).1 = .error error)
    (rest : List (Entry H)) :
    table.insertAll (entry :: rest) = (.error error, (table.insert entry).2) := by
  rw [insertAll]
  cases inserted : table.insert entry with
  | mk result extended =>
      rw [inserted] at refused
      cases refused
      rfl

theorem insertAll_cons_of_ok {table : IndexedTable H} {entry : Entry H} {id : UInt32}
    (taken : (table.insert entry).1 = .ok id) (rest : List (Entry H)) :
    table.insertAll (entry :: rest) =
      (((table.insert entry).2.insertAll rest).1.map (id :: ·),
        ((table.insert entry).2.insertAll rest).2) := by
  rw [insertAll]
  cases inserted : table.insert entry with
  | mk result extended =>
      rw [inserted] at taken
      cases taken
      rfl

/-- A stored table stands for a dispatch table: it has the same entries, each with the number of its
place, and its index leads where a search of the entries would. -/
structure Represents (stored : IndexedTable H) (table : DispatchTable H) : Prop where
  entries : stored.entries.map Entry.toEntry = table.entries
  ids : stored.entries.map Entry.id = (List.range stored.size).map UInt32.ofNat
  index : ∀ typeName member,
    stored.lookup? typeName member = (table.lookup? typeName member).map UInt32.ofNat

namespace Represents

variable {stored : IndexedTable H} {table : DispatchTable H}

theorem empty : (IndexedTable.empty : IndexedTable H).Represents .empty :=
  ⟨rfl, rfl, fun _ _ => rfl⟩

theorem size_eq (represents : stored.Represents table) : stored.size = table.size := by
  have lengths := congrArg List.length represents.entries
  rwa [List.length_map] at lengths

theorem isSome_lookup_iff (represents : stored.Represents table) (key : String × String) :
    (stored.index.lookup key).isSome ↔ key ∈ table.keys := by
  have found := represents.index key.1 key.2
  change stored.index.lookup key = _ at found
  rw [found, Option.isSome_map, table.isSome_lookup?_iff]

theorem insert_of_mem (represents : stored.Represents table) {entry : Entry H}
    (present : entry.key ∈ table.keys) :
    stored.insert entry = (.error (.duplicateResolver entry.key.1 entry.key.2), stored) := by
  rw [IndexedTable.insert, if_pos ((represents.isSome_lookup_iff _).mpr present)]

theorem insert_of_not_mem (represents : stored.Represents table) {entry : Entry H}
    (absent : entry.key ∉ table.keys) :
    stored.insert entry = (.ok (UInt32.ofNat table.size),
      ⟨stored.entries ++ [{ entry with id := UInt32.ofNat table.size }],
        (entry.key, UInt32.ofNat table.size) :: stored.index⟩) := by
  rw [IndexedTable.insert, if_neg fun found => absent ((represents.isSome_lookup_iff _).mp found),
    represents.size_eq]

/-- The stored form of a table with one more entry. -/
theorem extend (represents : stored.Represents table) {extended : DispatchTable H}
    {entry : Entry H} (entries : extended.entries = table.entries ++ [entry.toEntry])
    (absent : entry.key ∉ table.keys) :
    Represents ⟨stored.entries ++ [{ entry with id := UInt32.ofNat table.size }],
      (entry.key, UInt32.ofNat table.size) :: stored.index⟩ extended := by
  constructor
  · rw [entries, List.map_append, represents.entries]
    rfl
  · have size : (stored.entries ++ [{ entry with id := UInt32.ofNat table.size }]).length =
        table.size + 1 := by
      rw [List.length_append, ← represents.size_eq]
      rfl
    simp only [IndexedTable.size]
    rw [size, List.map_append, represents.ids, represents.size_eq, List.range_succ,
      List.map_append]
    rfl
  · intro typeName member
    have known := represents.index typeName member
    rw [DispatchTable.lookup?_of_entries_append entries absent]
    by_cases same : entry.key = (typeName, member)
    · simp [lookup?, same]
    · have test : ((typeName, member) == entry.key) = false :=
        beq_eq_false_iff_ne.mpr fun equal => same equal.symm
      rw [if_neg same, ← known]
      simp [lookup?, List.lookup_cons, test]

/-- Both forms of a table refuse an entry alike, and the stored one stays as it is. -/
theorem insert_of_error (represents : stored.Represents table) {entry : Entry H}
    {error : RegistrationError} (refused : table.insert entry.toEntry = .error error) :
    stored.insert entry = (.error error, stored) := by
  by_cases present : entry.key ∈ table.keys
  · rw [table.insert_of_mem present] at refused
    cases refused
    exact represents.insert_of_mem present
  · obtain ⟨extended, inserted, -⟩ := table.insert_of_not_mem present
    rw [inserted] at refused
    cases refused

/-- Both forms of a table take an entry under the same id. -/
theorem insert_of_ok (represents : stored.Represents table) {entry : Entry H} {id : Nat}
    {extended : DispatchTable H} (taken : table.insert entry.toEntry = .ok (id, extended)) :
    (stored.insert entry).1 = .ok (UInt32.ofNat id) ∧
      (stored.insert entry).2.Represents extended := by
  obtain ⟨absent, rfl, entries⟩ := (DispatchTable.insert_eq_ok_iff _ _ _ _).mp taken
  rw [represents.insert_of_not_mem absent]
  exact ⟨rfl, represents.extend entries absent⟩

/-- The same for entries one after the other: what was taken before a refusal stays in both. -/
theorem insertAll (represents : stored.Represents table) (entries : List (Entry H)) :
    (stored.insertAll entries).1 =
        (table.insertAll (entries.map Entry.toEntry)).1.map (List.map UInt32.ofNat) ∧
      (stored.insertAll entries).2.Represents (table.insertAll (entries.map Entry.toEntry)).2 := by
  induction entries generalizing stored table with
  | nil => exact ⟨rfl, represents⟩
  | cons entry rest induction =>
      rw [List.map_cons, DispatchTable.insertAll]
      cases inserted : table.insert entry.toEntry with
      | error error =>
          have refused := represents.insert_of_error inserted
          rw [insertAll_cons_of_error (congrArg Prod.fst refused), refused]
          exact ⟨rfl, represents⟩
      | ok result =>
          obtain ⟨taken, extended⟩ := represents.insert_of_ok inserted
          obtain ⟨later, final⟩ := induction extended
          rw [insertAll_cons_of_ok taken]
          refine ⟨?_, final⟩
          dsimp only
          rw [later]
          cases (result.2.insertAll (rest.map Entry.toEntry)).1 <;> rfl

/-- Every dispatch table has a stored form. -/
theorem ofTable (table : DispatchTable H) : (ofTable table).Represents table := by
  have stored := (empty.insertAll (table.entries.map fun entry => (⟨entry, 0⟩ : Entry H))).2
  have plain : (table.entries.map fun entry => (⟨entry, 0⟩ : Entry H)).map Entry.toEntry =
      table.entries := by
    rw [List.map_map]
    exact List.map_id _
  rw [plain, table.insertAll_own_entries] at stored
  exact stored

end Represents

/-- One call on a table, whether it succeeds or not. -/
inductive Step (table : IndexedTable H) : IndexedTable H → Prop where
  | insert (entry : Entry H) : Step table (table.insert entry).2
  | append (other : IndexedTable H) : Step table (table.append other).2

/-- The tables that calls make of a table. -/
def Reaches : IndexedTable H → IndexedTable H → Prop := Relation.ReflTransGen Step

theorem Step.represents {table later : IndexedTable H} (step : Step table later)
    {plain : DispatchTable H} (represents : table.Represents plain) :
    ∃ other : DispatchTable H, later.Represents other := by
  cases step with
  | insert entry =>
      cases inserted : plain.insert entry.toEntry with
      | error error =>
          rw [represents.insert_of_error inserted]
          exact ⟨plain, represents⟩
      | ok result => exact ⟨result.2, (represents.insert_of_ok inserted).2⟩
  | append other => exact ⟨_, (represents.insertAll other.entries).2⟩

theorem Reaches.represents {table : IndexedTable H} (reached : Reaches empty table) :
    ∃ plain : DispatchTable H, table.Represents plain := by
  induction reached with
  | refl => exact ⟨.empty, Represents.empty⟩
  | tail _ step induction =>
      obtain ⟨plain, represents⟩ := induction
      exact step.represents represents

/-- A later table has every entry of an earlier one at its place, and every key under its id. -/
structure Keeps (table later : IndexedTable H) : Prop where
  entries : table.entries <+: later.entries
  index : ∀ typeName member id,
    table.lookup? typeName member = some id → later.lookup? typeName member = some id

namespace Keeps

variable {table later last : IndexedTable H}

theorem refl (table : IndexedTable H) : table.Keeps table :=
  ⟨List.prefix_refl _, fun _ _ _ found => found⟩

theorem trans (first : table.Keeps later) (second : later.Keeps last) : table.Keeps last := by
  refine ⟨first.entries.trans second.entries, ?_⟩
  intro typeName member id found
  exact second.index _ _ _ (first.index _ _ _ found)

theorem size_le (keeps : table.Keeps later) : table.size ≤ later.size := keeps.entries.length_le

theorem get? (keeps : table.Keeps later) {id : UInt32} {entry : Entry H}
    (found : table.get? id = some entry) : later.get? id = some entry := by
  obtain ⟨fresh, grown⟩ := keeps.entries
  have bound : id.toNat < table.entries.length := (List.getElem?_eq_some_iff.mp found).1
  rw [IndexedTable.get?, ← grown, List.getElem?_append_left bound]
  exact found

theorem insert (table : IndexedTable H) (entry : Entry H) :
    table.Keeps (table.insert entry).2 := by
  unfold IndexedTable.insert
  by_cases taken : (table.index.lookup entry.key).isSome
  · rw [if_pos taken]
    exact refl table
  · rw [if_neg taken]
    refine ⟨List.prefix_append _ _, ?_⟩
    intro typeName member id found
    have other : ((typeName, member) == entry.key) = false := by
      apply beq_eq_false_iff_ne.mpr
      intro same
      rw [lookup?, same] at found
      exact taken (Option.isSome_of_eq_some found)
    change List.lookup _ (_ :: table.index) = some id
    rw [List.lookup_cons, other]
    exact found

theorem insertAll (table : IndexedTable H) (entries : List (Entry H)) :
    table.Keeps (table.insertAll entries).2 := by
  induction entries generalizing table with
  | nil => exact refl table
  | cons entry rest induction =>
      have first := insert table entry
      cases result : (table.insert entry).1 with
      | error error =>
          rw [insertAll_cons_of_error result]
          exact first
      | ok id =>
          rw [insertAll_cons_of_ok result]
          exact first.trans (induction _)

end Keeps

theorem Step.keeps {table later : IndexedTable H} (step : Step table later) :
    table.Keeps later := by
  cases step with
  | insert entry => exact Keeps.insert table entry
  | append other => exact Keeps.insertAll table other.entries

theorem Reaches.keeps {table later : IndexedTable H} (reaches : Reaches table later) :
    table.Keeps later := by
  induction reaches with
  | refl => exact Keeps.refl table
  | tail _ step induction => exact induction.trans step.keeps

theorem get?_of_insert {table : IndexedTable H} (bounded : table.size < UInt32.size)
    {entry : Entry H} {id : UInt32} (success : (table.insert entry).1 = .ok id) :
    (table.insert entry).2.get? id = some { entry with id } := by
  unfold insert at success ⊢
  by_cases taken : (table.index.lookup entry.key).isSome
  · rw [if_pos taken] at success
    cases success
  · rw [if_neg taken] at success ⊢
    have same : UInt32.ofNat table.size = id := Except.ok.inj success
    subst same
    have place : (UInt32.ofNat table.size).toNat = table.entries.length :=
      UInt32.toNat_ofNat_of_lt' bounded
    rw [get?, place]
    exact List.getElem?_concat_length

theorem get?_of_insertAll {table : IndexedTable H} {entries : List (Entry H)} {ids : List UInt32}
    (success : (table.insertAll entries).1 = .ok ids)
    (bounded : (table.insertAll entries).2.size < UInt32.size) :
    List.Forall₂ (fun id entry => (table.insertAll entries).2.get? id = some { entry with id })
      ids entries := by
  induction entries generalizing table ids with
  | nil =>
      cases success
      exact List.Forall₂.nil
  | cons entry rest induction =>
      cases result : (table.insert entry).1 with
      | error error =>
          rw [insertAll_cons_of_error result] at success
          cases success
      | ok id =>
          rw [insertAll_cons_of_ok result] at success bounded ⊢
          dsimp only at success bounded ⊢
          have later := Keeps.insertAll (table.insert entry).2 rest
          have small : table.size < UInt32.size := by
            have grown := (Keeps.insert table entry).size_le
            have grownLater := later.size_le
            omega
          cases collected : ((table.insert entry).2.insertAll rest).1 with
          | error error => simp [collected, Except.map] at success
          | ok laterIds =>
              rw [collected] at success
              cases success
              exact List.Forall₂.cons (later.get? (get?_of_insert small result))
                (induction collected bounded)

/-- Entries and index of a table say the same: an id is a place, a key is an id. -/
structure IsIndexed (table : IndexedTable H) : Prop where
  dense : ∀ (position : Nat) (entry : Entry H),
    table.entries[position]? = some entry → entry.id.toNat = position
  distinct : (table.entries.map fun entry => entry.key).Nodup
  lookup_iff : ∀ typeName member id, table.lookup? typeName member = some id ↔
    ∃ entry, table.get? id = some entry ∧ entry.key = (typeName, member)

theorem Represents.isIndexed {table : IndexedTable H} {plain : DispatchTable H}
    (represents : table.Represents plain) (bounded : table.size < UInt32.size) :
    table.IsIndexed := by
  have entryAt (position : Nat) : (table.entries[position]?).map Entry.toEntry =
      plain.get? position := by
    rw [DispatchTable.get?, ← represents.entries, List.getElem?_map]
  constructor
  · intro position entry found
    have bound : position < table.size := (List.getElem?_eq_some_iff.mp found).1
    have numbered := congrArg (fun ids => ids[position]?) represents.ids
    simp only [List.getElem?_map, found, List.getElem?_range bound, Option.map_some,
      Option.some.injEq] at numbered
    rw [numbered]
    exact UInt32.toNat_ofNat_of_lt' (Nat.lt_trans bound bounded)
  · have distinct := plain.distinct
    rw [← represents.entries, List.map_map] at distinct
    exact distinct
  · intro typeName member id
    rw [represents.index, Option.map_eq_some_iff]
    constructor
    · rintro ⟨position, found, rfl⟩
      obtain ⟨entry, there, key⟩ := (plain.lookup?_eq_some_iff _ _ _).mp found
      rw [← entryAt, Option.map_eq_some_iff] at there
      obtain ⟨numbered, there, rfl⟩ := there
      have bound : position < table.size := (List.getElem?_eq_some_iff.mp there).1
      have place : (UInt32.ofNat position).toNat = position :=
        UInt32.toNat_ofNat_of_lt' (Nat.lt_trans bound bounded)
      refine ⟨numbered, ?_, key⟩
      rw [get?, place]
      exact there
    · rintro ⟨entry, there, key⟩
      refine ⟨id.toNat, ?_, UInt32.ofNat_toNat⟩
      apply (plain.lookup?_eq_some_iff _ _ _).mpr
      refine ⟨entry.toEntry, ?_, key⟩
      rw [← entryAt]
      exact congrArg (Option.map Entry.toEntry) there

/-- An id that a call has returned denotes its entry in every later table. -/
theorem ids_denote_entries {table : IndexedTable H} (reached : Reaches empty table)
    (bounded : table.size < UInt32.size) :
    table.IsIndexed ∧
      (∀ typeName member id entry, table.lookup? typeName member = some id →
        table.get? id = some entry →
          table.dispatcher? typeName member = some entry.dispatcher ∧
            ∀ context, table.dispatch? id context = some (entry.dispatcher.call context)) ∧
      (∀ entry error, (table.insert entry).1 = .error error → (table.insert entry).2 = table) ∧
      (∀ entry id, (table.insert entry).1 = .ok id →
        ∀ later, Reaches (table.insert entry).2 later →
          later.get? id = some { entry with id }) ∧
      (∀ other ids, (table.append other).1 = .ok ids →
        (table.append other).2.size < UInt32.size →
          ∀ later, Reaches (table.append other).2 later →
            List.Forall₂ (fun id entry => later.get? id = some { entry with id }) ids
              other.entries) ∧
      (∀ later, Reaches table later → table.Keeps later) ∧
      ∃ plain : DispatchTable H, table.Represents plain := by
  obtain ⟨plain, represents⟩ := reached.represents
  refine ⟨represents.isIndexed bounded, ?_, ?_, ?_, ?_, fun _ => Reaches.keeps, plain, represents⟩
  · intro typeName member id entry found there
    constructor
    · simp [dispatcher?, found, there]
    · intro context
      simp [dispatch?, there]
  · intro entry error refused
    cases inserted : plain.insert entry.toEntry with
    | error other => rw [represents.insert_of_error inserted]
    | ok result =>
        rw [(represents.insert_of_ok inserted).1] at refused
        cases refused
  · intro entry id taken later reaches
    exact reaches.keeps.get? (get?_of_insert bounded taken)
  · intro other ids taken small later reaches
    apply (get?_of_insertAll taken small).imp
    intro id entry found
    exact reaches.keeps.get? found

end IndexedTable

namespace Sample

/-- A field of one type that answers null. -/
def nullField (handle : Nat) (member : String) : IndexedTable.Entry host where
  plan := ⟨⟨"Query", member, 0⟩, .sync, .static "Query", ⟨[]⟩, ⟨"Int"⟩⟩
  dispatcher := .constant handle .null
  id := 0

def moreFields : IndexedTable host :=
  ((IndexedTable.empty.insert (nullField 1 "B")).2.insert (nullField 2 "A")).2

/-- A field, and another one from a table whose second field is refused. -/
def stored : IndexedTable host :=
  ((IndexedTable.empty.insert (nullField 0 "A")).2.append moreFields).2

end Sample

theorem IndexedTable.ids_denote_entries_sample :
    Reaches empty Sample.stored ∧ Sample.stored.size = 2 ∧ Sample.stored.IsIndexed ∧
      Sample.stored.dispatcher? "Query" "B" = some (.constant 1 .null) ∧
      (Sample.stored.insert (Sample.nullField 3 "A")).2 = Sample.stored ∧
      ((Sample.stored.insert (Sample.nullField 3 "C")).2.append Sample.moreFields).2.get? 2 =
        some { Sample.nullField 3 "C" with id := 2 } := by
  have reached : Reaches empty Sample.stored :=
    (Relation.ReflTransGen.single (Step.insert _)).tail (Step.append _)
  have bounded : Sample.stored.size < UInt32.size := by decide
  obtain ⟨indexed, dispatches, refused, returned, -⟩ := ids_denote_entries reached bounded
  refine ⟨reached, rfl, indexed, ?_, ?_, ?_⟩
  · exact (dispatches "Query" "B" 1 _ rfl rfl).1
  · exact refused (Sample.nullField 3 "A") _ rfl
  · exact returned (Sample.nullField 3 "C") 2 rfl _
      (Relation.ReflTransGen.single (Step.append Sample.moreFields))

end FieldDispatch
