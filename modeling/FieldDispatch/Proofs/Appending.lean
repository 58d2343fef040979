import FieldDispatch.Proofs.IndexedTable
import Mathlib.Data.List.TakeWhile

/-!
What appending one stored table to another leaves. The entries of the other table come behind those
that are there, under the ids of their new places, up to the first whose key is taken. Since a table
never has a key twice, it does not matter whether a third table is appended to the two together or
to the second of them first.
-/

namespace FieldDispatch

namespace IndexedTable

variable {H : Host}

/-- The entries of a table, without their ids. -/
def contents (table : IndexedTable H) : List (DispatchTable.Entry H) :=
  table.entries.map Entry.toEntry

def keys (table : IndexedTable H) : List (String × String) :=
  table.contents.map DispatchTable.Entry.key

/-- Entries under the ids of consecutive places. -/
def placed (first : Nat) (fresh : List (DispatchTable.Entry H)) : List (Entry H) :=
  fresh.mapIdx fun place entry => ⟨entry, UInt32.ofNat (first + place)⟩

/-- The ids of consecutive places. -/
def idsFrom (first count : Nat) : List UInt32 := (List.range' first count).map UInt32.ofNat

/-- A table with more entries behind its own. -/
def extendedBy (table : IndexedTable H) (fresh : List (DispatchTable.Entry H)) : IndexedTable H :=
  ⟨table.entries ++ placed table.size fresh,
    ((placed table.size fresh).map fun entry => (entry.key, entry.id)).reverse ++ table.index⟩

theorem keys_eq_map (table : IndexedTable H) :
    table.keys = table.entries.map fun entry => entry.key :=
  List.map_map

theorem placed_append (first : Nat) (fresh later : List (DispatchTable.Entry H)) :
    placed first (fresh ++ later) = placed first fresh ++ placed (first + fresh.length) later := by
  simp only [placed, List.mapIdx_append, Nat.add_assoc, Nat.add_comm fresh.length]

theorem map_toEntry_placed (first : Nat) (fresh : List (DispatchTable.Entry H)) :
    (placed first fresh).map Entry.toEntry = fresh := by
  apply List.ext_getElem <;> simp [placed]

section ExtendedBy

variable (table : IndexedTable H) (fresh later : List (DispatchTable.Entry H))

theorem extendedBy_nil : table.extendedBy [] = table := by
  simp [extendedBy, placed]

theorem contents_extendedBy : (table.extendedBy fresh).contents = table.contents ++ fresh := by
  rw [contents, extendedBy, List.map_append, map_toEntry_placed, contents]

theorem keys_extendedBy : (table.extendedBy fresh).keys =
    table.keys ++ fresh.map DispatchTable.Entry.key := by
  rw [keys, contents_extendedBy, List.map_append, keys]

theorem size_extendedBy : (table.extendedBy fresh).size = table.size + fresh.length := by
  simp [extendedBy, placed, size]

theorem extendedBy_append :
    table.extendedBy (fresh ++ later) = (table.extendedBy fresh).extendedBy later := by
  have size := table.size_extendedBy fresh
  unfold extendedBy at size ⊢
  rw [size, placed_append]
  simp

theorem lookup_extendedBy_of_not_mem {key : String × String}
    (absent : key ∉ fresh.map DispatchTable.Entry.key) :
    (table.extendedBy fresh).index.lookup key = table.index.lookup key := by
  have missing : (((placed table.size fresh).map fun entry =>
      (entry.key, entry.id)).reverse).lookup key = none := by
    rw [List.lookup_eq_none_iff]
    intro named present
    obtain ⟨entry, listed, rfl⟩ := List.mem_map.mp (List.mem_reverse.mp present)
    apply bne_iff_ne.mpr
    intro same
    apply absent
    rw [same, ← map_toEntry_placed table.size fresh, List.map_map]
    exact List.mem_map_of_mem listed
  rw [extendedBy, List.lookup_append, missing, Option.none_or]

end ExtendedBy

/-! ## Entries one after the other -/

theorem insert_of_absent {table : IndexedTable H} {entry : Entry H}
    (absent : table.index.lookup entry.key = none) :
    table.insert entry = (.ok (UInt32.ofNat table.size), table.extendedBy [entry.toEntry]) := by
  rw [insert, absent]
  rfl

theorem insert_of_known {table : IndexedTable H} {entry : Entry H}
    (known : (table.index.lookup entry.key).isSome) :
    table.insert entry = (.error (.duplicateResolver entry.key.1 entry.key.2), table) := by
  rw [insert, if_pos known]

/-- Entries with keys of their own that the index does not have are all taken. -/
theorem insertAll_append_of_absent {table : IndexedTable H} {taken : List (Entry H)}
    (distinct : (taken.map fun entry => entry.key).Nodup)
    (absent : ∀ entry ∈ taken, table.index.lookup entry.key = none) (rest : List (Entry H)) :
    table.insertAll (taken ++ rest) =
      let done := (table.extendedBy (taken.map Entry.toEntry)).insertAll rest
      (done.1.map (idsFrom table.size taken.length ++ ·), done.2) := by
  induction taken generalizing table with
  | nil =>
      rw [List.nil_append, List.map_nil, extendedBy_nil]
      cases table.insertAll rest with
      | mk result final => cases result <;> rfl
  | cons entry later induction =>
      rw [List.map_cons, List.nodup_cons] at distinct
      have inserted := insert_of_absent (absent entry List.mem_cons_self)
      have laterAbsent : ∀ other ∈ later,
          (table.extendedBy [entry.toEntry]).index.lookup other.key = none := by
        intro other present
        have apart : other.key ∉ [entry.toEntry].map DispatchTable.Entry.key := by
          intro same
          rw [List.map_singleton, List.mem_singleton] at same
          exact distinct.1 (List.mem_map.mpr ⟨other, present, same⟩)
        rw [lookup_extendedBy_of_not_mem _ _ apart]
        exact absent other (List.mem_cons_of_mem _ present)
      have grown := induction distinct.2 laterAbsent
      rw [List.cons_append, insertAll_cons_of_ok (congrArg Prod.fst inserted), inserted]
      dsimp only
      rw [grown, ← extendedBy_append, size_extendedBy]
      dsimp only [List.singleton_append, List.length_singleton]
      rw [List.map_cons]
      cases (table.extendedBy _).insertAll rest with
      | mk result final => cases result <;> rfl

/-! ## Tables that calls have made -/

namespace Reaches

variable {table other : IndexedTable H}

theorem isSome_lookup_iff (reached : Reaches empty table) (key : String × String) :
    (table.index.lookup key).isSome ↔ key ∈ table.keys := by
  obtain ⟨plain, represents⟩ := reached.represents
  rw [represents.isSome_lookup_iff, keys, contents, represents.entries]
  rfl

theorem lookup_eq_none (reached : Reaches empty table) {key : String × String}
    (absent : key ∉ table.keys) : table.index.lookup key = none := by
  rw [← Option.not_isSome_iff_eq_none, reached.isSome_lookup_iff]
  exact absent

theorem nodup_keys (reached : Reaches empty table) : table.keys.Nodup := by
  obtain ⟨plain, represents⟩ := reached.represents
  rw [keys, contents, represents.entries]
  exact plain.distinct

/-- Either all entries of the other table are taken, or those before the first with a known key. -/
theorem append_cases (reached : Reaches empty table) (otherReached : Reaches empty other) :
    ((∀ key ∈ other.keys, key ∉ table.keys) ∧
      table.append other = (.ok (idsFrom table.size other.size), table.extendedBy other.contents)) ∨
    ∃ before entry after, other.entries = before ++ entry :: after ∧
      (∀ earlier ∈ before, earlier.key ∉ table.keys) ∧ entry.key ∈ table.keys ∧
      table.append other = (.error (.duplicateResolver entry.key.1 entry.key.2),
        table.extendedBy (before.map Entry.toEntry)) := by
  have distinct := otherReached.nodup_keys
  rw [keys_eq_map] at distinct
  rcases forall_not_or_exists_first (fun entry => entry.key ∈ table.keys) other.entries with
    absent | ⟨before, entry, after, entries, absent, known⟩
  · refine .inl ⟨?_, ?_⟩
    · rw [keys_eq_map]
      exact List.forall_mem_map.mpr absent
    · have taken := insertAll_append_of_absent distinct
        (fun entry present => reached.lookup_eq_none (absent entry present)) []
      rw [List.append_nil] at taken
      rw [append, taken]
      simp [insertAll, Except.map, size, contents]
  · rw [entries, List.map_append, List.map_cons] at distinct
    obtain ⟨beforeDistinct, -, apart⟩ := List.nodup_append.mp distinct
    have fresh : entry.key ∉ (before.map Entry.toEntry).map DispatchTable.Entry.key := by
      rw [List.map_map]
      intro listed
      exact apart _ listed _ List.mem_cons_self rfl
    have stillKnown :
        ((table.extendedBy (before.map Entry.toEntry)).index.lookup entry.key).isSome := by
      rw [lookup_extendedBy_of_not_mem _ _ fresh]
      exact (reached.isSome_lookup_iff _).mpr known
    have refused := insert_of_known stillKnown
    refine .inr ⟨before, entry, after, entries, absent, known, ?_⟩
    rw [append, entries, insertAll_append_of_absent beforeDistinct
      (fun earlier present => reached.lookup_eq_none (absent earlier present)) _,
      insertAll_cons_of_error (congrArg Prod.fst refused), refused]
    rfl

theorem isOk_append_iff (reached : Reaches empty table) (otherReached : Reaches empty other) :
    (∃ ids, (table.append other).1 = .ok ids) ↔ ∀ key ∈ other.keys, key ∉ table.keys := by
  rcases reached.append_cases otherReached with
    ⟨absent, done⟩ | ⟨before, entry, after, entries, -, known, done⟩
  · rw [done]
    exact iff_of_true ⟨_, rfl⟩ absent
  · rw [done]
    have present : entry.key ∈ other.keys := by
      rw [keys_eq_map, entries]
      simp
    have some : ¬∀ key ∈ other.keys, key ∉ table.keys := fun absent => absent _ present known
    refine iff_of_false ?_ some
    intro taken
    obtain ⟨ids, contrary⟩ := taken
    cases contrary

theorem append_of_absent (reached : Reaches empty table) (otherReached : Reaches empty other)
    (absent : ∀ key ∈ other.keys, key ∉ table.keys) :
    table.append other =
      (.ok (idsFrom table.size other.size), table.extendedBy other.contents) := by
  rcases reached.append_cases otherReached with ⟨-, done⟩ | ⟨_, _, _, _, _, _, done⟩
  · exact done
  · obtain ⟨ids, taken⟩ := (reached.isOk_append_iff otherReached).mpr absent
    rw [done] at taken
    cases taken

theorem keys_append_of_absent (reached : Reaches empty table) (otherReached : Reaches empty other)
    (absent : ∀ key ∈ other.keys, key ∉ table.keys) :
    (table.append other).2.keys = table.keys ++ other.keys := by
  rw [reached.append_of_absent otherReached absent, keys_extendedBy]
  rfl

/-- In both cases the table is extended by a beginning of the other one. -/
theorem snd_append (reached : Reaches empty table) (otherReached : Reaches empty other) :
    (table.append other).2 =
      table.extendedBy (other.contents.takeWhile fun entry => entry.key ∉ table.keys) := by
  rcases reached.append_cases otherReached with
    ⟨absent, done⟩ | ⟨before, entry, after, entries, absent, known, done⟩
  · have all : other.contents.takeWhile (fun entry => entry.key ∉ table.keys) =
        other.contents := by
      apply List.takeWhile_eq_self_iff.mpr
      intro entry present
      exact decide_eq_true (absent _ (List.mem_map_of_mem present))
    rw [done, all]
  · have stops : other.contents.takeWhile (fun entry => entry.key ∉ table.keys) =
        before.map Entry.toEntry := by
      have earlier : ∀ fresh ∈ before.map Entry.toEntry,
          decide (fresh.key ∉ table.keys) = true := by
        intro fresh present
        obtain ⟨entry, listed, rfl⟩ := List.mem_map.mp present
        exact decide_eq_true (absent entry listed)
      rw [contents, entries, List.map_append, List.takeWhile_append_of_pos earlier, List.map_cons,
        List.takeWhile_cons_of_neg (by simpa using known), List.append_nil]
    rw [done, stops]

/-- Appending two tables one after the other, or the second one extended by the third, leaves the
same table, whatever is refused of the third. -/
theorem append_append {third : IndexedTable H} (reached : Reaches empty table)
    (otherReached : Reaches empty other) (thirdReached : Reaches empty third)
    (absent : ∀ key ∈ other.keys, key ∉ table.keys) :
    ((table.append other).2.append third).2 = (table.append (other.append third).2).2 := by
  have both : Reaches empty (table.append other).2 := reached.tail (.append other)
  have lastTwo : Reaches empty (other.append third).2 := otherReached.tail (.append third)
  have bothEq : (table.append other).2 = table.extendedBy other.contents :=
    congrArg Prod.snd (reached.append_of_absent otherReached absent)
  have bothKeys := reached.keys_append_of_absent otherReached absent
  have lastTwoContents : (other.append third).2.contents = other.contents ++
      third.contents.takeWhile fun entry => entry.key ∉ other.keys := by
    rw [otherReached.snd_append thirdReached, contents_extendedBy]
  have otherFree : ∀ entry ∈ other.contents, decide (entry.key ∉ table.keys) = true := by
    intro entry present
    exact decide_eq_true (absent _ (List.mem_map_of_mem present))
  have fresh : third.contents.takeWhile (fun entry => entry.key ∉ table.keys ++ other.keys) =
      (third.contents.takeWhile fun entry => entry.key ∉ other.keys).takeWhile fun entry =>
        entry.key ∉ table.keys := by
    rw [List.takeWhile_takeWhile]
    congr 1
    funext entry
    simp
  calc
    ((table.append other).2.append third).2 =
        (table.append other).2.extendedBy
          (third.contents.takeWhile fun entry => entry.key ∉ (table.append other).2.keys) :=
      both.snd_append thirdReached
    _ = table.extendedBy (other.contents ++
          (third.contents.takeWhile fun entry => entry.key ∉ other.keys).takeWhile fun entry =>
            entry.key ∉ table.keys) := by
      rw [bothKeys, fresh, bothEq, extendedBy_append]
    _ = table.extendedBy
          ((other.append third).2.contents.takeWhile fun entry => entry.key ∉ table.keys) := by
      rw [lastTwoContents, List.takeWhile_append_of_pos otherFree]
    _ = (table.append (other.append third).2).2 := (reached.snd_append lastTwo).symm

/-- The third table is refused on the one side if and only if it is on the other. -/
theorem isOk_append_append_iff {third : IndexedTable H} (reached : Reaches empty table)
    (otherReached : Reaches empty other) (thirdReached : Reaches empty third)
    (absent : ∀ key ∈ other.keys, key ∉ table.keys) :
    (∃ ids, ((table.append other).2.append third).1 = .ok ids) ↔
      (∃ ids, (other.append third).1 = .ok ids) ∧
        ∃ ids, (table.append (other.append third).2).1 = .ok ids := by
  have both : Reaches empty (table.append other).2 := reached.tail (.append other)
  have lastTwo : Reaches empty (other.append third).2 := otherReached.tail (.append third)
  rw [both.isOk_append_iff thirdReached, reached.keys_append_of_absent otherReached absent,
    otherReached.isOk_append_iff thirdReached, reached.isOk_append_iff lastTwo]
  constructor
  · intro free
    have thirdFree : ∀ key ∈ third.keys, key ∉ other.keys := fun key present known =>
      free key present (List.mem_append_right _ known)
    refine ⟨thirdFree, ?_⟩
    rw [otherReached.keys_append_of_absent thirdReached thirdFree]
    intro key present known
    rcases List.mem_append.mp present with early | late
    · exact absent key early known
    · exact free key late (List.mem_append_left _ known)
  · intro ⟨thirdFree, free⟩ key present known
    rw [otherReached.keys_append_of_absent thirdReached thirdFree] at free
    rcases List.mem_append.mp known with early | late
    · exact free key (List.mem_append_right _ present) early
    · exact thirdFree key present late

end Reaches

/-- Every entry is found by its name and, as long as ids do not wrap, under its id. -/
structure FindsAll (table : IndexedTable H) : Prop where
  lookup : ∀ entry ∈ table.entries, table.lookup? entry.key.1 entry.key.2 = some entry.id
  get : table.size ≤ UInt32.size → ∀ entry ∈ table.entries, table.get? entry.id = some entry

theorem Represents.findsAll {table : IndexedTable H} {plain : DispatchTable H}
    (represents : table.Represents plain) : table.FindsAll := by
  have numbered : ∀ place entry, table.entries[place]? = some entry →
      place < table.size ∧ entry.id = UInt32.ofNat place := by
    intro place entry there
    have bound : place < table.size := (List.getElem?_eq_some_iff.mp there).1
    refine ⟨bound, ?_⟩
    have ids := congrArg (fun ids => ids[place]?) represents.ids
    simpa [there, List.getElem?_range bound] using ids
  constructor
  · intro entry present
    obtain ⟨place, there⟩ := List.getElem?_of_mem present
    have plainThere : plain.get? place = some entry.toEntry := by
      rw [DispatchTable.get?, ← represents.entries, List.getElem?_map, there, Option.map_some]
    have found : plain.lookup? entry.key.1 entry.key.2 = some place :=
      (plain.lookup?_eq_some_iff _ _ _).mpr ⟨_, plainThere, rfl⟩
    rw [represents.index, found, (numbered place entry there).2, Option.map_some]
  · intro small entry present
    obtain ⟨place, there⟩ := List.getElem?_of_mem present
    obtain ⟨bound, idEq⟩ := numbered place entry there
    have same : (UInt32.ofNat place).toNat = place :=
      UInt32.toNat_ofNat_of_lt' (Nat.lt_of_lt_of_le bound small)
    rw [get?, idEq, same, there]

/-- What appending a table leaves, and what it answers. -/
theorem append_leaves {table other : IndexedTable H} (reached : Reaches empty table)
    (otherReached : Reaches empty other) :
    ((∃ ids, (table.append other).1 = .ok ids) ↔ ∀ key ∈ other.keys, key ∉ table.keys) ∧
    (∀ ids, (table.append other).1 = .ok ids →
      ids = idsFrom table.size other.size ∧
      (table.append other).2.entries = table.entries ++ placed table.size other.contents ∧
      ∀ third, Reaches empty third →
        ((table.append other).2.append third).2 = (table.append (other.append third).2).2 ∧
        ((∃ ids, ((table.append other).2.append third).1 = .ok ids) ↔
          (∃ ids, (other.append third).1 = .ok ids) ∧
            ∃ ids, (table.append (other.append third).2).1 = .ok ids)) ∧
    (∀ error, (table.append other).1 = .error error → ∃ before entry after,
      other.entries = before ++ entry :: after ∧
      (∀ earlier ∈ before, earlier.key ∉ table.keys) ∧
      entry.key ∈ table.keys ∧
      error = .duplicateResolver entry.key.1 entry.key.2 ∧
      (table.append other).2.entries =
        table.entries ++ placed table.size (before.map Entry.toEntry)) ∧
    (table.append other).2.FindsAll := by
  have later : Reaches empty (table.append other).2 := reached.tail (.append other)
  obtain ⟨plain, represents⟩ := later.represents
  refine ⟨reached.isOk_append_iff otherReached, ?_, ?_, represents.findsAll⟩
  · intro ids taken
    have absent := (reached.isOk_append_iff otherReached).mp ⟨ids, taken⟩
    have done := reached.append_of_absent otherReached absent
    refine ⟨?_, ?_, fun third thirdReached =>
      ⟨reached.append_append otherReached thirdReached absent,
        reached.isOk_append_append_iff otherReached thirdReached absent⟩⟩
    · rw [done] at taken
      exact (Except.ok.inj taken).symm
    · rw [done]
      rfl
  · intro error refused
    rcases reached.append_cases otherReached with
      ⟨-, done⟩ | ⟨before, entry, after, entries, absent, known, done⟩
    · rw [done] at refused
      cases refused
    · rw [done] at refused ⊢
      cases refused
      exact ⟨before, entry, after, entries, absent, known, rfl, rfl⟩

end IndexedTable

namespace Sample

def oneField : IndexedTable host := (IndexedTable.empty.insert (nullField 0 "A")).2

def lastField : IndexedTable host := (IndexedTable.empty.insert (nullField 3 "C")).2

end Sample

/-- The second field of `moreFields` is refused, and the first one stays. -/
theorem IndexedTable.append_leaves_sample :
    (Sample.oneField.append Sample.lastField).1 = .ok [1] ∧
      (Sample.oneField.append Sample.lastField).2.lookup? "Query" "C" = some 1 ∧
      ((Sample.oneField.append Sample.lastField).2.append Sample.moreFields).2 =
        (Sample.oneField.append (Sample.lastField.append Sample.moreFields).2).2 ∧
      (Sample.oneField.append Sample.moreFields).1 = .error (.duplicateResolver "Query" "A") ∧
      ∃ before entry after, Sample.moreFields.entries = before ++ entry :: after ∧
        entry.key = ("Query", "A") ∧
        (Sample.oneField.append Sample.moreFields).2.entries =
          Sample.oneField.entries ++ placed 1 (before.map Entry.toEntry) := by
  have oneReached : Reaches empty Sample.oneField := Relation.ReflTransGen.single (.insert _)
  have lastReached : Reaches empty Sample.lastField := Relation.ReflTransGen.single (.insert _)
  have moreReached : Reaches empty Sample.moreFields :=
    (Relation.ReflTransGen.single (.insert _)).tail (.insert _)
  obtain ⟨-, taken, -, finds⟩ := append_leaves oneReached lastReached
  obtain ⟨-, -, refused, -⟩ := append_leaves oneReached moreReached
  obtain ⟨-, -, associative⟩ := taken [1] rfl
  obtain ⟨before, entry, after, entries, -, -, errorEq, final⟩ := refused _ rfl
  obtain ⟨typeName, member⟩ := RegistrationError.duplicateResolver.inj errorEq
  have found : { Sample.nullField 3 "C" with id := 1 } ∈
      (Sample.oneField.append Sample.lastField).2.entries := List.mem_of_getElem? (i := 1) rfl
  exact ⟨rfl, finds.lookup _ found, (associative _ moreReached).1, rfl, before, entry, after,
    entries, Prod.ext typeName.symm member.symm, final⟩

end FieldDispatch
