import FieldDispatch.Proofs.StoredSchema

/-!
The table of a compiled schema. Its entries are those of the extensions, one extension after the
other, so an entry stands at the number that the manifest gives it, and a lookup finds the entry of
the one extension that has it. Ids are stored three times: in the table of an extension, in the
table of the schema and in the manifest. As long as they do not wrap, all of them lead to the same
entry.
-/

namespace FieldDispatch

namespace CompiledExtension

variable {H : Host} {D : Type}

theorem IsCompiled.typeName_of_mem {policy : Policy} {extension : Extension} {bodies : Bodies H}
    {compiled : CompiledExtension H D} (made : compiled.IsCompiled policy extension bodies)
    {entry : DispatchTable.Entry H} (present : entry ∈ compiled.table.entries) :
    entry.plan.name.typeName = compiled.runtimeType := by
  have planned : entry.plan ∈ (extension.plan policy).1.resolvers := by
    rw [← made.tablePlans]
    exact List.mem_map.mpr ⟨entry, present, rfl⟩
  rw [made.runtimeType]
  exact Extension.typeName_of_mem_resolvers planned

theorem IsCompiled.key_of_mem {policy : Policy} {extension : Extension} {bodies : Bodies H}
    {compiled : CompiledExtension H D} (made : compiled.IsCompiled policy extension bodies)
    {entry : DispatchTable.Entry H} (present : entry ∈ compiled.table.entries) :
    entry.key = (compiled.runtimeType, entry.plan.name.memberName) :=
  Prod.ext (made.typeName_of_mem present) rfl

/-- A manifest entry has one field step for each table entry, with the number of its place. -/
theorem IsCompiled.mem_steps_iff {policy : Policy} {extension : Extension} {bodies : Bodies H}
    {compiled : CompiledExtension H D} (made : compiled.IsCompiled policy extension bodies)
    (first number : UInt32) (name : String) :
    .field name number ∈ (compiled.describe first).steps ↔
      ∃ place entry, compiled.table.entries[place]? = some entry ∧
        entry.plan.name.memberName = name ∧ number = first + UInt32.ofNat place := by
  have listed : .field name number ∈ (compiled.describe first).steps ↔
      .field name number ∈ compiled.table.entries.mapIdx fun place entry =>
        Manifest.Step.field entry.plan.name.memberName (first + UInt32.ofNat place) := by
    rw [describe, made.steps, describe_stepsFor]
    cases compiled.node <;> simp
  rw [listed, List.mem_mapIdx]
  constructor
  · rintro ⟨place, bound, same⟩
    cases same
    exact ⟨place, _, List.getElem?_eq_getElem bound, rfl, rfl⟩
  · rintro ⟨place, entry, found, rfl, rfl⟩
    obtain ⟨bound, rfl⟩ := List.getElem?_eq_some_iff.mp found
    exact ⟨place, bound, rfl⟩

end CompiledExtension

namespace CompiledSchema

variable {H : Host} {D : Type}

theorem AreCompiled.of_mem {policy : Policy} {units : List (Extension × Bodies H)}
    {extensions : List (CompiledExtension H D)} (made : AreCompiled policy units extensions)
    {compiled : CompiledExtension H D} (present : compiled ∈ extensions) :
    ∃ unit ∈ units, compiled.IsCompiled policy unit.1 unit.2 :=
  exists_of_mem_right made present

theorem resolvers_describeFrom (next : UInt32) (extensions : List (CompiledExtension H D)) :
    (describeFrom next extensions).flatMap Manifest.Entry.resolvers =
      (entriesOf extensions).mapIdx fun offset entry =>
        entry.plan.describe (some (next + UInt32.ofNat offset)) := by
  induction extensions generalizing next with
  | nil => rfl
  | cons compiled rest induction =>
      have counted := word_add_skipped next compiled.table.size
      rw [describeFrom, List.flatMap_cons, induction, entriesOf_cons, List.mapIdx_append]
      simp only [counted]
      rfl

theorem entriesOf_append (earlier later : List (CompiledExtension H D)) :
    entriesOf (earlier ++ later) = entriesOf earlier ++ entriesOf later :=
  List.flatMap_append

/-- After some extensions the numbers go on behind all their entries. -/
theorem describeFrom_append (next : UInt32) (earlier later : List (CompiledExtension H D)) :
    describeFrom next (earlier ++ later) =
      describeFrom next earlier ++
        describeFrom (next + UInt32.ofNat (entriesOf earlier).length) later := by
  induction earlier generalizing next with
  | nil =>
      have nothing : next + UInt32.ofNat (entriesOf ([] : List (CompiledExtension H D))).length =
          next := UInt32.add_zero next
      rw [nothing]
      rfl
  | cons compiled rest induction =>
      have counted := word_add_skipped next compiled.table.size (entriesOf rest).length
      rw [entriesOf_cons, List.length_append, Nat.add_comm]
      rw [List.cons_append, describeFrom, describeFrom, induction, List.cons_append, counted]
      rfl

theorem length_describeFrom (next : UInt32) (extensions : List (CompiledExtension H D)) :
    (describeFrom next extensions).length = extensions.length := by
  induction extensions generalizing next with
  | nil => rfl
  | cons compiled rest induction =>
      rw [describeFrom, List.length_cons, induction, List.length_cons]

/-- The manifest entry of an extension, by those before it. -/
theorem getElem?_describeFrom (next : UInt32) (earlier : List (CompiledExtension H D))
    (compiled : CompiledExtension H D) (later : List (CompiledExtension H D)) :
    (describeFrom next (earlier ++ compiled :: later))[earlier.length]? =
      some (compiled.describe (next + UInt32.ofNat (entriesOf earlier).length)) := by
  rw [describeFrom_append, ← length_describeFrom next earlier]
  exact List.getElem?_append_right (Nat.le_refl _) |>.trans (by simp [describeFrom])

theorem exists_of_mem_describeFrom {next : UInt32} {extensions : List (CompiledExtension H D)}
    {described : Manifest.Entry} (present : described ∈ describeFrom next extensions) :
    ∃ earlier compiled later, extensions = earlier ++ compiled :: later ∧
      described = compiled.describe (next + UInt32.ofNat (entriesOf earlier).length) := by
  induction extensions generalizing next with
  | nil => cases present
  | cons compiled rest induction =>
      rw [describeFrom, List.mem_cons] at present
      obtain rfl | afterwards := present
      · exact ⟨[], compiled, rest, rfl, congrArg compiled.describe (UInt32.add_zero next).symm⟩
      · obtain ⟨earlier, other, later, rfl, rfl⟩ := induction afterwards
        have counted := word_add_skipped next compiled.table.size (entriesOf earlier).length
        refine ⟨compiled :: earlier, other, later, rfl, ?_⟩
        rw [counted, entriesOf_cons, List.length_append, Nat.add_comm]
        rfl

/-- An entry of an extension stands behind the entries of the extensions before it. -/
theorem getElem?_entriesOf (earlier : List (CompiledExtension H D))
    {compiled : CompiledExtension H D} (later : List (CompiledExtension H D)) {place : Nat}
    {entry : DispatchTable.Entry H} (found : compiled.table.entries[place]? = some entry) :
    (entriesOf (earlier ++ compiled :: later))[(entriesOf earlier).length + place]? =
      some entry := by
  have bound : place < compiled.table.entries.length := (List.getElem?_eq_some_iff.mp found).1
  rw [entriesOf_append, entriesOf_cons, List.getElem?_append_right (Nat.le_add_right _ _),
    Nat.add_sub_cancel_left, List.getElem?_append_left bound]
  exact found

/-- What a schema looks up is what the extension that declares it has. -/
theorem isSome_lookup?_iff_declares {policy : Policy} {units : List (Extension × Bodies H)}
    {schema : CompiledSchema H D} (made : AreCompiled policy units schema.extensions)
    (entries : schema.table.entries = entriesOf schema.extensions) (typeName member : String) :
    (schema.table.lookup? typeName member).isSome ↔
      ∃ compiled ∈ schema.extensions, compiled.runtimeType = typeName ∧
        ∃ entry ∈ compiled.table.entries, entry.plan.name.memberName = member := by
  rw [schema.table.isSome_lookup?_iff, schema.table.mem_keys_iff]
  constructor
  · rintro ⟨entry, present, key⟩
    rw [entries] at present
    obtain ⟨compiled, compiledPresent, entryPresent⟩ := mem_entriesOf.mp present
    obtain ⟨unit, -, isCompiled⟩ := made.of_mem compiledPresent
    have own := (isCompiled.key_of_mem entryPresent).symm.trans key
    cases own
    exact ⟨compiled, compiledPresent, rfl, entry, entryPresent, rfl⟩
  · rintro ⟨compiled, compiledPresent, rfl, entry, entryPresent, rfl⟩
    obtain ⟨unit, -, isCompiled⟩ := made.of_mem compiledPresent
    refine ⟨entry, ?_, isCompiled.key_of_mem entryPresent⟩
    rw [entries]
    exact mem_entriesOf.mpr ⟨compiled, compiledPresent, entryPresent⟩

end CompiledSchema

/-- A manifest resolver that says of an entry everything but its dispatcher. -/
structure Manifest.Resolver.Names {H : Host} (resolver : Manifest.Resolver)
    (entry : IndexedTable.Entry H) : Prop where
  id : resolver.id = some entry.id
  name : resolver.name = entry.plan.name
  kind : resolver.kind = entry.plan.kind
  receiver : resolver.receiver = entry.plan.receiver
  arguments : resolver.arguments = entry.plan.arguments
  type : resolver.type = entry.plan.type

namespace IndexedSchema

variable {H : Host} {D : Type}

/-- The entries of some extensions, one extension after the other. -/
def entriesOf (extensions : List (IndexedExtension H D)) : List (IndexedTable.Entry H) :=
  extensions.flatMap fun compiled => compiled.table.entries

/-- The ids of a schema: those of its table, those of the tables of its extensions, and the numbers
in its manifest. -/
structure IdsAgree (schema : IndexedSchema H D) : Prop where
  /-- In each table an id is a place, and what a lookup gives. -/
  indexed : schema.table.IsIndexed ∧ ∀ compiled ∈ schema.extensions, compiled.table.IsIndexed
  /-- The table and the manifest describe the same resolvers under the same ids. -/
  described :
    schema.table.describe = schema.manifest.extensions.flatMap Manifest.Entry.resolvers
  /-- The id of a manifest resolver leads to the entry that the resolver names. -/
  named : List.Forall₂
    (fun resolver entry => resolver.Names entry ∧ schema.table.get? entry.id = some entry)
    (schema.manifest.extensions.flatMap Manifest.Entry.resolvers) schema.table.entries
  /-- The id of an entry in the table of an extension, counted on from the tables before it, is the
  id of that entry in the table of the schema and the number that its step is given. -/
  renumbered : ∀ earlier compiled later, schema.extensions = earlier ++ compiled :: later →
    ∀ entry ∈ compiled.table.entries, ∃ id,
      id = UInt32.ofNat (entriesOf earlier).length + entry.id ∧
      schema.table.get? id = some { entry with id } ∧
      ∃ described, schema.manifest.extensions[earlier.length]? = some described ∧
        described.runtimeType = compiled.runtimeType ∧
        .field entry.plan.name.memberName id ∈ described.steps
  /-- A field step points to the entry for its field. -/
  steps : ∀ described ∈ schema.manifest.extensions, ∀ name id, .field name id ∈ described.steps →
    ∃ entry, schema.table.get? id = some entry ∧ entry.id = id ∧
      entry.key = (described.runtimeType, name)
  lookups : ∀ typeName member, (schema.table.lookup? typeName member).isSome ↔
    ∃ compiled ∈ schema.extensions, compiled.runtimeType = typeName ∧
      ∃ entry ∈ compiled.table.entries, entry.plan.name.memberName = member
  /-- What is looked up is the entry of the extension in everything but the id. -/
  merged : ∀ compiled ∈ schema.extensions, ∀ entry ∈ compiled.table.entries,
    ∃ id, schema.table.lookup? compiled.runtimeType entry.plan.name.memberName = some id ∧
      schema.table.get? id = some { entry with id }

end IndexedSchema

namespace CompiledSchema

variable {H : Host} {D : Type}

theorem length_entriesOf_stored (extensions : List (CompiledExtension H D)) :
    (IndexedSchema.entriesOf (extensions.map CompiledExtension.stored)).length =
      (entriesOf extensions).length := by
  induction extensions with
  | nil => rfl
  | cons compiled rest induction =>
      have size : compiled.stored.table.entries.length = compiled.table.entries.length :=
        compiled.size_stored
      rw [IndexedSchema.entriesOf] at induction
      rw [List.map_cons, IndexedSchema.entriesOf, List.flatMap_cons, List.length_append, size,
        induction, entriesOf_cons, List.length_append]

section Stored

variable {policy : Policy} {units : List (Extension × Bodies H)} {schema : CompiledSchema H D}
  (made : AreCompiled policy units schema.extensions)
  (entries : schema.table.entries = entriesOf schema.extensions)
  (bounded : schema.table.size < UInt32.size)

include entries

theorem describe_table_stored :
    schema.stored.table.describe =
      schema.stored.manifest.extensions.flatMap Manifest.Entry.resolvers := by
  have resolvers := resolvers_describeFrom 0 schema.extensions
  rw [IndexedSchema.manifest_stored]
  change (IndexedTable.ofTable schema.table).describe = _
  rw [IndexedTable.describe_ofTable, DispatchTable.describe, entries]
  exact resolvers.symm

include bounded

theorem isIndexed_stored : schema.stored.table.IsIndexed ∧
    ∀ compiled ∈ schema.stored.extensions, compiled.table.IsIndexed := by
  have size : schema.stored.table.size < UInt32.size := by
    rw [stored, IndexedTable.size_ofTable]
    exact bounded
  refine ⟨(IndexedTable.Represents.ofTable schema.table).isIndexed size, ?_⟩
  intro compiled present
  obtain ⟨plain, plainPresent, rfl⟩ := List.mem_map.mp present
  obtain ⟨earlier, later, split⟩ := List.append_of_mem plainPresent
  apply (IndexedTable.Represents.ofTable plain.table).isIndexed
  rw [DispatchTable.size, entries, split, entriesOf_append, entriesOf_cons, List.length_append,
    List.length_append] at bounded
  rw [IndexedTable.size_ofTable, DispatchTable.size]
  omega

/-- Behind the entries of the extensions before it, an entry is stored under the next ids. -/
theorem get?_table_stored {earlier later : List (CompiledExtension H D)}
    {compiled : CompiledExtension H D} (split : schema.extensions = earlier ++ compiled :: later)
    {place : Nat} {entry : DispatchTable.Entry H}
    (found : compiled.table.entries[place]? = some entry) {id : UInt32}
    (counted : id = UInt32.ofNat (entriesOf earlier).length + UInt32.ofNat place) :
    schema.stored.table.get? id = some ⟨entry, id⟩ := by
  have there : schema.table.get? ((entriesOf earlier).length + place) = some entry := by
    rw [DispatchTable.get?, entries, split]
    exact getElem?_entriesOf earlier later found
  have inside : (entriesOf earlier).length + place < schema.table.size :=
    (List.getElem?_eq_some_iff.mp there).1
  have number : id.toNat = (entriesOf earlier).length + place := by
    rw [counted, ← UInt32.ofNat_add]
    exact UInt32.toNat_ofNat_of_lt' (Nat.lt_trans inside bounded)
  rw [stored, IndexedTable.get?_ofTable, number, there]
  rfl

include made

theorem renumbered_stored {earlier later : List (CompiledExtension H D)}
    {compiled : CompiledExtension H D} (split : schema.extensions = earlier ++ compiled :: later)
    {entry : IndexedTable.Entry H} (present : entry ∈ compiled.stored.table.entries) :
    ∃ id, id = UInt32.ofNat (entriesOf earlier).length + entry.id ∧
      schema.stored.table.get? id = some { entry with id } ∧
      ∃ described, schema.stored.manifest.extensions[earlier.length]? = some described ∧
        described.runtimeType = compiled.runtimeType ∧
        .field entry.plan.name.memberName id ∈ described.steps := by
  obtain ⟨place, found, own⟩ := IndexedTable.exists_of_mem_ofTable present
  have listed : compiled ∈ schema.extensions := by simp [split]
  obtain ⟨unit, -, isCompiled⟩ := made.of_mem listed
  have numbered := get?_table_stored entries bounded split found rfl
  rw [← own] at numbered
  refine ⟨_, rfl, numbered,
    compiled.describe (0 + UInt32.ofNat (entriesOf earlier).length), ?_, rfl, ?_⟩
  · rw [IndexedSchema.manifest_stored]
    change (describeFrom 0 schema.extensions)[earlier.length]? = _
    rw [split]
    exact getElem?_describeFrom 0 earlier compiled later
  · rw [UInt32.zero_add, isCompiled.mem_steps_iff, own]
    exact ⟨place, _, found, rfl, rfl⟩

theorem entry_of_step_stored {described : Manifest.Entry}
    (present : described ∈ schema.stored.manifest.extensions) {name : String} {id : UInt32}
    (step : .field name id ∈ described.steps) :
    ∃ entry, schema.stored.table.get? id = some entry ∧ entry.id = id ∧
      entry.key = (described.runtimeType, name) := by
  rw [IndexedSchema.manifest_stored] at present
  obtain ⟨earlier, compiled, later, split, rfl⟩ := exists_of_mem_describeFrom present
  have listed : compiled ∈ schema.extensions := by simp [split]
  obtain ⟨unit, -, isCompiled⟩ := made.of_mem listed
  obtain ⟨place, entry, found, rfl, rfl⟩ := (isCompiled.mem_steps_iff _ _ _).mp step
  have key := isCompiled.key_of_mem (List.mem_of_getElem? found)
  rw [UInt32.zero_add]
  exact ⟨_, get?_table_stored entries bounded split found rfl, rfl, key⟩

omit bounded in
theorem isSome_lookup?_stored (typeName member : String) :
    (schema.stored.table.lookup? typeName member).isSome ↔
      ∃ compiled ∈ schema.stored.extensions, compiled.runtimeType = typeName ∧
        ∃ entry ∈ compiled.table.entries, entry.plan.name.memberName = member := by
  have lookup := (IndexedTable.Represents.ofTable schema.table).index typeName member
  change (IndexedTable.lookup? (IndexedTable.ofTable schema.table) _ _).isSome ↔ _
  rw [lookup, Option.isSome_map, isSome_lookup?_iff_declares made entries]
  constructor
  · rintro ⟨compiled, present, named, entry, listed, sameMember⟩
    rw [← (IndexedTable.Represents.ofTable compiled.table).entries] at listed
    obtain ⟨own, ownListed, rfl⟩ := List.mem_map.mp listed
    exact ⟨compiled.stored, List.mem_map_of_mem present, named, own, ownListed, sameMember⟩
  · rintro ⟨_, present, named, entry, listed, sameMember⟩
    obtain ⟨compiled, plainPresent, rfl⟩ := List.mem_map.mp present
    obtain ⟨place, found, -⟩ := IndexedTable.exists_of_mem_ofTable listed
    exact ⟨compiled, plainPresent, named, entry.toEntry, List.mem_of_getElem? found, sameMember⟩

theorem merged_stored {compiled : IndexedExtension H D}
    (present : compiled ∈ schema.stored.extensions) {entry : IndexedTable.Entry H}
    (listed : entry ∈ compiled.table.entries) :
    ∃ id, schema.stored.table.lookup? compiled.runtimeType entry.plan.name.memberName = some id ∧
      schema.stored.table.get? id = some { entry with id } := by
  obtain ⟨plain, plainPresent, rfl⟩ := List.mem_map.mp present
  obtain ⟨earlier, later, split⟩ := List.append_of_mem plainPresent
  obtain ⟨unit, -, isCompiled⟩ := made.of_mem plainPresent
  obtain ⟨id, -, there, -⟩ := renumbered_stored made entries bounded split listed
  obtain ⟨place, found, -⟩ := IndexedTable.exists_of_mem_ofTable listed
  have key := isCompiled.key_of_mem (List.mem_of_getElem? found)
  exact ⟨id, ((isIndexed_stored entries bounded).1.lookup_iff _ _ _).mpr ⟨_, there, key⟩, there⟩

theorem idsAgree_stored : schema.stored.IdsAgree where
  indexed := isIndexed_stored entries bounded
  described := describe_table_stored entries
  named := by
    have finds := (IndexedTable.Represents.ofTable schema.table).findsAll
    have small : (IndexedTable.ofTable schema.table).size ≤ UInt32.size := by
      rw [IndexedTable.size_ofTable]
      exact bounded.le
    rw [← describe_table_stored entries, IndexedTable.describe, List.forall₂_map_left_iff,
      List.forall₂_same]
    intro entry present
    exact ⟨⟨rfl, rfl, rfl, rfl, rfl, rfl⟩, finds.get small entry present⟩
  renumbered := by
    intro earlier compiled later split entry present
    obtain ⟨plainEarlier, rest, plainSplit, rfl, restEq⟩ := List.map_eq_append_iff.mp split
    obtain ⟨plain, plainLater, rfl, rfl, rfl⟩ := List.map_eq_cons_iff.mp restEq
    rw [length_entriesOf_stored, List.length_map]
    exact renumbered_stored made entries bounded plainSplit present
  steps _ present _ _ step := entry_of_step_stored made entries bounded present step
  lookups := isSome_lookup?_stored made entries
  merged _ present _ listed := merged_stored made entries bounded present listed

end Stored

end CompiledSchema

namespace IndexedSchema

variable {H : Host} {D : Type}

/-- In a schema that compiles, whatever its extensions are and however many, all ids agree. -/
theorem idsAgree_of_compile {policy : Policy} {units : List (Extension × Bodies H)} {first : Nat}
    {schema : IndexedSchema H D} (success : compile policy units first = .ok schema)
    (bounded : schema.table.size < UInt32.size) : schema.IdsAgree := by
  rw [compile_eq] at success
  cases compiled : (CompiledSchema.compile policy units first :
      Except CompileError (CompiledSchema H D)) with
  | error error =>
      rw [compiled] at success
      cases success
  | ok plain =>
      rw [compiled] at success
      cases success
      obtain ⟨made, entries⟩ := CompiledSchema.compile_eq_ok compiled
      have size : plain.table.size < UInt32.size := by
        rw [← IndexedTable.size_ofTable]
        exact bounded
      exact CompiledSchema.idsAgree_stored made entries size

/-- Four extensions, one of them empty: their ids begin at zero, those of the schema go on. -/
theorem idsAgree_of_compile_units :
    ∃ schema : IndexedSchema Sample.host (ObjectType Sample.host),
      compile .skip Sample.units 0 = .ok schema ∧ schema.table.size < UInt32.size ∧
        (schema.extensions.map fun compiled => compiled.table.entries.map fun entry => entry.id) =
          [[0, 1], [], [0], [0]] ∧
        (schema.table.describe.map fun resolver => (resolver.id, resolver.name.memberName)) =
          [(some 0, "Version"), (some 1, "Later"), (some 2, "Price"), (some 3, "Count")] ∧
        schema.table.describe = schema.manifest.extensions.flatMap Manifest.Entry.resolvers ∧
        ∃ compiled ∈ schema.extensions, compiled.runtimeType = "Query" ∧
          ∃ entry ∈ compiled.table.entries, entry.plan.name.memberName = "Count" ∧
            schema.table.get? 3 = some { entry with id := 3 } := by
  have compiles : ((compile .skip Sample.units 0).toOption.map
      fun schema : IndexedSchema Sample.host (ObjectType Sample.host) =>
        (schema.extensions.map fun compiled => compiled.table.entries.map fun entry => entry.id,
          schema.table.describe.map fun resolver => (resolver.id, resolver.name.memberName),
          schema.table.lookup? "Query" "Count")) =
      some ([[0, 1], [], [0], [0]],
        [(some 0, "Version"), (some 1, "Later"), (some 2, "Price"), (some 3, "Count")],
        some 3) := by
    decide +kernel
  obtain ⟨schema, found, facts⟩ := Option.map_eq_some_iff.mp compiles
  simp only [Prod.mk.injEq] at facts
  obtain ⟨ids, numbered, count⟩ := facts
  have success := (toOption_eq_some_iff _ _).mp found
  have bounded : schema.table.size < UInt32.size := by
    have size : schema.table.size = 4 := by
      simpa [IndexedTable.describe, IndexedTable.size] using congrArg List.length numbered
    rw [size]
    decide
  have agree := idsAgree_of_compile success bounded
  have declared := (agree.lookups "Query" "Count").mp (Option.isSome_of_eq_some count)
  obtain ⟨compiled, present, named, entry, listed, member⟩ := declared
  obtain ⟨id, looked, there⟩ := agree.merged compiled present entry listed
  rw [named, member] at looked
  cases count.symm.trans looked
  exact ⟨schema, success, bounded, ids, numbered, agree.described, compiled, present, named, entry,
    listed, member, there⟩

end IndexedSchema

end FieldDispatch
