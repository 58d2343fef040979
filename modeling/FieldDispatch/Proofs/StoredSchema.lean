import FieldDispatch.Dispatch.IndexedSchema
import FieldDispatch.Proofs.Appending
import FieldDispatch.Proofs.Numbering

/-!
Compiling to stored tables. Each step of a compilation does to the stored form of a table what it
does to the table: binding plans, emitting registration steps, adding an extension to a schema. So a
compilation to stored tables fails exactly where one without ids fails, for the same reason, and
otherwise gives the stored form of its schema, with the same manifest.
-/

namespace FieldDispatch

/-! ## Tables -/

namespace IndexedTable

variable {H : Host} (table : DispatchTable H)

theorem ofTable_eq_extendedBy : ofTable table = empty.extendedBy table.entries := by
  have distinct : ((table.entries.map fun entry => (⟨entry, 0⟩ : Entry H)).map
      fun entry => entry.key).Nodup := by
    rw [List.map_map]
    exact table.distinct
  have absent : ∀ entry ∈ table.entries.map fun entry => (⟨entry, 0⟩ : Entry H),
      (empty : IndexedTable H).index.lookup entry.key = none := fun _ _ => rfl
  have stored := insertAll_append_of_absent distinct absent []
  rw [List.append_nil, List.map_map] at stored
  have plain : table.entries.map (Entry.toEntry ∘ fun entry => ⟨entry, 0⟩) = table.entries :=
    List.map_id _
  rw [plain] at stored
  exact congrArg Prod.snd stored

theorem entries_ofTable : (ofTable table).entries =
    table.entries.mapIdx fun place entry => ⟨entry, UInt32.ofNat place⟩ := by
  rw [ofTable_eq_extendedBy, extendedBy, placed]
  simp only [empty, size, List.length_nil, Nat.zero_add, List.nil_append]

theorem size_ofTable : (ofTable table).size = table.size := (Represents.ofTable table).size_eq

/-- The entry at the place that a word counts, with that word as its id. -/
theorem get?_ofTable (id : UInt32) :
    (ofTable table).get? id = (table.get? id.toNat).map fun entry => ⟨entry, id⟩ := by
  rw [get?, entries_ofTable, List.getElem?_mapIdx, UInt32.ofNat_toNat]
  rfl

variable {table}

theorem exists_of_mem_ofTable {entry : Entry H} (present : entry ∈ (ofTable table).entries) :
    ∃ place, table.entries[place]? = some entry.toEntry ∧ entry.id = UInt32.ofNat place := by
  rw [entries_ofTable] at present
  obtain ⟨place, bound, rfl⟩ := List.mem_mapIdx.mp present
  exact ⟨place, List.getElem?_eq_getElem bound, rfl⟩

theorem insert_ofTable_of_error {entry : DispatchTable.Entry H} {error : RegistrationError}
    (refused : table.insert entry = .error error) (former : UInt32) :
    (ofTable table).insert ⟨entry, former⟩ = (.error error, ofTable table) :=
  (Represents.ofTable table).insert_of_error refused

theorem insert_ofTable_of_ok {entry : DispatchTable.Entry H} {id : Nat}
    {extended : DispatchTable H} (taken : table.insert entry = .ok (id, extended))
    (former : UInt32) :
    (ofTable table).insert ⟨entry, former⟩ = (.ok (UInt32.ofNat id), ofTable extended) := by
  obtain ⟨absent, rfl, entries⟩ := (DispatchTable.insert_eq_ok_iff _ _ _ _).mp taken
  have unknown : (ofTable table).index.lookup entry.key = none := by
    rw [← Option.not_isSome_iff_eq_none, (Represents.ofTable table).isSome_lookup_iff]
    exact absent
  rw [insert_of_absent unknown, size_ofTable, ofTable_eq_extendedBy, ofTable_eq_extendedBy,
    ← extendedBy_append, entries]

theorem insertAll_ofTable (entries : List (Entry H)) :
    (ofTable table).insertAll entries =
      ((table.insertAll (entries.map Entry.toEntry)).1.map (List.map UInt32.ofNat),
        ofTable (table.insertAll (entries.map Entry.toEntry)).2) := by
  induction entries generalizing table with
  | nil => rfl
  | cons entry rest induction =>
      rw [List.map_cons, DispatchTable.insertAll]
      cases inserted : table.insert entry.toEntry with
      | error error =>
          have refused := insert_ofTable_of_error inserted entry.id
          rw [insertAll_cons_of_error (congrArg Prod.fst refused), refused]
          rfl
      | ok result =>
          have taken := insert_ofTable_of_ok inserted entry.id
          rw [insertAll_cons_of_ok (congrArg Prod.fst taken), taken]
          dsimp only
          rw [induction]
          cases (result.2.insertAll (rest.map Entry.toEntry)).1 <;> rfl

theorem append_ofTable (other : DispatchTable H) :
    (ofTable table).append (ofTable other) =
      ((table.append other).1.map (List.map UInt32.ofNat), ofTable (table.append other).2) := by
  have entries := (Represents.ofTable other).entries
  rw [append, insertAll_ofTable, entries]
  rfl

/-- A stored table describes its entries under the ids that are stored with them. -/
theorem describe_ofTable : (ofTable table).describe = table.describe 0 := by
  rw [describe, entries_ofTable, map_of_mapIdx, DispatchTable.describe]
  simp only [UInt32.zero_add]
  rfl

end IndexedTable

open IndexedTable (ofTable)

/-! ## Compiled extensions -/

section Stored

variable {H : Host} {D : Type}

def RegistrationStep.stored : RegistrationStep H → IndexedStep H
  | .node dispatcher => .node dispatcher
  | .field name id dispatcher => .field name (UInt32.ofNat id) dispatcher

/-- A compiled extension with its table stored. -/
def CompiledExtension.stored (compiled : CompiledExtension H D) : IndexedExtension H D :=
  { runtimeType := compiled.runtimeType
    extensionType := compiled.extensionType
    node := compiled.node
    table := ofTable compiled.table
    steps := compiled.steps.map RegistrationStep.stored
    omitted := compiled.omitted
    hook := compiled.hook
    warnings := compiled.warnings }

def CompiledSchema.stored (schema : CompiledSchema H D) : IndexedSchema H D :=
  ⟨schema.extensions.map CompiledExtension.stored, ofTable schema.table⟩

theorem CompiledExtension.size_stored (compiled : CompiledExtension H D) :
    compiled.stored.table.size = compiled.table.size :=
  IndexedTable.size_ofTable compiled.table

theorem IndexedExtension.stepsFor_ofTable (node : Option (NodeResolver H))
    (table : DispatchTable H) :
    stepsFor node (ofTable table) =
      (CompiledExtension.stepsFor node table).map RegistrationStep.stored := by
  have fields : (ofTable table).entries.map IndexedStep.ofEntry =
      (table.entries.mapIdx RegistrationStep.ofEntry).map RegistrationStep.stored := by
    rw [IndexedTable.entries_ofTable, map_of_mapIdx, map_of_mapIdx]
    rfl
  rw [stepsFor, fields, CompiledExtension.stepsFor, List.map_append]
  cases node <;> rfl

theorem RegistrationStep.describe_stored (step : RegistrationStep H) (first : UInt32) :
    step.stored.describe first = step.describe first := by
  cases step <;> rfl

/-- Counting stored ids on from a number gives the numbers of the places counted from there. -/
theorem CompiledExtension.describe_stored (compiled : CompiledExtension H D) (first : UInt32) :
    compiled.stored.describe first = compiled.describe first := by
  have resolvers : (ofTable compiled.table).entries.map
      (fun entry => ({ entry.describe with id := some (first + entry.id) } : Manifest.Resolver)) =
        compiled.table.describe first := by
    rw [IndexedTable.entries_ofTable, map_of_mapIdx]
    rfl
  have steps : (compiled.steps.map RegistrationStep.stored).map (IndexedStep.describe first) =
      compiled.steps.map (RegistrationStep.describe first) := by
    rw [List.map_map]
    apply List.map_congr_left
    intro step _
    exact step.describe_stored first
  unfold IndexedExtension.describe CompiledExtension.describe stored
  rw [resolvers, steps]

theorem ResolverPlan.storeAll_ofTable (bodies : Bodies H) (handle : Nat)
    (table : DispatchTable H) (plans : List ResolverPlan) :
    storeAll bodies handle (ofTable table) plans =
      (bindAll bodies handle table plans).map ofTable := by
  induction plans generalizing handle table with
  | nil => rfl
  | cons plan rest induction =>
      rw [storeAll, bindAll]
      cases plan.bind bodies handle with
      | error error => rfl
      | ok dispatcher =>
          simp only [Bind.bind, Except.bind]
          cases inserted : table.insert ⟨plan, dispatcher⟩ with
          | error error =>
              rw [IndexedTable.insert_ofTable_of_error inserted]
              rfl
          | ok result =>
              rw [IndexedTable.insert_ofTable_of_ok inserted]
              exact induction (handle + 1) result.2

/-- An extension compiles to a stored table where it compiles at all. -/
theorem Extension.compileIndexed_eq (policy : Policy) (extension : Extension) (bodies : Bodies H)
    (first : Nat) :
    (extension.compileIndexed policy bodies first : Except CompileError (IndexedExtension H D)) =
      (extension.compile policy bodies first).map CompiledExtension.stored := by
  unfold compileIndexed compile
  by_cases faulty : Diagnostic.hasErrors (extension.plan policy).2 = true
  · simp only [faulty]
    rfl
  · simp only [faulty]
    cases ResolverPlan.bindNode bodies first (extension.plan policy).1.nodeResolver with
    | error error => rfl
    | ok node =>
        have tables := ResolverPlan.storeAll_ofTable bodies (first + 1) .empty
          (extension.plan policy).1.resolvers
        have empty : ofTable (.empty : DispatchTable H) = .empty := rfl
        rw [empty] at tables
        simp only [bind, Except.bind, tables]
        cases ResolverPlan.bindAll bodies (first + 1) .empty
            (extension.plan policy).1.resolvers with
        | error error => rfl
        | ok table =>
            simp only [Except.map, IndexedExtension.stepsFor_ofTable]
            rfl

/-! ## Schemas -/

namespace IndexedSchema

theorem add_stored (schema : CompiledSchema H D) (compiled : CompiledExtension H D) :
    schema.stored.add compiled.stored = (schema.add compiled).map CompiledSchema.stored := by
  have tables : schema.stored.table.append compiled.stored.table = _ :=
    IndexedTable.append_ofTable compiled.table
  unfold add CompiledSchema.add
  rw [tables]
  cases schema.table.append compiled.table with
  | mk result table =>
      cases result with
      | error error => rfl
      | ok ids =>
          simp only [Except.map, CompiledSchema.stored, List.map_append]
          rfl

theorem extend_stored (policy : Policy) (handle : Nat) (schema : CompiledSchema H D)
    (units : List (Extension × Bodies H)) :
    schema.stored.extend policy handle units =
      (schema.extend policy handle units).map CompiledSchema.stored := by
  induction units generalizing handle schema with
  | nil => rfl
  | cons unit rest induction =>
      obtain ⟨extension, bodies⟩ := unit
      rw [extend, CompiledSchema.extend, Extension.compileIndexed_eq]
      cases extension.compile policy bodies handle with
      | error error => rfl
      | ok compiled =>
          simp only [bind, Except.bind, Except.map, add_stored, compiled.size_stored]
          cases schema.add compiled with
          | error error => rfl
          | ok extended => exact induction _ extended

/-- Compiling to stored tables is compiling, with the tables stored. -/
theorem compile_eq (policy : Policy) (units : List (Extension × Bodies H)) (first : Nat) :
    (compile policy units first : Except CompileError (IndexedSchema H D)) =
      (CompiledSchema.compile policy units first).map CompiledSchema.stored :=
  extend_stored policy first .empty units

theorem describeFrom_stored (next : UInt32) (extensions : List (CompiledExtension H D)) :
    describeFrom next (extensions.map CompiledExtension.stored) =
      CompiledSchema.describeFrom next extensions := by
  induction extensions generalizing next with
  | nil => rfl
  | cons compiled rest induction =>
      rw [List.map_cons, describeFrom, CompiledSchema.describeFrom, compiled.describe_stored,
        compiled.size_stored, induction]

theorem manifest_stored (schema : CompiledSchema H D) :
    schema.stored.manifest = schema.manifest :=
  congrArg Manifest.ofEntries (describeFrom_stored 0 schema.extensions)

end IndexedSchema

end Stored

end FieldDispatch
