import FieldDispatch.Proofs.MergedTable
import FieldDispatch.Proofs.Registration

/-!
Registering the extensions of one runtime type, one after the other, on one fresh object type. The
type then has the fields that the table of the schema has for it, each with the dispatcher found
there, since no two extensions bring the same member. The order of registration decides only the
order of the fields and which node resolver stays.
-/

namespace FieldDispatch

namespace OrderedMap

variable {α : Type}

theorem insertAll_append (map : OrderedMap α) (first second : List (String × α)) :
    map.insertAll (first ++ second) = (map.insertAll first).insertAll second :=
  List.foldl_append

/-- Entries with names of their own, written to an empty map, are its entries. -/
theorem entries_insertAll_empty {fresh : List (String × α)}
    (distinct : (fresh.map Prod.fst).Nodup) : (empty.insertAll fresh).entries = fresh := by
  rw [entries_insertAll _ distinct fun _ _ => List.not_mem_nil]
  exact List.nil_append fresh

end OrderedMap

namespace DispatchTable

variable {H : Host}

theorem dispatcher?_eq_some_iff (table : DispatchTable H) (typeName member : String)
    (dispatcher : Dispatcher H) :
    table.dispatcher? typeName member = some dispatcher ↔
      ∃ entry ∈ table.entries, entry.key = (typeName, member) ∧ entry.dispatcher = dispatcher := by
  unfold dispatcher?
  simp only [Option.map_eq_some_iff, find?_eq_some_iff, and_assoc]

/-- The entries for members of one type, in the order of their ids. -/
def entriesFor (table : DispatchTable H) (typeName : String) : List (Entry H) :=
  table.entries.filter fun entry => entry.plan.name.typeName = typeName

theorem mem_entriesFor {table : DispatchTable H} {typeName : String} {entry : Entry H} :
    entry ∈ table.entriesFor typeName ↔
      entry ∈ table.entries ∧ entry.plan.name.typeName = typeName := by
  simp [entriesFor]

theorem nodup_members_entriesFor (table : DispatchTable H) (typeName : String) :
    ((table.entriesFor typeName).map fun entry => entry.plan.name.memberName).Nodup := by
  have keys : (table.entriesFor typeName).map Entry.key =
      ((table.entriesFor typeName).map fun entry => entry.plan.name.memberName).map
        fun member => (typeName, member) := by
    rw [List.map_map]
    apply List.map_congr_left
    intro entry present
    exact Prod.ext (mem_entriesFor.mp present).2 rfl
  have distinct : ((table.entriesFor typeName).map Entry.key).Nodup :=
    (List.filter_sublist.map Entry.key).nodup table.distinct
  rw [keys] at distinct
  exact distinct.of_map _

/-- The name and the dispatcher that an entry brings to its type. -/
def Entry.field (entry : Entry H) : String × Dispatcher H :=
  (entry.plan.name.memberName, entry.dispatcher)

theorem dispatcher?_eq_some_iff_field (table : DispatchTable H) (typeName member : String)
    (dispatcher : Dispatcher H) :
    table.dispatcher? typeName member = some dispatcher ↔
      (member, dispatcher) ∈ (table.entriesFor typeName).map Entry.field := by
  rw [table.dispatcher?_eq_some_iff, List.mem_map]
  constructor
  · rintro ⟨entry, present, key, rfl⟩
    obtain ⟨named, rfl⟩ := Prod.mk.inj key
    exact ⟨entry, mem_entriesFor.mpr ⟨present, named⟩, rfl⟩
  · rintro ⟨entry, present, same⟩
    obtain ⟨listed, named⟩ := mem_entriesFor.mp present
    cases same
    exact ⟨entry, listed, Prod.ext named rfl, rfl⟩

end DispatchTable

theorem RegistrationStep.isAccepted_of_undeclared {H : Host} {type : ObjectType H}
    (undeclared : type.declared = none) (step : RegistrationStep H) : step.IsAccepted type := by
  cases step with
  | node dispatcher => trivial
  | field name id dispatcher =>
      change type.declares name = true
      rw [ObjectType.declares, undeclared]
      rfl

namespace CompiledExtension

variable {H : Host}

theorem dispatcher?_eq_some_iff {D : Type} (compiled : CompiledExtension H D) (member : String)
    (dispatcher : Dispatcher H) :
    compiled.dispatcher? member = some dispatcher ↔
      ∃ entry ∈ compiled.table.entries, entry.key = (compiled.runtimeType, member) ∧
        entry.dispatcher = dispatcher :=
  compiled.table.dispatcher?_eq_some_iff _ _ _

/-- What a compiled extension makes of an object type that accepts all its fields. -/
def registeredOn (type : ObjectType H) (compiled : CompiledExtension H (ObjectType H)) :
    ObjectType H :=
  { type with
    node := compiled.nodeDispatcher?.or type.node
    fields := type.fields.insertAll (fieldsOf compiled.table) }

theorem IsCompiled.run_register_undeclared {policy : Policy} {extension : Extension}
    {bodies : Bodies H} {compiled : CompiledExtension H (ObjectType H)}
    (made : compiled.IsCompiled policy extension bodies) {type : ObjectType H}
    (named : type.name = compiled.runtimeType) (undeclared : type.declared = none) :
    Registration.run compiled.register type = pure (.ok (), registeredOn type compiled) := by
  have accepted : ∀ step ∈ compiled.steps, step.IsAccepted type := by
    intro step _
    exact RegistrationStep.isAccepted_of_undeclared undeclared step
  rw [run_register_of_accepted named made.hook accepted, made.steps, foldl_onto_stepsFor]
  rfl

theorem run_forM_register {policy : Policy} {order : List (CompiledExtension H (ObjectType H))}
    (made : ∀ compiled ∈ order, ∃ unit : Extension × Bodies H,
      compiled.IsCompiled policy unit.1 unit.2)
    {type : ObjectType H} (named : ∀ compiled ∈ order, compiled.runtimeType = type.name)
    (undeclared : type.declared = none) :
    Registration.run (forM order register) type =
      pure (.ok (), order.foldl registeredOn type) := by
  induction order generalizing type with
  | nil => rfl
  | cons compiled rest induction =>
      obtain ⟨unit, isCompiled⟩ := made compiled List.mem_cons_self
      have first := isCompiled.run_register_undeclared (named compiled List.mem_cons_self).symm
        undeclared
      rw [List.forM_cons, Registration.run_bind, first, pure_bind]
      apply induction
      · intro later present
        exact made later (List.mem_cons_of_mem _ present)
      · intro later present
        exact named later (List.mem_cons_of_mem _ present)
      · exact undeclared

/-- Node resolvers replace each other, fields come together. -/
theorem foldl_registeredOn (order : List (CompiledExtension H (ObjectType H)))
    (type : ObjectType H) :
    order.foldl registeredOn type = { type with
      node := (order.filterMap nodeDispatcher?).getLast?.or type.node
      fields := type.fields.insertAll (order.flatMap fun compiled => fieldsOf compiled.table) } := by
  induction order generalizing type with
  | nil => rfl
  | cons compiled rest induction =>
      have nodes : (rest.filterMap nodeDispatcher?).getLast?.or (registeredOn type compiled).node =
          ((compiled :: rest).filterMap nodeDispatcher?).getLast?.or type.node := by
        unfold registeredOn
        cases made : compiled.nodeDispatcher? with
        | none => simp [made]
        | some dispatcher => simp [made, List.getLast?_cons]
      rw [List.foldl_cons, induction, List.flatMap_cons, OrderedMap.insertAll_append, nodes]
      rfl

end CompiledExtension

namespace CompiledSchema

variable {H : Host} {D : Type}

theorem AreCompiled.of_mem_extensionsOf {policy : Policy} {units : List (Extension × Bodies H)}
    {schema : CompiledSchema H D} (made : AreCompiled policy units schema.extensions)
    {typeName : String} {compiled : CompiledExtension H D}
    (present : compiled ∈ schema.extensionsOf typeName) :
    compiled.runtimeType = typeName ∧
      ∃ unit : Extension × Bodies H, compiled.IsCompiled policy unit.1 unit.2 := by
  obtain ⟨listed, named⟩ := List.mem_filter.mp present
  obtain ⟨unit, -, isCompiled⟩ := made.of_mem listed
  exact ⟨of_decide_eq_true named, unit, isCompiled⟩

/-- All entries of an extension are for its runtime type, so whole extensions are kept or left. -/
theorem entriesOf_filter {policy : Policy} {units : List (Extension × Bodies H)}
    {extensions : List (CompiledExtension H D)} (made : AreCompiled policy units extensions)
    (typeName : String) :
    entriesOf (extensions.filter fun compiled => compiled.runtimeType = typeName) =
      (entriesOf extensions).filter fun entry => entry.plan.name.typeName = typeName := by
  induction made with
  | nil => rfl
  | @cons unit compiled units extensions isCompiled later induction =>
      rw [entriesOf_cons, List.filter_append, ← induction]
      by_cases named : compiled.runtimeType = typeName
      · have kept : compiled.table.entries.filter
            (fun entry => entry.plan.name.typeName = typeName) = compiled.table.entries := by
          apply List.filter_eq_self.mpr
          intro entry present
          exact decide_eq_true ((isCompiled.typeName_of_mem present).trans named)
        rw [List.filter_cons_of_pos (by simpa using named), entriesOf_cons, kept]
      · have left : compiled.table.entries.filter
            (fun entry => entry.plan.name.typeName = typeName) = [] := by
          apply List.filter_eq_nil_iff.mpr
          intro entry present kept
          exact named ((isCompiled.typeName_of_mem present).symm.trans (of_decide_eq_true kept))
        rw [List.filter_cons_of_neg (by simpa using named), left, List.nil_append]

theorem map_field_entriesOf (extensions : List (CompiledExtension H D)) :
    (entriesOf extensions).map DispatchTable.Entry.field =
      extensions.flatMap fun compiled => CompiledExtension.fieldsOf compiled.table := by
  rw [entriesOf, List.map_flatMap]
  rfl

variable {policy : Policy} {units : List (Extension × Bodies H)} {first : Nat}

theorem entriesOf_extensionsOf {schema : CompiledSchema H D}
    (success : compile policy units first = .ok schema) (typeName : String) :
    entriesOf (schema.extensionsOf typeName) = schema.table.entriesFor typeName := by
  obtain ⟨made, entriesEq⟩ := compile_eq_ok success
  rw [DispatchTable.entriesFor, entriesEq]
  exact entriesOf_filter made typeName

/-- What the table has for a member is what one of the type's extensions has for it. -/
theorem dispatcher?_eq_some_iff_owner {schema : CompiledSchema H D}
    (success : compile policy units first = .ok schema) (typeName member : String)
    (dispatcher : Dispatcher H) :
    schema.table.dispatcher? typeName member = some dispatcher ↔
      ∃ owner ∈ schema.extensionsOf typeName, owner.dispatcher? member = some dispatcher := by
  obtain ⟨made, entriesEq⟩ := compile_eq_ok success
  rw [schema.table.dispatcher?_eq_some_iff, entriesEq]
  constructor
  · rintro ⟨entry, present, key, same⟩
    obtain ⟨owner, listed, entryPresent⟩ := mem_entriesOf.mp present
    obtain ⟨unit, -, isCompiled⟩ := made.of_mem listed
    have named : owner.runtimeType = typeName :=
      (isCompiled.typeName_of_mem entryPresent).symm.trans (congrArg Prod.fst key)
    refine ⟨owner, List.mem_filter.mpr ⟨listed, decide_eq_true named⟩, ?_⟩
    apply (owner.dispatcher?_eq_some_iff _ _).mpr
    exact ⟨entry, entryPresent, by rw [key, named], same⟩
  · rintro ⟨owner, present, found⟩
    obtain ⟨entry, entryPresent, key, same⟩ := (owner.dispatcher?_eq_some_iff _ _).mp found
    rw [(made.of_mem_extensionsOf present).1] at key
    exact ⟨entry, mem_entriesOf.mpr ⟨owner, (List.mem_filter.mp present).1, entryPresent⟩, key,
      same⟩

/-- A member of a type belongs to one of its extensions at most. -/
theorem pairwise_owners {schema : CompiledSchema H D}
    (success : compile policy units first = .ok schema) (typeName : String) :
    (schema.extensionsOf typeName).Pairwise fun compiled other =>
      ∀ member, compiled.dispatcher? member = none ∨ other.dispatcher? member = none := by
  obtain ⟨made, entriesEq⟩ := compile_eq_ok success
  have distinct : (schema.extensions.flatMap fun compiled => compiled.table.keys).Nodup := by
    have keys := schema.table.distinct
    rw [entriesEq, entriesOf, List.map_flatMap] at keys
    exact keys
  have apart : (schema.extensionsOf typeName).Pairwise fun compiled other =>
      List.Disjoint compiled.table.keys other.table.keys :=
    (List.nodup_flatMap.mp distinct).2.filter _
  have ownKey : ∀ owner ∈ schema.extensionsOf typeName, ∀ member,
      owner.dispatcher? member ≠ none → (typeName, member) ∈ owner.table.keys := by
    intro owner present member found
    obtain ⟨dispatcher, there⟩ := Option.ne_none_iff_exists'.mp found
    obtain ⟨entry, entryPresent, key, -⟩ := (owner.dispatcher?_eq_some_iff _ _).mp there
    rw [(made.of_mem_extensionsOf present).1] at key
    exact (owner.table.mem_keys_iff _ _).mpr ⟨entry, entryPresent, key⟩
  apply apart.imp_of_mem
  intro compiled other present otherPresent disjoint member
  by_contra both
  rw [not_or] at both
  exact disjoint (ownKey compiled present member both.1) (ownKey other otherPresent member both.2)

section AnyOrder

variable {schema : CompiledSchema H (ObjectType H)} {typeName : String}
variable {order : List (CompiledExtension H (ObjectType H))}

theorem run_register_permuted (success : compile policy units first = .ok schema)
    (permuted : order.Perm (schema.extensionsOf typeName)) :
    Registration.run (forM order CompiledExtension.register) (ObjectType.new typeName none) =
      pure (.ok (), order.foldl CompiledExtension.registeredOn (ObjectType.new typeName none)) := by
  have made := (compile_eq_ok success).1
  have listed : ∀ compiled ∈ order, compiled.runtimeType = typeName ∧
      ∃ unit : Extension × Bodies H, compiled.IsCompiled policy unit.1 unit.2 := by
    intro compiled present
    exact made.of_mem_extensionsOf (permuted.mem_iff.mp present)
  exact CompiledExtension.run_forM_register (fun compiled present => (listed compiled present).2)
    (fun compiled present => (listed compiled present).1) rfl

theorem entries_fields_permuted (success : compile policy units first = .ok schema)
    (permuted : order.Perm (schema.extensionsOf typeName)) :
    (order.foldl CompiledExtension.registeredOn (ObjectType.new typeName none)).fields.entries =
        (entriesOf order).map DispatchTable.Entry.field ∧
      (entriesOf order).Perm (schema.table.entriesFor typeName) := by
  have same : (entriesOf order).Perm (schema.table.entriesFor typeName) := by
    rw [← entriesOf_extensionsOf success]
    exact permuted.flatMap_right _
  have distinct : (((entriesOf order).map DispatchTable.Entry.field).map Prod.fst).Nodup := by
    rw [List.map_map]
    exact (same.map _).nodup_iff.mpr (schema.table.nodup_members_entriesFor typeName)
  refine ⟨?_, same⟩
  rw [CompiledExtension.foldl_registeredOn, ← map_field_entriesOf]
  exact OrderedMap.entries_insertAll_empty distinct

theorem field?_permuted (success : compile policy units first = .ok schema)
    (permuted : order.Perm (schema.extensionsOf typeName)) (member : String) :
    (order.foldl CompiledExtension.registeredOn (ObjectType.new typeName none)).field? member =
      schema.table.dispatcher? typeName member := by
  obtain ⟨entriesEq, same⟩ := entries_fields_permuted success permuted
  apply Option.ext
  intro dispatcher
  rw [DispatchTable.dispatcher?_eq_some_iff_field, ← (same.map _).mem_iff, ← entriesEq]
  exact OrderedMap.get?_eq_some_iff _ _ _

end AnyOrder

/-- The extensions of a type make of a fresh object type what the table of the schema says of it,
in whichever order they are registered. -/
theorem extensionsOf_register {schema : CompiledSchema H (ObjectType H)}
    (success : compile policy units first = .ok schema) (typeName : String) :
    ∃ type : ObjectType H,
      Registration.run (forM (schema.extensionsOf typeName) CompiledExtension.register)
          (ObjectType.new typeName none) = pure (.ok (), type) ∧
        type.fieldNames =
          (schema.table.entriesFor typeName).map (fun entry => entry.plan.name.memberName) ∧
        (∀ member, type.field? member = schema.table.dispatcher? typeName member) ∧
        (∀ member dispatcher, type.field? member = some dispatcher ↔
          ∃ owner ∈ schema.extensionsOf typeName, owner.dispatcher? member = some dispatcher) ∧
        ((schema.extensionsOf typeName).Pairwise fun compiled other =>
          ∀ member, compiled.dispatcher? member = none ∨ other.dispatcher? member = none) ∧
        (type.isNode = true ↔ ∃ compiled ∈ schema.extensionsOf typeName, compiled.node.isSome) ∧
        type.node =
          ((schema.extensionsOf typeName).filterMap CompiledExtension.nodeDispatcher?).getLast? ∧
        ∀ order : List (CompiledExtension H (ObjectType H)),
          order.Perm (schema.extensionsOf typeName) →
            ∃ other : ObjectType H,
              Registration.run (forM order CompiledExtension.register)
                  (ObjectType.new typeName none) = pure (.ok (), other) ∧
                ∀ member, other.field? member = type.field? member := by
  have inOrder : (schema.extensionsOf typeName).Perm (schema.extensionsOf typeName) :=
    List.Perm.refl _
  have fields := field?_permuted success inOrder
  have node : ((schema.extensionsOf typeName).foldl CompiledExtension.registeredOn
      (ObjectType.new typeName none)).node =
        ((schema.extensionsOf typeName).filterMap CompiledExtension.nodeDispatcher?).getLast? := by
    rw [CompiledExtension.foldl_registeredOn]
    exact Option.or_none
  refine ⟨_, run_register_permuted success inOrder, ?_, fields, ?_,
    pairwise_owners success typeName, ?_, node, ?_⟩
  · have entries := (entries_fields_permuted success inOrder).1
    rw [entriesOf_extensionsOf success] at entries
    rw [ObjectType.fieldNames, OrderedMap.names, entries, List.map_map]
    rfl
  · intro member dispatcher
    rw [fields]
    exact dispatcher?_eq_some_iff_owner success typeName member dispatcher
  · rw [ObjectType.isNode, node]
    simp [CompiledExtension.nodeDispatcher?]
  · intro order permuted
    refine ⟨_, run_register_permuted success permuted, ?_⟩
    intro member
    rw [fields, field?_permuted success permuted]

theorem extensionsOf_register_sample :
    ∃ (schema : CompiledSchema Sample.host (ObjectType Sample.host))
      (type : ObjectType Sample.host),
      compile .skip Sample.units 0 = .ok schema ∧
        Registration.run (forM (schema.extensionsOf "Query") CompiledExtension.register)
          (ObjectType.new "Query" none) = pure (.ok (), type) ∧
        type.fieldNames = ["Version", "Later", "Count"] ∧ type.isNode = true ∧
        ∃ other : ObjectType Sample.host,
          Registration.run (forM (schema.extensionsOf "Query").reverse CompiledExtension.register)
              (ObjectType.new "Query" none) = pure (.ok (), other) ∧
            other.field? "Count" = type.field? "Count" := by
  have compiles : ((compile .skip Sample.units 0).toOption.map
      fun schema : CompiledSchema Sample.host (ObjectType Sample.host) =>
        ((schema.table.entriesFor "Query").map fun entry => entry.plan.name.memberName,
          (schema.extensionsOf "Query").any fun compiled => compiled.node.isSome)) =
        some (["Version", "Later", "Count"], true) := by
    decide +kernel
  obtain ⟨schema, found, facts⟩ := Option.map_eq_some_iff.mp compiles
  obtain ⟨members, nodes⟩ := Prod.mk.inj facts
  have success := (toOption_eq_some_iff _ _).mp found
  obtain ⟨type, run, names, -, -, -, node, -, permuted⟩ := extensionsOf_register success "Query"
  obtain ⟨other, otherRun, same⟩ := permuted _ (List.reverse_perm _)
  exact ⟨schema, type, success, run, names.trans members, node.mpr (List.any_eq_true.mp nodes),
    other, otherRun, same "Count"⟩

end CompiledSchema

end FieldDispatch
