import FieldDispatch.Proofs.Compilability
import FieldDispatch.Proofs.SchemaRegistration
import Mathlib.Logic.Relation

/-!
Registering a compiled extension on an object type that declares its fields and has registrations
already. The run goes through the table up to the first member that is not declared, and what it
took before it stays: the node resolver and the entries up to that member. A second run finds the
same member, and writes only what is there. No run, and no registration by hand, brings a field that
is not declared.
-/

namespace FieldDispatch

namespace OrderedMap

variable {α : Type}

theorem write_of_find? {name : String} {value : α} {entries : List (String × α)}
    (bound : find? name entries = some value) : write name value entries = entries := by
  induction entries with
  | nil => cases bound
  | cons entry rest induction =>
      obtain ⟨other, kept⟩ := entry
      by_cases same : other = name
      · have equal : kept = value := by simpa [find?, same] using bound
        rw [write, if_pos same, equal]
      · have later : find? name rest = some value := by simpa [find?, same] using bound
        rw [write, if_neg same, induction later]

/-- Writing what is bound already changes nothing. -/
theorem insert_of_get? {map : OrderedMap α} {name : String} {value : α}
    (bound : map.get? name = some value) : map.insert name value = map := by
  obtain ⟨entries, distinct⟩ := map
  exact (mk.injEq _ _ _ _).mpr (write_of_find? bound)

theorem insertAll_of_get? {map : OrderedMap α} {fresh : List (String × α)}
    (bound : ∀ entry ∈ fresh, map.get? entry.1 = some entry.2) : map.insertAll fresh = map := by
  induction fresh with
  | nil => rfl
  | cons entry rest induction =>
      change (map.insert entry.1 entry.2).insertAll rest = map
      rw [insert_of_get? (bound entry List.mem_cons_self)]
      exact induction fun later present => bound later (List.mem_cons_of_mem _ present)

theorem get?_insertAll_of_distinct (map : OrderedMap α) {fresh : List (String × α)}
    (distinct : (fresh.map Prod.fst).Nodup) :
    ∀ entry ∈ fresh, (map.insertAll fresh).get? entry.1 = some entry.2 := by
  intro entry present
  apply get?_insertAll_of_mem _ present
  intro other listed
  exact congrArg Prod.snd (List.inj_on_of_nodup_map distinct listed present rfl)

theorem insertAll_insertAll (map : OrderedMap α) {fresh : List (String × α)}
    (distinct : (fresh.map Prod.fst).Nodup) :
    (map.insertAll fresh).insertAll fresh = map.insertAll fresh :=
  insertAll_of_get? (map.get?_insertAll_of_distinct distinct)

theorem get?_insertAll_of_not_mem (map : OrderedMap α) {fresh : List (String × α)} {name : String}
    (absent : name ∉ fresh.map Prod.fst) : (map.insertAll fresh).get? name = map.get? name := by
  induction fresh generalizing map with
  | nil => rfl
  | cons entry rest induction =>
      rw [List.map_cons, List.mem_cons, not_or] at absent
      exact (induction _ absent.2).trans (map.get?_insert_of_ne entry.2 absent.1)

/-- Known names keep their places, new ones come behind them in the order of writing. -/
theorem names_insertAll (map : OrderedMap α) {fresh : List (String × α)}
    (distinct : (fresh.map Prod.fst).Nodup) :
    (map.insertAll fresh).names =
      map.names ++ (fresh.map Prod.fst).filter fun name => name ∉ map.names := by
  induction fresh generalizing map with
  | nil => exact (List.append_nil _).symm
  | cons entry rest induction =>
      rw [List.map_cons, List.nodup_cons] at distinct
      change ((map.insert entry.1 entry.2).insertAll rest).names = _
      rw [induction _ distinct.2, names_insert, List.map_cons]
      by_cases known : entry.1 ∈ map.names
      · rw [if_pos known, List.filter_cons_of_neg (by simpa using known)]
      · have others : (rest.map Prod.fst).filter (fun name => name ∉ map.names ++ [entry.1]) =
            (rest.map Prod.fst).filter fun name => name ∉ map.names := by
          apply List.filter_congr
          intro name present
          have other : name ≠ entry.1 := fun same => distinct.1 (same ▸ present)
          simp [other]
        rw [if_neg known, others, List.filter_cons_of_pos (by simpa using known),
          List.append_assoc, List.singleton_append]

end OrderedMap

variable {H : Host}

/-- The member that an entry is for. -/
def DispatchTable.Entry.member (entry : DispatchTable.Entry H) : String :=
  entry.plan.name.memberName

theorem DispatchTable.map_fst_field (entries : List (Entry H)) :
    (entries.map Entry.field).map Prod.fst = entries.map Entry.member :=
  List.map_map

namespace ObjectType

/-! ## What a run leaves -/

/-- What comes of a type that takes a node resolver, if there is one, and a field for each entry.
Fields that it had keep their places, and those that no entry is for their dispatchers. -/
structure Takes (type : ObjectType H) (node : Option (Dispatcher H))
    (entries : List (DispatchTable.Entry H)) (later : ObjectType H) : Prop where
  name : later.name = type.name
  declared : later.declared = type.declared
  node : later.node = node.or type.node
  fieldNames : later.fieldNames = type.fieldNames ++
    (entries.map DispatchTable.Entry.member).filter fun name => name ∉ type.fieldNames
  taken : ∀ entry ∈ entries, later.field? entry.member = some entry.dispatcher
  kept : ∀ name ∉ entries.map DispatchTable.Entry.member, later.field? name = type.field? name

/-- The type written out. -/
def taking (type : ObjectType H) (node : Option (Dispatcher H))
    (entries : List (DispatchTable.Entry H)) : ObjectType H :=
  { type with
    node := node.or type.node
    fields := type.fields.insertAll (entries.map DispatchTable.Entry.field) }

section Taking

variable (type : ObjectType H) (node : Option (Dispatcher H))
  {entries : List (DispatchTable.Entry H)}

theorem takes_taking (distinct : (entries.map DispatchTable.Entry.member).Nodup) :
    type.Takes node entries (type.taking node entries) := by
  rw [← DispatchTable.map_fst_field] at distinct
  refine ⟨rfl, rfl, rfl, ?_, ?_, ?_⟩
  · rw [← DispatchTable.map_fst_field]
    exact type.fields.names_insertAll distinct
  · intro entry present
    exact type.fields.get?_insertAll_of_distinct distinct _ (List.mem_map_of_mem present)
  · intro name absent
    rw [← DispatchTable.map_fst_field] at absent
    exact type.fields.get?_insertAll_of_not_mem absent

theorem taking_taking (distinct : (entries.map DispatchTable.Entry.member).Nodup) :
    (type.taking node entries).taking node entries = type.taking node entries := by
  rw [← DispatchTable.map_fst_field] at distinct
  have fields := type.fields.insertAll_insertAll distinct
  have nodes : node.or (node.or type.node) = node.or type.node := by
    cases node <;> rfl
  simp only [taking, fields, nodes]

end Taking

end ObjectType

/-! ## One run -/

namespace RegistrationStep

/-- Steps are taken up to the first field that is not declared. -/
theorem run_registerAll_of_undeclared {type : ObjectType H} {accepted : List (RegistrationStep H)}
    (taken : ∀ step ∈ accepted, step.IsAccepted type) {name : String}
    (undeclared : type.declares name = false) (id : Nat) (dispatcher : Dispatcher H)
    (rest : List (RegistrationStep H)) :
    Registration.run (registerAll (accepted ++ .field name id dispatcher :: rest)) type =
      pure (.error (.unknownField type.name name), accepted.foldl onto type) := by
  induction accepted generalizing type with
  | nil =>
      have refused : type.registerField name dispatcher =
          (.error (.unknownField type.name name), type) := by
        rw [ObjectType.registerField, undeclared]
        rfl
      have run : Registration.run (RegistrationStep.field name id dispatcher).register type =
          pure (.error (.unknownField type.name name), type) := congrArg pure refused
      rw [List.nil_append, registerAll, Registration.run_bind, run, pure_bind]
      rfl
  | cons step earlier induction =>
      have earlierTaken : ∀ other ∈ earlier, other.IsAccepted (onto type step) := by
        intro other present
        exact isAccepted_onto (taken other (List.mem_cons_of_mem _ present))
      have stillUndeclared : (onto type step).declares name = false := by
        cases step <;> exact undeclared
      have sameName : (onto type step).name = type.name := by
        cases step <;> rfl
      rw [List.cons_append, registerAll, Registration.run_bind,
        run_register (taken step List.mem_cons_self), pure_bind]
      dsimp only
      rw [induction earlierTaken stillUndeclared, sameName, List.foldl_cons]

end RegistrationStep

namespace CompiledExtension

theorem run_register_of_hookless {compiled : CompiledExtension H (ObjectType H)}
    (hookless : compiled.hook = none) (type : ObjectType H) :
    Registration.run compiled.register type =
      if type.name = compiled.runtimeType then
        Registration.run (RegistrationStep.registerAll compiled.steps) type
      else pure (.error (.typeMismatch compiled.runtimeType type.name), type) := by
  unfold register
  rw [Registration.run_bind, Registration.run_get, pure_bind, hookless]
  dsimp only
  change Registration.run (if type.name = compiled.runtimeType then _ else _) type = _
  split
  · rw [bind_pure_unit]
  · rfl

theorem isAccepted_of_mem_stepsFor {node : Option (NodeResolver H)} {table : DispatchTable H}
    {type : ObjectType H}
    (declared : ∀ entry ∈ table.entries, type.declares entry.member = true) :
    ∀ step ∈ stepsFor node table, step.IsAccepted type := by
  intro step present
  rcases List.mem_append.mp present with first | later
  · obtain ⟨resolver, -, rfl⟩ := Option.map_eq_some_iff.mp (Option.mem_toList.mp first)
    trivial
  · obtain ⟨place, bound, rfl⟩ := List.mem_mapIdx.mp later
    exact declared _ (List.getElem_mem bound)

namespace IsCompiled

variable {policy : Policy} {extension : Extension} {bodies : Bodies H}
  {compiled : CompiledExtension H (ObjectType H)}

theorem nodup_members (made : compiled.IsCompiled policy extension bodies) :
    (compiled.table.entries.map DispatchTable.Entry.member).Nodup := by
  have all : compiled.table.entriesFor compiled.runtimeType = compiled.table.entries := by
    apply List.filter_eq_self.mpr
    intro entry present
    exact decide_eq_true (made.typeName_of_mem present)
  have distinct := compiled.table.nodup_members_entriesFor compiled.runtimeType
  rwa [all] at distinct

theorem nodup_members_before (made : compiled.IsCompiled policy extension bodies)
    {before after : List (DispatchTable.Entry H)}
    (entries : compiled.table.entries = before ++ after) :
    (before.map DispatchTable.Entry.member).Nodup := by
  have distinct := made.nodup_members
  rw [entries, List.map_append] at distinct
  exact distinct.of_append_left

/-- If every member is declared, all of them are registered. -/
theorem run_register_of_declared (made : compiled.IsCompiled policy extension bodies)
    {type : ObjectType H} (named : type.name = compiled.runtimeType)
    (declared : ∀ entry ∈ compiled.table.entries, type.declares entry.member = true) :
    Registration.run compiled.register type =
      pure (.ok (), type.taking compiled.nodeDispatcher? compiled.table.entries) := by
  have accepted : ∀ step ∈ compiled.steps, step.IsAccepted type := by
    rw [made.steps]
    exact isAccepted_of_mem_stepsFor declared
  rw [run_register_of_accepted named made.hook accepted, made.steps, foldl_onto_stepsFor]
  rfl

/-- Otherwise those before the first one that is not. -/
theorem run_register_of_undeclared (made : compiled.IsCompiled policy extension bodies)
    {type : ObjectType H} (named : type.name = compiled.runtimeType)
    {before after : List (DispatchTable.Entry H)} {entry : DispatchTable.Entry H}
    (entries : compiled.table.entries = before ++ entry :: after)
    (declared : ∀ earlier ∈ before, type.declares earlier.member = true)
    (undeclared : type.declares entry.member = false) :
    Registration.run compiled.register type =
      pure (.error (.unknownField type.name entry.member),
        type.taking compiled.nodeDispatcher? before) := by
  have distinct : (before.map DispatchTable.Entry.key).Nodup := by
    have all := compiled.table.distinct
    rw [entries, List.map_append] at all
    exact all.of_append_left
  -- The steps before the refused one are those of the table that ends there.
  let begun : DispatchTable H := ⟨before, distinct⟩
  have steps : compiled.steps = stepsFor compiled.node begun ++
      .field entry.member before.length entry.dispatcher ::
        after.mapIdx fun place => RegistrationStep.ofEntry (place + 1 + before.length) := by
    rw [made.steps, stepsFor, entries, List.mapIdx_append, List.mapIdx_cons, Nat.zero_add,
      ← List.append_assoc]
    rfl
  have taken : ∀ step ∈ stepsFor compiled.node begun, step.IsAccepted type :=
    isAccepted_of_mem_stepsFor declared
  rw [run_register_of_hookless made.hook, if_pos named, steps,
    RegistrationStep.run_registerAll_of_undeclared taken undeclared, foldl_onto_stepsFor]
  rfl

/-! The type that a run leaves declares the same, and what a second run writes is there already. -/

theorem run_register_again_of_declared (made : compiled.IsCompiled policy extension bodies)
    {type : ObjectType H} (named : type.name = compiled.runtimeType)
    (declared : ∀ entry ∈ compiled.table.entries, type.declares entry.member = true) :
    let later := type.taking compiled.nodeDispatcher? compiled.table.entries
    Registration.run compiled.register later = pure (.ok (), later) := by
  intro later
  calc
    Registration.run compiled.register later =
        pure (.ok (), later.taking compiled.nodeDispatcher? compiled.table.entries) :=
      made.run_register_of_declared named declared
    _ = pure (.ok (), later) := by rw [type.taking_taking _ made.nodup_members]

theorem run_register_again_of_undeclared (made : compiled.IsCompiled policy extension bodies)
    {type : ObjectType H} (named : type.name = compiled.runtimeType)
    {before after : List (DispatchTable.Entry H)} {entry : DispatchTable.Entry H}
    (entries : compiled.table.entries = before ++ entry :: after)
    (declared : ∀ earlier ∈ before, type.declares earlier.member = true)
    (undeclared : type.declares entry.member = false) :
    let later := type.taking compiled.nodeDispatcher? before
    Registration.run compiled.register later =
      pure (.error (.unknownField type.name entry.member), later) := by
  intro later
  have laterNamed : later.name = compiled.runtimeType := named
  calc
    Registration.run compiled.register later =
        pure (.error (.unknownField type.name entry.member),
          later.taking compiled.nodeDispatcher? before) :=
      made.run_register_of_undeclared laterNamed entries declared undeclared
    _ = pure (.error (.unknownField type.name entry.member), later) := by
      rw [type.taking_taking _ (made.nodup_members_before entries)]

end IsCompiled

end CompiledExtension

/-! ## Any sequence -/

namespace ObjectType

/-- One registration, or one run of a compiled extension without a hook, whatever comes of it. -/
inductive Step (type : ObjectType H) : ObjectType H → Prop where
  | node (dispatcher : Dispatcher H) : Step type (type.registerNode dispatcher).2
  | field (name : String) (dispatcher : Dispatcher H) :
      Step type (type.registerField name dispatcher).2
  | register {compiled : CompiledExtension H (ObjectType H)} (hookless : compiled.hook = none)
      {world after : World H.Env} {outcome : Except RegistrationError Unit} {later : ObjectType H}
      (run : (Registration.run compiled.register type).run world = ((outcome, later), after)) :
      Step type later

def Reaches : ObjectType H → ObjectType H → Prop := Relation.ReflTransGen Step

/-- The type declares what is allowed, if anything, and has no other field. -/
structure IsWithin (allowed : Option (List String)) (type : ObjectType H) : Prop where
  declared : type.declared = allowed
  fieldNames : ∀ names ∈ allowed, type.fieldNames ⊆ names

namespace IsWithin

variable {allowed : Option (List String)} {type : ObjectType H}

theorem new (name : String) (allowed : Option (List String)) :
    (ObjectType.new name allowed : ObjectType H).IsWithin allowed :=
  ⟨rfl, fun names _ => List.nil_subset names⟩

theorem registerNode (within : type.IsWithin allowed) (dispatcher : Dispatcher H) :
    (type.registerNode dispatcher).2.IsWithin allowed :=
  ⟨within.declared, within.fieldNames⟩

theorem registerField (within : type.IsWithin allowed) (name : String)
    (dispatcher : Dispatcher H) : (type.registerField name dispatcher).2.IsWithin allowed := by
  unfold ObjectType.registerField
  by_cases accepted : type.declares name = true
  · rw [if_pos accepted]
    refine ⟨within.declared, ?_⟩
    intro names listed
    have known : name ∈ names := by
      rw [declares, within.declared, Option.mem_def.mp listed] at accepted
      exact of_decide_eq_true accepted
    have before := within.fieldNames names listed
    change (type.fields.insert name dispatcher).names ⊆ names
    rw [OrderedMap.names_insert]
    split
    · exact before
    · exact List.append_subset.mpr ⟨before, List.cons_subset.mpr ⟨known, List.nil_subset _⟩⟩
  · rw [if_neg accepted]
    exact within

theorem run_register (within : type.IsWithin allowed) (step : RegistrationStep H) :
    ∃ outcome later, Registration.run step.register type = pure (outcome, later) ∧
      later.IsWithin allowed := by
  cases step with
  | node dispatcher => exact ⟨_, _, rfl, within.registerNode dispatcher⟩
  | field name id dispatcher => exact ⟨_, _, rfl, within.registerField name dispatcher⟩

theorem run_registerAll (within : type.IsWithin allowed) (steps : List (RegistrationStep H)) :
    ∃ outcome later, Registration.run (RegistrationStep.registerAll steps) type =
      pure (outcome, later) ∧ later.IsWithin allowed := by
  induction steps generalizing type with
  | nil => exact ⟨_, _, rfl, within⟩
  | cons step rest induction =>
      obtain ⟨outcome, middle, run, kept⟩ := within.run_register step
      rw [RegistrationStep.registerAll, Registration.run_bind, run, pure_bind]
      cases outcome with
      | error error => exact ⟨_, _, rfl, kept⟩
      | ok nothing => exact induction kept

theorem register (within : type.IsWithin allowed)
    {compiled : CompiledExtension H (ObjectType H)} (hookless : compiled.hook = none) :
    ∃ outcome later, Registration.run compiled.register type = pure (outcome, later) ∧
      later.IsWithin allowed := by
  rw [compiled.run_register_of_hookless hookless]
  split
  · exact within.run_registerAll compiled.steps
  · exact ⟨_, _, rfl, within⟩

theorem step (within : type.IsWithin allowed) {later : ObjectType H} (step : type.Step later) :
    later.IsWithin allowed := by
  cases step with
  | node dispatcher => exact within.registerNode dispatcher
  | field name dispatcher => exact within.registerField name dispatcher
  | register hookless run =>
      obtain ⟨outcome, reached, pureRun, kept⟩ := within.register hookless
      rw [pureRun] at run
      cases run
      exact kept

end IsWithin

theorem Reaches.isWithin {type later : ObjectType H} (reaches : type.Reaches later)
    {allowed : Option (List String)} (within : type.IsWithin allowed) : later.IsWithin allowed := by
  induction reaches with
  | refl => exact within
  | tail _ step induction => exact induction.step step

end ObjectType

namespace CompiledExtension

/-- Registering a compiled extension on an object type with any declared fields and any earlier
registrations. -/
theorem register_against_declared {policy : Policy} {extension : Extension} {bodies : Bodies H}
    {first : Nat} {compiled : CompiledExtension H (ObjectType H)}
    (success : extension.compile policy bodies first = .ok compiled) {type : ObjectType H}
    (matching : type.name = extension.runtimeType) :
    (∃ outcome later,
      Registration.run compiled.register type = pure (outcome, later) ∧
      (outcome = .ok () ↔
        ∀ entry ∈ compiled.table.entries, type.declares entry.member = true) ∧
      (outcome = .ok () →
        type.Takes compiled.nodeDispatcher? compiled.table.entries later) ∧
      (∀ error, outcome = .error error → ∃ before entry after,
        compiled.table.entries = before ++ entry :: after ∧
        (∀ earlier ∈ before, type.declares earlier.member = true) ∧
        type.declares entry.member = false ∧
        error = .unknownField type.name entry.member ∧
        type.Takes compiled.nodeDispatcher? before later) ∧
      Registration.run compiled.register later = pure (outcome, later)) ∧
    ∀ name allowed (reached : ObjectType H), (ObjectType.new name allowed).Reaches reached →
      reached.IsWithin allowed := by
  have made := Extension.compile_eq_ok success
  have named : type.name = compiled.runtimeType := matching.trans made.runtimeType.symm
  refine ⟨?_, fun name allowed reached reaches => reaches.isWithin (.new name allowed)⟩
  rcases forall_not_or_exists_first (fun entry => type.declares entry.member = false)
      compiled.table.entries with
    known | ⟨before, entry, after, entries, known, undeclared⟩
  · have declared : ∀ entry ∈ compiled.table.entries, type.declares entry.member = true :=
      fun entry present => (Bool.not_eq_false _).mp (known entry present)
    refine ⟨.ok (), _, made.run_register_of_declared named declared, iff_of_true rfl declared,
      fun _ => type.takes_taking _ made.nodup_members, ?_,
      made.run_register_again_of_declared named declared⟩
    intro error failure
    cases failure
  · have declared : ∀ earlier ∈ before, type.declares earlier.member = true :=
      fun earlier present => (Bool.not_eq_false _).mp (known earlier present)
    refine ⟨_, _, made.run_register_of_undeclared named entries declared undeclared, ?_, ?_, ?_,
      made.run_register_again_of_undeclared named entries declared undeclared⟩
    · have present : entry ∈ compiled.table.entries := by
        rw [entries]
        exact List.mem_append_right _ List.mem_cons_self
      constructor
      · intro contrary
        cases contrary
      · intro all
        cases undeclared.symm.trans (all entry present)
    · intro contrary
      cases contrary
    · intro error failure
      cases failure
      exact ⟨before, entry, after, entries, declared, undeclared, rfl,
        type.takes_taking _ (made.nodup_members_before entries)⟩

end CompiledExtension

namespace Sample

/-- A type that declares one of the two fields of `query`, and has fields already. -/
def begun : ObjectType host :=
  (((ObjectType.new "Query" (some ["Version", "Old"])).registerField "Old"
    (.constant 0 .null)).2.registerField "Version" (.constant 1 .null)).2

end Sample

/-- The field `Later` is not declared: only the node resolver and the field before it are new. -/
theorem CompiledExtension.register_against_declared_twice :
    ∃ (compiled : CompiledExtension Sample.host (ObjectType Sample.host))
      (later : ObjectType Sample.host),
      Sample.query.compile .skip Sample.queryBodies 0 = .ok compiled ∧
        Registration.run compiled.register Sample.begun =
          pure (.error (.unknownField "Query" "Later"), later) ∧
        Registration.run compiled.register later =
          pure (.error (.unknownField "Query" "Later"), later) ∧
        later.fieldNames = ["Old", "Version"] ∧
        later.field? "Old" = some (.constant 0 .null) ∧
        later.node = compiled.nodeDispatcher? ∧ later.isNode = true := by
  have runs : ((Sample.query.compile .skip Sample.queryBodies 0).toOption.map
      fun compiled : CompiledExtension Sample.host (ObjectType Sample.host) =>
        let done := ((Registration.run compiled.register Sample.begun).run ⟨(), []⟩).1
        (compiled.table.entries.map DispatchTable.Entry.member, failure? done.1,
          done.2.fieldNames, done.2.isNode)) =
      some (["Version", "Later"], some (.unknownField "Query" "Later"), ["Old", "Version"],
        true) := by
    decide +kernel
  obtain ⟨compiled, found, facts⟩ := Option.map_eq_some_iff.mp runs
  have success := (toOption_eq_some_iff _ _).mp found
  have matching : Sample.begun.name = Sample.query.runtimeType := rfl
  obtain ⟨⟨outcome, later, run, -, -, failed, again⟩, -⟩ :=
    register_against_declared success matching
  rw [run] at facts
  obtain ⟨members, rest⟩ := Prod.mk.inj facts
  obtain ⟨failure, rest⟩ := Prod.mk.inj rest
  obtain ⟨fieldNames, isNode⟩ := Prod.mk.inj rest
  cases (failure?_eq_some_iff _ _).mp failure
  obtain ⟨before, entry, after, entries, -, -, -, takes⟩ := failed _ rfl
  have old : "Old" ∉ before.map DispatchTable.Entry.member := by
    intro listed
    have present : "Old" ∈ compiled.table.entries.map DispatchTable.Entry.member := by
      rw [entries, List.map_append]
      exact List.mem_append_left _ listed
    rw [members] at present
    exact absurd present (by decide)
  refine ⟨compiled, later, success, run, again, fieldNames, takes.kept "Old" old, ?_, isNode⟩
  rw [takes.node]
  exact Option.or_none

end FieldDispatch
