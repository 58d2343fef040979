import FieldDispatch.Proofs.Compilation

/-!
What registering a compiled extension leaves on an object type that declares every field in
question: its node resolver, and one field for each table entry at the end of the fields. The run
does nothing to the world.
-/

namespace FieldDispatch

namespace OrderedMap

variable {α : Type}

theorem get?_eq_some_iff (map : OrderedMap α) (name : String) (value : α) :
    map.get? name = some value ↔ (name, value) ∈ map.entries := by
  obtain ⟨entries, distinct⟩ := map
  change find? name entries = some value ↔ (name, value) ∈ entries
  induction entries with
  | nil => simp [find?]
  | cons entry rest induction =>
      obtain ⟨other, kept⟩ := entry
      rw [List.map_cons, List.nodup_cons] at distinct
      by_cases same : other = name
      · have absent : (name, value) ∉ rest := by
          intro later
          exact distinct.1 (same ▸ List.mem_map.mpr ⟨(name, value), later, rfl⟩)
        simp [find?, same, absent, eq_comm]
      · have different : name ≠ other := fun equal => same equal.symm
        simp [find?, same, different, induction distinct.2]

theorem write_of_absent (name : String) (value : α) {entries : List (String × α)}
    (absent : name ∉ entries.map Prod.fst) :
    write name value entries = entries ++ [(name, value)] := by
  induction entries with
  | nil => rfl
  | cons entry rest induction =>
      rw [List.map_cons, List.mem_cons, not_or] at absent
      have other : entry.1 ≠ name := fun equal => absent.1 equal.symm
      rw [write, if_neg other, induction absent.2, List.cons_append]

/-- Writes entries in their order. -/
def insertAll (map : OrderedMap α) (fresh : List (String × α)) : OrderedMap α :=
  fresh.foldl (fun filled entry => filled.insert entry.1 entry.2) map

theorem entries_insertAll (map : OrderedMap α) {fresh : List (String × α)}
    (distinct : (fresh.map Prod.fst).Nodup)
    (absent : ∀ name ∈ fresh.map Prod.fst, name ∉ map.names) :
    (map.insertAll fresh).entries = map.entries ++ fresh := by
  induction fresh generalizing map with
  | nil => exact (List.append_nil _).symm
  | cons entry rest induction =>
      rw [List.map_cons, List.nodup_cons] at distinct
      have entryAbsent : entry.1 ∉ map.names := absent entry.1 (by simp)
      have written : (map.insert entry.1 entry.2).entries = map.entries ++ [entry] :=
        write_of_absent entry.1 entry.2 entryAbsent
      have restAbsent : ∀ name ∈ rest.map Prod.fst,
          name ∉ (map.insert entry.1 entry.2).names := by
        intro name later present
        rw [names_insert, if_neg entryAbsent, List.mem_append, List.mem_singleton] at present
        rcases present with before | same
        · exact absent name (by simp [later]) before
        · exact distinct.1 (same ▸ later)
      calc
        ((map.insert entry.1 entry.2).insertAll rest).entries =
            (map.insert entry.1 entry.2).entries ++ rest := induction _ distinct.2 restAbsent
        _ = map.entries ++ entry :: rest := by
            rw [written, List.append_assoc, List.singleton_append]

end OrderedMap

namespace Registration

variable {H : Host} {D : Type}

theorem run_bind {α β : Type} (registration : Registration H D α)
    (next : α → Registration H D β) (descriptor : D) :
    (registration >>= next).run descriptor =
      registration.run descriptor >>= fun done =>
        match done.1 with
        | .ok value => (next value).run done.2
        | .error error => pure (.error error, done.2) := by
  simp only [run, ExceptT.run_bind, StateT.run_bind]
  congr 1
  funext done
  obtain ⟨result, reached⟩ := done
  cases result <;> rfl

@[simp]
theorem run_pure {α : Type} (value : α) (descriptor : D) :
    (pure value : Registration H D α).run descriptor = pure (.ok value, descriptor) := rfl

@[simp]
theorem run_get (descriptor : D) :
    (get : Registration H D D).run descriptor = pure (.ok descriptor, descriptor) := rfl

end Registration

namespace RegistrationStep

variable {H : Host}

/-- The object type after a step that it accepts. -/
def onto (type : ObjectType H) : RegistrationStep H → ObjectType H
  | .node dispatcher => { type with node := some dispatcher }
  | .field name _ dispatcher => { type with fields := type.fields.insert name dispatcher }

/-- An object type refuses no node resolver, and no field that it declares. -/
def IsAccepted (type : ObjectType H) : RegistrationStep H → Prop
  | .node _ => True
  | .field name _ _ => type.declares name = true

theorem isAccepted_onto {type : ObjectType H} {step later : RegistrationStep H}
    (accepted : later.IsAccepted type) : later.IsAccepted (onto type step) := by
  cases later with
  | node dispatcher => trivial
  | field name id dispatcher => cases step <;> exact accepted

theorem run_register {type : ObjectType H} {step : RegistrationStep H}
    (accepted : step.IsAccepted type) :
    Registration.run step.register type = pure (.ok (), onto type step) := by
  cases step with
  | node dispatcher => rfl
  | field name id dispatcher =>
      have declared : type.declares name = true := accepted
      have made : ObjectType.registerField name dispatcher type =
          (.ok (), onto type (.field name id dispatcher)) := by
        rw [ObjectType.registerField, if_pos declared, onto]
      exact congrArg pure made

theorem run_registerAll {type : ObjectType H} {steps : List (RegistrationStep H)}
    (accepted : ∀ step ∈ steps, step.IsAccepted type) :
    Registration.run (registerAll steps) type = pure (.ok (), steps.foldl onto type) := by
  induction steps generalizing type with
  | nil => rfl
  | cons step rest induction =>
      have restAccepted : ∀ later ∈ rest, later.IsAccepted (onto type step) := by
        intro later present
        exact isAccepted_onto (accepted later (List.mem_cons_of_mem _ present))
      rw [registerAll, Registration.run_bind, run_register (accepted step List.mem_cons_self),
        pure_bind]
      exact induction restAccepted

end RegistrationStep

namespace CompiledExtension

variable {H : Host}

/-- The fields that the entries of a table become. -/
def fieldsOf (table : DispatchTable H) : List (String × Dispatcher H) :=
  table.entries.map fun entry => (entry.plan.name.memberName, entry.dispatcher)

/-- Steps that register entries as fields, whatever their ids. -/
theorem foldl_onto_mapIdx (entries : List (DispatchTable.Entry H))
    (step : Nat → DispatchTable.Entry H → RegistrationStep H)
    (registers : ∀ id entry type, RegistrationStep.onto type (step id entry) =
      { type with fields := type.fields.insert entry.plan.name.memberName entry.dispatcher })
    (type : ObjectType H) :
    (entries.mapIdx step).foldl RegistrationStep.onto type =
      { type with
        fields := type.fields.insertAll
          (entries.map fun entry => (entry.plan.name.memberName, entry.dispatcher)) } := by
  induction entries generalizing step type with
  | nil => rfl
  | cons entry rest induction =>
      rw [List.mapIdx_cons, List.foldl_cons, registers,
        induction (fun id => step (id + 1)) fun id => registers (id + 1)]
      rfl

theorem foldl_onto_stepsFor (node : Option (NodeResolver H)) (table : DispatchTable H)
    (type : ObjectType H) :
    (stepsFor node table).foldl RegistrationStep.onto type =
      { type with
        node := (node.map NodeResolver.dispatcher).or type.node
        fields := type.fields.insertAll (fieldsOf table) } := by
  unfold stepsFor
  rw [List.foldl_append, foldl_onto_mapIdx _ _ fun _ _ _ => rfl]
  cases node <;> rfl

/-- An object type of the runtime type that accepts every step takes all of them. -/
theorem run_register_of_accepted {compiled : CompiledExtension H (ObjectType H)}
    {type : ObjectType H} (named : type.name = compiled.runtimeType)
    (hookless : compiled.hook = none)
    (accepted : ∀ step ∈ compiled.steps, step.IsAccepted type) :
    Registration.run compiled.register type =
      pure (.ok (), compiled.steps.foldl RegistrationStep.onto type) := by
  have found : TypeRegistry.typeName type = compiled.runtimeType := named
  unfold register
  rw [Registration.run_bind, Registration.run_get, pure_bind]
  simp only [found, if_true, hookless]
  rw [Registration.run_bind, RegistrationStep.run_registerAll accepted, pure_bind]
  rfl

end CompiledExtension

end FieldDispatch
