import FieldDispatch.Proofs.Compilation

/-!
How a compilation ends, failures included. An extension is refused for what planning found, or for
the first planned resolver without a body of its kind; the table never refuses a resolver, since no
plan has a key twice. A schema is refused for its first unit that is refused by itself or that has a
key of an earlier unit. Nothing else plays a part, so these are all the ways to fail.
-/

namespace FieldDispatch

/-- The error of a result that has no value. -/
def failure? {Error α : Type} : Except Error α → Option Error
  | .ok _ => none
  | .error error => some error

theorem failure?_eq_some_iff {Error α : Type} (result : Except Error α) (error : Error) :
    failure? result = some error ↔ result = .error error := by
  cases result <;> simp [failure?]

theorem failure?_eq_none_iff {Error α : Type} (result : Except Error α) :
    failure? result = none ↔ ∃ value, result = .ok value := by
  cases result <;> simp [failure?]

/-- The resolvers that need a body, the node resolver before the others. -/
def ExtensionPlan.planned (plan : ExtensionPlan) : List ResolverPlan :=
  plan.nodeResolver.toList ++ plan.resolvers

variable {H : Host} {D : Type}

namespace ResolverPlan

/-- Why a plan has no dispatcher: nothing is bound under its member's name, or a body of another
kind is. -/
def bindingError? (bodies : Bodies H) (plan : ResolverPlan) : Option CompileError :=
  match bodies.get? plan.name.memberName with
  | none => some (.missingBody plan.name.typeName plan.name.memberName)
  | some body =>
      if body.kind = plan.kind then none
      else some (.bodyMismatch plan.name plan.kind body.kind)

theorem failure?_bind (plan : ResolverPlan) (bodies : Bodies H) (handle : Nat) :
    failure? (plan.bind bodies handle) = plan.bindingError? bodies := by
  unfold bind bindingError?
  cases bodies.get? plan.name.memberName with
  | none => rfl
  | some body =>
      unfold Dispatcher.ofPlan
      cases plan.kind <;> cases body <;> rfl

theorem failure?_bindNode (bodies : Bodies H) (handle : Nat) (planned : Option ResolverPlan) :
    failure? (bindNode bodies handle planned) =
      planned.toList.findSome? (bindingError? bodies) := by
  cases planned with
  | none => rfl
  | some plan =>
      rw [Option.toList_some, List.findSome?_singleton, ← failure?_bind plan bodies handle,
        bindNode]
      cases plan.bind bodies handle <;> rfl

/-- The table refuses none of the plans, so the first that cannot be bound decides. -/
theorem failure?_bindAll {plans : List ResolverPlan} (bodies : Bodies H) (handle : Nat)
    {table : DispatchTable H} (distinct : (plans.map key).Nodup)
    (fresh : ∀ plan ∈ plans, plan.key ∉ table.keys) :
    failure? (bindAll bodies handle table plans) = plans.findSome? (bindingError? bodies) := by
  induction plans generalizing handle table with
  | nil => rfl
  | cons plan rest induction =>
      rw [List.map_cons, List.nodup_cons] at distinct
      rw [List.findSome?_cons, ← failure?_bind plan bodies handle, bindAll]
      cases plan.bind bodies handle with
      | error error => rfl
      | ok dispatcher =>
          have absent : DispatchTable.Entry.key ⟨plan, dispatcher⟩ ∉ table.keys :=
            fresh plan List.mem_cons_self
          obtain ⟨extended, inserted, keysEq⟩ := table.insert_of_not_mem absent
          have restFresh : ∀ later ∈ rest, later.key ∉ extended.keys := by
            intro later present taken
            rw [keysEq, List.mem_append, List.mem_singleton] at taken
            rcases taken with before | same
            · exact fresh later (List.mem_cons_of_mem _ present) before
            · exact distinct.1 (List.mem_map.mpr ⟨later, present, same⟩)
          change failure? (((table.insert ⟨plan, dispatcher⟩).mapError CompileError.registration) >>=
            fun added => bindAll bodies (handle + 1) added.2 rest) =
              rest.findSome? (bindingError? bodies)
          rw [inserted]
          exact induction (handle + 1) distinct.2 restFresh

theorem bind_congr {bodies others : Bodies H} {plan : ResolverPlan}
    (agree : bodies.get? plan.name.memberName = others.get? plan.name.memberName)
    (handle : Nat) : plan.bind bodies handle = plan.bind others handle := by
  rw [bind, bind, agree]

theorem bindNode_congr {bodies others : Bodies H} {planned : Option ResolverPlan}
    (agree : ∀ plan ∈ planned.toList,
      bodies.get? plan.name.memberName = others.get? plan.name.memberName)
    (handle : Nat) : bindNode bodies handle planned = bindNode others handle planned := by
  cases planned with
  | none => rfl
  | some plan => rw [bindNode, bindNode, bind_congr (agree plan (by simp))]

theorem bindAll_congr {bodies others : Bodies H} {plans : List ResolverPlan}
    (agree : ∀ plan ∈ plans,
      bodies.get? plan.name.memberName = others.get? plan.name.memberName)
    (handle : Nat) (table : DispatchTable H) :
    bindAll bodies handle table plans = bindAll others handle table plans := by
  induction plans generalizing handle table with
  | nil => rfl
  | cons plan rest induction =>
      have restAgree := fun later present => agree later (List.mem_cons_of_mem plan present)
      simp only [bindAll, bind_congr (agree plan List.mem_cons_self), induction restAgree]

end ResolverPlan

namespace Extension

/-- The error with which compiling an extension ends, if it ends with one. -/
def compileError? (policy : Policy) (extension : Extension) (bodies : Bodies H) :
    Option CompileError :=
  if Diagnostic.hasErrors (extension.plan policy).2 then
    some (.invalid extension.runtimeType (extension.plan policy).2)
  else (extension.plan policy).1.planned.findSome? (ResolverPlan.bindingError? bodies)

theorem failure?_compile (policy : Policy) (extension : Extension) (bodies : Bodies H)
    (first : Nat) :
    failure? (extension.compile policy bodies first : Except _ (CompiledExtension H D)) =
      extension.compileError? policy bodies := by
  unfold compile compileError?
  by_cases errors : Diagnostic.hasErrors (extension.plan policy).2 = true
  · simp only [errors, if_true]
    rfl
  · simp only [errors]
    have fresh : ∀ plan ∈ (extension.plan policy).1.resolvers,
        plan.key ∉ (DispatchTable.empty : DispatchTable H).keys := fun _ _ => List.not_mem_nil
    rw [ExtensionPlan.planned, List.findSome?_append,
      ← ResolverPlan.failure?_bindNode bodies first,
      ← ResolverPlan.failure?_bindAll bodies (first + 1) (nodup_keys policy extension) fresh]
    cases ResolverPlan.bindNode bodies first (extension.plan policy).1.nodeResolver with
    | error error => rfl
    | ok node =>
        cases ResolverPlan.bindAll bodies (first + 1) .empty (extension.plan policy).1.resolvers
          <;> rfl

theorem compile_eq_error_iff (policy : Policy) (extension : Extension) (bodies : Bodies H)
    (first : Nat) (error : CompileError) :
    extension.compile policy bodies first = (.error error : Except _ (CompiledExtension H D)) ↔
      extension.compileError? policy bodies = some error := by
  rw [← failure?_eq_some_iff, failure?_compile]

theorem compile_eq_ok_iff (policy : Policy) (extension : Extension) (bodies : Bodies H)
    (first : Nat) :
    (∃ compiled : CompiledExtension H D, extension.compile policy bodies first = .ok compiled) ↔
      extension.compileError? policy bodies = none := by
  rw [← failure?_eq_none_iff, failure?_compile]

theorem compileError?_eq_none_iff (policy : Policy) (extension : Extension) (bodies : Bodies H) :
    extension.compileError? policy bodies = none ↔
      Diagnostic.hasErrors (extension.plan policy).2 = false ∧
        ∀ plan ∈ (extension.plan policy).1.planned, plan.bindingError? bodies = none := by
  rw [compileError?, ← List.findSome?_eq_none_iff]
  cases Diagnostic.hasErrors (extension.plan policy).2 <;> simp

/-- No resolver is refused by the table of its own extension. -/
theorem compileError?_ne_registration (policy : Policy) (extension : Extension)
    (bodies : Bodies H) (error : RegistrationError) :
    extension.compileError? policy bodies ≠ some (.registration error) := by
  unfold compileError?
  split
  · simp
  · intro found
    obtain ⟨plan, -, refused⟩ := List.exists_of_findSome?_eq_some found
    unfold ResolverPlan.bindingError? at refused
    split at refused
    · cases refused
    · split at refused <;> cases refused

/-- Only the bodies under planned names matter. -/
theorem compile_congr {policy : Policy} {extension : Extension} {bodies others : Bodies H}
    (agree : ∀ plan ∈ (extension.plan policy).1.planned,
      bodies.get? plan.name.memberName = others.get? plan.name.memberName) (first : Nat) :
    (extension.compile policy bodies first : Except _ (CompiledExtension H D)) =
      extension.compile policy others first := by
  have nodes := ResolverPlan.bindNode_congr
    (fun plan present => agree plan (List.mem_append_left _ present)) first
  have members := ResolverPlan.bindAll_congr
    (fun plan present => agree plan (List.mem_append_right _ present)) (first + 1) .empty
  simp only [compile, nodes, members]

end Extension

theorem CompiledExtension.IsCompiled.keys_table {policy : Policy} {extension : Extension}
    {bodies : Bodies H} {compiled : CompiledExtension H D}
    (made : compiled.IsCompiled policy extension bodies) :
    compiled.table.keys = extension.keys policy := by
  rw [Extension.keys, ← made.tablePlans, List.map_map]
  rfl

namespace CompiledSchema

/-- The keys of the resolvers of units, one unit after the other. -/
def keysOf (policy : Policy) (units : List (Extension × Bodies H)) : List (String × String) :=
  units.flatMap fun unit => unit.1.keys policy

theorem keysOf_nil (policy : Policy) : keysOf policy ([] : List (Extension × Bodies H)) = [] := rfl

theorem keysOf_cons (policy : Policy) (unit : Extension × Bodies H)
    (rest : List (Extension × Bodies H)) :
    keysOf policy (unit :: rest) = unit.1.keys policy ++ keysOf policy rest :=
  List.flatMap_cons

/-- Why a unit is refused after units with the keys in `taken`: its own error comes before a key
that is taken. -/
def unitError? (policy : Policy) (taken : List (String × String)) (unit : Extension × Bodies H) :
    Option CompileError :=
  (unit.1.compileError? policy unit.2).or
    ((DispatchTable.firstTaken? taken (unit.1.keys policy)).map fun key =>
      .registration (.duplicateResolver key.1 key.2))

/-- Why units are refused after units with the keys in `taken`. -/
def unitsError? (policy : Policy) (taken : List (String × String)) :
    List (Extension × Bodies H) → Option CompileError
  | [] => none
  | unit :: rest =>
      (unitError? policy taken unit).or (unitsError? policy (taken ++ unit.1.keys policy) rest)

theorem failure?_add (schema : CompiledSchema H D) (compiled : CompiledExtension H D) :
    failure? (schema.add compiled) =
      (DispatchTable.firstTaken? schema.table.keys compiled.table.keys).map fun key =>
        .registration (.duplicateResolver key.1 key.2) := by
  have refused := schema.table.insertAll_eq_error_iff compiled.table.distinct
  unfold add DispatchTable.append
  cases appended : schema.table.insertAll compiled.table.entries with
  | mk outcome table =>
      rw [appended] at refused
      cases outcome with
      | error error =>
          obtain ⟨key, found, rfl⟩ := (refused error).mp rfl
          have first : DispatchTable.firstTaken? schema.table.keys compiled.table.keys = some key :=
            found
          rw [first]
          rfl
      | ok ids =>
          have none : DispatchTable.firstTaken? schema.table.keys compiled.table.keys = none := by
            apply Option.eq_none_iff_forall_ne_some.mpr
            intro key found
            cases (refused _).mpr ⟨key, found, rfl⟩
          rw [none]
          rfl

theorem failure?_extend (policy : Policy) (handle : Nat) (schema : CompiledSchema H D)
    (units : List (Extension × Bodies H)) :
    failure? (schema.extend policy handle units) =
      unitsError? policy schema.table.keys units := by
  induction units generalizing handle schema with
  | nil => rfl
  | cons unit rest induction =>
      obtain ⟨extension, bodies⟩ := unit
      rw [unitsError?, unitError?, extend,
        ← Extension.failure?_compile (D := D) policy extension bodies handle]
      cases made : (extension.compile policy bodies handle :
          Except _ (CompiledExtension H D)) with
      | error error => rfl
      | ok compiled =>
          have keys := (Extension.compile_eq_ok made).keys_table
          rw [← keys, ← failure?_add]
          change failure? (schema.add compiled >>= fun extended =>
            extended.extend policy (handle + compiled.table.size + 1) rest) = _
          cases added : schema.add compiled with
          | error error => rfl
          | ok extended =>
              have grown : extended.table.keys = schema.table.keys ++ compiled.table.keys := by
                rw [DispatchTable.keys, (add_eq_ok added).2, List.map_append]
                rfl
              rw [← grown]
              exact induction _ extended

theorem failure?_compile (policy : Policy) (units : List (Extension × Bodies H)) (first : Nat) :
    failure? (compile policy units first : Except _ (CompiledSchema H D)) =
      unitsError? policy [] units :=
  failure?_extend policy first empty units

theorem unitError?_eq_none_iff (policy : Policy) (taken : List (String × String))
    (unit : Extension × Bodies H) :
    unitError? policy taken unit = none ↔
      unit.1.compileError? policy unit.2 = none ∧ ∀ key ∈ unit.1.keys policy, key ∉ taken := by
  rw [unitError?, Option.or_eq_none_iff, Option.map_eq_none_iff,
    DispatchTable.firstTaken?_eq_none_iff]

theorem unitsError?_eq_none_iff {policy : Policy} {taken : List (String × String)}
    (distinct : taken.Nodup) (units : List (Extension × Bodies H)) :
    unitsError? policy taken units = none ↔
      (∀ unit ∈ units, unit.1.compileError? policy unit.2 = none) ∧
        (taken ++ keysOf policy units).Nodup := by
  induction units generalizing taken with
  | nil => simpa [unitsError?, keysOf] using distinct
  | cons unit rest induction =>
      rw [unitsError?, Option.or_eq_none_iff, unitError?_eq_none_iff, keysOf_cons,
        ← List.append_assoc, List.forall_mem_cons]
      constructor
      · rintro ⟨⟨compiles, fresh⟩, later⟩
        have grown : (taken ++ unit.1.keys policy).Nodup := by
          refine List.nodup_append.mpr ⟨distinct, unit.1.nodup_keys policy, ?_⟩
          rintro key before _ own rfl
          exact fresh key own before
        obtain ⟨restCompiles, all⟩ := (induction grown).mp later
        exact ⟨⟨compiles, restCompiles⟩, all⟩
      · rintro ⟨⟨compiles, restCompiles⟩, all⟩
        have grown : (taken ++ unit.1.keys policy).Nodup := (List.nodup_append.mp all).1
        refine ⟨⟨compiles, ?_⟩, (induction grown).mpr ⟨restCompiles, all⟩⟩
        intro key own before
        exact (List.nodup_append.mp grown).2.2 key before key own rfl

theorem exists_split_cons_iff {α : Type} {fits : List α → α → Prop} {head : α} {rest : List α} :
    (∃ earlier found later, head :: rest = earlier ++ found :: later ∧ fits earlier found) ↔
      fits [] head ∨
        ∃ earlier found later, rest = earlier ++ found :: later ∧ fits (head :: earlier) found := by
  constructor
  · rintro ⟨earlier, found, later, split, holds⟩
    cases earlier with
    | nil =>
        cases split
        exact Or.inl holds
    | cons first earlier =>
        cases split
        exact Or.inr ⟨earlier, found, later, rfl, holds⟩
  · rintro (holds | ⟨earlier, found, later, rfl, holds⟩)
    · exact ⟨[], head, rest, rfl, holds⟩
    · exact ⟨head :: earlier, found, later, rfl, holds⟩

theorem unitsError?_eq_some_iff (policy : Policy) (taken : List (String × String))
    (units : List (Extension × Bodies H)) (error : CompileError) :
    unitsError? policy taken units = some error ↔
      ∃ earlier unit later, units = earlier ++ unit :: later ∧
        unitsError? policy taken earlier = none ∧
        unitError? policy (taken ++ keysOf policy earlier) unit = some error := by
  induction units generalizing taken with
  | nil => simp [unitsError?]
  | cons unit rest induction =>
      rw [unitsError?, Option.or_eq_some_iff, induction, exists_split_cons_iff]
      simp only [unitsError?, keysOf_nil, keysOf_cons, List.append_nil, ← List.append_assoc,
        Option.or_eq_none_iff, true_and]
      constructor
      · rintro (own | ⟨fine, earlier, other, later, split, restFine, refused⟩)
        · exact Or.inl own
        · exact Or.inr ⟨earlier, other, later, split, ⟨fine, restFine⟩, refused⟩
      · rintro (own | ⟨earlier, other, later, split, ⟨fine, restFine⟩, refused⟩)
        · exact Or.inl own
        · exact Or.inr ⟨fine, earlier, other, later, split, restFine, refused⟩

/-- Units that go together: each compiles, and no key belongs to two resolvers of theirs. Which
handle a unit is given plays no part. -/
structure GoTogether (D : Type) (policy : Policy) (units : List (Extension × Bodies H)) : Prop where
  compile : ∀ unit ∈ units, ∀ handle, ∃ compiled : CompiledExtension H D,
    unit.1.compile policy unit.2 handle = .ok compiled
  distinct : (keysOf policy units).Nodup

theorem unitsError?_eq_none_iff_goTogether (policy : Policy) (units : List (Extension × Bodies H)) :
    unitsError? policy [] units = none ↔ GoTogether D policy units := by
  rw [unitsError?_eq_none_iff List.nodup_nil, List.nil_append]
  constructor
  · rintro ⟨fine, distinct⟩
    refine ⟨?_, distinct⟩
    intro unit present handle
    exact (Extension.compile_eq_ok_iff policy unit.1 unit.2 handle).mpr (fine unit present)
  · rintro ⟨compile, distinct⟩
    refine ⟨?_, distinct⟩
    intro unit present
    exact (Extension.compile_eq_ok_iff policy unit.1 unit.2 0).mp (compile unit present 0)

theorem compile_eq_ok_iff (policy : Policy) (units : List (Extension × Bodies H)) (first : Nat) :
    (∃ schema : CompiledSchema H D, compile policy units first = .ok schema) ↔
      GoTogether D policy units := by
  rw [← failure?_eq_none_iff, failure?_compile, unitsError?_eq_none_iff_goTogether]

theorem compile_eq_error_iff (policy : Policy) (units : List (Extension × Bodies H)) (first : Nat)
    (error : CompileError) :
    compile policy units first = (.error error : Except _ (CompiledSchema H D)) ↔
      ∃ earlier unit later, units = earlier ++ unit :: later ∧ GoTogether D policy earlier ∧
        unitError? policy (keysOf policy earlier) unit = some error := by
  rw [← failure?_eq_some_iff, failure?_compile, unitsError?_eq_some_iff]
  simp only [unitsError?_eq_none_iff_goTogether (D := D), List.nil_append]

theorem unitError?_eq_some_iff (policy : Policy) (taken : List (String × String))
    (unit : Extension × Bodies H) (first : Nat) (error : CompileError) :
    unitError? policy taken unit = some error ↔
      unit.1.compile policy unit.2 first = (.error error : Except _ (CompiledExtension H D)) ∨
        (∃ compiled : CompiledExtension H D,
          unit.1.compile policy unit.2 first = .ok compiled) ∧
          ∃ key, DispatchTable.firstTaken? taken (unit.1.keys policy) = some key ∧
            error = .registration (.duplicateResolver key.1 key.2) := by
  rw [Extension.compile_eq_error_iff, Extension.compile_eq_ok_iff, unitError?,
    Option.or_eq_some_iff, Option.map_eq_some_iff]
  simp only [eq_comm]

end CompiledSchema

/-- How compilations end. An extension is refused for its diagnostics or else for its first planned
resolver without a body of its kind, never by a table, and bodies under other names do not matter.
A schema is refused for its first unit that is refused itself or that has a key of a unit before
it. -/
theorem compilation_outcome (H : Host) (D : Type) (policy : Policy) (first : Nat) :
    (∀ (extension : Extension) (bodies : Bodies H),
      (∀ error,
        extension.compile policy bodies first =
            (.error error : Except _ (CompiledExtension H D)) ↔
          if Diagnostic.hasErrors (extension.plan policy).2 then
            error = .invalid extension.runtimeType (extension.plan policy).2
          else
            (extension.plan policy).1.planned.findSome? (ResolverPlan.bindingError? bodies) =
              some error) ∧
      ((∃ compiled : CompiledExtension H D,
          extension.compile policy bodies first = .ok compiled) ↔
        Diagnostic.hasErrors (extension.plan policy).2 = false ∧
          ∀ plan ∈ (extension.plan policy).1.planned, plan.bindingError? bodies = none) ∧
      (∀ error, extension.compile policy bodies first ≠
        (.error (.registration error) : Except _ (CompiledExtension H D))) ∧
      ∀ others : Bodies H,
        (∀ plan ∈ (extension.plan policy).1.planned,
          bodies.get? plan.name.memberName = others.get? plan.name.memberName) →
        (extension.compile policy bodies first : Except _ (CompiledExtension H D)) =
          extension.compile policy others first) ∧
    ∀ units : List (Extension × Bodies H),
      ((∃ schema : CompiledSchema H D, CompiledSchema.compile policy units first = .ok schema) ↔
        CompiledSchema.GoTogether D policy units) ∧
      ∀ error,
        CompiledSchema.compile policy units first =
            (.error error : Except _ (CompiledSchema H D)) ↔
          ∃ earlier unit later, units = earlier ++ unit :: later ∧
            CompiledSchema.GoTogether D policy earlier ∧
            (unit.1.compile policy unit.2 first =
                (.error error : Except _ (CompiledExtension H D)) ∨
              (∃ compiled : CompiledExtension H D,
                unit.1.compile policy unit.2 first = .ok compiled) ∧
                ∃ key,
                  DispatchTable.firstTaken? (CompiledSchema.keysOf policy earlier)
                    (unit.1.keys policy) = some key ∧
                  error = .registration (.duplicateResolver key.1 key.2)) := by
  constructor
  · intro extension bodies
    refine ⟨?_, ?_, ?_, fun others agree => Extension.compile_congr agree first⟩
    · intro error
      rw [Extension.compile_eq_error_iff, Extension.compileError?]
      split
      · rw [Option.some_inj, eq_comm]
      · rfl
    · rw [Extension.compile_eq_ok_iff, Extension.compileError?_eq_none_iff]
    · intro error
      rw [ne_eq, Extension.compile_eq_error_iff]
      exact extension.compileError?_ne_registration policy bodies error
  · intro units
    refine ⟨CompiledSchema.compile_eq_ok_iff policy units first, ?_⟩
    intro error
    simp only [CompiledSchema.compile_eq_error_iff,
      CompiledSchema.unitError?_eq_some_iff (D := D) _ _ _ first]

/-- A body under another name changes nothing, and a type cannot be extended twice by one list of
members. -/
theorem compilation_outcome_sample :
    ((Sample.query.compile .skip Sample.queryBodies 0 :
        Except _ (CompiledExtension Sample.host (ObjectType Sample.host))) =
      Sample.query.compile .skip
        (Sample.queryBodies.insert "Unused" (.staticProperty (pure .null))) 0) ∧
    (CompiledSchema.compile .skip
        [(Sample.query, Sample.queryBodies), (Sample.query, Sample.queryBodies)] 0 :
        Except _ (CompiledSchema Sample.host (ObjectType Sample.host))) =
      .error (.registration (.duplicateResolver "Query" "Version")) := by
  obtain ⟨single, several⟩ :=
    compilation_outcome Sample.host (ObjectType Sample.host) .skip 0
  have unused : ∀ plan ∈ (Sample.query.plan .skip).1.planned,
      plan.name.memberName ≠ "Unused" := by
    decide +kernel
  have compiles : ∃ compiled : CompiledExtension Sample.host (ObjectType Sample.host),
      Sample.query.compile .skip Sample.queryBodies 0 = .ok compiled := by
    apply (failure?_eq_none_iff _).mp
    decide +kernel
  constructor
  · apply (single Sample.query Sample.queryBodies).2.2.2
    intro plan planned
    rw [OrderedMap.get?_insert_of_ne _ _ (unused plan planned)]
  · apply ((several _).2 _).mpr
    refine ⟨[(Sample.query, Sample.queryBodies)], (Sample.query, Sample.queryBodies), [], rfl, ?_,
      Or.inr ⟨compiles, ("Query", "Version"), by decide +kernel, rfl⟩⟩
    apply (several _).1.mp
    apply (failure?_eq_none_iff _).mp
    decide +kernel

end FieldDispatch
