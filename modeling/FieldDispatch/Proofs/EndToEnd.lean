import FieldDispatch.Proofs.Reference
import FieldDispatch.Proofs.Registration

/-!
From a description to the fields of an object type. Compiling an extension and registering it on a
fresh object type of its runtime type gives one field for each member that is not left out, in their
order, and each field resolves its member as the reference says, through whichever body was bound
under its name.
-/

namespace FieldDispatch

variable {H : Host}

/-- A dispatcher bound from the plan of a member runs the body bound under the member's name. -/
theorem ResolverPlan.resolution_of_bind {extension : Extension} {member : Member}
    {kind : ResolverKind} {type : TypeText} {plan : ResolverPlan} {bodies : Bodies H}
    {handle : Nat} {dispatcher : Dispatcher H}
    (classified : member.classify = .resolver kind type)
    (planned : extension.planResolver member kind type = .ok plan)
    (bound : plan.bind bodies handle = .ok dispatcher) :
    ∃ body, bodies.get? member.name = some body ∧ member.classify.kind? = some body.kind ∧
      ∀ request : Request,
        dispatcher.call request.toContext = extension.resolution member request body := by
  obtain ⟨body, found, made⟩ := bind_eq_ok bound
  obtain ⟨kindEq, resolves⟩ := Dispatcher.resolution_of_ofPlan planned made
  refine ⟨body, ?_, ?_, resolves⟩
  · rw [Extension.planResolver_eq_ok planned] at found
    exact found
  · rw [classified, kindEq]
    rfl

namespace CompiledExtension

variable {policy : Policy} {extension : Extension} {bodies : Bodies H}

theorem IsCompiled.names_fieldsOf {D : Type} {compiled : CompiledExtension H D}
    (made : compiled.IsCompiled policy extension bodies) :
    (fieldsOf compiled.table).map Prod.fst = extension.resolvable.map Member.name := by
  have planned := Extension.resolvers_of_clean_plan made.clean
  rw [← made.tablePlans] at planned
  rw [← planned.memberNames, fieldsOf, List.map_map, List.map_map]
  rfl

theorem IsCompiled.entry_of_resolvable {D : Type} {compiled : CompiledExtension H D}
    (made : compiled.IsCompiled policy extension bodies) {member : Member}
    (resolvable : member ∈ extension.resolvable) :
    ∃ entry ∈ compiled.table.entries, extension.resolverPlan? member = some entry.plan := by
  obtain ⟨plan, present, planned⟩ :=
    (Extension.resolvers_of_clean_plan made.clean).of_mem resolvable
  rw [← made.tablePlans] at present
  obtain ⟨entry, entryPresent, rfl⟩ := List.mem_map.mp present
  exact ⟨entry, entryPresent, planned⟩

/-- The declared node resolver has a plan, and its dispatcher is bound from that plan. -/
theorem IsCompiled.node_of_declared {D : Type} {compiled : CompiledExtension H D}
    (made : compiled.IsCompiled policy extension bodies) :
    compiled.node.isSome = extension.nodeResolver.isSome ∧
      ∀ member, extension.nodeResolver = some member →
        ∃ node, compiled.node = some node ∧ extension.planNode member = .ok node.plan := by
  have planned := Extension.node_of_clean_plan made.clean
  rw [← made.nodePlan] at planned
  constructor
  · simpa using congrArg Option.isSome planned
  · intro member declared
    rw [declared, Option.map_some] at planned
    cases made : compiled.node with
    | none => simp [made] at planned
    | some node =>
        rw [made] at planned
        exact ⟨node, rfl, (Option.some.inj planned).symm⟩

/-- The object type that a compiled extension makes of a fresh one. -/
theorem IsCompiled.run_register_new {compiled : CompiledExtension H (ObjectType H)}
    (made : compiled.IsCompiled policy extension bodies) :
    Registration.run compiled.register (ObjectType.new extension.runtimeType none) =
      pure (.ok (), {
        name := extension.runtimeType
        declared := none
        node := compiled.node.map NodeResolver.dispatcher
        fields := OrderedMap.empty.insertAll (fieldsOf compiled.table) }) := by
  have accepted : ∀ step ∈ compiled.steps,
      step.IsAccepted (ObjectType.new extension.runtimeType none) := by
    intro step _
    cases step with
    | node dispatcher => trivial
    | field name id dispatcher => exact rfl
  rw [run_register_of_accepted made.runtimeType.symm made.hook accepted, made.steps,
    foldl_onto_stepsFor]
  cases compiled.node <;> rfl

/-- What is registered on a fresh object type resolves as the description says. -/
theorem register_resolves {first : Nat} {compiled : CompiledExtension H (ObjectType H)}
    (success : extension.compile policy bodies first = .ok compiled) :
    ∃ type : ObjectType H,
      Registration.run compiled.register (ObjectType.new extension.runtimeType none) =
        pure (.ok (), type) ∧
      type.fieldNames = extension.resolvable.map Member.name ∧
      type.isNode = extension.nodeResolver.isSome ∧
      (∀ member ∈ extension.resolvable,
        ∃ body, bodies.get? member.name = some body ∧ member.classify.kind? = some body.kind ∧
          ∀ request : Request, type.resolve? member.name request.toContext =
            some (extension.resolution member request body)) ∧
      ∀ member, extension.nodeResolver = some member →
        ∃ body, bodies.get? member.name = some body ∧ member.classify.kind? = some body.kind ∧
          ∀ request : Request, type.resolveNode? request.toContext =
            some (extension.resolution member request body) := by
  have made := Extension.compile_eq_ok success
  obtain ⟨distinct, -, -⟩ :=
    Extension.members_of_clean (Extension.clean_of_clean_plan made.clean)
  have namesEq := made.names_fieldsOf
  have fieldsDistinct : ((fieldsOf compiled.table).map Prod.fst).Nodup := by
    rw [namesEq]
    exact (List.filter_sublist.map Member.name).nodup distinct
  have fieldsEq : (OrderedMap.empty.insertAll (fieldsOf compiled.table)).entries =
      fieldsOf compiled.table := by
    rw [OrderedMap.entries_insertAll _ fieldsDistinct (fun _ _ => List.not_mem_nil)]
    exact List.nil_append _
  refine ⟨_, made.run_register_new, ?_, ?_, ?_, ?_⟩
  · rw [← namesEq, ObjectType.fieldNames, OrderedMap.names, fieldsEq]
  · rw [← made.node_of_declared.1, ObjectType.isNode, Option.isSome_map]
  · intro member resolvable
    obtain ⟨entry, present, planned⟩ := made.entry_of_resolvable resolvable
    obtain ⟨kind, type, classified, planMade⟩ := Extension.resolverPlan?_eq_some planned
    obtain ⟨handle, bound⟩ := made.tableBound entry present
    obtain ⟨body, found, kindEq, resolves⟩ :=
      ResolverPlan.resolution_of_bind classified planMade bound
    refine ⟨body, found, kindEq, ?_⟩
    intro request
    have registered : (OrderedMap.empty.insertAll (fieldsOf compiled.table)).get? member.name =
        some entry.dispatcher := by
      rw [OrderedMap.get?_eq_some_iff, fieldsEq,
        ← Extension.memberName_of_resolverPlan? planned]
      exact List.mem_map.mpr ⟨entry, present, rfl⟩
    rw [ObjectType.resolve?, ObjectType.field?, registered, Option.map_some, resolves request]
  · intro member declared
    obtain ⟨node, nodeMade, nodePlanned⟩ := made.node_of_declared.2 member declared
    obtain ⟨kind, type, classified, -, -, planMade⟩ := Extension.planNode_eq_ok nodePlanned
    obtain ⟨handle, bound⟩ := made.nodeBound node nodeMade
    obtain ⟨body, found, kindEq, resolves⟩ :=
      ResolverPlan.resolution_of_bind classified planMade bound
    refine ⟨body, found, kindEq, ?_⟩
    intro request
    rw [ObjectType.resolveNode?, nodeMade, Option.map_some, Option.map_some, resolves request]

theorem register_resolves_sample :
    ∃ (compiled : CompiledExtension Sample.host (ObjectType Sample.host))
      (type : ObjectType Sample.host),
      Sample.query.compile .skip Sample.queryBodies 0 = .ok compiled ∧
        Registration.run compiled.register (ObjectType.new "Query" none) = pure (.ok (), type) ∧
        type.fieldNames = ["Version", "Later"] ∧ type.isNode = true ∧
        (∃ body, Sample.queryBodies.get? "Version" = some body ∧ ∀ request : Request,
          type.resolve? "Version" request.toContext =
            some (Sample.query.resolution Sample.version request body)) ∧
        ∃ body, Sample.queryBodies.get? "ById" = some body ∧ ∀ request : Request,
          type.resolveNode? request.toContext =
            some (Sample.query.resolution Sample.byId request body) := by
  have compiles : (Sample.query.compile .skip Sample.queryBodies 0 :
      Except CompileError (CompiledExtension Sample.host (ObjectType Sample.host))).toOption.isSome =
        true := by
    decide +kernel
  obtain ⟨compiled, found⟩ := Option.isSome_iff_exists.mp compiles
  have success := (toOption_eq_some_iff _ _).mp found
  obtain ⟨type, run, names, node, members, nodes⟩ := register_resolves success
  have resolvable : Sample.version ∈ Sample.query.resolvable := List.mem_cons_self
  obtain ⟨versionBody, versionBound, -, resolves⟩ := members Sample.version resolvable
  obtain ⟨nodeBody, nodeBound, -, resolvesNode⟩ := nodes Sample.byId rfl
  exact ⟨compiled, type, success, run, names, node, ⟨versionBody, versionBound, resolves⟩,
    nodeBody, nodeBound, resolvesNode⟩

end CompiledExtension

end FieldDispatch
