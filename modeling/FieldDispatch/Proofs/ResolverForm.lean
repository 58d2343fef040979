import FieldDispatch.Proofs.MemberPartition
import FieldDispatch.Proofs.Reference

/-!
The form of a resolver. Dispatch sizes and indexes arguments by what a resolver says of itself and
checks none of it again. What it says is so from planning on, also where a description has errors:
the slots are the parameters of the member, the number of arguments is that of the slots, and the
receiver is the one that the member is to be invoked on. Manifests and dispatch tables hold the
resolvers as they were planned.
-/

namespace FieldDispatch

namespace ArgumentPlan

/-- The slots are the parameters, one for one and in their order; no name stands twice among them
and every type is in order. -/
structure Mirrors (plan : ArgumentPlan) (parameters : List Parameter) : Prop where
  length : plan.length = parameters.length
  slot : ∀ place parameter, parameters[place]? = some parameter →
    plan.get? place =
      some ⟨UInt64.ofNat place, parameter.name, parameter.type, parameter.source⟩
  distinct : (plan.slots.map Slot.name).Nodup
  wellFormed : ∀ slot ∈ plan.slots, slot.type.isWellFormed = true

/-- What slots keep of their parameters does not depend on where these stand. -/
theorem map_slotsFrom {α : Type} {ofSlot : Slot → α} {ofParameter : Parameter → α}
    (kept : ∀ place parameter, ofSlot (Slot.ofParameter place parameter) = ofParameter parameter)
    (first : Nat) (parameters : List Parameter) :
    (slotsFrom first parameters).map ofSlot = parameters.map ofParameter := by
  induction parameters generalizing first with
  | nil => rfl
  | cons parameter rest induction =>
      rw [slotsFrom, List.map_cons, List.map_cons, kept, induction]

theorem mirrors_ofParameters {member : Member} (sound : member.HasSoundParameters) :
    (ofParameters member.parameters).Mirrors member.parameters where
  length := length_ofParameters member.parameters
  slot := by
    intro place parameter found
    rw [get?, ofParameters, slotsFrom_eq_mapIdx, List.getElem?_mapIdx, found, Option.map_some,
      Nat.zero_add]
    rfl
  distinct := by
    have names : (ofParameters member.parameters).slots.map Slot.name =
        member.parameters.map Parameter.name :=
      map_slotsFrom (fun _ _ => rfl) 0 member.parameters
    rw [names]
    exact sound.distinct
  wellFormed := by
    have types : (ofParameters member.parameters).slots.map Slot.type =
        member.parameters.map Parameter.type :=
      map_slotsFrom (fun _ _ => rfl) 0 member.parameters
    intro slot present
    have type : slot.type ∈ member.parameters.map Parameter.type := by
      rw [← types]
      exact List.mem_map_of_mem present
    obtain ⟨parameter, parameterPresent, same⟩ := List.mem_map.mp type
    rw [← same]
    exact sound.wellFormed parameter parameterPresent

end ArgumentPlan

/-- A resolver that says of itself what the description says of its member. -/
structure ResolverPlan.IsSoundFor (plan : ResolverPlan) (extension : Extension) (member : Member) :
    Prop where
  typeName : plan.name.typeName = extension.runtimeType
  memberName : plan.name.memberName = member.name
  count : plan.name.argumentsCount = UInt64.ofNat plan.arguments.length
  arguments : plan.arguments.Mirrors member.parameters
  property : plan.kind = .property → plan.arguments.slots = []
  receiver : plan.receiver =
    if member.isStatic then .static extension.extensionType else .parent extension.runtimeType

theorem Member.parameters_of_property {member : Member} {type : TypeText}
    (classified : member.classify = .resolver .property type) : member.parameters = [] := by
  obtain ⟨name, isStatic, shape, location⟩ := member
  cases shape with
  | property declared => rfl
  | method returns parameters =>
      unfold classify at classified
      cases returns with
      | future result => cases result <;> cases classified
      | _ => cases classified

namespace Extension

/-- Resolvers of an extension and its node resolver: each is sound for a member that is declared
for it, and a node resolver is invoked with an argument at least. -/
structure AreSound (extension : Extension) (node : Option ResolverPlan)
    (resolvers : List ResolverPlan) : Prop where
  resolvers : ∀ plan ∈ resolvers,
    ∃ member ∈ extension.firstDeclarations, plan.IsSoundFor extension member
  node : ∀ plan ∈ node,
    ∃ member, extension.nodeResolver = some member ∧ plan.IsSoundFor extension member ∧
      (plan.kind = .sync ∨ plan.kind = .async) ∧ 0 < plan.arguments.length

theorem isSoundFor_of_resolverPlan? {extension : Extension} {member : Member}
    {plan : ResolverPlan} (planned : extension.resolverPlan? member = some plan) :
    plan.IsSoundFor extension member := by
  have planOf := isPlanOf_of_resolverPlan? planned
  have decided := extension.isSome_resolverPlan? member
  rw [planned, Option.isSome_some, eq_comm, decide_eq_true_iff] at decided
  obtain ⟨-, sound⟩ := decided
  have size : plan.arguments.length = member.parameters.length := by
    rw [planOf.arguments, ArgumentPlan.length_ofParameters]
  refine ⟨?_, ?_, ?_, ?_, ?_, planOf.receiver⟩
  · rw [planOf.name]
  · rw [planOf.name]
  · rw [planOf.name, size]
  · rw [planOf.arguments]
    exact ArgumentPlan.mirrors_ofParameters sound
  · intro property
    have classified := planOf.classified
    rw [property] at classified
    rw [planOf.arguments, Member.parameters_of_property classified]
    rfl

theorem areSound_plan (policy : Policy) (extension : Extension) :
    extension.AreSound (extension.plan policy).1.nodeResolver
      (extension.plan policy).1.resolvers where
  resolvers := by
    intro plan present
    rw [resolvers_plan] at present
    obtain ⟨member, declared, planned⟩ := List.mem_filterMap.mp present
    exact ⟨member, declared, isSoundFor_of_resolverPlan? planned⟩
  node := by
    intro plan present
    rw [fst_plan] at present
    obtain ⟨attempt, made, success⟩ := Option.bind_eq_some_iff.mp present
    obtain ⟨member, declared, rfl⟩ := Option.map_eq_some_iff.mp made
    have nodePlan := (toOption_eq_some_iff _ _).mp success
    have planned := resolverPlan?_of_planNode nodePlan
    have sound := isSoundFor_of_resolverPlan? planned
    obtain ⟨kind, type, classified, notProperty, nonempty, -⟩ := planNode_eq_ok nodePlan
    have kindEq := kind_of_resolverPlan? planned
    rw [classified] at kindEq
    cases kindEq
    refine ⟨member, declared, sound, ?_, ?_⟩
    · cases kinds : plan.kind with
      | sync => exact Or.inl rfl
      | async => exact Or.inr rfl
      | property => exact absurd kinds notProperty
    · rw [sound.arguments.length]
      exact List.length_pos_of_ne_nil nonempty

end Extension

namespace Manifest

/-- A resolver of a manifest without its number. -/
def Resolver.plan (resolver : Resolver) : ResolverPlan :=
  ⟨resolver.name, resolver.kind, resolver.receiver, resolver.arguments, resolver.type⟩

/-- The resolvers of a manifest entry are as good as those of a plan. -/
def Entry.IsSoundFor (entry : Entry) (extension : Extension) : Prop :=
  extension.AreSound (entry.nodeResolver.map Resolver.plan) (entry.resolvers.map Resolver.plan)

theorem isSoundFor_describe {extension : Extension} {plan : ExtensionPlan}
    (sound : extension.AreSound plan.nodeResolver plan.resolvers) (first : UInt32) :
    (plan.describe first).IsSoundFor extension := by
  have resolvers : (plan.describe first).resolvers.map Resolver.plan = plan.resolvers := by
    have numbered : (plan.describe first).resolvers =
        plan.resolvers.mapIdx fun offset resolver =>
          resolver.describe (some (first + UInt32.ofNat offset)) :=
      ExtensionPlan.describeResolvers_eq_mapIdx first plan.resolvers
    rw [numbered, map_of_mapIdx]
    exact List.ext_getElem (by simp) (by simp [ResolverPlan.describe, Resolver.plan])
  have node : (plan.describe first).nodeResolver.map Resolver.plan = plan.nodeResolver := by
    cases declared : plan.nodeResolver <;> simp [ExtensionPlan.describe, declared,
      ResolverPlan.describe, Resolver.plan]
  rw [Entry.IsSoundFor, resolvers, node]
  exact sound

end Manifest

namespace Extension

variable {H : Host} {D : Type}

/-- Every resolver that is planned is sound, and so is every resolver of a planned manifest and
every one that is compiled. -/
theorem resolvers_sound (policy : Policy) (extension : Extension) (extensions : List Extension)
    (bodies : Bodies H) (first : Nat) (compiled : CompiledExtension H D) :
    extension.AreSound (extension.plan policy).1.nodeResolver
      (extension.plan policy).1.resolvers ∧
    List.Forall₂ (fun entry extension => entry.IsSoundFor extension)
      (Manifest.ofExtensions policy extensions).1.extensions extensions ∧
    (extension.compile policy bodies first = .ok compiled →
      extension.AreSound (compiled.node.map NodeResolver.plan)
        (compiled.table.entries.map DispatchTable.Entry.plan)) := by
  refine ⟨extension.areSound_plan policy, ?_, ?_⟩
  · apply Manifest.forall₂_describeAll
    intro extension first
    exact Manifest.isSoundFor_describe (extension.areSound_plan policy) first
  · intro success
    have made := compile_eq_ok success
    rw [made.nodePlan, made.tablePlans]
    exact extension.areSound_plan policy

theorem resolvers_sound_query :
    ∃ compiled : CompiledExtension Sample.host (ObjectType Sample.host),
      Sample.query.compile .skip Sample.queryBodies 0 = .ok compiled ∧ compiled.table.size = 2 ∧
        Sample.query.AreSound (compiled.node.map NodeResolver.plan)
          (compiled.table.entries.map DispatchTable.Entry.plan) := by
  have compiles : ((Sample.query.compile .skip Sample.queryBodies 0 :
      Except CompileError (CompiledExtension Sample.host (ObjectType Sample.host))).toOption.map
      fun compiled => compiled.table.size) = some 2 := by
    decide +kernel
  obtain ⟨compiled, found, size⟩ := Option.map_eq_some_iff.mp compiles
  have success := (toOption_eq_some_iff _ _).mp found
  obtain ⟨-, -, sound⟩ := resolvers_sound .skip Sample.query [] Sample.queryBodies 0 compiled
  exact ⟨compiled, success, size, sound success⟩

end Extension

end FieldDispatch
