import FieldDispatch.Proofs.Numbering

/-!
The form of a planned manifest, whatever is wrong with the descriptions. Resolvers are numbered
through all extensions without gaps, since a member that is left out, repeated or refused takes no
number. Within an extension no name stands twice, and each resolver is registered once, under its
own name and number.
-/

namespace FieldDispatch

namespace Extension

/-- What is noted of a member that is left out. -/
def omittedMember? (member : Member) : Option OmittedMember :=
  match member.classify with
  | .omitted reason => some ⟨member.name, reason⟩
  | .resolver _ _ => none

theorem omitted_planMembers (policy : Policy) (extension : Extension) (seen : List String)
    (members : List Member) :
    (planMembers policy extension seen members).omitted =
      (firstDeclared seen members).filterMap omittedMember? := by
  induction members generalizing seen with
  | nil => rfl
  | cons member rest induction =>
      by_cases repeated : member.name ∈ seen
      · rw [planMembers, if_pos repeated, firstDeclared, if_pos repeated]
        exact induction seen
      · rw [planMembers, if_neg repeated, firstDeclared, if_neg repeated, List.filterMap_cons]
        cases classified : member.classify with
        | omitted reason => simpa [omittedMember?, classified] using induction _
        | resolver kind type =>
            cases planned : extension.planResolver member kind type <;>
              simpa [omittedMember?, classified, planned] using induction _

theorem member_of_omittedMember? {member : Member} {omitted : OmittedMember}
    (noted : omittedMember? member = some omitted) : omitted.member = member.name := by
  unfold omittedMember? at noted
  split at noted
  · cases noted
    rfl
  · cases noted

/-- A member with a resolver is not left out. -/
theorem omittedMember?_of_resolverPlan? {extension : Extension} {member : Member}
    {plan : ResolverPlan} (planned : extension.resolverPlan? member = some plan) :
    omittedMember? member = none := by
  obtain ⟨kind, type, classified, -⟩ := resolverPlan?_eq_some planned
  rw [omittedMember?, classified]

/-- The names in the plan of some members: those of resolvers, then those left out. -/
def plannedNames (extension : Extension) (members : List Member) : List String :=
  ((members.filterMap extension.resolverPlan?).map fun plan => plan.name.memberName) ++
    (members.filterMap omittedMember?).map OmittedMember.member

theorem mem_names_of_mem_plannedNames {extension : Extension} {members : List Member}
    {name : String} (present : name ∈ extension.plannedNames members) :
    name ∈ members.map Member.name := by
  rcases List.mem_append.mp present with resolver | omitted
  · exact (memberNames_filterMap extension members).subset resolver
  · obtain ⟨noted, notedPresent, rfl⟩ := List.mem_map.mp omitted
    obtain ⟨member, memberPresent, found⟩ := List.mem_filterMap.mp notedPresent
    rw [member_of_omittedMember? found]
    exact List.mem_map.mpr ⟨member, memberPresent, rfl⟩

theorem nodup_plannedNames (extension : Extension) {members : List Member}
    (distinct : (members.map Member.name).Nodup) : (extension.plannedNames members).Nodup := by
  induction members with
  | nil => exact List.nodup_nil
  | cons member rest induction =>
      rw [List.map_cons, List.nodup_cons] at distinct
      have later := induction distinct.2
      have fresh : member.name ∉ extension.plannedNames rest := by
        intro present
        exact distinct.1 (mem_names_of_mem_plannedNames present)
      have joined : (member.name :: extension.plannedNames rest).Nodup :=
        List.nodup_cons.mpr ⟨fresh, later⟩
      cases planned : extension.resolverPlan? member with
      | some plan =>
          have kept := omittedMember?_of_resolverPlan? planned
          rw [plannedNames, List.filterMap_cons_some planned, List.filterMap_cons_none kept,
            List.map_cons, memberName_of_resolverPlan? planned]
          exact joined
      | none =>
          cases noted : omittedMember? member with
          | none =>
              rw [plannedNames, List.filterMap_cons_none planned, List.filterMap_cons_none noted]
              exact later
          | some omitted =>
              rw [plannedNames, List.filterMap_cons_none planned, List.filterMap_cons_some noted,
                List.map_cons, member_of_omittedMember? noted]
              exact List.perm_middle.nodup_iff.mpr joined

theorem nodup_names_plan (policy : Policy) (extension : Extension) :
    (((extension.plan policy).1.resolvers.map fun plan => plan.name.memberName) ++
      (extension.plan policy).1.omitted.map OmittedMember.member).Nodup := by
  have distinct := nodup_plannedNames extension (nodup_firstDeclared [] extension.members).1
  rwa [plannedNames, ← resolvers_planMembers policy, ← omitted_planMembers policy extension]
    at distinct

end Extension

namespace Manifest

/-- The step that registers a resolver under its name and number. -/
def Resolver.IsRegisteredBy (resolver : Resolver) (step : Step) : Prop :=
  ∃ id, resolver.id = some id ∧ step = .field resolver.name.memberName id

structure Entry.IsWellFormed (entry : Entry) : Prop where
  nodeWithoutId : ∀ node ∈ entry.nodeResolver, node.id = none
  names : ((entry.resolvers.map fun resolver => resolver.name.memberName) ++
    entry.omitted.map Omitted.member).Nodup
  steps : ∃ fields, List.Forall₂ Resolver.IsRegisteredBy entry.resolvers fields ∧
    entry.steps = (if entry.nodeResolver.isSome then [.node] else []) ++ fields ++ [.configure]

end Manifest

namespace ExtensionPlan

theorem isRegisteredBy_fieldSteps (first : UInt32) (plans : List ResolverPlan) :
    List.Forall₂ Manifest.Resolver.IsRegisteredBy (describeResolvers first plans)
      (fieldSteps first plans) := by
  induction plans generalizing first with
  | nil => exact List.Forall₂.nil
  | cons plan rest induction =>
      apply List.Forall₂.cons
      · exact ⟨first, rfl, rfl⟩
      · exact induction (first + 1)

theorem isWellFormed_describe {plan : ExtensionPlan} (first : UInt32)
    (distinct : ((plan.resolvers.map fun resolver => resolver.name.memberName) ++
      plan.omitted.map OmittedMember.member).Nodup) :
    (plan.describe first).IsWellFormed where
  nodeWithoutId := by
    intro node present
    obtain ⟨nodePlan, -, rfl⟩ := Option.map_eq_some_iff.mp present
    rfl
  names := by
    have resolverNames : ((describeResolvers first plan.resolvers).map
        fun resolver => resolver.name.memberName) =
          plan.resolvers.map fun resolver => resolver.name.memberName := by
      rw [describeResolvers_eq_mapIdx]
      apply List.ext_getElem
      · simp
      · simp [ResolverPlan.describe]
    have omittedNames : (plan.omitted.map OmittedMember.describe).map Manifest.Omitted.member =
        plan.omitted.map OmittedMember.member := List.map_map
    change (((describeResolvers first plan.resolvers).map fun resolver =>
      resolver.name.memberName) ++
        (plan.omitted.map OmittedMember.describe).map Manifest.Omitted.member).Nodup
    rw [resolverNames, omittedNames]
    exact distinct
  steps := by
    refine ⟨fieldSteps first plan.resolvers, isRegisteredBy_fieldSteps first plan.resolvers, ?_⟩
    simp only [describe, Option.isSome_map]

end ExtensionPlan

namespace Manifest

/-- What holds of the entry of an extension, however it is numbered, holds of all entries. -/
theorem forall₂_describeAll {policy : Policy} {related : Entry → Extension → Prop}
    (described : ∀ (extension : Extension) (first : UInt32),
      related ((extension.plan policy).1.describe first) extension)
    (next : UInt32) (extensions : List Extension) :
    List.Forall₂ related (describeAll policy next extensions).1 extensions := by
  induction extensions generalizing next with
  | nil => exact List.Forall₂.nil
  | cons extension rest induction =>
      exact List.Forall₂.cons (described extension next) (induction _)

theorem mem_describeAll {policy : Policy} {next : UInt32} {extensions : List Extension}
    {entry : Entry} (present : entry ∈ (describeAll policy next extensions).1) :
    ∃ extension ∈ extensions, ∃ first, entry = (extension.plan policy).1.describe first := by
  have described : List.Forall₂
      (fun entry extension => ∃ first, entry = (extension.plan policy).1.describe first)
      (describeAll policy next extensions).1 extensions :=
    forall₂_describeAll (fun _ first => ⟨first, rfl⟩) next extensions
  exact exists_of_mem_left described present

/-- The resolver plans of all extensions, one extension after the other. -/
def plansOf (policy : Policy) (extensions : List Extension) : List ResolverPlan :=
  extensions.flatMap fun extension => (extension.plan policy).1.resolvers

theorem plansOf_cons (policy : Policy) (extension : Extension) (rest : List Extension) :
    plansOf policy (extension :: rest) =
      (extension.plan policy).1.resolvers ++ plansOf policy rest := rfl

theorem resolvers_describeAll (policy : Policy) (next : UInt32) (extensions : List Extension) :
    (describeAll policy next extensions).1.flatMap Entry.resolvers =
      (plansOf policy extensions).mapIdx fun offset plan =>
        plan.describe (some (next + UInt32.ofNat offset)) := by
  induction extensions generalizing next with
  | nil => rfl
  | cons extension rest induction =>
      have counted := word_add_skipped next (extension.plan policy).1.resolvers.length
      have first : ((extension.plan policy).1.describe next).resolvers =
          (extension.plan policy).1.resolvers.mapIdx fun offset plan =>
            plan.describe (some (next + UInt32.ofNat offset)) :=
        ExtensionPlan.describeResolvers_eq_mapIdx next _
      rw [describeAll, List.flatMap_cons, induction, plansOf_cons, List.mapIdx_append, first]
      simp only [counted]

/-- Counting words from zero, as numbers, while they do not wrap. -/
theorem ids_of_mapIdx (plans : List ResolverPlan) (bounded : plans.length < UInt32.size) :
    (plans.mapIdx fun offset plan => plan.describe (some (0 + UInt32.ofNat offset))).map
        (fun resolver => resolver.id.map UInt32.toNat) =
      (List.range plans.length).map some := by
  apply List.ext_getElem
  · simp
  · intro place inside _
    have fits : place < UInt32.size := by
      simp only [List.length_map, List.length_mapIdx] at inside
      omega
    simp [ResolverPlan.describe, UInt32.toNat_ofNat_of_lt' fits]

/-- The numbers of the resolvers are the places of the resolvers in the manifest, and each entry is
in order. -/
theorem ofExtensions_wellFormed (policy : Policy) (extensions : List Extension)
    (bounded : (ofExtensions policy extensions).1.resolverCount < UInt32.size) :
    ((ofExtensions policy extensions).1.resolvers.map fun resolver =>
        resolver.id.map UInt32.toNat) =
      (List.range (ofExtensions policy extensions).1.resolverCount).map some ∧
    ∀ entry ∈ (ofExtensions policy extensions).1.extensions, entry.IsWellFormed := by
  have numbered : (ofExtensions policy extensions).1.resolvers =
      (plansOf policy extensions).mapIdx fun offset plan =>
        plan.describe (some (0 + UInt32.ofNat offset)) :=
    resolvers_describeAll policy 0 extensions
  have count : (ofExtensions policy extensions).1.resolverCount =
      (plansOf policy extensions).length := by
    rw [resolverCount, numbered, List.length_mapIdx]
  constructor
  · rw [count] at bounded
    rw [numbered, count]
    exact ids_of_mapIdx _ bounded
  · intro entry present
    obtain ⟨extension, -, first, rfl⟩ := mem_describeAll present
    exact ExtensionPlan.isWellFormed_describe first (extension.nodup_names_plan policy)

/-- Descriptions with a repeated member, a parameter that cannot be typed and a member without a
result. -/
def Sample.faulty : List Extension :=
  [((Extension.ofType "Product").withMember (.property "Price" "Float"))
      |>.withMember (.property "Price" "Int")
      |>.withMember ((Member.method "Find" (.value ⟨"Int"⟩)).withParameter (.argument "id" "[Int"))
      |>.withMember (.method "Touch" .nothing),
    FieldDispatch.Sample.query]

theorem ofExtensions_wellFormed_faulty :
    Diagnostic.hasErrors (ofExtensions .warn Sample.faulty).2 = true ∧
      (ofExtensions .warn Sample.faulty).1.resolverCount = 3 ∧
      ((ofExtensions .warn Sample.faulty).1.resolvers.map fun resolver =>
        resolver.id.map UInt32.toNat) = [some 0, some 1, some 2] ∧
      ∀ entry ∈ (ofExtensions .warn Sample.faulty).1.extensions, entry.IsWellFormed := by
  have count : (ofExtensions .warn Sample.faulty).1.resolverCount = 3 := by decide +kernel
  have bounded : (ofExtensions .warn Sample.faulty).1.resolverCount < UInt32.size := by
    rw [count]
    decide
  obtain ⟨numbered, formed⟩ := ofExtensions_wellFormed .warn Sample.faulty bounded
  rw [count] at numbered
  exact ⟨by decide +kernel, count, numbered, formed⟩

end Manifest

end FieldDispatch
