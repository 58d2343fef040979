import FieldDispatch.Proofs.ManifestForm

/-!
Which members a plan has and where. A declaration is the first of its name by what stands before it,
and only first declarations count. Of these the plan has, in declared order, a resolver for each
that is to have one and whose parameters can be bound, and a note for each that is left out. A
member whose parameters cannot be bound is in neither list, but then an error was reported.
-/

namespace FieldDispatch

section Earlier

variable {α β : Type}

/-- The items of a list, each with the items before it. -/
def withEarlier (items : List α) : List (List α × α) :=
  items.mapIdx fun place item => (items.take place, item)

theorem withEarlier_cons (item : α) (rest : List α) :
    withEarlier (item :: rest) =
      ([], item) :: (withEarlier rest).map fun later => (item :: later.1, later.2) := by
  unfold withEarlier
  rw [List.mapIdx_cons, map_of_mapIdx]
  rfl

theorem map_snd_withEarlier (items : List α) : (withEarlier items).map Prod.snd = items := by
  unfold withEarlier
  rw [map_of_mapIdx]
  exact List.ext_getElem (by simp) (by simp)

/-- A pass that carries the keys it has seen does with each item what those before it call for. -/
theorem carrying_eq_flatMap (pass : List String → List α → List β) (key : α → String)
    (step : Bool → α → List β) (done : ∀ seen, pass seen [] = [])
    (next : ∀ seen item rest, ∃ grown,
      (∀ name, name ∈ grown ↔ name = key item ∨ name ∈ seen) ∧
        pass seen (item :: rest) = step (decide (key item ∈ seen)) item ++ pass grown rest)
    (seen : List String) (items : List α) :
    pass seen items = (withEarlier items).flatMap fun entry =>
      step (decide (key entry.2 ∈ seen ∨ key entry.2 ∈ entry.1.map key)) entry.2 := by
  -- What was seen at first and what stands before an item play the same part, so the induction
  -- moves the first item from the one to the other.
  induction items generalizing seen with
  | nil => exact done seen
  | cons item rest induction =>
      obtain ⟨grown, same, continues⟩ := next seen item rest
      rw [continues, induction, withEarlier_cons, List.flatMap_cons, List.flatMap_map]
      simp only [same, List.map_cons, List.mem_cons, List.map_nil, List.not_mem_nil, or_false,
        or_assoc, or_left_comm]

theorem forall_withEarlier_iff (holds : α → Prop) (items : List α) :
    (∀ entry ∈ withEarlier items, holds entry.2) ↔ ∀ item ∈ items, holds item := by
  rw [← List.forall_mem_map (f := Prod.snd) (P := holds), map_snd_withEarlier]

/-- A key that was seen is not noted again. -/
theorem mem_noted (seen : List String) (name other : String) :
    other ∈ (if name ∈ seen then seen else name :: seen) ↔ other = name ∨ other ∈ seen := by
  by_cases repeated : name ∈ seen
  · rw [if_pos repeated]
    exact (or_iff_right_of_imp fun same => same ▸ repeated).symm
  · rw [if_neg repeated]
    exact List.mem_cons

/-- No key stands before its item, which is to say that no key stands twice. -/
theorem forall_fresh_iff_nodup (key : α → String) (items : List α) :
    (∀ entry ∈ withEarlier items, key entry.2 ∉ entry.1.map key) ↔ (items.map key).Nodup := by
  induction items with
  | nil => simp [withEarlier]
  | cons item rest induction =>
      have others : (∀ entry ∈ withEarlier rest, key entry.2 ≠ key item) ↔
          key item ∉ rest.map key := by
        rw [forall_withEarlier_iff fun other => key other ≠ key item]
        simp
      rw [withEarlier_cons, List.forall_mem_cons, List.forall_mem_map, List.map_cons,
        List.nodup_cons, ← induction, ← others, ← forall₂_and]
      simp

/-- The items whose key does not stand before them. -/
def firstOfKey (key : α → String) (items : List α) : List α :=
  (withEarlier items).filterMap fun entry =>
    if key entry.2 ∈ entry.1.map key then none else some entry.2

theorem mem_firstOfKey {key : α → String} {items : List α} {item : α} :
    item ∈ firstOfKey key items ↔
      ∃ entry ∈ withEarlier items, key entry.2 ∉ entry.1.map key ∧ entry.2 = item := by
  unfold firstOfKey
  simp only [List.mem_filterMap, Option.ite_none_left_eq_some, Option.some.injEq]

end Earlier

section Selected

variable {α β : Type} {f : α → Option β} {keep : α → Bool} {related : α → β → Prop}

theorem forall₂_filterMap (made : ∀ item value, f item = some value → related item value)
    (kept : ∀ item, (f item).isSome = keep item) (items : List α) :
    List.Forall₂ related (items.filter keep) (items.filterMap f) :=
  forall₂_filter_filterMap made fun item _ => kept item

end Selected

/-- Parameters to which arguments can be bound. -/
structure Member.HasSoundParameters (member : Member) : Prop where
  distinct : (member.parameters.map Parameter.name).Nodup
  wellFormed : ∀ parameter ∈ member.parameters, parameter.type.isWellFormed

theorem Member.hasSoundParameters_iff (member : Member) :
    member.HasSoundParameters ↔ (member.parameters.map Parameter.name).Nodup ∧
      ∀ parameter ∈ member.parameters, parameter.type.isWellFormed :=
  ⟨fun sound => ⟨sound.distinct, sound.wellFormed⟩, fun ⟨distinct, wellFormed⟩ =>
    ⟨distinct, wellFormed⟩⟩

instance (member : Member) : Decidable member.HasSoundParameters :=
  decidable_of_iff' _ member.hasSoundParameters_iff

namespace Parameter

theorem listProblems_eq_flatMap (parameters : List Parameter) :
    listProblems [] parameters = (withEarlier parameters).flatMap fun entry =>
      entry.2.problems (entry.1.map Parameter.name) := by
  have carried := carrying_eq_flatMap listProblems Parameter.name
    (fun repeated parameter =>
      (if repeated then [.duplicateParameter parameter.name] else []) ++
        (if parameter.type.isWellFormed then [] else
          [.malformedType parameter.name parameter.type]))
    (fun _ => rfl)
    (fun seen parameter rest => ⟨parameter.name :: seen, fun _ => List.mem_cons, by
      simp [listProblems, problems]⟩) [] parameters
  rw [carried]
  simp [problems]

theorem listProblems_eq_nil_iff (member : Member) :
    listProblems [] member.parameters = [] ↔ member.HasSoundParameters := by
  have wellFormed : (∀ entry ∈ withEarlier member.parameters, entry.2.type.isWellFormed = true) ↔
      ∀ parameter ∈ member.parameters, parameter.type.isWellFormed = true :=
    forall_withEarlier_iff (fun parameter : Parameter => parameter.type.isWellFormed = true) _
  rw [listProblems_eq_flatMap, List.flatMap_eq_nil_iff, member.hasSoundParameters_iff,
    ← forall_fresh_iff_nodup, ← wellFormed, ← forall₂_and]
  simp [problems]

end Parameter

/-- The note of a member that is left out. -/
structure Member.IsOmittedAs (member : Member) (omitted : OmittedMember) : Prop where
  name : omitted.member = member.name
  classified : member.classify = .omitted omitted.reason

namespace Extension

/-- The plan of a member: its name, kind and type are those of the member. -/
structure IsPlanOf (extension : Extension) (member : Member) (plan : ResolverPlan) : Prop where
  name : plan.name =
    ⟨extension.runtimeType, member.name, UInt64.ofNat member.parameters.length⟩
  classified : member.classify = .resolver plan.kind plan.type
  receiver : plan.receiver = extension.receiver member
  arguments : plan.arguments = .ofParameters member.parameters

theorem isPlanOf_of_resolverPlan? {extension : Extension} {member : Member} {plan : ResolverPlan}
    (planned : extension.resolverPlan? member = some plan) : extension.IsPlanOf member plan := by
  obtain ⟨kind, type, classified, success⟩ := resolverPlan?_eq_some planned
  rw [planResolver_eq_ok success]
  exact ⟨rfl, classified, rfl, rfl⟩

theorem isSome_resolverPlan? (extension : Extension) (member : Member) :
    (extension.resolverPlan? member).isSome =
      decide (member.isResolvable ∧ member.HasSoundParameters) := by
  rw [Bool.eq_iff_iff, decide_eq_true_iff, ← Parameter.listProblems_eq_nil_iff]
  unfold resolverPlan? Member.isResolvable
  cases member.classify with
  | omitted reason => simp [Classification.kind?]
  | resolver kind type =>
      cases problems : Parameter.listProblems [] member.parameters <;>
        simp [Classification.kind?, planResolver, problems, Except.toOption]

theorem isSome_omittedMember? (member : Member) :
    (omittedMember? member).isSome = !member.isResolvable := by
  unfold omittedMember? Member.isResolvable
  cases member.classify <;> rfl

theorem isOmittedAs_of_omittedMember? {member : Member} {omitted : OmittedMember}
    (noted : omittedMember? member = some omitted) : member.IsOmittedAs omitted := by
  unfold omittedMember? at noted
  split at noted
  · next reason classified =>
    cases noted
    exact ⟨rfl, classified⟩
  · cases noted

/-- The declarations that are the first of their name. -/
def firstDeclarations (extension : Extension) : List Member :=
  firstOfKey Member.name extension.members

theorem firstDeclared_eq_firstDeclarations (extension : Extension) :
    firstDeclared [] extension.members = extension.firstDeclarations := by
  rw [firstDeclarations, firstOfKey, List.filterMap_eq_flatMap_toList]
  have carried := carrying_eq_flatMap firstDeclared Member.name
    (fun repeated member => if repeated then [] else [member]) (fun _ => rfl)
    (by
      intro seen member rest
      refine ⟨_, mem_noted seen member.name, ?_⟩
      by_cases repeated : member.name ∈ seen <;> simp [firstDeclared, repeated])
    [] extension.members
  rw [carried]
  apply List.flatMap_congr
  intro entry _
  by_cases repeated : entry.2.name ∈ entry.1.map Member.name <;> simp [repeated]

theorem firstDeclarations_of_nodup {extension : Extension}
    (distinct : (extension.members.map Member.name).Nodup) :
    extension.firstDeclarations = extension.members := by
  rw [← firstDeclared_eq_firstDeclarations]
  exact firstDeclared_eq_self [] distinct (by simp)

theorem nodup_firstDeclarations (extension : Extension) :
    (extension.firstDeclarations.map Member.name).Nodup := by
  rw [← firstDeclared_eq_firstDeclarations]
  exact (nodup_firstDeclared [] extension.members).1

theorem resolvers_plan (policy : Policy) (extension : Extension) :
    (extension.plan policy).1.resolvers =
      extension.firstDeclarations.filterMap extension.resolverPlan? := by
  rw [← firstDeclared_eq_firstDeclarations]
  exact resolvers_planMembers policy extension [] extension.members

theorem omitted_plan (policy : Policy) (extension : Extension) :
    (extension.plan policy).1.omitted =
      extension.firstDeclarations.filterMap omittedMember? := by
  rw [← firstDeclared_eq_firstDeclarations]
  exact omitted_planMembers policy extension [] extension.members

theorem fst_plan (policy : Policy) (extension : Extension) :
    (extension.plan policy).1 = {
      runtimeType := extension.runtimeType
      extensionType := extension.extensionType
      nodeResolver := (extension.nodeResolver.map extension.planNode).bind Except.toOption
      resolvers := extension.firstDeclarations.filterMap extension.resolverPlan?
      omitted := extension.firstDeclarations.filterMap omittedMember? } := by
  rw [← resolvers_plan policy, ← omitted_plan policy]
  rfl

/-- The same extension without the declarations that repeat a name. -/
def withoutRepeats (extension : Extension) : Extension :=
  { extension with members := extension.firstDeclarations }

theorem plan_withoutRepeats (policy : Policy) (extension : Extension) :
    (extension.withoutRepeats.plan policy).1 = (extension.plan policy).1 := by
  have kept : extension.withoutRepeats.firstDeclarations = extension.firstDeclarations :=
    firstDeclarations_of_nodup extension.nodup_firstDeclarations
  rw [fst_plan, fst_plan, kept]
  rfl

theorem names_of_isOmittedAs {members : List Member} {omitted : List OmittedMember}
    (noted : List.Forall₂ Member.IsOmittedAs members omitted) :
    omitted.map OmittedMember.member = members.map Member.name := by
  induction noted with
  | nil => rfl
  | cons head later induction => rw [List.map_cons, List.map_cons, head.name, induction]

theorem isOmittedAs_plan (policy : Policy) (extension : Extension) :
    List.Forall₂ Member.IsOmittedAs
      (extension.firstDeclarations.filter fun member => !member.isResolvable)
      (extension.plan policy).1.omitted := by
  rw [omitted_plan]
  exact forall₂_filterMap (fun _ _ => isOmittedAs_of_omittedMember?) isSome_omittedMember? _

/-- The names in a plan without errors are those of the members, each once. -/
theorem names_plan_perm {policy : Policy} {extension : Extension}
    (clean : Diagnostic.hasErrors (extension.plan policy).2 = false) :
    (((extension.plan policy).1.resolvers.map fun plan => plan.name.memberName) ++
      (extension.plan policy).1.omitted.map OmittedMember.member).Perm
        (extension.members.map Member.name) := by
  -- No name is declared twice, so a member is in the one list or the other by its class alone.
  obtain ⟨distinct, -, -⟩ := members_of_clean (clean_of_clean_plan clean)
  have omitted := names_of_isOmittedAs (extension.isOmittedAs_plan policy)
  rw [firstDeclarations_of_nodup distinct] at omitted
  rw [(resolvers_of_clean_plan clean).memberNames, omitted, resolvable, ← List.map_append]
  exact (List.filter_append_perm Member.isResolvable extension.members).map Member.name

/-- A plan has its members in two lists. No declaration that repeats a name has any part in it, no
name is in both lists or twice in one, and none is missing if no error was reported. -/
theorem plan_partitions (policy : Policy) (extension : Extension) :
    List.Forall₂ extension.IsPlanOf
      (extension.firstDeclarations.filter fun member =>
        member.isResolvable ∧ member.HasSoundParameters)
      (extension.plan policy).1.resolvers ∧
    List.Forall₂ Member.IsOmittedAs
      (extension.firstDeclarations.filter fun member => !member.isResolvable)
      (extension.plan policy).1.omitted ∧
    (extension.withoutRepeats.plan policy).1 = (extension.plan policy).1 ∧
    (((extension.plan policy).1.resolvers.map fun plan => plan.name.memberName) ++
      (extension.plan policy).1.omitted.map OmittedMember.member).Nodup ∧
    (Diagnostic.hasErrors (extension.plan policy).2 = false →
      (((extension.plan policy).1.resolvers.map fun plan => plan.name.memberName) ++
        (extension.plan policy).1.omitted.map OmittedMember.member).Perm
          (extension.members.map Member.name)) := by
  refine ⟨?_, extension.isOmittedAs_plan policy, extension.plan_withoutRepeats policy,
    extension.nodup_names_plan policy, names_plan_perm⟩
  rw [resolvers_plan]
  exact forall₂_filterMap (fun _ _ => isPlanOf_of_resolverPlan?) extension.isSome_resolverPlan? _

/-- The method that is left out moves behind the two that are not. -/
theorem plan_partitions_query :
    Diagnostic.hasErrors (Sample.query.plan .skip).2 = false ∧
      (((Sample.query.plan .skip).1.resolvers.map fun plan => plan.name.memberName) ++
        (Sample.query.plan .skip).1.omitted.map OmittedMember.member).Perm
          ["Ping", "Version", "Later"] := by
  have clean : Diagnostic.hasErrors (Sample.query.plan .skip).2 = false := by decide +kernel
  exact ⟨clean, (plan_partitions .skip Sample.query).2.2.2.2 clean⟩

end Extension

end FieldDispatch
