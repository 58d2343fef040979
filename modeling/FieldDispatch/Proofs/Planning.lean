import FieldDispatch.Extension.Plan
import Mathlib.Data.List.Forall2
import Mathlib.Data.List.Nodup

/-!
What planning gives. The first declaration of a name is planned by itself, whatever stands around
it, and a later one is only reported. A plan without errors has therefore no name twice, a resolver
for each member that is not left out, and a node resolver if one is declared.
-/

namespace FieldDispatch

section Related

variable {α β : Type} {related : α → β → Prop} {left : List α} {right : List β}

theorem exists_of_mem_left (pairs : List.Forall₂ related left right) {item : α}
    (present : item ∈ left) : ∃ partner ∈ right, related item partner := by
  induction pairs with
  | nil => cases present
  | cons head later induction =>
      rcases List.mem_cons.mp present with rfl | rest
      · exact ⟨_, List.mem_cons_self, head⟩
      · obtain ⟨partner, partnerPresent, pair⟩ := induction rest
        exact ⟨partner, List.mem_cons_of_mem _ partnerPresent, pair⟩

theorem exists_of_mem_right (pairs : List.Forall₂ related left right) {partner : β}
    (present : partner ∈ right) : ∃ item ∈ left, related item partner := by
  have flipped : List.Forall₂ (flip related) right left := List.Forall₂.flip pairs
  exact exists_of_mem_left flipped present

/-- What a filter keeps and what a map makes of it go together if the map fails on the rest. -/
theorem forall₂_filter_filterMap {f : α → Option β} {keep : α → Bool}
    (made : ∀ item value, f item = some value → related item value) {items : List α}
    (kept : ∀ item ∈ items, (f item).isSome = keep item) :
    List.Forall₂ related (items.filter keep) (items.filterMap f) := by
  induction items with
  | nil => exact List.Forall₂.nil
  | cons item rest induction =>
      have selected := kept item List.mem_cons_self
      have later := induction fun other present => kept other (List.mem_cons_of_mem _ present)
      cases outcome : f item with
      | none =>
          rw [outcome] at selected
          rw [List.filterMap_cons_none outcome, List.filter_cons_of_neg (by simp [← selected])]
          exact later
      | some value =>
          rw [outcome] at selected
          rw [List.filterMap_cons_some outcome, List.filter_cons_of_pos selected.symm]
          exact List.Forall₂.cons (made item value outcome) later

end Related

/-- Either no item has a property, or one of them is the first that has it. -/
theorem forall_not_or_exists_first {α : Type} (property : α → Prop) [DecidablePred property]
    (items : List α) :
    (∀ item ∈ items, ¬property item) ∨
      ∃ before item after, items = before ++ item :: after ∧
        (∀ earlier ∈ before, ¬property earlier) ∧ property item := by
  cases search : items.find? fun item => decide (property item) with
  | none => exact .inl (by simpa using search)
  | some item =>
      obtain ⟨holds, before, after, split, earlier⟩ := List.find?_eq_some_iff_append.mp search
      exact .inr ⟨before, item, after, split, by simpa using earlier, of_decide_eq_true holds⟩

namespace Diagnostic

@[simp]
theorem hasErrors_nil : hasErrors [] = false := rfl

@[simp]
theorem hasErrors_cons (diagnostic : Diagnostic) (rest : List Diagnostic) :
    hasErrors (diagnostic :: rest) = (diagnostic.isError || hasErrors rest) := rfl

@[simp]
theorem hasErrors_append (first rest : List Diagnostic) :
    hasErrors (first ++ rest) = (hasErrors first || hasErrors rest) :=
  List.any_append

end Diagnostic

@[simp]
theorem Problem.isError_report (problem : Problem) (typeName : String) (member : Member) :
    (problem.report .error typeName member).isError = true := rfl

/-- The type and the member that a plan is for. -/
def ResolverPlan.key (plan : ResolverPlan) : String × String :=
  (plan.name.typeName, plan.name.memberName)

namespace ArgumentPlan

theorem length_slotsFrom (first : Nat) (parameters : List Parameter) :
    (slotsFrom first parameters).length = parameters.length := by
  induction parameters generalizing first with
  | nil => rfl
  | cons parameter rest induction => simp [slotsFrom, induction]

@[simp]
theorem length_ofParameters (parameters : List Parameter) :
    (ofParameters parameters).length = parameters.length :=
  length_slotsFrom 0 parameters

end ArgumentPlan

/-- Whether the member becomes a resolver if it is well described. -/
def Member.isResolvable (member : Member) : Bool := member.classify.kind?.isSome

theorem Member.isResolvable_iff (member : Member) :
    member.isResolvable ↔ ∃ kind type, member.classify = .resolver kind type := by
  unfold isResolvable
  cases member.classify <;> simp [Classification.kind?]

namespace Extension

/-- The plan of a member that is to have a resolver and whose parameters are in order. -/
def resolverPlan? (extension : Extension) (member : Member) : Option ResolverPlan :=
  match member.classify with
  | .resolver kind type => (extension.planResolver member kind type).toOption
  | .omitted _ => none

/-- The members that are the first of their name, after members with the names in `seen`. -/
def firstDeclared (seen : List String) : List Member → List Member
  | [] => []
  | member :: rest =>
      if member.name ∈ seen then firstDeclared seen rest
      else member :: firstDeclared (member.name :: seen) rest

/-- The members that become resolvers, in declared order. -/
def resolvable (extension : Extension) : List Member :=
  extension.members.filter Member.isResolvable

theorem firstDeclared_eq_self (seen : List String) {members : List Member}
    (distinct : (members.map Member.name).Nodup)
    (unseen : ∀ member ∈ members, member.name ∉ seen) :
    firstDeclared seen members = members := by
  induction members generalizing seen with
  | nil => rfl
  | cons member rest induction =>
      rw [List.map_cons, List.nodup_cons] at distinct
      have restUnseen : ∀ later ∈ rest, later.name ∉ member.name :: seen := by
        intro later present repeated
        rcases List.mem_cons.mp repeated with same | before
        · exact distinct.1 (List.mem_map.mpr ⟨later, present, same⟩)
        · exact unseen later (List.mem_cons_of_mem _ present) before
      rw [firstDeclared, if_neg (unseen member List.mem_cons_self),
        induction _ distinct.2 restUnseen]

theorem planResolver_eq_ok {extension : Extension} {member : Member} {kind : ResolverKind}
    {type : TypeText} {plan : ResolverPlan}
    (success : extension.planResolver member kind type = .ok plan) :
    plan = {
      name := ⟨extension.runtimeType, member.name, UInt64.ofNat member.parameters.length⟩
      kind
      receiver := extension.receiver member
      arguments := ArgumentPlan.ofParameters member.parameters
      type } := by
  unfold planResolver at success
  split at success
  · simpa [eq_comm] using success
  · cases success

theorem hasErrors_of_planResolver_eq_error {extension : Extension} {member : Member}
    {kind : ResolverKind} {type : TypeText} {found : List Diagnostic}
    (failure : extension.planResolver member kind type = .error found) :
    Diagnostic.hasErrors found = true := by
  unfold planResolver at failure
  split at failure
  · cases failure
  · next present =>
    cases failure
    cases problems : Parameter.listProblems [] member.parameters with
    | nil => exact absurd problems present
    | cons problem rest => simp

theorem planNode_eq_ok {extension : Extension} {member : Member} {plan : ResolverPlan}
    (success : extension.planNode member = .ok plan) :
    ∃ kind type, member.classify = .resolver kind type ∧ kind ≠ .property ∧
      member.parameters ≠ [] ∧ extension.planResolver member kind type = .ok plan := by
  unfold planNode at success
  split at success
  · cases success
  · cases success
  · next kind type notProperty classified =>
    split at success
    · cases success
    · next present =>
      refine ⟨kind, type, classified, ?_, by simpa using present, success⟩
      rintro rfl
      exact notProperty rfl

theorem hasErrors_of_planNode_eq_error {extension : Extension} {member : Member}
    {found : List Diagnostic} (failure : extension.planNode member = .error found) :
    Diagnostic.hasErrors found = true := by
  unfold planNode at failure
  split at failure
  · cases failure; rfl
  · cases failure; rfl
  · split at failure
    · cases failure; rfl
    · exact hasErrors_of_planResolver_eq_error failure

theorem resolvers_planMembers (policy : Policy) (extension : Extension) (seen : List String)
    (members : List Member) :
    (planMembers policy extension seen members).resolvers =
      (firstDeclared seen members).filterMap extension.resolverPlan? := by
  induction members generalizing seen with
  | nil => rfl
  | cons member rest induction =>
      by_cases repeated : member.name ∈ seen
      · rw [planMembers, if_pos repeated, firstDeclared, if_pos repeated]
        exact induction seen
      · rw [planMembers, if_neg repeated, firstDeclared, if_neg repeated, List.filterMap_cons]
        cases classified : member.classify with
        | omitted reason => simpa [resolverPlan?, classified] using induction _
        | resolver kind type =>
            cases planned : extension.planResolver member kind type with
            | ok plan =>
                simpa [resolverPlan?, classified, planned, Except.toOption] using induction _
            | error found =>
                simpa [resolverPlan?, classified, planned, Except.toOption] using induction _

/-- The plan of a member says of it what the description says. -/
theorem resolverPlan?_eq_some {extension : Extension} {member : Member} {plan : ResolverPlan}
    (planned : extension.resolverPlan? member = some plan) :
    ∃ kind type, member.classify = .resolver kind type ∧
      extension.planResolver member kind type = .ok plan := by
  unfold resolverPlan? at planned
  split at planned
  · next kind type classified =>
    refine ⟨kind, type, classified, ?_⟩
    cases success : extension.planResolver member kind type with
    | ok made => simpa [success, Except.toOption] using planned
    | error found => simp [success, Except.toOption] at planned
  · cases planned

theorem key_of_resolverPlan? {extension : Extension} {member : Member} {plan : ResolverPlan}
    (planned : extension.resolverPlan? member = some plan) :
    plan.key = (extension.runtimeType, member.name) := by
  obtain ⟨kind, type, -, success⟩ := resolverPlan?_eq_some planned
  rw [planResolver_eq_ok success]
  rfl

theorem memberName_of_resolverPlan? {extension : Extension} {member : Member}
    {plan : ResolverPlan} (planned : extension.resolverPlan? member = some plan) :
    plan.name.memberName = member.name :=
  congrArg Prod.snd (key_of_resolverPlan? planned)

/-- The kind of a resolver is that of its member. -/
theorem kind_of_resolverPlan? {extension : Extension} {member : Member} {plan : ResolverPlan}
    (planned : extension.resolverPlan? member = some plan) :
    member.classify.kind? = some plan.kind := by
  obtain ⟨kind, type, classified, success⟩ := resolverPlan?_eq_some planned
  rw [classified, planResolver_eq_ok success]
  rfl

/-- A node resolver is planned as a field of its name would be. -/
theorem resolverPlan?_of_planNode {extension : Extension} {member : Member} {plan : ResolverPlan}
    (success : extension.planNode member = .ok plan) :
    extension.resolverPlan? member = some plan := by
  obtain ⟨kind, type, classified, -, -, planned⟩ := planNode_eq_ok success
  rw [resolverPlan?, classified]
  exact congrArg Except.toOption planned

/-- Every planned resolver belongs to the runtime type. -/
theorem typeName_of_mem_resolvers {policy : Policy} {extension : Extension} {plan : ResolverPlan}
    (planned : plan ∈ (extension.plan policy).1.resolvers) :
    plan.name.typeName = extension.runtimeType := by
  have found : plan ∈ (firstDeclared [] extension.members).filterMap extension.resolverPlan? := by
    rw [← resolvers_planMembers policy]
    exact planned
  obtain ⟨member, -, memberPlan⟩ := List.mem_filterMap.mp found
  exact congrArg Prod.fst (key_of_resolverPlan? memberPlan)

theorem nodup_firstDeclared (seen : List String) (members : List Member) :
    ((firstDeclared seen members).map Member.name).Nodup ∧
      ∀ member ∈ firstDeclared seen members, member.name ∉ seen := by
  induction members generalizing seen with
  | nil => simp [firstDeclared]
  | cons member rest induction =>
      by_cases repeated : member.name ∈ seen
      · rw [firstDeclared, if_pos repeated]
        exact induction seen
      · obtain ⟨distinct, unseen⟩ := induction (member.name :: seen)
        rw [firstDeclared, if_neg repeated, List.map_cons, List.nodup_cons]
        refine ⟨⟨?_, distinct⟩, ?_⟩
        · intro later
          obtain ⟨other, present, same⟩ := List.mem_map.mp later
          exact unseen other present (by simp [same])
        · intro other present
          rcases List.mem_cons.mp present with rfl | later
          · exact repeated
          · exact fun before => unseen other later (List.mem_cons_of_mem _ before)

theorem memberNames_filterMap (extension : Extension) (members : List Member) :
    ((members.filterMap extension.resolverPlan?).map fun plan => plan.name.memberName).Sublist
      (members.map Member.name) := by
  induction members with
  | nil => exact List.Sublist.slnil
  | cons member rest induction =>
      cases planned : extension.resolverPlan? member with
      | none =>
          rw [List.filterMap_cons_none planned]
          exact induction.cons _
      | some plan =>
          rw [List.filterMap_cons_some planned, List.map_cons, List.map_cons,
            memberName_of_resolverPlan? planned]
          exact induction.cons_cons _

/-- The keys under which the resolvers of an extension are to be found. -/
def keys (policy : Policy) (extension : Extension) : List (String × String) :=
  (extension.plan policy).1.resolvers.map ResolverPlan.key

/-- No plan has two resolvers under one key, whatever is wrong with the description. -/
theorem nodup_keys (policy : Policy) (extension : Extension) : (extension.keys policy).Nodup := by
  have names : ((extension.plan policy).1.resolvers.map
      fun plan => plan.name.memberName).Nodup := by
    have resolversEq : (extension.plan policy).1.resolvers =
        (firstDeclared [] extension.members).filterMap extension.resolverPlan? :=
      resolvers_planMembers policy extension [] extension.members
    rw [resolversEq]
    exact (memberNames_filterMap _ _).nodup (nodup_firstDeclared [] extension.members).1
  have seconds : ((extension.keys policy).map Prod.snd).Nodup := by
    rw [keys, List.map_map]
    exact names
  exact List.Nodup.of_map Prod.snd seconds

/-- What the members are like when nothing is wrong with them. -/
theorem members_of_clean {policy : Policy} {extension : Extension} {seen : List String}
    {members : List Member}
    (clean : Diagnostic.hasErrors (planMembers policy extension seen members).diagnostics = false) :
    (members.map Member.name).Nodup ∧ (∀ member ∈ members, member.name ∉ seen) ∧
      ∀ member ∈ members, member.isResolvable → (extension.resolverPlan? member).isSome := by
  induction members generalizing seen with
  | nil => simp
  | cons member rest induction =>
      rw [planMembers] at clean
      split at clean
      · simp at clean
      · next unseen =>
        -- Whatever becomes of the member, the rest is clean and the member itself has a plan.
        have parts : Diagnostic.hasErrors
              (planMembers policy extension (member.name :: seen) rest).diagnostics = false ∧
            (member.isResolvable → (extension.resolverPlan? member).isSome) := by
          cases classified : member.classify with
          | omitted reason =>
              simp only [classified, Diagnostic.hasErrors_append, Bool.or_eq_false_iff] at clean
              exact ⟨clean.2, by simp [Member.isResolvable, classified, Classification.kind?]⟩
          | resolver kind type =>
              cases planned : extension.planResolver member kind type with
              | ok plan =>
                  simp only [classified, planned] at clean
                  exact ⟨clean, fun _ => by simp [resolverPlan?, classified, planned,
                    Except.toOption]⟩
              | error found =>
                  simp [classified, planned, hasErrors_of_planResolver_eq_error planned] at clean
        obtain ⟨distinct, restUnseen, planned⟩ := induction parts.1
        refine ⟨?_, ?_, ?_⟩
        · rw [List.map_cons, List.nodup_cons]
          refine ⟨?_, distinct⟩
          intro repeated
          obtain ⟨later, present, same⟩ := List.mem_map.mp repeated
          exact restUnseen later present (by simp [same])
        · rintro other present
          rcases List.mem_cons.mp present with rfl | later
          · exact unseen
          · exact fun before => restUnseen other later (List.mem_cons_of_mem _ before)
        · rintro other present
          rcases List.mem_cons.mp present with rfl | later
          · exact parts.2
          · exact planned other later

theorem clean_of_clean_plan {policy : Policy} {extension : Extension}
    (clean : Diagnostic.hasErrors (extension.plan policy).2 = false) :
    Diagnostic.hasErrors (planMembers policy extension [] extension.members).diagnostics = false :=
  (Bool.or_eq_false_iff.mp ((Diagnostic.hasErrors_append _ _).symm.trans clean)).2

/-- The members that become resolvers and the plans made from them, in one order. -/
def ArePlanned (extension : Extension) (members : List Member) (plans : List ResolverPlan) : Prop :=
  List.Forall₂ (fun member plan => extension.resolverPlan? member = some plan) members plans

theorem ArePlanned.keys {extension : Extension} {members : List Member}
    {plans : List ResolverPlan} (planned : extension.ArePlanned members plans) :
    plans.map ResolverPlan.key =
      members.map fun member => (extension.runtimeType, member.name) := by
  induction planned with
  | nil => rfl
  | cons head later induction =>
      rw [List.map_cons, List.map_cons, key_of_resolverPlan? head, induction]

theorem ArePlanned.memberNames {extension : Extension} {members : List Member}
    {plans : List ResolverPlan} (planned : extension.ArePlanned members plans) :
    (plans.map fun plan => plan.name.memberName) = members.map Member.name := by
  have seconds := congrArg (List.map Prod.snd) planned.keys
  rwa [List.map_map, List.map_map] at seconds

theorem ArePlanned.of_mem {extension : Extension} {members : List Member}
    {plans : List ResolverPlan} (planned : extension.ArePlanned members plans) {member : Member}
    (present : member ∈ members) :
    ∃ plan ∈ plans, extension.resolverPlan? member = some plan :=
  exists_of_mem_left planned present

theorem ArePlanned.member_of_mem {extension : Extension} {members : List Member}
    {plans : List ResolverPlan} (planned : extension.ArePlanned members plans)
    {plan : ResolverPlan} (present : plan ∈ plans) :
    ∃ member ∈ members, extension.resolverPlan? member = some plan :=
  exists_of_mem_right planned present

/-- A plan without errors has one resolver for each member that is not left out, in their order. -/
theorem resolvers_of_clean_plan {policy : Policy} {extension : Extension}
    (clean : Diagnostic.hasErrors (extension.plan policy).2 = false) :
    extension.ArePlanned extension.resolvable (extension.plan policy).1.resolvers := by
  obtain ⟨distinct, -, planned⟩ := members_of_clean (clean_of_clean_plan clean)
  have resolversEq : (extension.plan policy).1.resolvers =
      extension.members.filterMap extension.resolverPlan? := by
    have all := resolvers_planMembers policy extension [] extension.members
    rwa [firstDeclared_eq_self [] distinct (by simp)] at all
  rw [resolversEq, resolvable]
  apply forall₂_filter_filterMap fun _ _ => id
  intro member present
  by_cases resolves : member.isResolvable
  · rw [resolves, planned member present resolves]
  · have unplanned : extension.resolverPlan? member = none := by
      cases classified : member.classify with
      | omitted reason => simp [resolverPlan?, classified]
      | resolver kind type =>
          exact absurd (member.isResolvable_iff.mpr ⟨kind, type, classified⟩) resolves
    rw [unplanned, Bool.eq_false_iff.mpr resolves]
    rfl

theorem node_of_clean_plan {policy : Policy} {extension : Extension}
    (clean : Diagnostic.hasErrors (extension.plan policy).2 = false) :
    (extension.plan policy).1.nodeResolver.map Except.ok =
      extension.nodeResolver.map extension.planNode := by
  cases declared : extension.nodeResolver with
  | none => simp [plan, declared]
  | some member =>
      cases planned : extension.planNode member with
      | ok plan => simp [Extension.plan, declared, planned, Except.toOption]
      | error found =>
          simp [plan, declared, planned, hasErrors_of_planNode_eq_error planned] at clean

end Extension

end FieldDispatch
