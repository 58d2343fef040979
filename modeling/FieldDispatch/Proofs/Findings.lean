import FieldDispatch.Proofs.MemberPartition

/-!
What planning reports. What is wrong with an extension does not depend on the policy: the problems
of the node resolver, then those of each member in declared order, each told from the member and
what is declared before it. The policy only says how grave it is that a member is left out, and
every other problem is an error. So a plan has no errors exactly when none of the stated conditions
holds, and then no declared node resolver is lost.
-/

namespace FieldDispatch

namespace Member

/-- Parameter by parameter: a name that stands before it, then a type that cannot be read. -/
def parameterProblems (member : Member) : List Problem :=
  (withEarlier member.parameters).flatMap fun entry =>
    (if entry.2.name ∈ entry.1.map Parameter.name then [.duplicateParameter entry.2.name]
      else []) ++
    (if entry.2.type.isWellFormed then [] else [.malformedType entry.2.name entry.2.type])

/-- What is wrong with a member by itself. -/
def ownProblems (member : Member) : List Problem :=
  match member.classify with
  | .omitted reason => [.omitted reason]
  | .resolver _ _ => member.parameterProblems

/-- What is wrong with a member that is declared after others. -/
def problemsAfter (earlier : List Member) (member : Member) : List Problem :=
  if member.name ∈ earlier.map Member.name then [.duplicateMember] else member.ownProblems

/-- What is wrong with a member as a node resolver. -/
def nodeProblems (member : Member) : List Problem :=
  match member.classify with
  | .omitted reason => [.nodeIsOmitted reason]
  | .resolver .property _ => [.nodeIsProperty]
  | .resolver _ _ =>
      if member.parameters = [] then [.nodeWithoutParameter] else member.parameterProblems

theorem listProblems_parameters (member : Member) :
    Parameter.listProblems [] member.parameters = member.parameterProblems := by
  rw [Parameter.listProblems_eq_flatMap]
  rfl

theorem parameterProblems_eq_nil_iff (member : Member) :
    member.parameterProblems = [] ↔ member.HasSoundParameters := by
  rw [← listProblems_parameters, Parameter.listProblems_eq_nil_iff]

end Member

/-- How grave a problem is, where it is reported at all. -/
def Policy.severity? (policy : Policy) : Problem → Option Severity
  | .omitted _ =>
      match policy with
      | .skip => none
      | .warn => some .warning
      | .error => some .error
  | _ => some .error

/-- What is reported of a problem with a member. -/
def Problem.reportUnder (policy : Policy) (typeName : String) (member : Member)
    (problem : Problem) : Option Diagnostic :=
  (policy.severity? problem).map fun severity => problem.report severity typeName member

namespace Member

theorem severity?_of_parameterProblems {member : Member} {problem : Problem}
    (found : problem ∈ member.parameterProblems) (policy : Policy) :
    policy.severity? problem = some .error := by
  obtain ⟨entry, -, own⟩ := List.mem_flatMap.mp found
  rcases List.mem_append.mp own with repeated | malformed
  · split at repeated
    · rw [List.mem_singleton.mp repeated]
      rfl
    · cases repeated
  · split at malformed
    · cases malformed
    · rw [List.mem_singleton.mp malformed]
      rfl

theorem filterMap_reportUnder_parameterProblems (policy : Policy) (typeName : String)
    (member : Member) :
    member.parameterProblems.filterMap (Problem.reportUnder policy typeName member) =
      member.parameterProblems.map fun problem => problem.report .error typeName member := by
  rw [← List.filterMap_eq_map]
  apply List.filterMap_congr
  intro problem found
  rw [Problem.reportUnder, severity?_of_parameterProblems found]
  rfl

end Member

namespace Extension

/-- All problems of an extension, each with its member: first those of the node resolver. -/
def findings (extension : Extension) : List (Member × Problem) :=
  (extension.nodeResolver.toList.flatMap fun node =>
    node.nodeProblems.map fun problem => (node, problem)) ++
  (withEarlier extension.members).flatMap fun entry =>
    (entry.2.problemsAfter entry.1).map fun problem => (entry.2, problem)

/-- What is reported of an extension under a policy. -/
def reports (policy : Policy) (extension : Extension) : List Diagnostic :=
  extension.findings.filterMap fun finding =>
    finding.2.reportUnder policy extension.runtimeType finding.1

/-- The diagnostics of an attempt that has no other result. -/
def refusals (attempt : Except (List Diagnostic) ResolverPlan) : List Diagnostic :=
  match attempt with
  | .ok _ => []
  | .error found => found

theorem refusals_planResolver (policy : Policy) (extension : Extension) (member : Member)
    (kind : ResolverKind) (type : TypeText) :
    refusals (extension.planResolver member kind type) =
      member.parameterProblems.filterMap
        (Problem.reportUnder policy extension.runtimeType member) := by
  rw [Member.filterMap_reportUnder_parameterProblems, planResolver, Member.listProblems_parameters]
  cases member.parameterProblems <;> rfl

theorem refusals_planNode (policy : Policy) (extension : Extension) (node : Member) :
    refusals (extension.planNode node) =
      node.nodeProblems.filterMap (Problem.reportUnder policy extension.runtimeType node) := by
  unfold planNode Member.nodeProblems
  cases node.classify with
  | omitted reason => rfl
  | resolver kind type =>
      cases kind with
      | property => rfl
      | sync =>
          cases parameters : node.parameters with
          | nil => rfl
          | cons first rest => exact extension.refusals_planResolver policy node _ _
      | async =>
          cases parameters : node.parameters with
          | nil => rfl
          | cons first rest => exact extension.refusals_planResolver policy node _ _

theorem diagnostics_planMembers_cons (policy : Policy) (extension : Extension)
    (seen : List String) (member : Member) (rest : List Member) :
    (planMembers policy extension seen (member :: rest)).diagnostics =
      (if member.name ∈ seen then [.duplicateMember] else member.ownProblems).filterMap
          (Problem.reportUnder policy extension.runtimeType member) ++
        (planMembers policy extension (if member.name ∈ seen then seen else member.name :: seen)
          rest).diagnostics := by
  by_cases repeated : member.name ∈ seen
  · rw [planMembers, if_pos repeated, if_pos repeated, if_pos repeated]
    rfl
  · rw [planMembers, if_neg repeated, if_neg repeated, if_neg repeated, Member.ownProblems]
    cases classified : member.classify with
    | omitted reason => cases policy <;> rfl
    | resolver kind type =>
        have refused := extension.refusals_planResolver policy member kind type
        simp only [← refused]
        cases extension.planResolver member kind type <;> rfl

theorem diagnostics_planMembers (policy : Policy) (extension : Extension)
    (members : List Member) :
    (planMembers policy extension [] members).diagnostics =
      (withEarlier members).flatMap fun entry =>
        (entry.2.problemsAfter entry.1).filterMap
          (Problem.reportUnder policy extension.runtimeType entry.2) := by
  rw [carrying_eq_flatMap
    (fun seen members => (planMembers policy extension seen members).diagnostics) Member.name
    (fun repeated member =>
      (if repeated then [.duplicateMember] else member.ownProblems).filterMap
        (Problem.reportUnder policy extension.runtimeType member))]
  · simp [Member.problemsAfter]
  · intro seen
    rfl
  · intro seen member rest
    refine ⟨_, mem_noted seen member.name, ?_⟩
    simp [diagnostics_planMembers_cons]

theorem diagnostics_plan (policy : Policy) (extension : Extension) :
    (extension.plan policy).2 = extension.reports policy := by
  have split : (extension.plan policy).2 =
      (extension.nodeResolver.toList.flatMap fun node => refusals (extension.planNode node)) ++
        (planMembers policy extension [] extension.members).diagnostics := by
    unfold plan
    cases extension.nodeResolver with
    | none => rfl
    | some node => cases planned : extension.planNode node <;> simp [planned, refusals]
  rw [split, diagnostics_planMembers, reports, findings, List.filterMap_append,
    List.filterMap_flatMap, List.filterMap_flatMap]
  simp only [refusals_planNode policy, List.filterMap_map]
  rfl

end Extension

/-- What is asked of a node resolver: a method with a result, and parameters that can be bound, of
which the first takes the id. -/
structure Member.CanResolveNodes (member : Member) : Prop where
  method : member.classify.kind? = some .sync ∨ member.classify.kind? = some .async
  parameters : member.parameters ≠ []
  sound : member.HasSoundParameters

namespace Member

theorem nodeProblems_eq_nil_iff (node : Member) :
    node.nodeProblems = [] ↔ node.CanResolveNodes := by
  have split : node.CanResolveNodes ↔
      (node.classify.kind? = some .sync ∨ node.classify.kind? = some .async) ∧
        node.parameters ≠ [] ∧ node.HasSoundParameters :=
    ⟨fun can => ⟨can.method, can.parameters, can.sound⟩,
      fun ⟨method, parameters, sound⟩ => ⟨method, parameters, sound⟩⟩
  rw [split, ← parameterProblems_eq_nil_iff]
  unfold nodeProblems
  cases node.classify with
  | omitted reason => simp [Classification.kind?]
  | resolver kind type =>
      cases kind <;> by_cases none : node.parameters = [] <;> simp [Classification.kind?, none]

theorem severity?_of_nodeProblems {node : Member} {problem : Problem}
    (found : problem ∈ node.nodeProblems) (policy : Policy) :
    policy.severity? problem = some .error := by
  unfold Member.nodeProblems at found
  split at found
  · rw [List.mem_singleton.mp found]
    rfl
  · rw [List.mem_singleton.mp found]
    rfl
  · split at found
    · rw [List.mem_singleton.mp found]
      rfl
    · exact severity?_of_parameterProblems found policy

theorem exists_grave_iff_ne_nil {policy : Policy} {problems : List Problem}
    (grave : ∀ problem ∈ problems, policy.severity? problem = some .error) :
    (∃ problem ∈ problems, policy.severity? problem = some .error) ↔ problems ≠ [] := by
  constructor
  · rintro ⟨problem, found, -⟩
    exact List.ne_nil_of_mem found
  · intro some
    obtain ⟨problem, found⟩ := List.exists_mem_of_ne_nil problems some
    exact ⟨problem, found, grave problem found⟩

theorem grave_nodeProblem_iff (policy : Policy) (node : Member) :
    (∃ problem ∈ node.nodeProblems, policy.severity? problem = some .error) ↔
      ¬ node.CanResolveNodes := by
  rw [exists_grave_iff_ne_nil fun _ found => severity?_of_nodeProblems found policy, ne_eq,
    node.nodeProblems_eq_nil_iff]

theorem grave_ownProblem_iff (policy : Policy) (member : Member) :
    (∃ problem ∈ member.ownProblems, policy.severity? problem = some .error) ↔
      (policy = .error ∧ ¬ member.isResolvable) ∨
        (member.isResolvable ∧ ¬ member.HasSoundParameters) := by
  have parameters := exists_grave_iff_ne_nil
    fun problem (found : problem ∈ member.parameterProblems) =>
      severity?_of_parameterProblems found policy
  rw [ne_eq, member.parameterProblems_eq_nil_iff] at parameters
  rw [← parameters]
  unfold Member.ownProblems Member.isResolvable
  cases member.classify with
  | omitted reason => cases policy <;> simp [Policy.severity?, Classification.kind?]
  | resolver kind type => simp [Classification.kind?]

end Member

namespace Extension

theorem hasErrors_reports_iff (policy : Policy) (extension : Extension) :
    Diagnostic.hasErrors (extension.reports policy) = true ↔
      ∃ finding ∈ extension.findings, policy.severity? finding.2 = some .error := by
  unfold Diagnostic.hasErrors reports
  rw [List.any_eq_true]
  constructor
  · rintro ⟨diagnostic, reported, grave⟩
    obtain ⟨finding, found, made⟩ := List.mem_filterMap.mp reported
    obtain ⟨severity, decided, rfl⟩ := Option.map_eq_some_iff.mp made
    refine ⟨finding, found, ?_⟩
    rw [decided]
    exact congrArg some (of_decide_eq_true grave)
  · rintro ⟨finding, found, grave⟩
    refine ⟨finding.2.report .error extension.runtimeType finding.1, ?_, rfl⟩
    refine List.mem_filterMap.mpr ⟨finding, found, ?_⟩
    rw [Problem.reportUnder, grave]
    rfl

theorem grave_memberProblem_iff (policy : Policy) (extension : Extension) :
    (∃ entry ∈ withEarlier extension.members,
      ∃ problem ∈ entry.2.problemsAfter entry.1, policy.severity? problem = some .error) ↔
      ¬ (extension.members.map Member.name).Nodup ∨
        ∃ member ∈ extension.firstDeclarations,
          ∃ problem ∈ member.ownProblems, policy.severity? problem = some .error := by
  rw [← forall_fresh_iff_nodup]
  constructor
  · rintro ⟨entry, present, problem, found, grave⟩
    by_cases repeated : entry.2.name ∈ entry.1.map Member.name
    · exact Or.inl fun fresh => fresh entry present repeated
    · rw [Member.problemsAfter, if_neg repeated] at found
      exact Or.inr ⟨entry.2, mem_firstOfKey.mpr ⟨entry, present, repeated, rfl⟩, problem, found,
        grave⟩
  · rintro (stale | ⟨member, first, problem, found, grave⟩)
    · obtain ⟨entry, present, repeated⟩ := not_forall₂.mp stale
      refine ⟨entry, present, .duplicateMember, ?_, rfl⟩
      rw [Member.problemsAfter, if_pos (not_not.mp repeated)]
      exact List.mem_cons_self
    · obtain ⟨entry, present, fresh, rfl⟩ := mem_firstOfKey.mp first
      refine ⟨entry, present, problem, ?_, grave⟩
      rw [Member.problemsAfter, if_neg fresh]
      exact found

theorem exists_finding_iff (extension : Extension) (holds : Problem → Prop) :
    (∃ finding ∈ extension.findings, holds finding.2) ↔
      (∃ node ∈ extension.nodeResolver, ∃ problem ∈ node.nodeProblems, holds problem) ∨
        ∃ entry ∈ withEarlier extension.members,
          ∃ problem ∈ entry.2.problemsAfter entry.1, holds problem := by
  constructor
  · rintro ⟨finding, present, fits⟩
    rcases List.mem_append.mp present with own | later
    · obtain ⟨node, declared, made⟩ := List.mem_flatMap.mp own
      obtain ⟨problem, found, rfl⟩ := List.mem_map.mp made
      exact Or.inl ⟨node, Option.mem_toList.mp declared, problem, found, fits⟩
    · obtain ⟨entry, listed, made⟩ := List.mem_flatMap.mp later
      obtain ⟨problem, found, rfl⟩ := List.mem_map.mp made
      exact Or.inr ⟨entry, listed, problem, found, fits⟩
  · rintro (⟨node, declared, problem, found, fits⟩ | ⟨entry, listed, problem, found, fits⟩)
    · refine ⟨(node, problem), List.mem_append_left _ ?_, fits⟩
      apply List.mem_flatMap.mpr
      exact ⟨node, Option.mem_toList.mpr declared, List.mem_map.mpr ⟨problem, found, rfl⟩⟩
    · refine ⟨(entry.2, problem), List.mem_append_right _ ?_, fits⟩
      apply List.mem_flatMap.mpr
      exact ⟨entry, listed, List.mem_map.mpr ⟨problem, found, rfl⟩⟩

/-- Planning reports exactly the problems of an extension, in their order. The four ways in which a
plan has errors are the node resolver's, repeated names, members that the policy forbids and
parameters that cannot be bound. Without errors a declared node resolver is in the plan. -/
theorem plan_reports (policy : Policy) (extension : Extension) :
    (extension.plan policy).2 = extension.reports policy ∧
    (Diagnostic.hasErrors (extension.plan policy).2 = true ↔
      (∃ node ∈ extension.nodeResolver, ¬ node.CanResolveNodes) ∨
      ¬ (extension.members.map Member.name).Nodup ∨
      ∃ member ∈ extension.firstDeclarations,
        (policy = .error ∧ ¬ member.isResolvable) ∨
          (member.isResolvable ∧ ¬ member.HasSoundParameters)) ∧
    (Diagnostic.hasErrors (extension.plan policy).2 = false →
      (extension.plan policy).1.nodeResolver.isSome = extension.nodeResolver.isSome) := by
  refine ⟨diagnostics_plan policy extension, ?_, ?_⟩
  · have members := grave_memberProblem_iff policy extension
    simp only [Member.grave_ownProblem_iff] at members
    rw [diagnostics_plan, hasErrors_reports_iff,
      exists_finding_iff extension fun problem => policy.severity? problem = some .error, members]
    simp only [Member.grave_nodeProblem_iff]
  · intro clean
    have found := congrArg Option.isSome (node_of_clean_plan clean)
    simpa using found

/-- The method without a result is no error unless the policy forbids it. -/
theorem plan_reports_query :
    Diagnostic.hasErrors (Sample.query.plan .skip).2 = false ∧
      (Sample.query.plan .skip).1.nodeResolver.isSome = true ∧
      Diagnostic.hasErrors (Sample.query.plan .error).2 = true := by
  have clean : Diagnostic.hasErrors (Sample.query.plan .skip).2 = false := by decide +kernel
  refine ⟨clean, (plan_reports .skip Sample.query).2.2 clean, ?_⟩
  apply (plan_reports .error Sample.query).2.1.mpr
  exact Or.inr (Or.inr ⟨.method "Ping" .nothing, by decide, Or.inl ⟨rfl, by decide⟩⟩)

end Extension

end FieldDispatch
