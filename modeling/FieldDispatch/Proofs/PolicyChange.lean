import FieldDispatch.Proofs.Compilability
import FieldDispatch.Proofs.Findings

/-!
What another policy changes. Plans and manifests are the same under every policy, and so is
everything reported that is not about a member that is left out. Such a member is reported as a
warning, in the same place as an error under the strict policy, and not at all under the lenient
one. A compilation sees of this only whether there are errors: those that skip and those that warn
end alike, and what compiles under the strict policy compiles to the same under every other.
-/

namespace FieldDispatch

namespace Diagnostic

def isWarning (diagnostic : Diagnostic) : Bool := diagnostic.severity = .warning

/-- A warning as an error, and all else as it is. -/
def hardened (diagnostic : Diagnostic) : Diagnostic :=
  if diagnostic.isWarning then { diagnostic with severity := .error } else diagnostic

theorem hasErrors_filter_not_isWarning (diagnostics : List Diagnostic) :
    hasErrors (diagnostics.filter fun diagnostic => !diagnostic.isWarning) =
      hasErrors diagnostics := by
  unfold hasErrors
  rw [List.any_filter]
  congr 1
  funext diagnostic
  unfold isWarning isError
  cases diagnostic.severity <;> rfl

end Diagnostic

open Diagnostic

namespace Problem

theorem reportUnder_error (problem : Problem) (typeName : String) (member : Member) :
    problem.reportUnder .error typeName member =
      (problem.reportUnder .warn typeName member).map hardened := by
  cases problem <;> rfl

theorem reportUnder_skip (problem : Problem) (typeName : String) (member : Member) :
    problem.reportUnder .skip typeName member =
      (problem.reportUnder .warn typeName member).filter fun report => !report.isWarning := by
  cases problem <;> rfl

theorem isError_of_reportUnder_error {problem : Problem} {typeName : String} {member : Member}
    {report : Diagnostic} (reported : problem.reportUnder .error typeName member = some report) :
    report.isError := by
  cases problem <;> cases reported <;> rfl

theorem filter_reportUnder_of_error {policy : Policy} {problem : Problem}
    (grave : policy.severity? problem = some .error) (typeName : String) (member : Member) :
    (problem.reportUnder policy typeName member).filter isWarning = none := by
  rw [reportUnder, grave]
  rfl

end Problem

namespace Member

theorem warnings_ownProblems (typeName : String) (member : Member) :
    member.ownProblems.filterMap
        (fun problem => (problem.reportUnder .warn typeName member).filter isWarning) =
      (member.classify.omission?.map fun reason =>
        Problem.report (.omitted reason) .warning typeName member).toList := by
  unfold ownProblems
  cases member.classify with
  | omitted reason => rfl
  | resolver kind type =>
      apply List.filterMap_eq_nil_iff.mpr
      intro problem found
      have grave := severity?_of_parameterProblems found .warn
      exact Problem.filter_reportUnder_of_error grave typeName member

theorem warnings_nodeProblems (typeName : String) (node : Member) :
    node.nodeProblems.filterMap
      (fun problem => (problem.reportUnder .warn typeName node).filter isWarning) = [] := by
  apply List.filterMap_eq_nil_iff.mpr
  intro problem found
  have grave := severity?_of_nodeProblems found .warn
  exact Problem.filter_reportUnder_of_error grave typeName node

end Member

/-- How the reports under the three policies are related, given the warnings about members that are
left out: all else is the same and in the same order. -/
structure DifferInOmissions (reports : Policy → List Diagnostic) (warnings : List Diagnostic) :
    Prop where
  error : reports .error = (reports .warn).map hardened
  skip : reports .skip = (reports .warn).filter fun report => !report.isWarning
  warn : (reports .warn).filter isWarning = warnings

/-- What holds of the reports of each item holds of those of a list. -/
theorem DifferInOmissions.flatMap {α : Type} {reports : α → Policy → List Diagnostic}
    {warnings : α → List Diagnostic}
    (each : ∀ item, DifferInOmissions (reports item) (warnings item)) (items : List α) :
    DifferInOmissions (fun policy => items.flatMap fun item => reports item policy)
      (items.flatMap warnings) where
  error := by
    rw [List.map_flatMap]
    exact List.flatMap_congr fun item _ => (each item).error
  skip := by
    rw [List.filter_flatMap]
    exact List.flatMap_congr fun item _ => (each item).skip
  warn := by
    rw [List.filter_flatMap]
    exact List.flatMap_congr fun item _ => (each item).warn

namespace Extension

/-- The warnings about the members of an extension that are left out. -/
def omissionWarnings (extension : Extension) : List Diagnostic :=
  extension.firstDeclarations.filterMap fun member =>
    member.classify.omission?.map fun reason =>
      Problem.report (.omitted reason) .warning extension.runtimeType member

theorem filter_isWarning_reports (extension : Extension) :
    (extension.reports .warn).filter isWarning = extension.omissionWarnings := by
  rw [reports, List.filter_filterMap, findings, List.filterMap_append, List.filterMap_flatMap,
    List.filterMap_flatMap]
  simp only [List.filterMap_map]
  have node : (extension.nodeResolver.toList.flatMap fun node => node.nodeProblems.filterMap
      fun problem =>
        (problem.reportUnder .warn extension.runtimeType node).filter isWarning) = [] := by
    apply List.flatMap_eq_nil_iff.mpr
    intro node _
    exact node.warnings_nodeProblems extension.runtimeType
  -- A repeated declaration is an error and counts on neither side.
  have members : ((withEarlier extension.members).flatMap fun entry =>
      (entry.2.problemsAfter entry.1).filterMap fun problem =>
        (problem.reportUnder .warn extension.runtimeType entry.2).filter isWarning) =
      extension.omissionWarnings := by
    rw [omissionWarnings, firstDeclarations, firstOfKey, List.filterMap_filterMap,
      List.filterMap_eq_flatMap_toList]
    apply List.flatMap_congr
    intro entry _
    by_cases repeated : entry.2.name ∈ entry.1.map Member.name
    · rw [Member.problemsAfter, if_pos repeated, if_pos repeated]
      rfl
    · rw [Member.problemsAfter, if_neg repeated, if_neg repeated]
      exact entry.2.warnings_ownProblems extension.runtimeType
  exact (congrArg₂ List.append node members).trans (List.nil_append _)

theorem reports_differInOmissions (extension : Extension) :
    DifferInOmissions (fun policy => (extension.plan policy).2) extension.omissionWarnings := by
  simp only [diagnostics_plan]
  refine ⟨?_, ?_, extension.filter_isWarning_reports⟩
  · simp only [reports, List.map_filterMap, Problem.reportUnder_error]
  · simp only [reports, List.filter_filterMap, Problem.reportUnder_skip]

theorem fst_plan_congr (one other : Policy) (extension : Extension) :
    (extension.plan one).1 = (extension.plan other).1 := by
  rw [fst_plan, fst_plan]

/-- Where the strict policy finds no error there is nothing to report. -/
theorem diagnostics_eq_nil_of_strict {extension : Extension}
    (clean : hasErrors (extension.plan .error).2 = false) (policy : Policy) :
    (extension.plan policy).2 = [] := by
  have differ := extension.reports_differInOmissions
  -- The strict policy reports errors only.
  have strict : (extension.plan .error).2 = [] := by
    rw [diagnostics_plan] at clean ⊢
    apply List.eq_nil_iff_forall_not_mem.mpr
    intro report reported
    obtain ⟨finding, -, made⟩ := List.mem_filterMap.mp reported
    exact List.any_eq_false.mp clean report reported (Problem.isError_of_reportUnder_error made)
  have warn : (extension.plan .warn).2 = [] :=
    List.map_eq_nil_iff.mp (differ.error.symm.trans strict)
  cases policy with
  | error => exact strict
  | warn => exact warn
  | skip => rw [differ.skip, warn, List.filter_nil]

end Extension

namespace Manifest

theorem describeAll_congr (one other : Policy) (next : UInt32) (extensions : List Extension) :
    (describeAll one next extensions).1 = (describeAll other next extensions).1 := by
  induction extensions generalizing next with
  | nil => rfl
  | cons extension rest induction =>
      have split (policy : Policy) : (describeAll policy next (extension :: rest)).1 =
          (extension.plan policy).1.describe next ::
            (describeAll policy
              (next + UInt32.ofNat (extension.plan policy).1.resolvers.length) rest).1 := rfl
      rw [split, split, extension.fst_plan_congr one other, induction]

theorem ofExtensions_differInOmissions (extensions : List Extension) :
    DifferInOmissions (fun policy => (ofExtensions policy extensions).2)
      (extensions.flatMap Extension.omissionWarnings) := by
  have collected (policy : Policy) : (ofExtensions policy extensions).2 =
      extensions.flatMap fun extension => (extension.plan policy).2 :=
    diagnostics_describeAll policy 0 extensions
  simp only [collected]
  exact DifferInOmissions.flatMap Extension.reports_differInOmissions extensions

end Manifest

variable {H : Host} {D : Type}

/-- The error without the diagnostics that it may carry. -/
def CompileError.withoutReports : CompileError → CompileError
  | .invalid typeName _ => .invalid typeName []
  | error => error

/-- How a compilation ends, apart from what it reports. -/
def CompiledExtension.withoutReports :
    Except CompileError (CompiledExtension H D) → Except CompileError (CompiledExtension H D)
  | .ok compiled => .ok { compiled with warnings := [] }
  | .error error => .error error.withoutReports

namespace Extension

/-- Gives a plan its bodies, with warnings that are known before. -/
def link (plan : ExtensionPlan) (warnings : List Diagnostic) (bodies : Bodies H) (first : Nat) :
    Except CompileError (CompiledExtension H D) := do
  let node ← ResolverPlan.bindNode bodies first plan.nodeResolver
  let table ← ResolverPlan.bindAll bodies (first + 1) .empty plan.resolvers
  return {
    runtimeType := plan.runtimeType
    extensionType := plan.extensionType
    node
    table
    steps := CompiledExtension.stepsFor node table
    omitted := plan.omitted
    hook := none
    warnings }

theorem compile_eq_link (policy : Policy) (extension : Extension) (bodies : Bodies H)
    (first : Nat) :
    (extension.compile policy bodies first : Except _ (CompiledExtension H D)) =
      if hasErrors (extension.plan policy).2 then
        .error (.invalid extension.runtimeType (extension.plan policy).2)
      else link (extension.plan policy).1 (extension.plan policy).2 bodies first := by
  unfold compile
  by_cases errors : hasErrors (extension.plan policy).2 = true
  · simp only [errors, if_true]
    rfl
  · simp only [errors]
    rfl

theorem withoutReports_link (plan : ExtensionPlan) (warnings : List Diagnostic)
    (bodies : Bodies H) (first : Nat) :
    CompiledExtension.withoutReports
        (link plan warnings bodies first : Except _ (CompiledExtension H D)) =
      CompiledExtension.withoutReports (link plan [] bodies first) := by
  unfold link
  cases ResolverPlan.bindNode bodies first plan.nodeResolver with
  | error error => rfl
  | ok node =>
      cases ResolverPlan.bindAll bodies (first + 1) .empty plan.resolvers <;> rfl

theorem compile_skip_eq_warn (extension : Extension) (bodies : Bodies H) (first : Nat) :
    CompiledExtension.withoutReports
        (extension.compile .skip bodies first : Except _ (CompiledExtension H D)) =
      CompiledExtension.withoutReports (extension.compile .warn bodies first) := by
  have lenient : hasErrors (extension.plan .skip).2 = hasErrors (extension.plan .warn).2 := by
    rw [extension.reports_differInOmissions.skip]
    exact hasErrors_filter_not_isWarning _
  rw [compile_eq_link, compile_eq_link, lenient]
  split
  · rfl
  · rw [withoutReports_link, extension.fst_plan_congr .skip .warn, ← withoutReports_link]

theorem compile_of_strict {extension : Extension} {bodies : Bodies H} {first : Nat}
    {compiled : CompiledExtension H D}
    (success : extension.compile .error bodies first = .ok compiled) (policy : Policy) :
    extension.compile policy bodies first = .ok compiled := by
  have nothing := diagnostics_eq_nil_of_strict (compile_eq_ok success).clean
  rw [compile_eq_link, nothing, extension.fst_plan_congr policy .error, ← nothing .error,
    ← compile_eq_link]
  exact success

end Extension

/-- The policy is a matter of reports. Plans and manifests do not depend on it; what is reported
differs only in the members that are left out; and compilations differ only where those are
errors. -/
theorem policy_changes_reports (H : Host) (D : Type) :
    (∀ one other : Policy,
      (∀ extension : Extension, (extension.plan one).1 = (extension.plan other).1) ∧
      ∀ extensions : List Extension,
        (Manifest.ofExtensions one extensions).1 = (Manifest.ofExtensions other extensions).1) ∧
    (∀ extension : Extension,
      DifferInOmissions (fun policy => (extension.plan policy).2) extension.omissionWarnings) ∧
    (∀ extensions : List Extension,
      DifferInOmissions (fun policy => (Manifest.ofExtensions policy extensions).2)
        (extensions.flatMap Extension.omissionWarnings)) ∧
    ∀ (extension : Extension) (bodies : Bodies H) (first : Nat),
      CompiledExtension.withoutReports
          (extension.compile .skip bodies first : Except _ (CompiledExtension H D)) =
        CompiledExtension.withoutReports (extension.compile .warn bodies first) ∧
      ∀ compiled : CompiledExtension H D, extension.compile .error bodies first = .ok compiled →
        ∀ policy, extension.compile policy bodies first = .ok compiled := by
  refine ⟨?_, Extension.reports_differInOmissions, Manifest.ofExtensions_differInOmissions, ?_⟩
  · intro one other
    refine ⟨Extension.fst_plan_congr one other, ?_⟩
    intro extensions
    exact congrArg Manifest.ofEntries (Manifest.describeAll_congr one other 0 extensions)
  · intro extension bodies first
    refine ⟨extension.compile_skip_eq_warn bodies first, ?_⟩
    intro compiled success policy
    exact Extension.compile_of_strict success policy

namespace Sample

def priced : Extension := (Extension.ofType "Product").withMember (.property "Price" "Float")

def pricedBodies : Bodies host := OrderedMap.empty.insert "Price" (.staticProperty (pure .null))

/-- A type without members to leave out compiles to the same under every policy. -/
theorem policy_changes_reports_priced :
    ∃ compiled : CompiledExtension host (ObjectType host),
      priced.compile .error pricedBodies 0 = .ok compiled ∧
        priced.compile .skip pricedBodies 0 = .ok compiled ∧
        priced.compile .warn pricedBodies 0 = .ok compiled := by
  have compiles : ∃ compiled : CompiledExtension host (ObjectType host),
      priced.compile .error pricedBodies 0 = .ok compiled := by
    apply (failure?_eq_none_iff _).mp
    decide +kernel
  obtain ⟨compiled, success⟩ := compiles
  have all := ((policy_changes_reports host (ObjectType host)).2.2.2 priced pricedBodies 0).2
    compiled success
  exact ⟨compiled, success, all .skip, all .warn⟩

end Sample

end FieldDispatch
