import FieldDispatch.Diagnostic
import FieldDispatch.Extension.Classification
import FieldDispatch.Extension.Policy
import FieldDispatch.Manifest.Basic

/-!
Planning an extension: which resolvers it has, how each binds its arguments, and what is wrong
with the description. One pass over the members keeps the names already declared; the first
declaration of a name counts and every later one is reported.
-/

namespace FieldDispatch

structure ResolverPlan where
  name : ResolverName
  kind : ResolverKind
  receiver : Receiver
  arguments : ArgumentPlan
  type : TypeText
  deriving DecidableEq, Inhabited

def ResolverPlan.describe (plan : ResolverPlan) (id : Option UInt32) : Manifest.Resolver :=
  ⟨id, plan.name, plan.kind, plan.receiver, plan.arguments, plan.type⟩

structure OmittedMember where
  member : String
  reason : Omission
  deriving DecidableEq, Inhabited

def OmittedMember.describe (omitted : OmittedMember) : Manifest.Omitted :=
  ⟨omitted.member, omitted.reason.text⟩

structure ExtensionPlan where
  runtimeType : String
  extensionType : String
  nodeResolver : Option ResolverPlan
  resolvers : List ResolverPlan
  omitted : List OmittedMember
  deriving DecidableEq, Inhabited

namespace ExtensionPlan

def describeResolvers (id : UInt32) : List ResolverPlan → List Manifest.Resolver
  | [] => []
  | plan :: rest => plan.describe (some id) :: describeResolvers (id + 1) rest

def fieldSteps (id : UInt32) : List ResolverPlan → List Manifest.Step
  | [] => []
  | plan :: rest => .field plan.name.memberName id :: fieldSteps (id + 1) rest

/-- The manifest entry of a plan, its resolvers numbered from `first`. -/
def describe (plan : ExtensionPlan) (first : UInt32) : Manifest.Entry :=
  { runtimeType := plan.runtimeType
    extensionType := plan.extensionType
    nodeResolver := plan.nodeResolver.map fun node => node.describe none
    resolvers := describeResolvers first plan.resolvers
    omitted := plan.omitted.map OmittedMember.describe
    steps := (if plan.nodeResolver.isSome then [.node] else []) ++
      fieldSteps first plan.resolvers ++ [.configure] }

end ExtensionPlan

/-- What can be wrong with a member of a description. -/
inductive Problem where
  | duplicateMember
  | omitted (reason : Omission)
  | nodeIsProperty
  | nodeIsOmitted (reason : Omission)
  | nodeWithoutParameter
  | duplicateParameter (parameter : String)
  | malformedType (parameter : String) (type : TypeText)
  deriving DecidableEq

namespace Problem

def nodeMessage (member found : String) : String :=
  s!"node resolver '{member}' must be a method returning a value or a future, found {found}"

def message (member : String) : Problem → String
  | .duplicateMember => s!"duplicate member '{member}'"
  | .omitted reason => s!"member '{member}' {reason.text} and is not exposed as a field"
  | .nodeIsProperty => nodeMessage member "a property"
  | .nodeIsOmitted reason => nodeMessage member s!"a method that {reason.text}"
  | .nodeWithoutParameter => s!"node resolver '{member}' must take the node id as a parameter"
  | .duplicateParameter parameter => s!"duplicate parameter '{parameter}'"
  | .malformedType parameter type => s!"parameter '{parameter}' has malformed type '{type.text}'"

def suggestion? : Problem → Option String
  | .duplicateMember => some "the first declaration is used; rename or remove this one"
  | .nodeWithoutParameter => some "add an `id` argument parameter"
  | _ => none

/-- The diagnostic of a problem with a member of a type. -/
def report (problem : Problem) (severity : Severity) (typeName : String) (member : Member) :
    Diagnostic :=
  { severity
    message := problem.message member.name
    subject := some ⟨typeName, member.name⟩
    location := member.location
    suggestion := problem.suggestion? }

end Problem

namespace Parameter

/-- The problems of one parameter, after parameters with the names in `seen`. -/
def problems (seen : List String) (parameter : Parameter) : List Problem :=
  (if parameter.name ∈ seen then [.duplicateParameter parameter.name] else []) ++
    (if parameter.type.isWellFormed then [] else [.malformedType parameter.name parameter.type])

def listProblems (seen : List String) : List Parameter → List Problem
  | [] => []
  | parameter :: rest =>
      parameter.problems seen ++ listProblems (parameter.name :: seen) rest

end Parameter

namespace Extension

/-- A static member is invoked on nothing, any other on a parent of the extended type. -/
def receiver (extension : Extension) (member : Member) : Receiver :=
  if member.isStatic then .static extension.extensionType else .parent extension.runtimeType

/-- The plan of a member that becomes a resolver, or what is wrong with its parameters. -/
def planResolver (extension : Extension) (member : Member) (kind : ResolverKind)
    (type : TypeText) : Except (List Diagnostic) ResolverPlan :=
  match Parameter.listProblems [] member.parameters with
  | [] =>
      let arguments := ArgumentPlan.ofParameters member.parameters
      .ok {
        name := ⟨extension.runtimeType, member.name, UInt64.ofNat arguments.length⟩
        kind
        receiver := extension.receiver member
        arguments
        type }
  | problems =>
      .error (problems.map fun problem => problem.report .error extension.runtimeType member)

/-- A node resolver is a method with a result and at least one parameter. -/
def planNode (extension : Extension) (member : Member) :
    Except (List Diagnostic) ResolverPlan :=
  let reject (problem : Problem) : Except (List Diagnostic) ResolverPlan :=
    .error [problem.report .error extension.runtimeType member]
  match member.classify with
  | .omitted reason => reject (.nodeIsOmitted reason)
  | .resolver .property _ => reject .nodeIsProperty
  | .resolver kind type =>
      if member.parameters.isEmpty then reject .nodeWithoutParameter
      else extension.planResolver member kind type

/-- What is reported of a member that is left out. -/
def omissionReport (policy : Policy) (extension : Extension) (member : Member)
    (reason : Omission) : List Diagnostic :=
  match policy with
  | .skip => []
  | .warn => [Problem.report (.omitted reason) .warning extension.runtimeType member]
  | .error => [Problem.report (.omitted reason) .error extension.runtimeType member]

/-- What planning a list of members gives. -/
structure MemberPlans where
  resolvers : List ResolverPlan
  omitted : List OmittedMember
  diagnostics : List Diagnostic

/-- Plans the members in order, after members with the names in `seen`. -/
def planMembers (policy : Policy) (extension : Extension) (seen : List String) :
    List Member → MemberPlans
  | [] => ⟨[], [], []⟩
  | member :: rest =>
      if member.name ∈ seen then
        let later := planMembers policy extension seen rest
        { later with
          diagnostics :=
            Problem.report .duplicateMember .error extension.runtimeType member ::
              later.diagnostics }
      else
        let later := planMembers policy extension (member.name :: seen) rest
        match member.classify with
        | .omitted reason =>
            { later with
              omitted := ⟨member.name, reason⟩ :: later.omitted
              diagnostics :=
                omissionReport policy extension member reason ++ later.diagnostics }
        | .resolver kind type =>
            match extension.planResolver member kind type with
            | .ok plan => { later with resolvers := plan :: later.resolvers }
            | .error found => { later with diagnostics := found ++ later.diagnostics }

/-- The plan of an extension, and its diagnostics: those of the node resolver come first. -/
def plan (policy : Policy) (extension : Extension) : ExtensionPlan × List Diagnostic :=
  let node := extension.nodeResolver.map extension.planNode
  let members := planMembers policy extension [] extension.members
  let nodeDiagnostics :=
    match node with
    | some (.error found) => found
    | _ => []
  ({ runtimeType := extension.runtimeType
     extensionType := extension.extensionType
     nodeResolver := node.bind Except.toOption
     resolvers := members.resolvers
     omitted := members.omitted },
    nodeDiagnostics ++ members.diagnostics)

end Extension

namespace Manifest

/-- Plans the extensions in order, numbering resolvers from `next` on. -/
def describeAll (policy : Policy) (next : UInt32) : List Extension → List Entry × List Diagnostic
  | [] => ([], [])
  | extension :: rest =>
      let (plan, diagnostics) := extension.plan policy
      let (entries, later) :=
        describeAll policy (next + UInt32.ofNat plan.resolvers.length) rest
      (plan.describe next :: entries, diagnostics ++ later)

/-- The manifest of a list of extensions and everything reported about them. An extension with
errors is described all the same. -/
def ofExtensions (policy : Policy) (extensions : List Extension) : Manifest × List Diagnostic :=
  let (entries, diagnostics) := describeAll policy 0 extensions
  (ofEntries entries, diagnostics)

end Manifest

end FieldDispatch
