import FieldDispatch.Proofs.Arguments
import FieldDispatch.Proofs.ResolverForm
import Mathlib.Data.List.FinRange

/-!
Parameters in another order. A member is planned in every order of its parameters or in none, and in
each of them a parameter keeps its slot but for the index. Whether a request supplies the arguments
does not depend on the order either, though which mistake is reported first does. What the body gets
at a position is the value of the parameter that stands there, and its receiver is the same.
-/

namespace FieldDispatch

section Order

variable {α β : Type}

/-- A list in another order: each place takes the item from where the order says. -/
def rearranged (items : List α) (order : Equiv.Perm (Fin items.length)) : List α :=
  List.ofFn fun place => items[order place]

theorem rearranged_perm (items : List α) (order : Equiv.Perm (Fin items.length)) :
    (rearranged items order).Perm items := by
  have moved := order.ofFn_comp_perm items.get
  rw [List.ofFn_get] at moved
  exact moved

@[simp]
theorem length_rearranged (items : List α) (order : Equiv.Perm (Fin items.length)) :
    (rearranged items order).length = items.length :=
  List.length_ofFn

theorem getElem?_rearranged (items : List α) (order : Equiv.Perm (Fin items.length))
    (place : Fin items.length) :
    (rearranged items order)[place.val]? = some items[order place] := by
  simp [rearranged]

end Order

namespace Member

/-- A method with other parameters; a property has none and stays as it is. -/
def withParameters (member : Member) (parameters : List Parameter) : Member :=
  { member with
    shape :=
      match member.shape with
      | .method returns _ => .method returns parameters
      | .property type => .property type }

/-- A member that declares its parameters in another order. -/
def rearranged (member : Member) (order : Equiv.Perm (Fin member.parameters.length)) : Member :=
  member.withParameters (FieldDispatch.rearranged member.parameters order)

variable (member : Member) (order : Equiv.Perm (Fin member.parameters.length))

theorem parameters_rearranged :
    (member.rearranged order).parameters = FieldDispatch.rearranged member.parameters order := by
  obtain ⟨name, isStatic, shape, location⟩ := member
  cases shape with
  | method returns parameters => rfl
  | property type => rfl

theorem classify_rearranged : (member.rearranged order).classify = member.classify := by
  obtain ⟨name, isStatic, shape, location⟩ := member
  cases shape <;> rfl

theorem hasSoundParameters_rearranged :
    (member.rearranged order).HasSoundParameters ↔ member.HasSoundParameters := by
  have moved := rearranged_perm member.parameters order
  rw [hasSoundParameters_iff, hasSoundParameters_iff, parameters_rearranged,
    (moved.map Parameter.name).nodup_iff]
  simp only [moved.mem_iff]

end Member

namespace Extension

/-- What a member is planned as. -/
inductive Role where
  | field
  | node

/-- The plan of a member in a role, if the planner accepts it there. -/
def planAs? (extension : Extension) (member : Member) : Role → Option ResolverPlan
  | .field => extension.resolverPlan? member
  | .node => (extension.planNode member).toOption

/-- A node resolver is planned like a field, but it is no property and has a parameter. -/
theorem planAs?_node (extension : Extension) (member : Member) :
    extension.planAs? member .node =
      if member.classify.kind? = some .property ∨ member.parameters = [] then none
      else extension.planAs? member .field := by
  unfold planAs? planNode resolverPlan?
  cases member.classify with
  | omitted reason => simp [Except.toOption, Classification.kind?]
  | resolver kind type =>
      cases parameters : member.parameters with
      | nil => cases kind <;> simp [Except.toOption, Classification.kind?]
      | cons parameter rest => cases kind <;> simp [Except.toOption, Classification.kind?]

theorem resolverPlan?_of_planAs? {extension : Extension} {member : Member} {role : Role}
    {plan : ResolverPlan} (planned : extension.planAs? member role = some plan) :
    extension.resolverPlan? member = some plan := by
  cases role with
  | field => exact planned
  | node => exact resolverPlan?_of_planNode ((toOption_eq_some_iff _ _).mp planned)

variable (extension : Extension) (member : Member)
  (order : Equiv.Perm (Fin member.parameters.length))

theorem isSome_planAs?_rearranged (role : Role) :
    (extension.planAs? (member.rearranged order) role).isSome =
      (extension.planAs? member role).isSome := by
  have field : (extension.planAs? (member.rearranged order) .field).isSome =
      (extension.planAs? member .field).isSome := by
    unfold planAs?
    rw [isSome_resolverPlan?, isSome_resolverPlan?, decide_eq_decide, Member.isResolvable,
      member.classify_rearranged, member.hasSoundParameters_rearranged]
    rfl
  cases role with
  | field => exact field
  | node =>
      have empty : (member.rearranged order).parameters = [] ↔ member.parameters = [] := by
        rw [member.parameters_rearranged, ← List.length_eq_zero_iff, length_rearranged,
          List.length_eq_zero_iff]
      simp only [planAs?_node, member.classify_rearranged, empty]
      split
      · rfl
      · exact field

end Extension

/-- The slots of two plans are the same in another order, numbered anew. -/
structure ArgumentPlan.IsRearranged {n : Nat} (order : Equiv.Perm (Fin n))
    (plan other : ArgumentPlan) : Prop where
  length : plan.length = n
  otherLength : other.length = n
  slot : ∀ place : Fin n, other.get? place =
    (plan.get? (order place)).map fun slot => { slot with index := UInt64.ofNat place }

/-- The plans of two resolvers that differ in the order of the slots. -/
structure ResolverPlan.IsRearranged {n : Nat} (order : Equiv.Perm (Fin n))
    (plan other : ResolverPlan) : Prop where
  rest : other = { plan with arguments := other.arguments }
  arguments : plan.arguments.IsRearranged order other.arguments

namespace ArgumentPlan

theorem get?_ofParameters (parameters : List Parameter) (place : Nat) :
    (ofParameters parameters).get? place = parameters[place]?.map (Slot.ofParameter place) := by
  rw [get?, ofParameters, slotsFrom_eq_mapIdx, List.getElem?_mapIdx, Nat.zero_add]

theorem isRearranged_ofParameters (parameters : List Parameter)
    (order : Equiv.Perm (Fin parameters.length)) :
    IsRearranged order (ofParameters parameters) (ofParameters (rearranged parameters order)) where
  length := length_ofParameters parameters
  otherLength := by rw [length_ofParameters, length_rearranged]
  slot := by
    intro place
    have there : parameters[(order place).val]? = some parameters[order place] := by simp
    rw [get?_ofParameters, getElem?_rearranged, get?_ofParameters, there]
    rfl

end ArgumentPlan

namespace Extension

variable {extension : Extension} {member : Member}

theorem isRearranged_of_planAs? (order : Equiv.Perm (Fin member.parameters.length)) {role : Role}
    {plan other : ResolverPlan} (planned : extension.planAs? member role = some plan)
    (otherPlanned : extension.planAs? (member.rearranged order) role = some other) :
    plan.IsRearranged order other := by
  obtain ⟨kind, type, classified, success⟩ :=
    resolverPlan?_eq_some (resolverPlan?_of_planAs? planned)
  obtain ⟨_, _, otherClassified, otherSuccess⟩ :=
    resolverPlan?_eq_some (resolverPlan?_of_planAs? otherPlanned)
  rw [member.classify_rearranged, classified] at otherClassified
  cases otherClassified
  rw [planResolver_eq_ok success, planResolver_eq_ok otherSuccess, member.parameters_rearranged,
    length_rearranged]
  exact ⟨rfl, ArgumentPlan.isRearranged_ofParameters member.parameters order⟩

end Extension

namespace Request

/-- The request has a value of its type for each of some parameters. -/
def Suits (request : Request) (parameters : List Parameter) : Prop :=
  ∀ parameter ∈ parameters, (request.valueFor parameter).conformsTo parameter.type = true

theorem argumentsFor_eq_ok_iff_suits (request : Request) (parameters : List Parameter)
    (arguments : Arguments) :
    request.argumentsFor parameters = .ok arguments ↔
      request.Suits parameters ∧ arguments = ⟨parameters.map request.valueFor⟩ := by
  rw [argumentsFor_eq_ok_iff]
  constructor
  · rintro ⟨size, value, conforms⟩
    refine ⟨conforms, ?_⟩
    obtain ⟨values⟩ := arguments
    congr 1
    apply List.ext_getElem?
    intro position
    rw [List.getElem?_map]
    cases there : parameters[position]? with
    | none =>
        rw [List.getElem?_eq_none_iff] at there
        exact List.getElem?_eq_none (Nat.le_trans (Nat.le_of_eq size) there)
    | some parameter => exact value position parameter there
  · rintro ⟨suits, rfl⟩
    refine ⟨List.length_map _, ?_, suits⟩
    intro position parameter there
    rw [Arguments.get?, List.getElem?_map, there, Option.map_some]

/-- A request supplies parameters in both orders or in neither. If it does, each place has the value
of the parameter that stands there now, which is the one that its old place has in the old order. -/
structure BindsRearranged (request : Request) (member : Member)
    (order : Equiv.Perm (Fin member.parameters.length)) : Prop where
  succeeds :
    (∃ others, request.argumentsFor (member.rearranged order).parameters = .ok others) ↔
      ∃ arguments, request.argumentsFor member.parameters = .ok arguments
  values : ∀ arguments others, request.argumentsFor member.parameters = .ok arguments →
    request.argumentsFor (member.rearranged order).parameters = .ok others →
      others.size = member.parameters.length ∧
        ∀ place : Fin member.parameters.length,
          others.get? place = some (request.valueFor member.parameters[order place]) ∧
            others.get? place = arguments.get? (order place)

variable (request : Request) (member : Member)
  (order : Equiv.Perm (Fin member.parameters.length))

theorem suits_rearranged :
    request.Suits (member.rearranged order).parameters ↔ request.Suits member.parameters := by
  unfold Suits
  simp only [member.parameters_rearranged, (rearranged_perm member.parameters order).mem_iff]

theorem bindsRearranged : request.BindsRearranged member order where
  succeeds := by
    simp only [argumentsFor_eq_ok_iff_suits, suits_rearranged, exists_and_left, exists_eq, and_true]
  values := by
    intro arguments others supplied otherSupplied
    obtain ⟨-, rfl⟩ := (argumentsFor_eq_ok_iff_suits _ _ _).mp supplied
    obtain ⟨-, rfl⟩ := (argumentsFor_eq_ok_iff_suits _ _ _).mp otherSupplied
    rw [member.parameters_rearranged]
    refine ⟨by simp [Arguments.size], ?_⟩
    intro place
    have there : member.parameters[(order place).val]? = some member.parameters[order place] := by
      simp
    simp only [Arguments.get?, List.getElem?_map, getElem?_rearranged, there, Option.map_some,
      and_self]

end Request

/-- The same argument values in another order. -/
def Arguments.rearranged {n : Nat} (order : Equiv.Perm (Fin n)) (arguments : Arguments) :
    Arguments :=
  ⟨List.ofFn fun place => (arguments.get? (order place)).getD .null⟩

variable {H : Host}

/-- A body that has its arguments put in another order before it runs. -/
def MemberBody.rearranging {n : Nat} (order : Equiv.Perm (Fin n)) : MemberBody H → MemberBody H
  | .method run => .method fun receiver arguments => run receiver (arguments.rearranged order)
  | .async start => .async fun receiver arguments => start receiver (arguments.rearranged order)
  | .property run => .property run

namespace Extension

variable (extension : Extension) (member : Member)
  (order : Equiv.Perm (Fin member.parameters.length)) (request : Request)

theorem argumentsFor_rearranged {arguments : Arguments}
    (supplied : request.argumentsFor member.parameters = .ok arguments) :
    request.argumentsFor (member.rearranged order).parameters =
      .ok (arguments.rearranged order) := by
  obtain ⟨suits, rfl⟩ := (Request.argumentsFor_eq_ok_iff_suits _ _ _).mp supplied
  refine (Request.argumentsFor_eq_ok_iff_suits _ _ _).mpr
    ⟨(request.suits_rearranged member order).mpr suits, ?_⟩
  rw [member.parameters_rearranged]
  simp [Arguments.rearranged, Arguments.get?, rearranged, List.map_ofFn, Function.comp_def]

theorem invocation_rearranged {arguments : Arguments}
    (supplied : request.argumentsFor member.parameters = .ok arguments) :
    extension.invocation (member.rearranged order) request =
      (extension.invocation member request).map fun call =>
        (call.1, call.2.rearranged order) := by
  have receiver : extension.receiverIn (member.rearranged order) request =
      extension.receiverIn member request := rfl
  rw [invocation, invocation, supplied, argumentsFor_rearranged member order request supplied,
    receiver]
  cases extension.receiverIn member request <;> rfl

theorem resolution_rearranged {arguments : Arguments}
    (supplied : request.argumentsFor member.parameters = .ok arguments) (body : MemberBody H) :
    extension.resolution (member.rearranged order) request body =
      extension.resolution member request (body.rearranging order) := by
  have invocations := extension.invocation_rearranged member order request supplied
  cases body with
  | property run => rfl
  | method run =>
      simp only [MemberBody.rearranging, resolution, invocations]
      cases extension.invocation member request <;> rfl
  | async start =>
      simp only [MemberBody.rearranging, resolution, invocations]
      cases extension.invocation member request <;> rfl

end Extension

namespace Dispatcher

theorem exists_ofPlan {plan : ResolverPlan} {body : MemberBody H}
    (matching : body.kind = plan.kind) (handle : Nat) :
    ∃ dispatcher, ofPlan handle plan body = .ok dispatcher := by
  obtain ⟨name, kind, receiver, arguments, type⟩ := plan
  cases matching
  cases body <;> exact ⟨_, rfl⟩

/-- What is asked of a request for a planned member. -/
theorem askArguments_of_planAs? {extension : Extension} {member : Member} {role : Extension.Role}
    {plan : ResolverPlan} (planned : extension.planAs? member role = some plan)
    (request : Request) :
    askArguments (request.toContext : FieldContext H) plan.arguments =
      .ofExcept (request.argumentsFor member.parameters) := by
  have planOf := Extension.isPlanOf_of_resolverPlan? (Extension.resolverPlan?_of_planAs? planned)
  rw [planOf.arguments, askArguments_toContext]

/-- What a dispatcher of a planned member does. -/
theorem resolution_of_planAs? {extension : Extension} {member : Member} {role : Extension.Role}
    {plan : ResolverPlan} (planned : extension.planAs? member role = some plan)
    {body : MemberBody H} {handle : Nat} {dispatcher : Dispatcher H}
    (made : ofPlan handle plan body = .ok dispatcher) (request : Request) :
    dispatcher.call request.toContext = extension.resolution member request body := by
  obtain ⟨kind, type, -, success⟩ :=
    Extension.resolverPlan?_eq_some (Extension.resolverPlan?_of_planAs? planned)
  exact (resolution_of_ofPlan success made).2 request

end Dispatcher

namespace Extension

/-- Parameters may be put in any order. The member is planned as before or refused as before. Its
slots move and are numbered anew. A request supplies the arguments in both orders or in neither, and
if it does, the body gets them in the order of its parameters, with the same receiver. -/
theorem binds_rearranged_parameters (H : Host) (extension : Extension) (member : Member)
    (order : Equiv.Perm (Fin member.parameters.length)) :
    (∀ role, (extension.planAs? (member.rearranged order) role).isSome =
      (extension.planAs? member role).isSome) ∧
    ∀ role plan other, extension.planAs? member role = some plan →
      extension.planAs? (member.rearranged order) role = some other →
        plan.IsRearranged order other ∧
        (∀ request : Request,
          Dispatcher.askArguments (request.toContext : FieldContext H) plan.arguments =
              .ofExcept (request.argumentsFor member.parameters) ∧
            Dispatcher.askArguments (request.toContext : FieldContext H) other.arguments =
              .ofExcept (request.argumentsFor (member.rearranged order).parameters) ∧
            request.BindsRearranged member order) ∧
        ∀ (body : MemberBody H) (handle : Nat), body.kind = plan.kind →
          ∃ original dispatcher,
            Dispatcher.ofPlan handle plan (body.rearranging order) = .ok original ∧
            Dispatcher.ofPlan handle other body = .ok dispatcher ∧
            ∀ request : Request,
              (∃ arguments, request.argumentsFor member.parameters = .ok arguments) →
                dispatcher.call request.toContext = original.call request.toContext := by
  refine ⟨extension.isSome_planAs?_rearranged member order, ?_⟩
  intro role plan other planned otherPlanned
  have moved := isRearranged_of_planAs? order planned otherPlanned
  refine ⟨moved, ?_, ?_⟩
  · intro request
    exact ⟨Dispatcher.askArguments_of_planAs? planned request,
      Dispatcher.askArguments_of_planAs? otherPlanned request,
      request.bindsRearranged member order⟩
  · intro body handle matching
    have rearrangingKind : (body.rearranging order).kind = plan.kind := by
      rw [← matching]
      cases body <;> rfl
    have otherKind : body.kind = other.kind := by
      rw [moved.rest]
      exact matching
    obtain ⟨original, made⟩ := Dispatcher.exists_ofPlan rearrangingKind handle
    obtain ⟨dispatcher, otherMade⟩ := Dispatcher.exists_ofPlan otherKind handle
    refine ⟨original, dispatcher, made, otherMade, ?_⟩
    rintro request ⟨arguments, supplied⟩
    rw [Dispatcher.resolution_of_planAs? planned made,
      Dispatcher.resolution_of_planAs? otherPlanned otherMade,
      extension.resolution_rearranged member order request supplied]

end Extension

namespace Sample

def related : Member :=
  (Member.method "Related" (.value ⟨"String"⟩)).asStatic
    |>.withParameter (.argument "first" "Int")
    |>.withParameter (.argument "after" "ID!")

def swapped : Equiv.Perm (Fin related.parameters.length) :=
  (Equiv.swap 0 1 : Equiv.Perm (Fin 2))

/-- Answers with its first argument. -/
def echo : MemberBody host := .staticMethod fun arguments => .ofExcept (arguments.value 0)

def page : Request :=
  ((Request.new ⟨0⟩).withArgument "first" (.int 2)).withArgument "after" (.string "x")

/-- Both parameters change their places, and the body gets the identifier first. -/
theorem binds_rearranged_parameters_swapped :
    ∃ plan other original dispatcher,
      (Extension.ofType "Product").planAs? related .field = some plan ∧
      (Extension.ofType "Product").planAs? (related.rearranged swapped) .field = some other ∧
      plan.IsRearranged swapped other ∧
      page.argumentsFor related.parameters = .ok ⟨[.int 2, .string "x"]⟩ ∧
      Dispatcher.ofPlan 0 plan (echo.rearranging swapped) = .ok original ∧
      Dispatcher.ofPlan 0 other echo = .ok dispatcher ∧
      dispatcher.call page.toContext = original.call page.toContext ∧
      dispatcher.call page.toContext = pure (.completed (.ok (.string "x"))) := by
  let plan (member : Member) : ResolverPlan :=
    ⟨⟨"Product", "Related", 2⟩, .sync, .static "Product", .ofParameters member.parameters,
      ⟨"String"⟩⟩
  have planned : (Extension.ofType "Product").planAs? related .field = some (plan related) := by
    decide +kernel
  have otherPlanned : (Extension.ofType "Product").planAs? (related.rearranged swapped) .field =
      some (plan (related.rearranged swapped)) := by
    decide +kernel
  have supplied : page.argumentsFor related.parameters = .ok ⟨[.int 2, .string "x"]⟩ := rfl
  obtain ⟨-, moves⟩ :=
    Extension.binds_rearranged_parameters host (.ofType "Product") related swapped
  obtain ⟨moved, -, bodies⟩ := moves .field _ _ planned otherPlanned
  obtain ⟨original, dispatcher, made, otherMade, same⟩ := bodies echo 0 rfl
  refine ⟨_, _, original, dispatcher, planned, otherPlanned, moved, supplied, made, otherMade,
    same page ⟨_, supplied⟩, ?_⟩
  cases otherMade
  rfl

end Sample

end FieldDispatch
