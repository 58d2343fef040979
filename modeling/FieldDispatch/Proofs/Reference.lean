import FieldDispatch.Proofs.Planning
import FieldDispatch.Dispatch.Dispatcher

/-!
What resolving a member in a request is to mean, said of the description alone: no slots, plans or
contexts. Dispatchers made from the plan of a member do exactly that.
-/

namespace FieldDispatch

def error? : Outcome → Option ResolverError
  | .ok _ => none
  | .error error => some error

/-- The values of outcomes that are all values, else the first error among them. -/
def collect (outcomes : List Outcome) : Except ResolverError (List Value) :=
  match outcomes.findSome? error? with
  | some error => .error error
  | none => .ok (outcomes.filterMap Except.toOption)

theorem collect_cons_ok (value : Value) (rest : List Outcome) :
    collect (.ok value :: rest) = (collect rest).map (value :: ·) := by
  have head : error? (.ok value) = none := rfl
  unfold collect
  rw [List.findSome?_cons, head]
  cases rest.findSome? error? <;> rfl

/-- The arguments of a request for parameters: for each the value that the request has for it, if
that conforms to the declared type. The first that does not is the error. -/
def Request.argumentsFor (request : Request) (parameters : List Parameter) :
    Except ResolverError Arguments :=
  (collect (parameters.mapIdx fun position parameter =>
    request.bind (Slot.ofParameter position parameter))).map Arguments.mk

namespace Extension

/-- A static member has no receiver, any other one the parent of the runtime type. -/
def receiverIn (extension : Extension) (member : Member) (request : Request) :
    Except ResolverError (Option ObjectRef) :=
  if member.isStatic then .ok none else (request.parentOf extension.runtimeType).map some

/-- What a method is called with. Mistakes in its arguments come before one in its receiver. -/
def invocation (extension : Extension) (member : Member) (request : Request) :
    Except ResolverError (Option ObjectRef × Arguments) :=
  match request.argumentsFor member.parameters with
  | .error error => .error error
  | .ok arguments => (extension.receiverIn member request).map fun receiver => (receiver, arguments)

/-- Resolving a member with a body in a request. A future is started and left to be polled; a
request that was cancelled before does not start one. -/
def resolution {H : Host} (extension : Extension) (member : Member) (request : Request) :
    MemberBody H → Action H.Env (Resolution H.Task)
  | .property run =>
      match extension.receiverIn member request with
      | .error error => return .completed (.error error)
      | .ok receiver => return .completed (← (run receiver).run)
  | .method run =>
      match extension.invocation member request with
      | .error error => return .completed (.error error)
      | .ok (receiver, arguments) => return .completed (← (run receiver arguments).run)
  | .async start => do
      if ← Action.isFired request.token then return .completed (.error .cancelled)
      match extension.invocation member request with
      | .error error => return .completed (.error error)
      | .ok (receiver, arguments) =>
          return .suspended request.token (some (← start receiver arguments))

end Extension

theorem ArgumentPlan.slotsFrom_eq_mapIdx (first : Nat) (parameters : List Parameter) :
    slotsFrom first parameters =
      parameters.mapIdx fun position parameter => Slot.ofParameter (first + position) parameter := by
  induction parameters generalizing first with
  | nil => rfl
  | cons parameter rest induction =>
      have counted (position : Nat) : first + 1 + position = first + (position + 1) := by omega
      rw [slotsFrom, List.mapIdx_cons, induction]
      simp only [counted]
      rfl

namespace Attempt

variable {Env α β : Type}

theorem run_ofExcept_bind (result : Except ResolverError α) (next : α → Attempt Env β) :
    (ofExcept result >>= next).run =
      match result with
      | .ok value => (next value).run
      | .error error => pure (.error error) := by
  have opened : (ofExcept result : Attempt Env α).run = pure result := rfl
  rw [ExceptT.run_bind, opened, pure_bind]
  cases result <;> rfl

end Attempt

namespace Dispatcher

variable {H : Host}

theorem askSlots_toContext (request : Request) (slots : List Slot) :
    askSlots (request.toContext : FieldContext H) slots =
      .ofExcept (collect (slots.map request.bind)) := by
  induction slots with
  | nil => rfl
  | cons slot rest induction =>
      have answer : (request.toContext : FieldContext H).argument slot =
          .ofExcept (request.bind slot) := rfl
      rw [askSlots, induction, answer, List.map_cons]
      apply ExceptT.ext
      rw [Attempt.run_ofExcept_bind]
      cases request.bind slot with
      | error error => rfl
      | ok value =>
          rw [collect_cons_ok]
          dsimp only
          rw [Attempt.run_ofExcept_bind]
          cases collect (rest.map request.bind) <;> rfl

theorem askArguments_toContext (request : Request) (parameters : List Parameter) :
    askArguments (request.toContext : FieldContext H) (ArgumentPlan.ofParameters parameters) =
      .ofExcept (request.argumentsFor parameters) := by
  have answers : (ArgumentPlan.ofParameters parameters).slots.map request.bind =
      parameters.mapIdx fun position parameter =>
        request.bind (Slot.ofParameter position parameter) := by
    rw [ArgumentPlan.ofParameters, ArgumentPlan.slotsFrom_eq_mapIdx]
    apply List.ext_getElem <;> simp
  rw [askArguments, askSlots_toContext, answers, Request.argumentsFor]
  apply ExceptT.ext
  rw [Attempt.run_ofExcept_bind]
  cases collect _ <;> rfl

theorem askReceiver_toContext (request : Request) (extension : Extension) (member : Member) :
    askReceiver (request.toContext : FieldContext H) (extension.receiver member) =
      .ofExcept (extension.receiverIn member request) := by
  unfold Extension.receiver Extension.receiverIn
  split
  · rfl
  · have answer : (request.toContext : FieldContext H).parent extension.runtimeType =
        .ofExcept (request.parentOf extension.runtimeType) := rfl
    rw [askReceiver, answer]
    apply ExceptT.ext
    rw [Attempt.run_ofExcept_bind]
    cases request.parentOf extension.runtimeType <;> rfl

/-- Asking for the arguments and then for the receiver, before whatever comes next. -/
theorem ask_toContext {α : Type} (request : Request) (extension : Extension) (member : Member)
    (next : Option ObjectRef → Arguments → Attempt H.Env α) :
    ExceptT.run (do
      let arguments ← askArguments (request.toContext : FieldContext H)
        (ArgumentPlan.ofParameters member.parameters)
      let receiver ← askReceiver request.toContext (extension.receiver member)
      next receiver arguments) =
      match extension.invocation member request with
      | .ok (receiver, arguments) => (next receiver arguments).run
      | .error error => pure (.error error) := by
  rw [askArguments_toContext, askReceiver_toContext, Attempt.run_ofExcept_bind,
    Extension.invocation]
  cases request.argumentsFor member.parameters with
  | error error => rfl
  | ok arguments =>
      dsimp only
      rw [Attempt.run_ofExcept_bind]
      cases extension.receiverIn member request <;> rfl

/-- A dispatcher made from the plan of a member resolves the member, and its body is of the kind
that the description asks for. -/
theorem resolution_of_ofPlan {extension : Extension} {member : Member} {kind : ResolverKind}
    {type : TypeText} {plan : ResolverPlan} {body : MemberBody H} {handle : Nat}
    {dispatcher : Dispatcher H} (planned : extension.planResolver member kind type = .ok plan)
    (made : ofPlan handle plan body = .ok dispatcher) :
    body.kind = kind ∧
      ∀ request : Request,
        dispatcher.call request.toContext = extension.resolution member request body := by
  rw [Extension.planResolver_eq_ok planned] at made
  cases body with
  | method run =>
      cases kind <;> cases made
      refine ⟨rfl, ?_⟩
      intro request
      change callMethod _ run request.toContext = _
      rw [callMethod, ask_toContext, Extension.resolution]
      cases extension.invocation member request <;> simp
  | async start =>
      cases kind <;> cases made
      refine ⟨rfl, ?_⟩
      intro request
      change callAsync _ start request.toContext = _
      have token : (request.toContext : FieldContext H).token = pure request.token := rfl
      rw [callAsync, token, pure_bind, Extension.resolution]
      congr 1
      funext fired
      cases fired with
      | true => rfl
      | false =>
          simp only [Bool.false_eq_true, if_false]
          rw [ask_toContext]
          cases extension.invocation member request <;>
            simp [Resolution.failed, Resolution.cancellable]
  | property run =>
      cases kind <;> cases made
      refine ⟨rfl, ?_⟩
      intro request
      change callProperty _ run request.toContext = _
      rw [callProperty, askReceiver_toContext, Attempt.run_ofExcept_bind, Extension.resolution]
      cases extension.receiverIn member request <;> simp

end Dispatcher

end FieldDispatch
