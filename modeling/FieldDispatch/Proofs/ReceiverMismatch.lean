import FieldDispatch.Proofs.Arguments
import FieldDispatch.Proofs.Schedule
import FieldDispatch.Proofs.SchemaRegistration

/-!
Receivers that do not fit. A function on objects of one host type stands behind two tests: the
request must have a parent of the runtime type, and that parent must be an object of the host type.
Whichever fails, the function is not run and the mismatch is the answer. The answer is there at once
but in one case. An asynchronous body tests the host type in the future that it starts, so that a
poll is needed to learn of the mismatch, and a cancellation before that poll hides it.
-/

namespace FieldDispatch

variable {H : Host} {D : Type}

/-- A body made from a function on objects of one host type. -/
inductive MemberBody.TakesObject (hostType : String) : MemberBody H → Prop
  | method (run : HostRef → Arguments → Attempt H.Env Value) :
      TakesObject hostType (.instanceMethod hostType run)
  | async (start : HostRef → Arguments → Action H.Env (Future H.Task)) :
      TakesObject hostType (.instanceAsync hostType start)
  | property (run : HostRef → Action H.Env Value) :
      TakesObject hostType (.instanceProperty hostType run)

namespace Request

/-- A request that has no receiver for functions on objects of a host type, and what is wrong. -/
inductive LacksReceiver (request : Request) (runtimeType hostType : String) : ResolverError → Prop
  | noParent (absent : request.parent = none) :
      LacksReceiver request runtimeType hostType (.receiverMismatch runtimeType .noParent)
  | otherType {parent : ObjectRef} (present : request.parent = some parent)
      (other : parent.typeName ≠ runtimeType) :
      LacksReceiver request runtimeType hostType
        (.receiverMismatch runtimeType (.parent parent.typeName))
  | otherHost {parent : ObjectRef} (present : request.parent = some parent)
      (named : parent.typeName = runtimeType) (other : parent.host.hostType ≠ hostType) :
      LacksReceiver request runtimeType hostType
        (.receiverMismatch hostType (.hostObject parent.typeName))

/-- The request itself refuses the parent, or the body does so with the parent it is given. -/
theorem LacksReceiver.refusal {request : Request} {runtimeType hostType : String}
    {error : ResolverError} (lacking : request.LacksReceiver runtimeType hostType error) :
    request.parentOf runtimeType = .error error ∨
      ∃ parent, request.parentOf runtimeType = .ok parent ∧
        unwrapReceiver hostType (some parent) = .error error := by
  cases lacking with
  | noParent absent =>
      left
      rw [parentOf, absent]
  | otherType present other =>
      left
      rw [parentOf, present]
      exact if_neg other
  | @otherHost parent present named other =>
      right
      refine ⟨parent, ?_, ?_⟩
      · rw [parentOf, present]
        exact if_pos named
      · have free : parent.downcast? hostType = none := if_neg other
        rw [unwrapReceiver, free]

end Request

namespace Extension

variable {extension : Extension} {member : Member} {request : Request} {body : MemberBody H}
  {hostType : String} {error : ResolverError} {arguments : Arguments} {world : World H.Env}

theorem receiverIn_of_instance (onInstance : member.isStatic = false) :
    extension.receiverIn member request =
      (request.parentOf extension.runtimeType).map some := by
  rw [receiverIn, onInstance]
  exact if_neg Bool.false_ne_true

theorem invocation_of_supplied (supplied : request.Supplies member.parameters arguments) :
    extension.invocation member request =
      (extension.receiverIn member request).map fun receiver => (receiver, arguments) := by
  rw [invocation, (request.argumentsFor_eq_ok_iff _ _).mpr supplied]

/-- A parent that the request refuses is refused to every body. -/
theorem run_resolution_of_refused (onInstance : member.isStatic = false)
    (supplied : request.Supplies member.parameters arguments)
    (refused : request.parentOf extension.runtimeType = .error error)
    (quiet : request.token ∉ world.fired) :
    (extension.resolution member request body).run world = (.completed (.error error), world) := by
  have receiver : extension.receiverIn member request = .error error := by
    rw [receiverIn_of_instance onInstance, refused]
    rfl
  have invocation : extension.invocation member request = .error error := by
    rw [invocation_of_supplied supplied, receiver]
    rfl
  cases body with
  | method run =>
      rw [resolution, invocation]
      rfl
  | property run =>
      rw [resolution, receiver]
      rfl
  | async start =>
      have unseen : world.isFired request.token = false := decide_eq_false quiet
      rw [resolution, Action.run_bind, Resolution.run_isFired, unseen, invocation]
      rfl

/-- An object of another host type is handed to the body, which does not hand it on. An asynchronous
body says so only in the future that it starts. -/
theorem run_resolution_of_otherHost (typed : body.TakesObject hostType)
    (onInstance : member.isStatic = false)
    (supplied : request.Supplies member.parameters arguments) {parent : ObjectRef}
    (accepted : request.parentOf extension.runtimeType = .ok parent)
    (unwrapped : unwrapReceiver hostType (some parent) = .error error)
    (quiet : request.token ∉ world.fired) :
    (extension.resolution member request body).run world =
      (if body.kind = .async then .suspended request.token (some (.finished (.error error)))
        else .completed (.error error), world) := by
  have receiver : extension.receiverIn member request = .ok (some parent) := by
    rw [receiverIn_of_instance onInstance, accepted]
    rfl
  have invocation : extension.invocation member request = .ok (some parent, arguments) := by
    rw [invocation_of_supplied supplied, receiver]
    rfl
  cases typed with
  | method run =>
      rw [MemberBody.instanceMethod, resolution, invocation]
      dsimp only
      rw [unwrapped]
      rfl
  | property run =>
      rw [MemberBody.instanceProperty, resolution, receiver]
      dsimp only
      rw [unwrapped]
      rfl
  | async start =>
      have unseen : world.isFired request.token = false := decide_eq_false quiet
      rw [MemberBody.instanceAsync, resolution, Action.run_bind, Resolution.run_isFired, unseen,
        invocation]
      dsimp only
      rw [unwrapped]
      rfl

end Extension

/-- The first poll of a failure answers with it, or with a cancellation if the failure had to be
waited for. -/
theorem Resolution.run_poll_refusal {resolution : Resolution H.Task} {error : ResolverError}
    {token : Token} (refusal : resolution = .completed (.error error) ∨
      resolution = .suspended token (some (.finished (.error error)))) (world : World H.Env) :
    ∃ rest, resolution.poll.run world =
      ((.ready (.error (if resolution.isCompleted = false ∧ token ∈ world.fired
        then .cancelled else error)), rest), world) := by
  rcases refusal with rfl | rfl
  · exact ⟨.consumed, rfl⟩
  · have polled : (Future.finished (.error error) : Future H.Task).poll.run world =
        (.finished (.error error), world) := rfl
    refine ⟨.suspended token none, ?_⟩
    by_cases fired : token ∈ world.fired
    · rw [if_pos ⟨rfl, fired⟩]
      exact run_poll_of_fired _ world fired
    · rw [if_neg fun both => fired both.2]
      have answer := run_poll_of_finished world fired polled
      rwa [if_neg fired] at answer

namespace CompiledExtension

/-- The dispatchers of a compiled extension, each with the member that it resolves. -/
inductive Resolves (extension : Extension) (compiled : CompiledExtension H D) :
    Member → Dispatcher H → Prop
  | field {member : Member} {dispatcher : Dispatcher H} (declared : member ∈ extension.members)
      (found : compiled.dispatcher? member.name = some dispatcher) :
      Resolves extension compiled member dispatcher
  | node {member : Member} {dispatcher : Dispatcher H}
      (declared : extension.nodeResolver = some member)
      (found : compiled.nodeDispatcher? = some dispatcher) :
      Resolves extension compiled member dispatcher

variable {policy : Policy} {extension : Extension} {bodies : Bodies H}
  {compiled : CompiledExtension H D} {member : Member} {dispatcher : Dispatcher H}

/-- The entry found under the name of a declared member was made from that member. -/
theorem IsCompiled.entry_of_declared (made : compiled.IsCompiled policy extension bodies)
    (declared : member ∈ extension.members)
    (found : compiled.dispatcher? member.name = some dispatcher) :
    ∃ entry ∈ compiled.table.entries, entry.dispatcher = dispatcher ∧
      extension.resolverPlan? member = some entry.plan := by
  obtain ⟨entry, present, key, same⟩ := (compiled.dispatcher?_eq_some_iff _ _).mp found
  have planPresent : entry.plan ∈ (extension.plan policy).1.resolvers := by
    rw [← made.tablePlans]
    exact List.mem_map_of_mem present
  obtain ⟨other, resolvable, planned⟩ :=
    (Extension.resolvers_of_clean_plan made.clean).member_of_mem planPresent
  obtain ⟨distinct, -, -⟩ :=
    Extension.members_of_clean (Extension.clean_of_clean_plan made.clean)
  have named : other.name = member.name := by
    rw [← Extension.memberName_of_resolverPlan? planned]
    exact congrArg Prod.snd key
  have unique : other = member :=
    List.inj_on_of_nodup_map distinct (List.mem_of_mem_filter resolvable) declared named
  exact ⟨entry, present, same, unique ▸ planned⟩

theorem Resolves.exists_body (resolves : compiled.Resolves extension member dispatcher)
    (made : compiled.IsCompiled policy extension bodies) :
    ∃ body, bodies.get? member.name = some body ∧ ∀ request : Request,
      dispatcher.call request.toContext = extension.resolution member request body := by
  cases resolves with
  | field declared found =>
      obtain ⟨entry, present, rfl, planned⟩ := made.entry_of_declared declared found
      obtain ⟨kind, type, classified, planMade⟩ := Extension.resolverPlan?_eq_some planned
      obtain ⟨handle, bound⟩ := made.tableBound entry present
      obtain ⟨body, bodyFound, -, resolution⟩ :=
        ResolverPlan.resolution_of_bind classified planMade bound
      exact ⟨body, bodyFound, resolution⟩
  | node declared found =>
      obtain ⟨node, nodeMade, planned⟩ := made.node_of_declared.2 member declared
      rw [nodeDispatcher?, nodeMade] at found
      cases found
      obtain ⟨kind, type, classified, -, -, planMade⟩ := Extension.planNode_eq_ok planned
      obtain ⟨handle, bound⟩ := made.nodeBound node nodeMade
      obtain ⟨body, bodyFound, -, resolution⟩ :=
        ResolverPlan.resolution_of_bind classified planMade bound
      exact ⟨body, bodyFound, resolution⟩

/-- A call that lacks a receiver for its function leaves the world alone, and so does every poll of
what it gives: the function is not run. The mismatch is there at once, unless an asynchronous body
was given a parent of the runtime type. Then the first poll answers with it, or with the
cancellation that came before. -/
theorem call_of_lacksReceiver {first : Nat}
    (success : extension.compile policy bodies first = .ok compiled)
    (resolves : compiled.Resolves extension member dispatcher)
    (onInstance : member.isStatic = false) {body : MemberBody H}
    (bound : bodies.get? member.name = some body) {hostType : String}
    (typed : body.TakesObject hostType) {request : Request} {arguments : Arguments}
    (supplied : request.Supplies member.parameters arguments) {error : ResolverError}
    (lacking : request.LacksReceiver extension.runtimeType hostType error)
    {world : World H.Env} (quiet : request.token ∉ world.fired) :
    ∃ resolution : Resolution H.Task,
      (dispatcher.call request.toContext).run world = (resolution, world) ∧
      (resolution = .completed (.error error) ∨
        resolution = .suspended request.token (some (.finished (.error error)))) ∧
      (resolution.isCompleted = false ↔
        body.kind = .async ∧ ∃ parent, request.parentOf extension.runtimeType = .ok parent) ∧
      ∀ later : World H.Env, ∃ rest, resolution.poll.run later =
        ((.ready (.error (if resolution.isCompleted = false ∧ request.token ∈ later.fired
          then .cancelled else error)), rest), later) := by
  obtain ⟨other, found, calls⟩ := resolves.exists_body (Extension.compile_eq_ok success)
  cases bound.symm.trans found
  rw [calls request]
  rcases lacking.refusal with refused | ⟨parent, accepted, unwrapped⟩
  · refine ⟨_, Extension.run_resolution_of_refused onInstance supplied refused quiet, .inl rfl,
      ?_, fun later => Resolution.run_poll_refusal (.inl rfl) later⟩
    simp [Resolution.isCompleted, refused]
  · have run := Extension.run_resolution_of_otherHost typed onInstance supplied accepted unwrapped
      quiet
    by_cases suspends : body.kind = .async
    · rw [if_pos suspends] at run
      refine ⟨_, run, .inr rfl, ?_, fun later => Resolution.run_poll_refusal (.inr rfl) later⟩
      simp [Resolution.isCompleted, suspends, accepted]
    · rw [if_neg suspends] at run
      refine ⟨_, run, .inl rfl, ?_, fun later => Resolution.run_poll_refusal (.inl rfl) later⟩
      simp [Resolution.isCompleted, suspends]

end CompiledExtension

namespace Sample

def reviews : Member := .method "Reviews" (.future (some ⟨"[Review!]"⟩))

def reviewed : Extension :=
  ((Extension.ofType "Product").withMember (.property "Price" "Float")).withMember reviews

/-- Bodies on objects of the host type `Record`. -/
def reviewedBodies : Bodies host :=
  OrderedMap.empty
    |>.insert "Price" (.instanceProperty "Record" fun _ => pure .null)
    |>.insert "Reviews" (.instanceAsync "Record" fun _ _ => pure (.running (2 : Nat)))

/-- A request with a product that is no record. -/
def misfit : Request := (Request.new ⟨0⟩).withParent ⟨"Product", ⟨"Opaque", "h"⟩⟩

theorem reviewed_compiles :
    ∃ (compiled : CompiledExtension host (ObjectType host)) (price later : Dispatcher host),
      reviewed.compile .skip reviewedBodies 0 = .ok compiled ∧
        compiled.dispatcher? "Price" = some price ∧
        compiled.dispatcher? "Reviews" = some later := by
  have compiles : ((reviewed.compile .skip reviewedBodies 0).toOption.map
      fun compiled : CompiledExtension host (ObjectType host) =>
        ((compiled.dispatcher? "Price").isSome, (compiled.dispatcher? "Reviews").isSome)) =
          some (true, true) := by
    decide +kernel
  obtain ⟨compiled, found, facts⟩ := Option.map_eq_some_iff.mp compiles
  obtain ⟨hasPrice, hasLater⟩ := Prod.mk.inj facts
  obtain ⟨price, priceFound⟩ := Option.isSome_iff_exists.mp hasPrice
  obtain ⟨later, laterFound⟩ := Option.isSome_iff_exists.mp hasLater
  exact ⟨compiled, price, later, (toOption_eq_some_iff _ _).mp found, priceFound, laterFound⟩

theorem misfit_lacksReceiver : misfit.LacksReceiver "Product" "Record"
    (.receiverMismatch "Record" (.hostObject "Product")) := by
  have present : misfit.parent = some ⟨"Product", ⟨"Opaque", "h"⟩⟩ := rfl
  have other : "Opaque" ≠ "Record" := by decide
  exact .otherHost present rfl other

/-- A future is started for a product that is no record. The mismatch is not there at once, and a
cancellation before the first poll takes its place. -/
theorem mismatch_awaits_poll :
    ∃ (compiled : CompiledExtension host (ObjectType host)) (dispatcher : Dispatcher host),
      reviewed.compile .skip reviewedBodies 0 = .ok compiled ∧
        compiled.Resolves reviewed reviews dispatcher ∧ reviews.isStatic = false ∧
        (∃ body, reviewedBodies.get? "Reviews" = some body ∧ body.TakesObject "Record") ∧
        misfit.Supplies reviews.parameters ⟨[]⟩ ∧
        misfit.LacksReceiver "Product" "Record"
          (.receiverMismatch "Record" (.hostObject "Product")) ∧
        ∃ resolution : Resolution host.Task,
          (dispatcher.call misfit.toContext).run ⟨(), []⟩ = (resolution, ⟨(), []⟩) ∧
            resolution.isCompleted = false ∧ resolution.completed? = none ∧
            (resolution.poll.run ⟨(), [misfit.token]⟩).1.1 = .ready (.error .cancelled) := by
  obtain ⟨compiled, -, dispatcher, success, -, found⟩ := reviewed_compiles
  have declared : reviews ∈ reviewed.members := by decide
  have resolves : compiled.Resolves reviewed reviews dispatcher := .field declared found
  obtain ⟨body, bound, calls⟩ := resolves.exists_body (Extension.compile_eq_ok success)
  cases bound
  have supplied : misfit.Supplies reviews.parameters ⟨[]⟩ :=
    (misfit.argumentsFor_eq_ok_iff _ _).mp rfl
  refine ⟨compiled, dispatcher, success, resolves, rfl, ⟨_, rfl, .async _⟩, supplied,
    misfit_lacksReceiver, .suspended ⟨0⟩ (some (.finished (.error
      (.receiverMismatch "Record" (.hostObject "Product"))))), ?_, rfl, rfl, rfl⟩
  rw [calls]
  rfl

end Sample

/-- The property of the same product answers at once, and a cancellation comes too late for it. -/
theorem CompiledExtension.call_of_lacksReceiver_property :
    ∃ (compiled : CompiledExtension Sample.host (ObjectType Sample.host))
      (dispatcher : Dispatcher Sample.host) (resolution : Resolution Sample.host.Task),
      Sample.reviewed.compile .skip Sample.reviewedBodies 0 = .ok compiled ∧
        compiled.dispatcher? "Price" = some dispatcher ∧
        (dispatcher.call Sample.misfit.toContext).run ⟨(), []⟩ = (resolution, ⟨(), []⟩) ∧
        resolution.isCompleted = true ∧
        (resolution.poll.run ⟨(), [Sample.misfit.token]⟩).1.1 =
          .ready (.error (.receiverMismatch "Record" (.hostObject "Product"))) := by
  obtain ⟨compiled, dispatcher, -, success, found, -⟩ := Sample.reviewed_compiles
  have declared : Member.property "Price" "Float" ∈ Sample.reviewed.members := by decide
  have supplied : Sample.misfit.Supplies (Member.property "Price" "Float").parameters ⟨[]⟩ :=
    (Sample.misfit.argumentsFor_eq_ok_iff _ _).mp rfl
  have quiet : Sample.misfit.token ∉ (⟨(), []⟩ : World Sample.host.Env).fired := List.not_mem_nil
  obtain ⟨resolution, run, -, waits, polls⟩ := call_of_lacksReceiver success
    (.field declared found) rfl rfl (.property _) supplied Sample.misfit_lacksReceiver quiet
  have completed : resolution.isCompleted = true := by
    rw [← Bool.not_eq_false, waits]
    rintro ⟨asynchronous, -⟩
    cases asynchronous
  obtain ⟨rest, polled⟩ := polls ⟨(), [Sample.misfit.token]⟩
  refine ⟨compiled, dispatcher, resolution, success, found, run, completed, ?_⟩
  rw [polled, completed]
  rfl

end FieldDispatch
