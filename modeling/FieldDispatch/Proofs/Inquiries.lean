import FieldDispatch.Proofs.Outcome
import FieldDispatch.Proofs.Schedule

/-!
What a dispatcher asks, and in which order. So that its questions can be seen, the dispatcher is made
once more for a host that keeps a record: context and body do there what they do here, and each
question is put into the record with what came of it. Nothing else is different. The record has the
questions of the plan up to the first that fails, and the answer of the dispatch is that failure or,
if there is none, what the body came to.
-/

namespace FieldDispatch

variable {H : Host}

/-- A question of a dispatcher. The last one it puts to the body, which it runs or starts. -/
inductive Question where
  | token
  | argument (slot : Slot)
  | parent (runtimeType : String)
  | run
  | start
  deriving DecidableEq

def Receiver.questions : Receiver → List Question
  | .static _ => []
  | .parent runtimeType => [.parent runtimeType]

/-- The questions that a dispatch asks if none of them fails. -/
def ResolverPlan.questions (plan : ResolverPlan) : List Question :=
  let slots := plan.arguments.slots.map Question.argument
  match plan.kind with
  | .sync => slots ++ plan.receiver.questions ++ [.run]
  | .async => .token :: (slots ++ plan.receiver.questions ++ [.start])
  | .property => plan.receiver.questions ++ [.run]

/-- A question with what came of it. A body that is run has an outcome, one that is started leaves a
future. -/
inductive Inquiry (H : Host) where
  | token (token : Token) (fired : Bool)
  | argument (slot : Slot) (answer : Except ResolverError Value)
  | parent (runtimeType : String) (answer : Except ResolverError ObjectRef)
  | run (receiver : Option ObjectRef) (arguments : Arguments) (answer : Outcome)
  | start (receiver : Option ObjectRef) (arguments : Arguments) (future : Future H.Task)

namespace Inquiry

def question : Inquiry H → Question
  | .token _ _ => .token
  | .argument slot _ => .argument slot
  | .parent runtimeType _ => .parent runtimeType
  | .run _ _ _ => .run
  | .start _ _ _ => .start

/-- What is wrong with the answer, if anything is. -/
def error? : Inquiry H → Option ResolverError
  | .token _ fired => if fired then some .cancelled else none
  | .argument _ answer => failure? answer
  | .parent _ answer => failure? answer
  | .run _ _ answer => failure? answer
  | .start _ _ _ => none

def value? : Inquiry H → Option Value
  | .argument _ answer => answer.toOption
  | _ => none

def object? : Inquiry H → Option ObjectRef
  | .parent _ answer => answer.toOption
  | _ => none

end Inquiry

/-- The questions of a list are asked one after the other, up to the first that fails. -/
inductive Asked : List Question → List (Inquiry H) → Option ResolverError → Prop
  | done : Asked [] [] none
  | failed {inquiry : Inquiry H} {error : ResolverError} (rest : List Question)
      (failure : inquiry.error? = some error) :
      Asked (inquiry.question :: rest) [inquiry] (some error)
  | next {inquiry : Inquiry H} {rest : List Question} {inquiries : List (Inquiry H)}
      {failure : Option ResolverError} (success : inquiry.error? = none)
      (later : Asked rest inquiries failure) :
      Asked (inquiry.question :: rest) (inquiry :: inquiries) failure

namespace Asked

variable {questions : List Question} {inquiries : List (Inquiry H)}

theorem append {more : List Question} {others : List (Inquiry H)} {failure : Option ResolverError}
    (first : Asked questions inquiries none) (later : Asked more others failure) :
    Asked (questions ++ more) (inquiries ++ others) failure := by
  generalize nothing : none = complete at first
  induction first with
  | done => exact later
  | failed => cases nothing
  | next success _ induction => exact .next success (induction nothing)

/-- After a failure no further question is asked. -/
theorem append_of_failure {error : ResolverError} (first : Asked questions inquiries (some error))
    (more : List Question) : Asked (questions ++ more) inquiries (some error) := by
  generalize found : some error = failure at first ⊢
  induction first with
  | done => cases found
  | failed rest failure => exact .failed (rest ++ more) failure
  | next success _ induction => exact .next success (induction found)

theorem single {inquiry : Inquiry H} {question : Question} (same : inquiry.question = question) :
    Asked [question] [inquiry] inquiry.error? := by
  rw [← same]
  cases outcome : inquiry.error? with
  | none => exact .next outcome .done
  | some error => exact .failed [] outcome

end Asked

/-! ## The record -/

/-- A host like `H` with a record of inquiries beside its environment. Its work leaves the record
alone. -/
def Host.recording (H : Host) : Host where
  Env := H.Env × List (Inquiry H)
  Task := H.Task
  advance task := fun world =>
    let effect := H.advance task ⟨world.env.1, world.fired⟩
    ⟨effect.value, (effect.env, world.env.2), effect.fired⟩

/-- A world of `H` with a record. -/
def World.recorded (world : World H.Env) (record : List (Inquiry H)) : World H.recording.Env :=
  ⟨(world.env, record), world.fired⟩

/-- An action of `H` that is put into the record, with what it came to and the world it left. -/
def Action.recorded {α : Type} (action : Action H.Env α) (inquiry : α → World H.Env → Inquiry H) :
    Action H.recording.Env α := fun world =>
  let effect := action ⟨world.env.1, world.fired⟩
  let after : World H.Env := ⟨effect.env, effect.fired ++ world.fired⟩
  ⟨effect.value, (effect.env, world.env.2 ++ [inquiry effect.value after]), effect.fired⟩

def Attempt.recorded {α : Type} (attempt : Attempt H.Env α)
    (inquiry : Except ResolverError α → Inquiry H) : Attempt H.recording.Env α :=
  ExceptT.mk (Action.recorded attempt.run fun answer _ => inquiry answer)

/-- The same answers, and each of them in the record. A token is there with whether it was fired when
it was given. -/
def FieldContext.recorded (context : FieldContext H) : FieldContext H.recording where
  parent runtimeType := Attempt.recorded (context.parent runtimeType) (.parent runtimeType)
  argument slot := Attempt.recorded (context.argument slot) (.argument slot)
  token := Action.recorded context.token fun token world => .token token (world.isFired token)

/-- The same body, each call of it in the record. A property is given no arguments. -/
def MemberBody.recorded : MemberBody H → MemberBody H.recording
  | .method run => .method fun receiver arguments =>
      Attempt.recorded (run receiver arguments) (.run receiver arguments)
  | .async start => .async fun receiver arguments =>
      Action.recorded (start receiver arguments) fun future _ => .start receiver arguments future
  | .property run => .property fun receiver =>
      Attempt.recorded (run receiver) (.run receiver ⟨[]⟩)

theorem Action.run_recorded {α : Type} (action : Action H.Env α)
    (inquiry : α → World H.Env → Inquiry H) (world : World H.Env) (record : List (Inquiry H)) :
    (Action.recorded action inquiry).run (world.recorded record) =
      ((action.run world).1, (action.run world).2.recorded
        (record ++ [inquiry (action.run world).1 (action.run world).2])) := rfl

namespace Attempt

variable {α β : Type}

theorem run_bind {Env : Type} (attempt : Attempt Env α) (next : α → Attempt Env β)
    (world : World Env) :
    (attempt >>= next).run.run world =
      match (attempt.run.run world).1 with
      | .ok value => (next value).run.run (attempt.run.run world).2
      | .error error => (.error error, (attempt.run.run world).2) := by
  rw [ExceptT.run_bind, Action.run_bind]
  cases (attempt.run.run world).1 <;> rfl

/-- An attempt in two hosts. Both come to the same, and the one with a record asks the questions of
a list up to the first failure; if there is none, its inquiries and its value are as `reads` says. -/
def Asks (plain : Attempt H.Env α) (recording : Attempt H.recording.Env α)
    (questions : List Question) (reads : List (Inquiry H) → α → Prop) : Prop :=
  ∀ (world : World H.Env) (record : List (Inquiry H)), ∃ inquiries,
    recording.run.run (world.recorded record) =
      ((plain.run.run world).1, (plain.run.run world).2.recorded (record ++ inquiries)) ∧
    Asked questions inquiries (failure? (plain.run.run world).1) ∧
    ∀ value, (plain.run.run world).1 = .ok value → reads inquiries value

theorem asks_pure (value : α) :
    Asks (H := H) (pure value) (pure value) [] fun inquiries same => inquiries = [] ∧ same = value := by
  intro world record
  refine ⟨[], ?_, .done, ?_⟩
  · rw [List.append_nil]
    rfl
  · rintro same ⟨⟩
    exact ⟨rfl, rfl⟩

/-- A single question. -/
theorem asks_recorded (attempt : Attempt H.Env α) (inquiry : Except ResolverError α → Inquiry H)
    (question : Question) (asks : ∀ answer, (inquiry answer).question = question)
    (fails : ∀ answer, (inquiry answer).error? = failure? answer) :
    attempt.Asks (attempt.recorded inquiry) [question] fun inquiries value =>
      inquiries = [inquiry (.ok value)] := by
  intro world record
  refine ⟨[inquiry (attempt.run.run world).1], rfl, ?_, ?_⟩
  · rw [← fails]
    exact .single (asks _)
  · intro value answered
    rw [answered]

/-- A question whose answer is an action that does not fail. -/
theorem asks_started (action : Action H.Env α) (inquiry : α → Inquiry H) (question : Question)
    (asks : ∀ value, (inquiry value).question = question)
    (succeeds : ∀ value, (inquiry value).error? = none) :
    Asks (ExceptT.lift action) (ExceptT.lift (Action.recorded action fun value _ => inquiry value))
      [question] fun inquiries value => inquiries = [inquiry value] := by
  intro world record
  have answer : ((ExceptT.lift action : Attempt H.Env α).run.run world).1 =
      .ok (action.run world).1 := rfl
  refine ⟨[inquiry (action.run world).1], rfl, ?_, ?_⟩
  · have single := Asked.single (asks (action.run world).1)
    rwa [succeeds] at single
  · intro value answered
    rw [answer] at answered
    cases answered
    rfl

theorem Asks.bind {plain : Attempt H.Env α} {recording : Attempt H.recording.Env α}
    {questions more : List Question} {reads : List (Inquiry H) → α → Prop}
    {next : α → Attempt H.Env β} {nextRecording : α → Attempt H.recording.Env β}
    {readsNext : α → List (Inquiry H) → β → Prop} (first : plain.Asks recording questions reads)
    (later : ∀ value, (next value).Asks (nextRecording value) more (readsNext value)) :
    (plain >>= next).Asks (recording >>= nextRecording) (questions ++ more)
      fun inquiries result => ∃ earlier others value, inquiries = earlier ++ others ∧
        reads earlier value ∧ readsNext value others result := by
  intro world record
  obtain ⟨earlier, run, asked, read⟩ := first world record
  rw [run_bind, run_bind, run]
  cases outcome : (plain.run.run world).1 with
  | error error =>
      rw [outcome] at asked
      exact ⟨earlier, rfl, asked.append_of_failure more, fun _ contrary => nomatch contrary⟩
  | ok value =>
      rw [outcome] at asked
      obtain ⟨others, runNext, askedNext, readNext⟩ :=
        later value (plain.run.run world).2 (record ++ earlier)
      refine ⟨earlier ++ others, ?_, asked.append askedNext, ?_⟩
      · rw [← List.append_assoc]
        exact runNext
      · intro result answered
        exact ⟨earlier, others, value, rfl, read value outcome, readNext result answered⟩

theorem Asks.imp {plain : Attempt H.Env α} {recording : Attempt H.recording.Env α}
    {questions : List Question} {reads known : List (Inquiry H) → α → Prop}
    (asks : plain.Asks recording questions reads)
    (implies : ∀ inquiries value, reads inquiries value → known inquiries value) :
    plain.Asks recording questions known := by
  intro world record
  obtain ⟨inquiries, run, asked, read⟩ := asks world record
  exact ⟨inquiries, run, asked, fun value answered => implies inquiries value (read value answered)⟩

end Attempt

/-! ## Dispatchers -/

/-- The values and the objects that inquiries have brought, in their order. -/
structure Brought (inquiries : List (Inquiry H)) (values : List Value) (objects : List ObjectRef) :
    Prop where
  values : inquiries.filterMap Inquiry.value? = values
  objects : inquiries.filterMap Inquiry.object? = objects

theorem Brought.append {first later : List (Inquiry H)} {values more : List Value}
    {objects others : List ObjectRef} (earlier : Brought first values objects)
    (rest : Brought later more others) :
    Brought (first ++ later) (values ++ more) (objects ++ others) where
  values := by rw [List.filterMap_append, earlier.values, rest.values]
  objects := by rw [List.filterMap_append, earlier.objects, rest.objects]

/-- What a dispatch answers after its inquiries: the failure of the last, or what came of the body,
to which the answers of the others were given. -/
inductive Concludes : List (Inquiry H) → Option ResolverError → Resolution H.Task → Prop
  | failed (inquiries : List (Inquiry H)) (error : ResolverError) :
      Concludes inquiries (some error) (.completed (.error error))
  | returned {earlier : List (Inquiry H)} {receiver : Option ObjectRef} {arguments : Arguments}
      (brought : Brought earlier arguments.values receiver.toList) (value : Value) :
      Concludes (earlier ++ [.run receiver arguments (.ok value)]) none (.completed (.ok value))
  | started {earlier : List (Inquiry H)} {receiver : Option ObjectRef} {arguments : Arguments}
      (brought : Brought earlier arguments.values receiver.toList) (token : Token)
      (future : Future H.Task) :
      Concludes (.token token false :: (earlier ++ [.start receiver arguments future])) none
        (.suspended token (some future))

namespace Dispatcher

theorem asks_askSlots (context : FieldContext H) (slots : List Slot) :
    (askSlots context slots).Asks (askSlots context.recorded slots) (slots.map .argument)
      fun inquiries values => Brought inquiries values [] := by
  induction slots with
  | nil =>
      apply (Attempt.asks_pure []).imp
      rintro _ _ ⟨rfl, rfl⟩
      exact ⟨rfl, rfl⟩
  | cons slot rest induction =>
      have head := (context.argument slot).asks_recorded (.argument slot)
        (.argument slot) (fun _ => rfl) (fun _ => rfl)
      have tail (value : Value) := induction.bind fun values =>
        Attempt.asks_pure (H := H) (value :: values)
      have both := head.bind tail
      rw [List.append_nil] at both
      apply both.imp
      rintro _ _ ⟨_, _, value, rfl, rfl, late, _, values, rfl, brought, rfl, rfl⟩
      rw [List.append_nil]
      exact Brought.append ⟨rfl, rfl⟩ brought

theorem asks_askArguments (context : FieldContext H) (plan : ArgumentPlan) :
    (askArguments context plan).Asks (askArguments context.recorded plan)
      (plan.slots.map .argument) fun inquiries arguments =>
        Brought inquiries arguments.values [] := by
  have slots := (asks_askSlots context plan.slots).bind fun values =>
    Attempt.asks_pure (H := H) (Arguments.mk values)
  rw [List.append_nil] at slots
  apply slots.imp
  rintro _ _ ⟨earlier, _, values, rfl, brought, rfl, rfl⟩
  rw [List.append_nil]
  exact brought

theorem asks_askReceiver (context : FieldContext H) (receiver : Receiver) :
    (askReceiver context receiver).Asks (askReceiver context.recorded receiver)
      receiver.questions fun inquiries object => Brought inquiries [] object.toList := by
  cases receiver with
  | static declaringType =>
      apply (Attempt.asks_pure none).imp
      rintro _ _ ⟨rfl, rfl⟩
      exact ⟨rfl, rfl⟩
  | parent runtimeType =>
      have parent := ((context.parent runtimeType).asks_recorded (.parent runtimeType)
        (.parent runtimeType) (fun _ => rfl) (fun _ => rfl)).bind fun object =>
          Attempt.asks_pure (H := H) (some object)
      apply parent.imp
      rintro _ _ ⟨_, _, object, rfl, rfl, rfl, rfl⟩
      exact ⟨rfl, rfl⟩

/-- Arguments, then the receiver, then the body, of whichever kind it is. -/
def invoke {α : Type} (context : FieldContext H) (plan : ResolverPlan)
    (body : Option ObjectRef → Arguments → Attempt H.Env α) : Attempt H.Env α := do
  let arguments ← askArguments context plan.arguments
  let receiver ← askReceiver context plan.receiver
  body receiver arguments

theorem asks_invoke {α : Type} (context : FieldContext H) (plan : ResolverPlan)
    {body : Option ObjectRef → Arguments → Attempt H.Env α}
    {recording : Option ObjectRef → Arguments → Attempt H.recording.Env α}
    {last : Question} {call : Option ObjectRef → Arguments → α → Inquiry H}
    (asks : ∀ receiver arguments, (body receiver arguments).Asks (recording receiver arguments)
      [last] fun inquiries value => inquiries = [call receiver arguments value]) :
    (invoke context plan body).Asks (invoke context.recorded plan recording)
      (plan.arguments.slots.map .argument ++ plan.receiver.questions ++ [last])
      fun inquiries value => ∃ earlier receiver arguments,
        Brought earlier arguments.values receiver.toList ∧
          inquiries = earlier ++ [call receiver arguments value] := by
  have receivers (arguments : Arguments) :=
    (asks_askReceiver context plan.receiver).bind fun receiver => asks receiver arguments
  have whole := (asks_askArguments context plan.arguments).bind receivers
  rw [← List.append_assoc] at whole
  apply whole.imp
  rintro _ _ ⟨slots, _, arguments, rfl, values, parent, _, receiver, rfl, object, rfl⟩
  refine ⟨slots ++ parent, receiver, arguments, ?_, (List.append_assoc _ _ _).symm⟩
  have brought := values.append object
  rwa [List.append_nil] at brought

/-- A dispatch in two hosts. Both answer the same and do the same to the world; the one with a record
asks the questions of a list up to the first failure, and what they brought decides the answer. -/
def AsksInOrder (questions : List Question) (plain : Action H.Env (Resolution H.Task))
    (recording : Action H.recording.Env (Resolution H.recording.Task)) : Prop :=
  ∀ world : World H.Env, ∃ inquiries failure,
    recording.run (world.recorded []) =
      ((plain.run world).1, (plain.run world).2.recorded inquiries) ∧
    Asked questions inquiries failure ∧ Concludes inquiries failure (plain.run world).1

/-- A body that is run gives its outcome, a failure like any other, as the answer. -/
theorem asksInOrder_completed {plain : Attempt H.Env Value}
    {recording : Attempt H.recording.Env Value} {questions : List Question}
    (asks : plain.Asks recording questions fun inquiries value =>
      ∃ earlier receiver arguments, Brought earlier arguments.values receiver.toList ∧
        inquiries = earlier ++ [.run receiver arguments (.ok value)]) :
    AsksInOrder questions (do return .completed (← plain.run))
      (do return .completed (← recording.run)) := by
  intro world
  obtain ⟨inquiries, same, asked, read⟩ := asks world []
  rw [List.nil_append] at same
  refine ⟨inquiries, failure? (plain.run.run world).1, ?_, asked, ?_⟩
  · rw [Action.run_bind, Action.run_bind, same]
    rfl
  · rw [Action.run_bind, Action.run_pure]
    dsimp only
    cases outcome : (plain.run.run world).1 with
    | error error => exact .failed inquiries error
    | ok value =>
        obtain ⟨earlier, receiver, arguments, brought, rfl⟩ := read value outcome
        exact .returned brought value

/-- The answer of a dispatch that has a future to wait for, or has failed before. -/
def answerWith {Task : Type} (token : Token) : Except ResolverError (Future Task) → Resolution Task
  | .ok future => .cancellable future token
  | .error error => .failed error

/-- Nothing is asked and no future started if the token is fired when it is given. -/
theorem run_callAsync (plan : ResolverPlan)
    (start : Option ObjectRef → Arguments → Action H.Env (Future H.Task))
    (context : FieldContext H) {world given : World H.Env} {token : Token}
    (asked : context.token.run world = (token, given)) :
    (callAsync plan start context).run world =
      if token ∈ given.fired then (.failed .cancelled, given)
      else
        let started := (invoke context plan fun receiver arguments =>
          ExceptT.lift (start receiver arguments)).run.run given
        (answerWith token started.1, started.2) := by
  rw [callAsync, Action.run_bind, asked]
  dsimp only
  rw [Action.run_bind, Resolution.run_isFired]
  by_cases fired : token ∈ given.fired
  · have seen : given.isFired token = true := decide_eq_true fired
    rw [if_pos fired, seen]
    rfl
  · have unseen : given.isFired token = false := decide_eq_false fired
    rw [if_neg fired, unseen]
    dsimp only
    rw [if_neg Bool.false_ne_true, Action.run_bind]
    split
    · next future outcome =>
        have started : ((invoke context plan fun receiver arguments =>
          ExceptT.lift (start receiver arguments)).run.run given).1 = .ok future := outcome
        rw [started]
        rfl
    · next error outcome =>
        have failed : ((invoke context plan fun receiver arguments =>
          ExceptT.lift (start receiver arguments)).run.run given).1 = .error error := outcome
        rw [failed]
        rfl

theorem asksInOrder_callAsync (context : FieldContext H) (plan : ResolverPlan)
    (start : Option ObjectRef → Arguments → Action H.Env (Future H.Task)) :
    AsksInOrder
      (.token :: (plan.arguments.slots.map .argument ++ plan.receiver.questions ++ [.start]))
      (callAsync plan start context)
      (callAsync plan (fun receiver arguments =>
        Action.recorded (start receiver arguments) fun future _ => .start receiver arguments future)
        context.recorded) := by
  intro world
  cases asked : context.token.run world with
  | mk token given =>
      have recorded : context.recorded.token.run (world.recorded []) =
          (token, given.recorded [.token token (given.isFired token)]) := by
        have noted := Action.run_recorded context.token
          (fun token world => .token token (world.isFired token)) world []
        rw [asked] at noted
        exact noted
      rw [run_callAsync plan start context asked, run_callAsync plan _ context.recorded recorded]
      by_cases fired : token ∈ given.fired
      · have seen : given.isFired token = true := decide_eq_true fired
        have recordedFired : token ∈ (given.recorded [.token token (given.isFired token)]).fired :=
          fired
        rw [if_pos fired, if_pos recordedFired, seen]
        have last : (Inquiry.token (H := H) token true).error? = some .cancelled := rfl
        exact ⟨[.token token true], some .cancelled, rfl, .failed _ last, .failed _ _⟩
      · have unseen : given.isFired token = false := decide_eq_false fired
        have recordedUnfired :
            token ∉ (given.recorded [.token token (given.isFired token)]).fired := fired
        rw [if_neg fired, if_neg recordedUnfired, unseen]
        have starts (receiver : Option ObjectRef) (arguments : Arguments) :=
          Attempt.asks_started (start receiver arguments)
            (fun future => .start receiver arguments future) .start
            (fun _ => rfl) (fun _ => rfl)
        obtain ⟨inquiries, same, later, read⟩ :=
          asks_invoke context plan starts given [.token token false]
        have first : (Inquiry.token (H := H) token false).error? = none := rfl
        refine ⟨.token token false :: inquiries, _,
          congrArg (fun run => (answerWith token run.1, run.2)) same, .next first later, ?_⟩
        dsimp only
        generalize ((invoke context plan fun receiver arguments =>
          ExceptT.lift (start receiver arguments)).run.run given).1 = started at read
        cases started with
        | error error => exact .failed _ error
        | ok future =>
            obtain ⟨earlier, receiver, arguments, brought, rfl⟩ := read future rfl
            exact .started brought token future

theorem asksInOrder_callMethod (context : FieldContext H) (plan : ResolverPlan)
    (run : Option ObjectRef → Arguments → Attempt H.Env Value) :
    AsksInOrder (plan.arguments.slots.map .argument ++ plan.receiver.questions ++ [.run])
      (callMethod plan run context)
      (callMethod plan (fun receiver arguments =>
        Attempt.recorded (run receiver arguments) (.run receiver arguments)) context.recorded) := by
  have runs (receiver : Option ObjectRef) (arguments : Arguments) :=
    (run receiver arguments).asks_recorded (.run receiver arguments) .run
      (fun _ => rfl) (fun _ => rfl)
  exact asksInOrder_completed (asks_invoke context plan runs)

/-- The slots of the plan are not among the questions. -/
theorem asksInOrder_callProperty (context : FieldContext H) (plan : ResolverPlan)
    (run : Option ObjectRef → Attempt H.Env Value) :
    AsksInOrder (plan.receiver.questions ++ [.run]) (callProperty plan run context)
      (callProperty plan (fun receiver =>
        Attempt.recorded (run receiver) (.run receiver ⟨[]⟩)) context.recorded) := by
  have runs (receiver : Option ObjectRef) :=
    (run receiver).asks_recorded (.run receiver ⟨[]⟩) .run
      (fun _ => rfl) (fun _ => rfl)
  have whole := (asks_askReceiver context plan.receiver).bind runs
  apply asksInOrder_completed
  apply whole.imp
  rintro _ _ ⟨earlier, _, receiver, rfl, brought, rfl⟩
  exact ⟨earlier, receiver, ⟨[]⟩, brought, rfl⟩

/-- For every plan and every body of its kind there is a dispatcher, and whatever the context
answers, it asks the questions of the plan in their order, none of them after one that fails. -/
theorem call_asks_in_order {plan : ResolverPlan} {body : MemberBody H}
    (matching : body.kind = plan.kind) (handle : Nat) :
    ∃ dispatcher recording, ofPlan handle plan body = .ok dispatcher ∧
      ofPlan handle plan body.recorded = .ok recording ∧
      ∀ context : FieldContext H, AsksInOrder plan.questions (dispatcher.call context)
        (recording.call context.recorded) := by
  obtain ⟨name, kind, receiver, arguments, type⟩ := plan
  cases matching
  cases body with
  | method run => exact ⟨_, _, rfl, rfl, fun context => asksInOrder_callMethod context _ run⟩
  | async start => exact ⟨_, _, rfl, rfl, fun context => asksInOrder_callAsync context _ start⟩
  | property run => exact ⟨_, _, rfl, rfl, fun context => asksInOrder_callProperty context _ run⟩

/-- An argument is missing: the dispatch ends with that, and the parent is not asked for. -/
theorem call_asks_in_order_missing :
    let first := Slot.ofParameter 0 (.argument "first" "Int")
    let after := Slot.ofParameter 1 (.argument "after" "ID!")
    let plan : ResolverPlan :=
      ⟨⟨"Product", "Related", 2⟩, .sync, .parent "Product", ⟨[first, after]⟩, ⟨"String"⟩⟩
    let body : MemberBody Sample.host := .staticMethod fun _ => pure .null
    let context := ((Request.new ⟨0⟩).withArgument "first" (.int 2)).toContext
    body.kind = plan.kind ∧
      plan.questions = [.argument first, .argument after, .parent "Product", .run] ∧
      ∃ dispatcher recording, ofPlan 0 plan body = .ok dispatcher ∧
        ofPlan 0 plan body.recorded = .ok recording ∧
        AsksInOrder plan.questions (dispatcher.call context) (recording.call context.recorded) ∧
        ((recording.call context.recorded).run (World.recorded ⟨(), []⟩ [])).2.env.2.map
          Inquiry.question = [.argument first, .argument after] := by
  intro first after plan body context
  obtain ⟨dispatcher, recording, made, recordingMade, asks⟩ :=
    @call_asks_in_order _ plan body rfl 0
  refine ⟨rfl, rfl, dispatcher, recording, made, recordingMade, asks context, ?_⟩
  cases recordingMade
  decide +kernel

end Dispatcher

end FieldDispatch
