import FieldDispatch.Dispatch.Resolution

/-!
Schedules: the order in which a resolution is polled and other code has its turn, which may fire
tokens as a poll itself may. A schedule goes on after the answer, so it also has the polls that are
a misuse.
-/

namespace FieldDispatch

/-- What happens around a resolution: it is polled, or other code has its turn. -/
inductive Event (Env : Type) where
  | poll
  | act (work : Action Env Unit)

def Event.cancel {Env : Type} (token : Token) : Event Env := .act (Action.fire token)

structure Poll (Env : Type) where
  before : World Env
  answer : PollAnswer
  after : World Env

/-- A poll made after the answer was given: it gives none and leaves the world alone. -/
def Poll.IsSpent {Env : Type} (poll : Poll Env) : Prop :=
  poll.answer = .spent ∧ poll.after = poll.before

def Poll.isAnswered {Env : Type} (poll : Poll Env) : Bool :=
  match poll.answer with
  | .spent => false
  | _ => true

theorem Poll.filter_isAnswered_eq_nil {Env : Type} {polls : List (Poll Env)}
    (spent : ∀ poll ∈ polls, poll.IsSpent) : polls.filter Poll.isAnswered = [] := by
  apply List.filter_eq_nil_iff.mpr
  intro poll present
  rw [Poll.isAnswered, (spent poll present).1]
  exact Bool.false_ne_true

/-- Some polls that are pending, one that is ready, and none that answers after it. -/
def AnswersOnce {Env : Type} : List (Poll Env) → Prop
  | [] => True
  | poll :: later =>
      poll.answer = .pending ∧ AnswersOnce later ∨
        (∃ outcome, poll.answer = .ready outcome) ∧ ∀ late ∈ later, late.IsSpent

variable {H : Host}

/-- The polls of a resolution under a schedule, those made after its answer included. -/
def Resolution.polls : Resolution H.Task → World H.Env → List (Event H.Env) → List (Poll H.Env)
  | _, _, [] => []
  | resolution, world, .act work :: later => resolution.polls (work.run world).2 later
  | resolution, world, .poll :: later =>
      let step := resolution.poll.run world
      ⟨world, step.1.1, step.2⟩ :: step.1.2.polls step.2 later

/-- The polls of a future under a schedule, by itself and up to the one in which it finishes. -/
def Future.polls : Future H.Task → World H.Env → List (Event H.Env) → List (Poll H.Env)
  | _, _, [] => []
  | future, world, .act work :: later => future.polls (work.run world).2 later
  | future, world, .poll :: later =>
      match future.poll.run world with
      | (.running task, after) => ⟨world, .pending, after⟩ :: Future.polls (.running task) after later
      | (.finished outcome, after) => [⟨world, .ready outcome, after⟩]

namespace Resolution

theorem run_isFired {Env : Type} (token : Token) (world : World Env) :
    (Action.isFired token).run world = (world.isFired token, world) := rfl

theorem run_poll_of_fired {token : Token} (future : Future H.Task) (world : World H.Env)
    (fired : token ∈ world.fired) :
    (cancellable future token).poll.run world =
      ((.ready (.error .cancelled), .suspended token none), world) := by
  have seen : world.isFired token = true := decide_eq_true fired
  rw [cancellable, poll, Action.run_bind, run_isFired, seen]
  rfl

theorem run_poll_of_running {token : Token} {future : Future H.Task} {task : H.Task}
    {after : World H.Env} (world : World H.Env) (quiet : token ∉ world.fired)
    (polled : future.poll.run world = (.running task, after)) :
    (cancellable future token).poll.run world =
      ((.pending, cancellable (.running task) token), after) := by
  have unseen : world.isFired token = false := decide_eq_false quiet
  rw [cancellable, poll, Action.run_bind, run_isFired, unseen]
  simp only [Bool.false_eq_true, if_false]
  rw [Action.run_bind, polled]
  rfl

theorem run_poll_of_finished {token : Token} {future : Future H.Task} {outcome : Outcome}
    {after : World H.Env} (world : World H.Env) (quiet : token ∉ world.fired)
    (polled : future.poll.run world = (.finished outcome, after)) :
    (cancellable future token).poll.run world =
      ((.ready (if token ∈ after.fired then .error .cancelled else outcome),
        .suspended token none), after) := by
  have unseen : world.isFired token = false := decide_eq_false quiet
  rw [cancellable, poll, Action.run_bind, run_isFired, unseen]
  simp only [Bool.false_eq_true, if_false]
  rw [Action.run_bind, polled]
  dsimp only
  rw [Action.run_bind, run_isFired]
  by_cases fired : token ∈ after.fired
  · have seen : after.isFired token = true := decide_eq_true fired
    simp [seen, fired]
  · have unseen : after.isFired token = false := decide_eq_false fired
    simp [unseen, fired]

theorem isSpent_of_mem_polls {resolution : Resolution H.Task}
    (left : ∀ world, resolution.poll.run world = ((.spent, resolution), world))
    {world : World H.Env} {events : List (Event H.Env)} {poll : Poll H.Env}
    (present : poll ∈ resolution.polls world events) : poll.IsSpent := by
  induction events generalizing world with
  | nil => cases present
  | cons event later induction =>
      cases event with
      | act work => exact induction present
      | poll =>
          rw [polls, left world] at present
          rcases List.mem_cons.mp present with rfl | rest
          · exact ⟨rfl, rfl⟩
          · exact induction rest

/-- Once fired, a token is fired before every later poll. -/
theorem fired_before_polls {resolution : Resolution H.Task} {token : Token} {world : World H.Env}
    {events : List (Event H.Env)} (fired : token ∈ world.fired) {poll : Poll H.Env}
    (present : poll ∈ resolution.polls world events) : token ∈ poll.before.fired := by
  induction events generalizing resolution world with
  | nil => cases present
  | cons event later induction =>
      cases event with
      | act work => exact induction (Action.fired_of_fired work fired) present
      | poll =>
          rcases List.mem_cons.mp present with rfl | rest
          · exact fired
          · exact induction (Action.fired_of_fired _ fired) rest

/-- What is polled after some events depends on what those left. -/
theorem polls_append (resolution : Resolution H.Task) (world : World H.Env)
    (earlier : List (Event H.Env)) :
    ∃ (rest : Resolution H.Task) (reached : World H.Env), ∀ later : List (Event H.Env),
      resolution.polls world (earlier ++ later) =
        resolution.polls world earlier ++ rest.polls reached later := by
  induction earlier generalizing resolution world with
  | nil => exact ⟨resolution, world, fun _ => rfl⟩
  | cons event earlier induction =>
      cases event with
      | act work => exact induction resolution (work.run world).2
      | poll =>
          obtain ⟨rest, reached, split⟩ :=
            induction (resolution.poll.run world).1.2 (resolution.poll.run world).2
          refine ⟨rest, reached, ?_⟩
          intro later
          rw [List.cons_append, polls, split later]
          rfl

theorem answersOnce_completed (outcome : Outcome) (world : World H.Env)
    (events : List (Event H.Env)) :
    AnswersOnce ((.completed outcome : Resolution H.Task).polls world events) := by
  induction events generalizing world with
  | nil => trivial
  | cons event later induction =>
      cases event with
      | act work => exact induction (work.run world).2
      | poll =>
          right
          refine ⟨⟨outcome, rfl⟩, ?_⟩
          intro late present
          exact isSpent_of_mem_polls (fun _ => rfl) present

end Resolution

end FieldDispatch
