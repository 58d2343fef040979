import FieldDispatch.Proofs.Schedule

/-!
Noted polls. To say which polls of a future a resolution makes, the same code is run in a host whose
work is to poll that future and to note that it did. Forgetting the notes gives the plain run back,
poll by poll.
-/

namespace FieldDispatch

variable {H : Host}

/-- A note of one poll of a future. -/
structure Note (H : Host) where
  future : Future H.Task
  before : World H.Env
  result : Future H.Task
  after : World H.Env

/-- The notes of a future that is polled on and on from where the last poll left it, never when it
has finished and never when the token has been fired. -/
def Future.IsHistory (token : Token) : Future H.Task → List (Note H) → Prop
  | _, [] => True
  | future, note :: later =>
      note.future = future ∧ token ∉ note.before.fired ∧
        future.poll.run note.before = (note.result, note.after) ∧
        match note.result with
        | .running task => Future.IsHistory token (.running task) later
        | .finished _ => later = []

/-- What is left of a future that polls another one, when that one is left like this. -/
def Future.watched {Task : Type} : Future Task → Future (Future Task)
  | .running task => .running (.running task)
  | .finished outcome => .finished outcome

/-- A host whose work is to poll futures of `H` and to note each such poll in its environment. -/
def Host.noting (H : Host) : Host where
  Env := H.Env × List (Note H)
  Task := Future H.Task
  advance future := fun world =>
    let plain : World H.Env := ⟨world.env.1, world.fired⟩
    let step := future.poll.run plain
    let note : Note H := ⟨future, plain, step.1, step.2⟩
    ⟨step.1.watched, (step.2.env, world.env.2 ++ [note]), (future.poll plain).fired⟩

/-- A world of `H` with notes beside its environment. -/
def World.noted (world : World H.Env) (notes : List (Note H)) : World H.noting.Env :=
  ⟨(world.env, notes), world.fired⟩

def World.forget (world : World H.noting.Env) : World H.Env := ⟨world.env.1, world.fired⟩

def World.notes (world : World H.noting.Env) : List (Note H) := world.env.2

def Poll.forget (poll : Poll H.noting.Env) : Poll H.Env :=
  ⟨poll.before.forget, poll.answer, poll.after.forget⟩

/-- Other code neither reads the notes nor writes them. -/
def Event.noted : Event H.Env → Event H.noting.Env
  | .poll => .poll
  | .act work => .act fun world =>
      let effect := work world.forget
      ⟨effect.value, (effect.env, world.notes), effect.fired⟩

/-- A future that polls another one has the outcome of that one. -/
def Future.forget : Future (Future H.Task) → Future H.Task
  | .running future => future
  | .finished outcome => .finished outcome

def Resolution.forget : Resolution (Future H.Task) → Resolution H.Task
  | .completed outcome => .completed outcome
  | .consumed => .consumed
  | .suspended token future => .suspended token (future.map Future.forget)

/-- The polls of a cancellable future under a schedule, with those of the future itself noted. -/
def Resolution.notedPolls (future : Future H.Task) (token : Token) (world : World H.Env)
    (events : List (Event H.Env)) : List (Poll H.noting.Env) :=
  (cancellable (.running future) token : Resolution H.noting.Task).polls (world.noted [])
    (events.map Event.noted)

theorem Future.run_poll_noting (future : Future H.Task) (world : World H.Env)
    {result : Future H.Task} {after : World H.Env}
    (polled : future.poll.run world = (result, after)) (notes : List (Note H)) :
    (Future.running future : Future H.noting.Task).poll.run (world.noted notes) =
      (result.watched, after.noted (notes ++ [⟨future, world, result, after⟩])) := by
  have noted : (Future.running future : Future H.noting.Task).poll.run (world.noted notes) =
      ((future.poll.run world).1.watched, (future.poll.run world).2.noted
        (notes ++ [⟨future, world, (future.poll.run world).1, (future.poll.run world).2⟩])) := rfl
  rw [noted, polled]

theorem Future.run_poll_forget {future result : Future H.noting.Task}
    {world after : World H.noting.Env} (polled : future.poll.run world = (result, after)) :
    ∃ rest : Future H.Task, result = rest.watched ∧
      (Future.forget future).poll.run world.forget = (rest, after.forget) := by
  cases future with
  | running future =>
      have noted := run_poll_noting future world.forget rfl world.notes
      have same : world.forget.noted world.notes = world := rfl
      rw [same, polled] at noted
      cases noted
      exact ⟨_, rfl, rfl⟩
  | finished outcome =>
      cases polled
      exact ⟨.finished outcome, rfl, rfl⟩

namespace Resolution

theorem run_poll_forget (resolution : Resolution H.noting.Task) (world : World H.noting.Env) :
    (forget resolution).poll.run world.forget =
      (((resolution.poll.run world).1.1, forget (resolution.poll.run world).1.2),
        (resolution.poll.run world).2.forget) := by
  match resolution with
  | .completed _ => rfl
  | .consumed => rfl
  | .suspended _ none => rfl
  | .suspended token (some future) =>
      change (cancellable (Future.forget future) token).poll.run world.forget =
        ((((cancellable future token).poll.run world).1.1,
          forget ((cancellable future token).poll.run world).1.2),
          ((cancellable future token).poll.run world).2.forget)
      by_cases fired : token ∈ world.fired
      · rw [run_poll_of_fired future world fired,
          run_poll_of_fired (Future.forget future) world.forget fired]
        rfl
      · cases polled : future.poll.run world with
        | mk result after =>
            obtain ⟨rest, rfl, plain⟩ := Future.run_poll_forget polled
            cases rest with
            | running task =>
                rw [run_poll_of_running world fired polled,
                  run_poll_of_running world.forget fired plain]
                rfl
            | finished outcome =>
                rw [run_poll_of_finished world fired polled,
                  run_poll_of_finished world.forget fired plain]
                rfl

/-- Noting the polls of a future changes no poll of the resolution. -/
theorem polls_forget (resolution : Resolution H.noting.Task) (world : World H.noting.Env)
    (events : List (Event H.Env)) :
    (resolution.polls world (events.map Event.noted)).map Poll.forget =
      (forget resolution).polls world.forget events := by
  induction events generalizing resolution world with
  | nil => rfl
  | cons event later induction =>
      cases event with
      | act work => exact induction resolution _
      | poll =>
          have step := run_poll_forget resolution world
          rw [polls, step]
          dsimp only
          rw [← induction]
          rfl

theorem notedPolls_forget (future : Future H.Task) (token : Token) (world : World H.Env)
    (events : List (Event H.Env)) :
    (notedPolls future token world events).map Poll.forget =
      (cancellable future token).polls world events :=
  polls_forget (cancellable (.running future) token : Resolution H.noting.Task) (world.noted [])
    events

theorem isSpent_of_mem_notedPolls {token : Token} (world : World H.Env)
    {notes : List (Note H)} {events : List (Event H.Env)} {poll : Poll H.noting.Env}
    (present : poll ∈ (suspended token none : Resolution H.noting.Task).polls (world.noted notes)
      (events.map Event.noted)) :
    poll.IsSpent ∧ poll.after.notes = notes := by
  induction events generalizing world with
  | nil => cases present
  | cons event later induction =>
      cases event with
      | act work => exact induction (work.run world).2 present
      | poll =>
          rcases List.mem_cons.mp present with rfl | rest
          · exact ⟨⟨rfl, rfl⟩, rfl⟩
          · exact induction world rest

end Resolution

end FieldDispatch
