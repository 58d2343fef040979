import FieldDispatch.Proofs.Noting

/-!
Cancellation over whole schedules. As long as its token is quiet, a cancellable resolution polls its
future once in each poll of its own and answers what that one comes to; from the firing of the token
on, wherever it happens, it polls no more and yields no value.
-/

namespace FieldDispatch

variable {H : Host}

/-- A poll of a cancellable resolution before its answer. With the token fired it is `cancelled`
and polls no future. Otherwise it polls the future once, and the answer is pending while the future
is, then `cancelled` if the token was fired by the end of the poll, then the outcome. -/
def Poll.IsGuarded (token : Token) (poll : Poll H.noting.Env) : Prop :=
  (token ∈ poll.before.fired →
    poll.answer = .ready (.error .cancelled) ∧ poll.after = poll.before) ∧
  (token ∉ poll.before.fired →
    ∃ note : Note H, poll.after.notes = poll.before.notes ++ [note] ∧
      note.before = poll.before.forget ∧ note.after = poll.after.forget ∧
      match note.result with
      | .running _ => poll.answer = .pending
      | .finished outcome =>
          poll.answer = .ready (if token ∈ poll.after.fired then .error .cancelled else outcome))

/-- How the polls of a cancellable future come about under a schedule, from a world with notes. -/
inductive CancellableRun (token : Token) : Future H.Task → World H.Env → List (Note H) →
    List (Event H.Env) → List (Poll H.noting.Env) → Prop
  | done (future : Future H.Task) (world : World H.Env) (notes : List (Note H)) :
      CancellableRun token future world notes [] []
  | act {future : Future H.Task} {world : World H.Env} {notes : List (Note H)}
      {later : List (Event H.Env)} {polls : List (Poll H.noting.Env)} (work : Action H.Env Unit)
      (run : CancellableRun token future (work.run world).2 notes later polls) :
      CancellableRun token future world notes (.act work :: later) polls
  | cancelled {future : Future H.Task} {world : World H.Env} {notes : List (Note H)}
      {later : List (Event H.Env)} {polls : List (Poll H.noting.Env)}
      (fired : token ∈ world.fired)
      (spent : ∀ poll ∈ polls, poll.IsSpent ∧ poll.after.notes = notes) :
      CancellableRun token future world notes (.poll :: later)
        (⟨world.noted notes, .ready (.error .cancelled), world.noted notes⟩ :: polls)
  | pending {future : Future H.Task} {world after : World H.Env} {notes : List (Note H)}
      {task : H.Task} {later : List (Event H.Env)} {polls : List (Poll H.noting.Env)}
      (quiet : token ∉ world.fired) (polled : future.poll.run world = (.running task, after))
      (run : CancellableRun token (.running task) after
        (notes ++ [⟨future, world, .running task, after⟩]) later polls) :
      CancellableRun token future world notes (.poll :: later)
        (⟨world.noted notes, .pending,
          after.noted (notes ++ [⟨future, world, .running task, after⟩])⟩ :: polls)
  | finished {future : Future H.Task} {world after : World H.Env} {notes : List (Note H)}
      {outcome : Outcome} {later : List (Event H.Env)} {polls : List (Poll H.noting.Env)}
      (quiet : token ∉ world.fired) (polled : future.poll.run world = (.finished outcome, after))
      (spent : ∀ poll ∈ polls, poll.IsSpent ∧
        poll.after.notes = notes ++ [⟨future, world, .finished outcome, after⟩]) :
      CancellableRun token future world notes (.poll :: later)
        (⟨world.noted notes, .ready (if token ∈ after.fired then .error .cancelled else outcome),
          after.noted (notes ++ [⟨future, world, .finished outcome, after⟩])⟩ :: polls)

namespace CancellableRun

variable {token : Token} {future : Future H.Task} {world : World H.Env} {notes : List (Note H)}
  {events : List (Event H.Env)} {polls : List (Poll H.noting.Env)}

open Resolution in
theorem of_polls (token : Token) (future : Future H.Task) (world : World H.Env)
    (notes : List (Note H)) (events : List (Event H.Env)) :
    CancellableRun token future world notes events
      ((cancellable (.running future) token : Resolution H.noting.Task).polls (world.noted notes)
        (events.map Event.noted)) := by
  induction events generalizing future world notes with
  | nil => exact .done future world notes
  | cons event later induction =>
      cases event with
      | act work => exact .act work (induction future (work.run world).2 notes)
      | poll =>
          rw [List.map_cons]
          unfold Event.noted Resolution.polls
          dsimp only
          by_cases fired : token ∈ world.fired
          · rw [run_poll_of_fired (.running future) (world.noted notes) fired]
            exact .cancelled fired (fun poll => isSpent_of_mem_notedPolls _)
          · cases polled : future.poll.run world with
            | mk result after =>
                have noted := Future.run_poll_noting future world polled notes
                cases result with
                | running task =>
                    rw [run_poll_of_running (world.noted notes) fired noted]
                    exact .pending fired polled (induction _ _ _)
                | finished outcome =>
                    rw [run_poll_of_finished (world.noted notes) fired noted]
                    exact .finished fired polled (fun poll => isSpent_of_mem_notedPolls _)

theorem isGuarded (run : CancellableRun token future world notes events polls)
    {poll : Poll H.noting.Env} (present : poll ∈ polls) : poll.IsGuarded token ∨ poll.IsSpent := by
  induction run with
  | done => cases present
  | act work run induction => exact induction present
  | cancelled fired spent =>
      rcases List.mem_cons.mp present with rfl | rest
      · exact .inl ⟨fun _ => ⟨rfl, rfl⟩, fun quiet => absurd fired quiet⟩
      · exact .inr (spent poll rest).1
  | pending quiet polled run induction =>
      rcases List.mem_cons.mp present with rfl | rest
      · exact .inl ⟨fun fired => absurd fired quiet, fun _ => ⟨_, rfl, rfl, rfl, rfl⟩⟩
      · exact induction rest
  | finished quiet polled spent =>
      rcases List.mem_cons.mp present with rfl | rest
      · exact .inl ⟨fun fired => absurd fired quiet, fun _ => ⟨_, rfl, rfl, rfl, rfl⟩⟩
      · exact .inr (spent poll rest).1

theorem answersOnce (run : CancellableRun token future world notes events polls) :
    AnswersOnce polls := by
  induction run with
  | done => trivial
  | act work run induction => exact induction
  | cancelled fired spent => exact .inr ⟨⟨_, rfl⟩, fun poll present => (spent poll present).1⟩
  | pending quiet polled run induction => exact .inl ⟨rfl, induction⟩
  | finished quiet polled spent => exact .inr ⟨⟨_, rfl⟩, fun poll present => (spent poll present).1⟩

theorem isHistory (run : CancellableRun token future world notes events polls)
    {poll : Poll H.noting.Env} (present : poll ∈ polls) :
    ∃ more, poll.after.notes = notes ++ more ∧ future.IsHistory token more := by
  induction run with
  | done => cases present
  | act work run induction => exact induction present
  | cancelled fired spent =>
      refine ⟨[], ?_, trivial⟩
      rw [List.append_nil]
      rcases List.mem_cons.mp present with rfl | rest
      · rfl
      · exact (spent poll rest).2
  | pending quiet polled run induction =>
      rcases List.mem_cons.mp present with rfl | rest
      · exact ⟨_, rfl, rfl, quiet, polled, trivial⟩
      · obtain ⟨more, notesEq, history⟩ := induction rest
        refine ⟨⟨_, _, .running _, _⟩ :: more, ?_, rfl, quiet, polled, history⟩
        rw [notesEq, List.append_assoc, List.singleton_append]
  | finished quiet polled spent =>
      refine ⟨[⟨_, _, .finished _, _⟩], ?_, rfl, quiet, polled, rfl⟩
      rcases List.mem_cons.mp present with rfl | rest
      · rfl
      · exact (spent poll rest).2

/-- With the token never fired, what answers are the polls of the future by itself. -/
theorem answered_eq_polls (run : CancellableRun token future world notes events polls)
    (unfired : ∀ poll ∈ polls, token ∉ poll.after.fired) :
    (polls.filter Poll.isAnswered).map Poll.forget = future.polls world events := by
  induction run with
  | done => rfl
  | act work run induction => exact induction unfired
  | cancelled fired spent => exact absurd fired (unfired _ List.mem_cons_self)
  | pending quiet polled run induction =>
      have rest := induction fun poll present => unfired poll (List.mem_cons_of_mem _ present)
      rw [Future.polls, polled]
      dsimp only
      rw [← rest]
      rfl
  | @finished future world after notes outcome later polls quiet polled spent =>
      have late : token ∉ after.fired := unfired _ List.mem_cons_self
      rw [List.filter_cons_of_pos rfl,
        Poll.filter_isAnswered_eq_nil fun poll present => (spent poll present).1, Future.polls,
        polled, if_neg late]
      rfl

end CancellableRun

namespace Resolution

/-- A poll made with the token fired yields no value. -/
theorem answer_ne_value_of_fired {future : Future H.Task} {token : Token} {world : World H.Env}
    {events : List (Event H.Env)} {poll : Poll H.Env}
    (present : poll ∈ (cancellable future token).polls world events)
    (fired : token ∈ poll.before.fired) (value : Value) : poll.answer ≠ .ready (.ok value) := by
  rw [← notedPolls_forget] at present
  obtain ⟨noted, notedPresent, rfl⟩ := List.mem_map.mp present
  rcases (CancellableRun.of_polls token future world [] events).isGuarded notedPresent with
    guarded | spent
  · have answer : noted.answer = .ready (.error .cancelled) := (guarded.1 fired).1
    intro contrary
    cases answer.symm.trans contrary
  · have answer : noted.answer = .spent := spent.1
    intro contrary
    cases answer.symm.trans contrary

/-- No poll after a cancellation yields a value. -/
theorem answer_ne_value_after_cancel {future : Future H.Task} {token : Token} {world : World H.Env}
    {earlier later : List (Event H.Env)} {poll : Poll H.Env}
    (present : poll ∈ ((cancellable future token).polls world
      (earlier ++ .cancel token :: later)).drop
        ((cancellable future token).polls world earlier).length) (value : Value) :
    poll.answer ≠ .ready (.ok value) := by
  have whole := List.mem_of_mem_drop present
  obtain ⟨rest, reached, split⟩ := polls_append (cancellable future token) world earlier
  rw [split, List.drop_left] at present
  have fired : token ∈ ((Action.fire token).run reached).2.fired := List.mem_cons_self
  have before := fired_before_polls fired present
  exact answer_ne_value_of_fired whole before value

/-- Work that fires a token in the poll in which it ends. -/
def firing : Host where
  Env := Unit
  Task := Nat
  advance
    | 0 => do
        Action.fire ⟨0⟩
        return .finished (.ok .null)
    | polls + 1 => return .running polls

/-- Cancellation of a future is safe under every schedule of polls and other work. -/
theorem polls_cancellable (future : Future H.Task) (token : Token) (world : World H.Env)
    (events : List (Event H.Env)) :
    (notedPolls future token world events).map Poll.forget =
        (cancellable future token).polls world events ∧
      (∀ poll ∈ notedPolls future token world events,
        (poll.IsGuarded token ∨ poll.IsSpent) ∧ future.IsHistory token poll.after.notes) ∧
      AnswersOnce (notedPolls future token world events) ∧
      (∀ poll ∈ (cancellable future token).polls world events, token ∈ poll.before.fired →
        ∀ value, poll.answer ≠ .ready (.ok value)) ∧
      (∀ earlier later, events = earlier ++ .cancel token :: later →
        ∀ poll ∈ ((cancellable future token).polls world events).drop
          ((cancellable future token).polls world earlier).length,
          ∀ value, poll.answer ≠ .ready (.ok value)) ∧
      ((∀ poll ∈ (cancellable future token).polls world events, token ∉ poll.after.fired) →
        ((cancellable future token).polls world events).filter Poll.isAnswered =
          future.polls world events) ∧
      ∀ outcome, AnswersOnce ((.completed outcome : Resolution H.Task).polls world events) := by
  have run : CancellableRun token future world [] events (notedPolls future token world events) :=
    .of_polls token future world [] events
  refine ⟨notedPolls_forget future token world events, ?_, run.answersOnce, ?_, ?_, ?_, ?_⟩
  · intro poll present
    obtain ⟨more, notesEq, history⟩ := run.isHistory present
    rw [List.nil_append] at notesEq
    exact ⟨run.isGuarded present, notesEq ▸ history⟩
  · intro poll present fired value
    exact answer_ne_value_of_fired present fired value
  · rintro earlier later rfl poll present value
    exact answer_ne_value_after_cancel present value
  · intro unfired
    rw [← notedPolls_forget] at unfired ⊢
    have quiet : ∀ poll ∈ notedPolls future token world events, token ∉ poll.after.fired :=
      fun poll present => unfired poll.forget (List.mem_map_of_mem present)
    rw [List.filter_map]
    exact run.answered_eq_polls quiet
  · intro outcome
    exact answersOnce_completed outcome world events

theorem polls_cancellable_firing :
    let future : Future firing.Task := .running (1 : Nat)
    let world : World firing.Env := ⟨(), []⟩
    (∃ poll ∈ (cancellable future ⟨0⟩).polls world [.poll, .cancel ⟨0⟩, .poll],
      ⟨0⟩ ∈ poll.before.fired ∧ ∀ value, poll.answer ≠ .ready (.ok value)) ∧
      (∀ poll ∈ (cancellable future ⟨1⟩).polls world [.poll, .poll, .poll],
        ⟨1⟩ ∉ poll.after.fired) ∧
      ((cancellable future ⟨1⟩).polls world [.poll, .poll, .poll]).filter Poll.isAnswered =
        future.polls world [.poll, .poll, .poll] := by
  intro future world
  obtain ⟨-, -, -, cancelled, -⟩ :=
    polls_cancellable future ⟨0⟩ world [.poll, .cancel ⟨0⟩, .poll]
  obtain ⟨-, -, -, -, -, untouched, -⟩ := polls_cancellable future ⟨1⟩ world [.poll, .poll, .poll]
  have unfired : ∀ poll ∈ (cancellable future ⟨1⟩).polls world [.poll, .poll, .poll],
      (⟨1⟩ : Token) ∉ poll.after.fired := by
    decide
  refine ⟨⟨_, List.mem_cons_of_mem _ List.mem_cons_self, List.mem_cons_self, ?_⟩, unfired,
    untouched unfired⟩
  exact cancelled _ (List.mem_cons_of_mem _ List.mem_cons_self) List.mem_cons_self

end Resolution

end FieldDispatch
