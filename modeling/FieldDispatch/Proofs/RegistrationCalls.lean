import FieldDispatch.Proofs.EndToEnd
import FieldDispatch.Proofs.Outcome

/-!
The calls that registering a compiled extension makes. To see them, the descriptor is wrapped in one
that does the same and keeps a log, and the hook in one that enters itself there. Nothing else is
different. On a descriptor of the runtime type the log is a beginning of one list: the node
resolver, the fields of the table in their order, the hook. It ends with the first call that fails.
-/

namespace FieldDispatch

variable {H : Host} {D : Type}

/-- A call of the descriptor, or of the hook. -/
inductive RegistrationCall (H : Host) (D : Type) where
  | node (dispatcher : Dispatcher H)
  | field (name : String) (dispatcher : Dispatcher H)
  | configure (hook : Hook H D)

namespace RegistrationCall

def perform [TypeRegistry H D] : RegistrationCall H D → Registration H D Unit
  | .node dispatcher => .ofOperation (TypeRegistry.registerNode dispatcher)
  | .field name dispatcher => .ofOperation (TypeRegistry.registerField name dispatcher)
  | .configure hook => hook

def performAll [TypeRegistry H D] : List (RegistrationCall H D) → Registration H D Unit
  | [] => pure ()
  | call :: rest => do
      call.perform
      performAll rest

/-- A call with what came of it. -/
structure Made (H : Host) (D : Type) where
  call : RegistrationCall H D
  result : Except RegistrationError Unit

def succeeded (call : RegistrationCall H D) : Made H D := ⟨call, .ok ()⟩

def failed (call : RegistrationCall H D) (error : RegistrationError) : Made H D :=
  ⟨call, .error error⟩

end RegistrationCall

/-- What a run of registrations asks for: the calls for the node resolver and for the entries of the
table, each with its own dispatcher. -/
def CompiledExtension.generatedCalls (compiled : CompiledExtension H D) :
    List (RegistrationCall H D) :=
  (compiled.node.map fun node => .node node.dispatcher).toList ++
    compiled.table.entries.map fun entry => .field entry.plan.name.memberName entry.dispatcher

/-- The hook is called after everything else. -/
def CompiledExtension.calls (compiled : CompiledExtension H D) : List (RegistrationCall H D) :=
  compiled.generatedCalls ++ (compiled.hook.map .configure).toList

/-! ## The log -/

/-- A descriptor with a log of the calls made of it. -/
structure Logged (H : Host) (D : Type) where
  descriptor : D
  log : List (RegistrationCall.Made H D)

def Logged.enter (logged : Logged H D) (call : RegistrationCall H D)
    (outcome : Except RegistrationError Unit × D) : Except RegistrationError Unit × Logged H D :=
  (outcome.1, ⟨outcome.2, logged.log ++ [⟨call, outcome.1⟩]⟩)

instance [TypeRegistry H D] : TypeRegistry H (Logged H D) where
  typeName logged := TypeRegistry.typeName logged.descriptor
  registerNode dispatcher logged := logged.enter (.node dispatcher)
    (TypeRegistry.registerNode dispatcher logged.descriptor)
  registerField name dispatcher logged := logged.enter (.field name dispatcher)
    (TypeRegistry.registerField name dispatcher logged.descriptor)

/-- The same hook, which enters itself in the log. What it registers is not entered. -/
def Hook.logged (hook : Hook H D) : Hook H (Logged H D) :=
  ExceptT.mk fun logged => do
    return logged.enter (.configure hook) (← Registration.run hook logged.descriptor)

def RegistrationCall.logged : RegistrationCall H D → RegistrationCall H (Logged H D)
  | .node dispatcher => .node dispatcher
  | .field name dispatcher => .field name dispatcher
  | .configure hook => .configure hook.logged

def CompiledExtension.logged (compiled : CompiledExtension H D) :
    CompiledExtension H (Logged H D) where
  runtimeType := compiled.runtimeType
  extensionType := compiled.extensionType
  node := compiled.node
  table := compiled.table
  steps := compiled.steps
  omitted := compiled.omitted
  hook := compiled.hook.map Hook.logged
  warnings := compiled.warnings

theorem CompiledExtension.calls_logged (compiled : CompiledExtension H D) :
    compiled.logged.calls = compiled.calls.map RegistrationCall.logged := by
  simp only [calls, generatedCalls, logged, List.map_append, List.map_map, Option.map_map]
  cases compiled.node <;> cases compiled.hook <;> rfl

/-! ## One run -/

/-- Calls made one after the other, each on what the one before has left, up to the first that
fails. -/
inductive Replays [TypeRegistry H D] : List (RegistrationCall H D) → D × World H.Env →
    List (RegistrationCall.Made H D) → Except RegistrationError Unit → D × World H.Env → Prop
  | done (start : D × World H.Env) : Replays [] start [] (.ok ()) start
  | failed {call : RegistrationCall H D} {start finish : D × World H.Env}
      {error : RegistrationError} (rest : List (RegistrationCall H D))
      (failure : (Registration.run call.perform start.1).run start.2 =
        ((.error error, finish.1), finish.2)) :
      Replays (call :: rest) start [call.failed error] (.error error) finish
  | next {call : RegistrationCall H D} {rest : List (RegistrationCall H D)}
      {start middle finish : D × World H.Env} {log : List (RegistrationCall.Made H D)}
      {outcome : Except RegistrationError Unit}
      (success : (Registration.run call.perform start.1).run start.2 =
        ((.ok (), middle.1), middle.2))
      (later : Replays rest middle log outcome finish) :
      Replays (call :: rest) start (call.succeeded :: log) outcome finish

namespace Replays

variable [TypeRegistry H D] {calls : List (RegistrationCall H D)} {start finish : D × World H.Env}
  {log : List (RegistrationCall.Made H D)} {outcome : Except RegistrationError Unit}

theorem isPrefix (replays : Replays calls start log outcome finish) :
    log.map RegistrationCall.Made.call <+: calls := by
  induction replays with
  | done => exact List.prefix_refl _
  | failed rest failure => exact List.prefix_append [_] rest
  | next success later induction => exact (List.prefix_cons_inj _).mpr induction

/-- Every call that was made came after the calls before it, and all of them had succeeded. -/
theorem preceded (replays : Replays calls start log outcome finish)
    {made : RegistrationCall.Made H D} (present : made ∈ log) :
    ∃ earlier : List (RegistrationCall H D), earlier ++ [made.call] <+: calls ∧
      earlier.map RegistrationCall.succeeded ++ [made] <+: log := by
  induction replays with
  | done => cases present
  | failed rest failure =>
      rw [List.mem_singleton.mp present]
      exact ⟨[], List.prefix_append [_] rest, List.prefix_refl _⟩
  | @next call rest _ _ _ later _ success replays induction =>
      rcases List.mem_cons.mp present with rfl | rest
      · exact ⟨[], List.prefix_append [_] _, List.prefix_append [_] _⟩
      · obtain ⟨earlier, beginning, logged⟩ := induction rest
        exact ⟨call :: earlier, (List.prefix_cons_inj _).mpr beginning,
          (List.prefix_cons_inj _).mpr logged⟩

theorem of_ok (replays : Replays calls start log outcome finish) (success : outcome = .ok ()) :
    log = calls.map RegistrationCall.succeeded := by
  induction replays with
  | done => rfl
  | failed rest failure => cases success
  | next made later induction => rw [induction success, List.map_cons]

/-- The last call of a failed run is the only one that failed. -/
theorem of_error (replays : Replays calls start log outcome finish) {error : RegistrationError}
    (failure : outcome = .error error) :
    ∃ (earlier : List (RegistrationCall H D)) (call : RegistrationCall H D),
      earlier ++ [call] <+: calls ∧
        log = earlier.map RegistrationCall.succeeded ++ [call.failed error] := by
  induction replays with
  | done => cases failure
  | @failed call start finish found rest made =>
      cases failure
      exact ⟨[], call, List.prefix_append [call] rest, rfl⟩
  | @next call rest start middle finish log outcome made later induction =>
      obtain ⟨earlier, last, beginning, rfl⟩ := induction failure
      exact ⟨call :: earlier, last, (List.prefix_cons_inj call).mpr beginning, rfl⟩

theorem ok_of_succeeded (replays : Replays calls start log outcome finish)
    (complete : log = calls.map RegistrationCall.succeeded) : outcome = .ok () := by
  cases outcome with
  | ok nothing => rfl
  | error error =>
      obtain ⟨earlier, last, -, logEq⟩ := replays.of_error rfl
      have present : last.failed error ∈ calls.map RegistrationCall.succeeded := by
        rw [← complete, logEq]
        exact List.mem_append_right _ (List.mem_singleton_self _)
      obtain ⟨call, -, same⟩ := List.mem_map.mp present
      cases same

/-- Without a log the run comes to the same. -/
theorem run_performAll (replays : Replays calls start log outcome finish) :
    (Registration.run (RegistrationCall.performAll calls) start.1).run start.2 =
      ((outcome, finish.1), finish.2) := by
  induction replays with
  | done => rfl
  | failed rest failure =>
      rw [RegistrationCall.performAll, Registration.run_bind, Action.run_bind, failure]
      rfl
  | next success later induction =>
      rw [RegistrationCall.performAll, Registration.run_bind, Action.run_bind, success]
      exact induction

end Replays

namespace RegistrationCall

variable [TypeRegistry H D]

/-- A call in the log does what it does without one, and is entered with its result. -/
theorem run_logged (call : RegistrationCall H D) (descriptor : D) (log : List (Made H D))
    (world : World H.Env) :
    (Registration.run call.logged.perform (⟨descriptor, log⟩ : Logged H D)).run world =
      let done := (Registration.run call.perform descriptor).run world
      ((done.1.1, ⟨done.1.2, log ++ [⟨call, done.1.1⟩]⟩), done.2) := by
  cases call with
  | node dispatcher => rfl
  | field name dispatcher => rfl
  | configure hook => rfl

theorem run_performAll_logged (calls : List (RegistrationCall H D)) (descriptor : D)
    (log : List (Made H D)) (world : World H.Env) :
    ∃ made outcome final after,
      (Registration.run (performAll (calls.map logged))
          (⟨descriptor, log⟩ : Logged H D)).run world =
        ((outcome, ⟨final, log ++ made⟩), after) ∧
      Replays calls (descriptor, world) made outcome (final, after) := by
  induction calls generalizing descriptor log world with
  | nil =>
      refine ⟨[], .ok (), descriptor, world, ?_, .done _⟩
      rw [List.append_nil]
      rfl
  | cons call rest induction =>
      rw [List.map_cons, performAll, Registration.run_bind, Action.run_bind, run_logged]
      cases done : (Registration.run call.perform descriptor).run world with
      | mk result after =>
          obtain ⟨result, middle⟩ := result
          cases result with
          | error error => exact ⟨_, _, _, _, rfl, .failed rest done⟩
          | ok nothing =>
              obtain ⟨made, outcome, final, last, run, later⟩ :=
                induction middle (log ++ [⟨call, .ok ()⟩]) after
              rw [List.append_assoc] at run
              exact ⟨_, _, _, _, run, .next done later⟩

end RegistrationCall

/-- The call that a step makes. -/
def RegistrationStep.call : RegistrationStep H → RegistrationCall H D
  | .node dispatcher => .node dispatcher
  | .field name _ dispatcher => .field name dispatcher

namespace RegistrationCall

variable [TypeRegistry H D]

theorem registerAll_eq_performAll (steps : List (RegistrationStep H)) :
    (RegistrationStep.registerAll steps : Registration H D Unit) =
      performAll (steps.map RegistrationStep.call) := by
  induction steps with
  | nil => rfl
  | cons step rest induction =>
      rw [RegistrationStep.registerAll, induction, List.map_cons, performAll]
      cases step <;> rfl

theorem performAll_append (first later : List (RegistrationCall H D)) :
    performAll (first ++ later) = (do performAll first; performAll later) := by
  induction first with
  | nil => exact (pure_bind () fun _ => performAll later).symm
  | cons call rest induction =>
      rw [List.cons_append, performAll, performAll, induction, bind_assoc]

end RegistrationCall

namespace CompiledExtension

theorem map_call_stepsFor (compiled : CompiledExtension H D) :
    (stepsFor compiled.node compiled.table).map RegistrationStep.call =
      compiled.generatedCalls := by
  have fields : (compiled.table.entries.mapIdx RegistrationStep.ofEntry).map
      (RegistrationStep.call (D := D)) =
      compiled.table.entries.map fun entry =>
        .field entry.plan.name.memberName entry.dispatcher := by
    apply List.ext_getElem <;> simp [RegistrationStep.ofEntry, RegistrationStep.call]
  rw [stepsFor, List.map_append, fields, generatedCalls]
  cases compiled.node <;> rfl

/-- On a descriptor of the runtime type the calls are made, on any other none. -/
theorem run_register [TypeRegistry H D] {compiled : CompiledExtension H D}
    (emitted : compiled.steps = stepsFor compiled.node compiled.table) (descriptor : D) :
    Registration.run compiled.register descriptor =
      if TypeRegistry.typeName descriptor = compiled.runtimeType then
        Registration.run (RegistrationCall.performAll compiled.calls) descriptor
      else pure (.error (.typeMismatch compiled.runtimeType (TypeRegistry.typeName descriptor)),
        descriptor) := by
  unfold register
  rw [Registration.run_bind, Registration.run_get, pure_bind]
  dsimp only
  split
  · rw [RegistrationCall.registerAll_eq_performAll, emitted, map_call_stepsFor, calls,
      RegistrationCall.performAll_append]
    cases compiled.hook with
    | none => rfl
    | some hook =>
        have alone : RegistrationCall.performAll [RegistrationCall.configure hook] = hook :=
          bind_pure_unit
        exact congrArg (fun last => Registration.run (_ >>= fun _ => last) descriptor) alone.symm
  · rfl

/-- With a log, the calls are those that enter themselves. -/
theorem run_register_logged [TypeRegistry H D] {compiled : CompiledExtension H D}
    (emitted : compiled.steps = stepsFor compiled.node compiled.table) (descriptor : D)
    (log : List (RegistrationCall.Made H D)) :
    Registration.run compiled.logged.register (⟨descriptor, log⟩ : Logged H D) =
      if TypeRegistry.typeName descriptor = compiled.runtimeType then
        Registration.run (RegistrationCall.performAll (compiled.calls.map RegistrationCall.logged))
          ⟨descriptor, log⟩
      else pure (.error (.typeMismatch compiled.runtimeType (TypeRegistry.typeName descriptor)),
        ⟨descriptor, log⟩) := by
  have emittedLogged : compiled.logged.steps =
      stepsFor compiled.logged.node compiled.logged.table := emitted
  rw [← calls_logged]
  exact run_register emittedLogged _

theorem not_mem_generatedCalls (compiled : CompiledExtension H D) (hook : Hook H D) :
    .configure hook ∉ compiled.generatedCalls := by
  cases made : compiled.node <;> simp [generatedCalls, made]

/-- The hook is called when all generated calls have been made, and none is made after it. -/
theorem log_of_configure [TypeRegistry H D] {compiled : CompiledExtension H D}
    {start finish : D × World H.Env} {log : List (RegistrationCall.Made H D)}
    {outcome : Except RegistrationError Unit}
    (replays : Replays compiled.calls start log outcome finish)
    {made : RegistrationCall.Made H D} (present : made ∈ log) {hook : Hook H D}
    (called : made.call = .configure hook) :
    log = compiled.generatedCalls.map RegistrationCall.succeeded ++ [made] := by
  obtain ⟨earlier, beginning, logged⟩ := replays.preceded present
  rw [called] at beginning
  have shown := replays.isPrefix
  cases installed : compiled.hook with
  | none =>
      rw [calls, installed] at beginning
      have listed : .configure hook ∈ compiled.generatedCalls :=
        (List.append_nil compiled.generatedCalls ▸ beginning).subset (by simp)
      exact absurd listed (compiled.not_mem_generatedCalls hook)
  | some last =>
      have all : compiled.calls = compiled.generatedCalls ++ [.configure last] := by
        rw [calls, installed]
        rfl
      rw [all] at beginning shown
      rcases List.prefix_concat_iff.mp beginning with whole | inside
      · obtain ⟨rfl, -⟩ := List.append_inj' whole rfl
        apply (logged.eq_of_length_le _).symm
        have short := shown.length_le
        simpa using short
      · exact absurd (inside.subset (by simp)) (compiled.not_mem_generatedCalls hook)

/-- Registering a compiled extension with a hook or without one, on a descriptor of any form. -/
theorem register_makes_calls [TypeRegistry H D] {policy : Policy} {extension : Extension}
    {bodies : Bodies H} {first : Nat} {compiled : CompiledExtension H D}
    (success : extension.compile policy bodies first = .ok compiled) (hook : Option (Hook H D))
    (descriptor : D) (world : World H.Env) :
    let initializer := { compiled with hook }
    (compiled.node.isSome = extension.nodeResolver.isSome) ∧
    ∃ log outcome final after,
      (Registration.run initializer.logged.register (⟨descriptor, []⟩ : Logged H D)).run world =
        ((outcome, ⟨final, log⟩), after) ∧
      (Registration.run initializer.register descriptor).run world = ((outcome, final), after) ∧
      (TypeRegistry.typeName descriptor ≠ extension.runtimeType →
        log = [] ∧ final = descriptor ∧ after = world ∧ outcome =
          .error (.typeMismatch extension.runtimeType (TypeRegistry.typeName descriptor))) ∧
      (TypeRegistry.typeName descriptor = extension.runtimeType →
        Replays initializer.calls (descriptor, world) log outcome (final, after) ∧
        log.map RegistrationCall.Made.call <+: initializer.calls ∧
        (outcome = .ok () ↔ log = initializer.calls.map RegistrationCall.succeeded) ∧
        (∀ error, outcome = .error error → ∃ (earlier : List (RegistrationCall H D))
          (last : RegistrationCall H D), earlier ++ [last] <+: initializer.calls ∧
            log = earlier.map RegistrationCall.succeeded ++ [last.failed error]) ∧
        ∀ made ∈ log, ∀ called, made.call = .configure called →
          log = initializer.generatedCalls.map RegistrationCall.succeeded ++ [made]) := by
  intro initializer
  have made := Extension.compile_eq_ok success
  refine ⟨made.node_of_declared.1, ?_⟩
  have emitted : initializer.steps = stepsFor initializer.node initializer.table := made.steps
  have runtimeType : initializer.runtimeType = extension.runtimeType := made.runtimeType
  rw [run_register emitted, run_register_logged emitted, runtimeType]
  by_cases named : TypeRegistry.typeName descriptor = extension.runtimeType
  · rw [if_pos named, if_pos named]
    obtain ⟨log, outcome, final, after, run, replays⟩ :=
      RegistrationCall.run_performAll_logged initializer.calls descriptor [] world
    refine ⟨log, outcome, final, after, run, replays.run_performAll, absurd named, fun _ =>
      ⟨replays, replays.isPrefix, ⟨replays.of_ok, replays.ok_of_succeeded⟩, ?_, ?_⟩⟩
    · exact fun _ => replays.of_error
    · intro made present called configured
      exact log_of_configure replays present configured
  · rw [if_neg named, if_neg named]
    exact ⟨[], _, descriptor, world, rfl, rfl, fun _ => ⟨rfl, rfl, rfl, rfl⟩,
      fun contrary => absurd contrary named⟩

end CompiledExtension

namespace Sample

/-- A hook that refuses every type. -/
def strictHook : Hook host (ObjectType host) :=
  (throw (.configure "closed") : Registration host (ObjectType host) Unit)

def label : RegistrationCall host (ObjectType host) → String
  | .node _ => "node"
  | .field name _ => name
  | .configure _ => "hook"

end Sample

/-- A type without the field `Later` refuses it, and the hook is not called. -/
theorem CompiledExtension.register_makes_calls_refused :
    ∃ (compiled : CompiledExtension Sample.host (ObjectType Sample.host))
      (log : List (RegistrationCall.Made Sample.host (ObjectType Sample.host)))
      (final : ObjectType Sample.host),
      Sample.query.compile .skip Sample.queryBodies 0 = .ok compiled ∧
        (Registration.run { compiled with hook := some Sample.strictHook }.logged.register
          ⟨ObjectType.new "Query" (some ["Version"]), []⟩).run ⟨(), []⟩ =
            ((.error (.unknownField "Query" "Later"), ⟨final, log⟩), ⟨(), []⟩) ∧
        log.map (fun made => Sample.label made.call) = ["node", "Version", "Later"] ∧
        ∃ (earlier : List (RegistrationCall Sample.host (ObjectType Sample.host)))
          (last : RegistrationCall Sample.host (ObjectType Sample.host)),
          log = earlier.map RegistrationCall.succeeded ++
            [last.failed (.unknownField "Query" "Later")] := by
  have runs : ((Sample.query.compile .skip Sample.queryBodies 0).toOption.map
      fun compiled : CompiledExtension Sample.host (ObjectType Sample.host) =>
        let done := (Registration.run
          { compiled with hook := some Sample.strictHook }.logged.register
          ⟨ObjectType.new "Query" (some ["Version"]), []⟩).run ⟨(), []⟩
        (failure? done.1.1, done.1.2.log.map (fun made => Sample.label made.call), done.2.fired)) =
      some (some (.unknownField "Query" "Later"), ["node", "Version", "Later"], []) := by
    decide +kernel
  obtain ⟨compiled, found, facts⟩ := Option.map_eq_some_iff.mp runs
  have success := (toOption_eq_some_iff _ _).mp found
  have named : TypeRegistry.typeName (ObjectType.new "Query" (some ["Version"]) :
      ObjectType Sample.host) = Sample.query.runtimeType := rfl
  obtain ⟨-, log, outcome, final, after, run, -, -, calls⟩ := register_makes_calls success
    (some Sample.strictHook) (ObjectType.new "Query" (some ["Version"])) ⟨(), []⟩
  obtain ⟨-, -, -, failed, -⟩ := calls named
  rw [run] at facts
  obtain ⟨failure, rest⟩ := Prod.mk.inj facts
  obtain ⟨labels, fired⟩ := Prod.mk.inj rest
  have outcomeEq := (failure?_eq_some_iff _ _).mp failure
  have unchanged : after = ⟨(), []⟩ := congrArg (World.mk ()) fired
  obtain ⟨earlier, last, -, logEq⟩ := failed _ outcomeEq
  refine ⟨compiled, log, final, success, ?_, labels, earlier, last, logEq⟩
  rw [run, unchanged]
  exact congrArg (fun outcome => ((outcome, Logged.mk final log), World.mk () [])) outcomeEq

end FieldDispatch
