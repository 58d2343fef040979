import FieldDispatch.Dispatch.Action

/-!
Resolutions: the uniform answer of a dispatcher, there at once or only after some polls. A
suspended resolution watches a token. A poll that finds the token fired answers `cancelled` and
leaves the future alone; a poll in which the future finishes answers `cancelled` too if the token
was fired by then. Asking again after the answer is a misuse, and yields no second answer.
-/

namespace FieldDispatch

/-- Work in progress. A finished future answers at its next poll. -/
inductive Future (Task : Type) where
  | running (task : Task)
  | finished (outcome : Outcome)

/-- The program that extensions belong to: its environment, the state of its suspended work, and
how one step of that work proceeds. -/
structure Host where
  Env : Type
  Task : Type
  advance : Task → Action Env (Future Task)

def Future.poll {H : Host} : Future H.Task → Action H.Env (Future H.Task)
  | .running task => H.advance task
  | .finished outcome => pure (.finished outcome)

/-- A suspended resolution keeps no future once it has answered. -/
inductive Resolution (Task : Type) where
  | completed (outcome : Outcome)
  | consumed
  | suspended (token : Token) (future : Option (Future Task))

/-- What a poll answers; `spent` says that the answer was already given. -/
inductive PollAnswer where
  | pending
  | ready (outcome : Outcome)
  | spent

namespace Resolution

def failed {Task : Type} (error : ResolverError) : Resolution Task := .completed (.error error)

def cancellable {Task : Type} (future : Future Task) (token : Token) : Resolution Task :=
  .suspended token (some future)

/-- Whether the outcome is there without a poll. -/
def isCompleted {Task : Type} : Resolution Task → Bool
  | .completed _ => true
  | _ => false

/-- The outcome, if it is there without a poll. -/
def completed? {Task : Type} : Resolution Task → Option Outcome
  | .completed outcome => some outcome
  | _ => none

variable {H : Host}

/-- One poll: the answer, and what is left of the resolution. -/
def poll : Resolution H.Task → Action H.Env (PollAnswer × Resolution H.Task)
  | .completed outcome => pure (.ready outcome, .consumed)
  | .consumed => pure (.spent, .consumed)
  | .suspended token none => pure (.spent, .suspended token none)
  | .suspended token (some future) => do
      if ← Action.isFired token then
        return (.ready (.error .cancelled), .suspended token none)
      match ← future.poll with
      | .running task => return (.pending, .suspended token (some (.running task)))
      | .finished outcome =>
          if ← Action.isFired token then
            return (.ready (.error .cancelled), .suspended token none)
          return (.ready outcome, .suspended token none)

/-- Polls until an answer comes, at most `limit` times; gives the number of polls made. -/
def drive : Nat → Resolution H.Task → Action H.Env (PollAnswer × Nat)
  | 0, _ => pure (.pending, 0)
  | limit + 1, resolution => do
      match ← resolution.poll with
      | (.pending, rest) =>
          let (answer, polls) ← drive limit rest
          return (answer, polls + 1)
      | (answer, _) => return (answer, 1)

end Resolution

end FieldDispatch
