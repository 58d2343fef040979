import FieldDispatch.Dispatch.Error
import FieldDispatch.Value.Basic

/-!
What running code can do: read its world, change the environment and fire cancellation tokens. An
action reports the tokens it fires and is given no way to withdraw one, so a fired token stays
fired whatever runs.
-/

namespace FieldDispatch

structure Token where
  number : Nat
  deriving DecidableEq, Inhabited

/-- The environment of running code, and the tokens fired so far. -/
structure World (Env : Type) where
  env : Env
  fired : List Token

namespace World

variable {Env : Type}

def isFired (world : World Env) (token : Token) : Bool := token ∈ world.fired

def fire (world : World Env) (token : Token) : World Env :=
  { world with fired := token :: world.fired }

end World

/-- What an action leaves behind. -/
structure Effect (Env α : Type) where
  value : α
  env : Env
  fired : List Token

def Action (Env α : Type) : Type := World Env → Effect Env α

namespace Action

variable {Env α β : Type}

def run (action : Action Env α) (world : World Env) : α × World Env :=
  let effect := action world
  (effect.value, ⟨effect.env, effect.fired ++ world.fired⟩)

instance : Monad (Action Env) where
  pure value := fun world => ⟨value, world.env, []⟩
  bind action next := fun world =>
    let effect := action world
    let later := next effect.value ⟨effect.env, effect.fired ++ world.fired⟩
    ⟨later.value, later.env, later.fired ++ effect.fired⟩

instance : LawfulMonad (Action Env) :=
  LawfulMonad.mk' _ (fun _ => rfl)
    (fun _ _ => funext fun _ => by simp only [bind, pure, List.nil_append, List.append_nil])
    (fun _ _ _ => funext fun _ => by simp only [bind, List.append_assoc])

@[simp]
theorem run_pure (value : α) (world : World Env) :
    (pure value : Action Env α).run world = (value, world) := rfl

@[simp]
theorem run_bind (action : Action Env α) (next : α → Action Env β) (world : World Env) :
    (action >>= next).run world = (next (action.run world).1).run (action.run world).2 := by
  simp [run, bind, List.append_assoc]

theorem fired_of_fired (action : Action Env α) {world : World Env} {token : Token}
    (h : token ∈ world.fired) : token ∈ (action.run world).2.fired :=
  List.mem_append_right _ h

def isFired (token : Token) : Action Env Bool := fun world =>
  ⟨world.isFired token, world.env, []⟩

def fire (token : Token) : Action Env Unit := fun world => ⟨(), world.env, [token]⟩

def getEnv : Action Env Env := fun world => ⟨world.env, world.env, []⟩

def setEnv (env : Env) : Action Env Unit := fun _ => ⟨(), env, []⟩

def modifyEnv (change : Env → Env) : Action Env Unit := fun world => ⟨(), change world.env, []⟩

end Action

/-- The outcome of a resolver. -/
abbrev Outcome := Except ResolverError Value

/-- An action that may fail as a resolver does. -/
abbrev Attempt (Env α : Type) := ExceptT ResolverError (Action Env) α

/-- An attempt whose result does not depend on the world. -/
def Attempt.ofExcept {Env α : Type} (result : Except ResolverError α) : Attempt Env α :=
  ExceptT.mk (pure result)

end FieldDispatch
