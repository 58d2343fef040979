/-!
What a compilation says about members that cannot become resolvers.
-/

namespace FieldDispatch

/-- Such members are left out under every policy; under `error` the compilation fails as well. -/
inductive Policy where
  | skip
  | warn
  | error
  deriving DecidableEq, Inhabited

namespace Policy

def text : Policy → String
  | .skip => "skip"
  | .warn => "warn"
  | .error => "error"

def ofText? : String → Option Policy
  | "skip" => some .skip
  | "warn" => some .warn
  | "error" => some .error
  | _ => none

theorem ofText?_text (policy : Policy) : ofText? policy.text = some policy := by
  cases policy <;> rfl

end Policy

end FieldDispatch
