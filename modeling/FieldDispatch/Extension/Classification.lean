import FieldDispatch.Resolver.Basic

/-!
Which members become resolvers: properties, methods that return a value, and methods that return
a future with a result. Whether a member is static plays no part.
-/

namespace FieldDispatch

/-- Why a member has no resolver. -/
inductive Omission where
  | noValue
  | reference
  | noResult
  deriving DecidableEq, Inhabited

def Omission.text : Omission → String
  | .noValue => "returns no value"
  | .reference => "returns by reference"
  | .noResult => "returns a future without a result"

inductive Classification where
  | resolver (kind : ResolverKind) (type : TypeText)
  | omitted (reason : Omission)
  deriving DecidableEq, Inhabited

def Returns.classify : Returns → Classification
  | .value type => .resolver .sync type
  | .future (some type) => .resolver .async type
  | .future none => .omitted .noResult
  | .nothing => .omitted .noValue
  | .reference _ => .omitted .reference

def Member.classify (member : Member) : Classification :=
  match member.shape with
  | .property type => .resolver .property type
  | .method returns _ => returns.classify

namespace Classification

def kind? : Classification → Option ResolverKind
  | .resolver kind _ => some kind
  | .omitted _ => none

def type? : Classification → Option TypeText
  | .resolver _ type => some type
  | .omitted _ => none

def omission? : Classification → Option Omission
  | .resolver _ _ => none
  | .omitted reason => some reason

end Classification

end FieldDispatch
