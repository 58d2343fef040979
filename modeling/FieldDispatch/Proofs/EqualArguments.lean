import FieldDispatch.Proofs.LastEntry
import FieldDispatch.Proofs.ReceiverMismatch
import FieldDispatch.Proofs.RequestBindings
import FieldDispatch.Proofs.ValueEquality
import FieldDispatch.Value.Codec

/-!
Requests with equal values in the same places. A value that is bound may be replaced by an equal
one: no slot that accepted it refuses the other, and a refusal is word for word the same. So every
dispatcher comes to call its body in both requests or in neither, with the same receiver and with
arguments that are equal in turn.
-/

namespace FieldDispatch

namespace Value

/-- The same value or an equal one. The same value need not equal itself. -/
def IsLike (a b : Value) : Prop := a = b ∨ a.equals b = true

namespace IsLike

variable {a b : Value}

theorem typeName (alike : a.IsLike b) : a.typeName = b.typeName :=
  alike.elim (congrArg Value.typeName) typeName_of_equals

theorem conformsTo (alike : a.IsLike b) (type : TypeText) :
    a.conformsTo type = b.conformsTo type := by
  rcases alike with rfl | equal
  · rfl
  · exact conformsTo_of_equals equal type

theorem isNull (alike : a.IsLike b) : a.isNull = b.isNull := by
  rcases alike with rfl | equal
  · rfl
  · cases (equals_iff a b).mp equal <;> rfl

/-- Nothing else is like an object that may be missing. -/
theorem eq_of_object? {object : Option ObjectRef} (alike : (ofOption .object object).IsLike b) :
    ofOption .object object = b := by
  rcases alike with same | equal
  · exact same
  · cases object <;> cases (equals_iff _ _).mp equal <;> rfl

end IsLike

end Value

/-- Two outcomes that are both values, and then related ones, or both the same error. -/
inductive OutcomesAlike {α : Type} (related : α → α → Prop) :
    Except ResolverError α → Except ResolverError α → Prop
  | ok {value other : α} (same : related value other) :
      OutcomesAlike related (.ok value) (.ok other)
  | error (error : ResolverError) : OutcomesAlike related (.error error) (.error error)

namespace OutcomesAlike

variable {α β : Type} {related : α → α → Prop} {outcome other : Except ResolverError α}

theorem map {relatedAfter : β → β → Prop} (alike : OutcomesAlike related outcome other)
    {f g : α → β} (keeps : ∀ x y, related x y → relatedAfter (f x) (g y)) :
    OutcomesAlike relatedAfter (outcome.map f) (other.map g) := by
  cases alike with
  | ok same => exact .ok (keeps _ _ same)
  | error error => exact .error error

/-- The first error is the same, and at the same place. -/
theorem collect {outcomes others : List Outcome}
    (alike : List.Forall₂ (OutcomesAlike Value.IsLike) outcomes others) :
    OutcomesAlike (List.Forall₂ Value.IsLike) (collect outcomes) (collect others) := by
  induction alike with
  | nil => exact .ok .nil
  | cons head rest induction =>
      cases head with
      | ok same =>
          rw [collect_cons_ok, collect_cons_ok]
          exact induction.map fun values others later => .cons same later
      | error error => exact .error error

end OutcomesAlike

namespace Request

/-- Two requests that hold like values under every key, and the same token. -/
structure IsLike (request other : Request) : Prop where
  lookup : ∀ key, (request.lookup key).IsLike (other.lookup key)
  token : request.token = other.token

namespace IsLike

variable {request other : Request}

theorem bind (alike : request.IsLike other) (slot : Slot) :
    OutcomesAlike Value.IsLike (request.bind slot) (other.bind slot) := by
  have found := alike.lookup (origin slot)
  unfold Request.bind
  simp only [fault, ← found.conformsTo, ← found.isNull, ← found.typeName]
  split
  · exact .ok found
  · exact .error _

theorem argumentsFor (alike : request.IsLike other) (parameters : List Parameter) :
    OutcomesAlike (fun arguments others => List.Forall₂ Value.IsLike arguments.values others.values)
      (request.argumentsFor parameters) (other.argumentsFor parameters) := by
  have answers : List.Forall₂ (OutcomesAlike Value.IsLike)
      (parameters.mapIdx fun position parameter =>
        request.bind (Slot.ofParameter position parameter))
      (parameters.mapIdx fun position parameter =>
        other.bind (Slot.ofParameter position parameter)) := by
    rw [List.mapIdx_eq_zipIdx_map, List.mapIdx_eq_zipIdx_map, List.forall₂_map_left_iff,
      List.forall₂_map_right_iff, List.forall₂_same]
    intro place present
    exact alike.bind _
  exact (OutcomesAlike.collect answers).map fun values others same => same

theorem parent (alike : request.IsLike other) : request.parent = other.parent :=
  parent_congr (alike.lookup .parent).eq_of_object?

theorem receiverIn (alike : request.IsLike other) (extension : Extension) (member : Member) :
    extension.receiverIn member request = extension.receiverIn member other := by
  rw [Extension.receiverIn, Extension.receiverIn, parentOf, parentOf, alike.parent]

/-- The receiver and the arguments of a call, with like arguments. -/
theorem invocation (alike : request.IsLike other) (extension : Extension) (member : Member) :
    OutcomesAlike (fun call another =>
        call.1 = another.1 ∧ List.Forall₂ Value.IsLike call.2.values another.2.values)
      (extension.invocation member request) (extension.invocation member other) := by
  have arguments := alike.argumentsFor member.parameters
  unfold Extension.invocation
  rw [alike.receiverIn extension member]
  generalize request.argumentsFor member.parameters = supplied at arguments
  generalize other.argumentsFor member.parameters = otherSupplied at arguments
  cases arguments with
  | error error => exact .error error
  | ok same =>
      cases extension.receiverIn member other with
      | error error => exact .error error
      | ok receiver => exact .ok ⟨rfl, same⟩

end IsLike

/-! ## Requests as they are built -/

namespace Binding

def LikeWrites (write another : Origin × Value) : Prop :=
  write.1 = another.1 ∧ write.2.IsLike another.2

/-- Two bindings that write like values under the same keys, or give the same token. -/
structure IsLike (binding other : Binding) : Prop where
  writes : List.Forall₂ LikeWrites binding.writes other.writes
  token : binding.token? = other.token?

end Binding

theorem valueAt_alike {bindings others : List Binding}
    (alike : List.Forall₂ Binding.IsLike bindings others) (key : Origin) :
    (valueAt bindings key).IsLike (valueAt others key) := by
  have writes : List.Forall₂ Binding.LikeWrites (bindings.flatMap Binding.writes)
      (others.flatMap Binding.writes) :=
    List.rel_flatMap alike fun binding other like => like.writes
  have last : Option.Rel Value.IsLike (lastBound? bindings key) (lastBound? others key) :=
    lastUnder?_rel writes key
  unfold valueAt
  generalize lastBound? bindings key = found at last
  generalize lastBound? others key = otherFound at last
  cases last with
  | none => exact .inl rfl
  | some same => exact same

theorem isLike_built (token : Token) {bindings others : List Binding}
    (alike : List.Forall₂ Binding.IsLike bindings others) :
    (built token bindings).IsLike (built token others) := by
  constructor
  · intro key
    rw [lookup_built, lookup_built]
    exact valueAt_alike alike key
  · have tokens : bindings.filterMap Binding.token? = others.filterMap Binding.token? := by
      induction alike with
      | nil => rfl
      | cons head rest induction =>
          rw [List.filterMap_cons, List.filterMap_cons, head.token, induction]
    rw [token_built, token_built, tokens]

end Request

/-- What a dispatcher finds in two requests: the same receiver or the same mistake in it, and for
the call of a method like arguments or the same mistake. -/
structure Extension.BindsAlike (extension : Extension) (member : Member)
    (request other : Request) : Prop where
  receiver : extension.receiverIn member request = extension.receiverIn member other
  invocation : OutcomesAlike (fun call another =>
      call.1 = another.1 ∧ List.Forall₂ Value.IsLike call.2.values another.2.values)
    (extension.invocation member request) (extension.invocation member other)
  token : request.token = other.token

theorem Request.IsLike.bindsAlike {request other : Request} (alike : request.IsLike other)
    (extension : Extension) (member : Member) : extension.BindsAlike member request other where
  receiver := alike.receiverIn extension member
  invocation := alike.invocation extension member
  token := alike.token

/-- Equality of values is symmetric and transitive, and only a NaN at some depth keeps a value from
being equal to itself. Equal values have one type name and conform to the same type texts, so like
values bound in the place of each other bind alike in every dispatch. -/
theorem Value.equality_respected (H : Host) (D : Type) :
    (∀ x y : Double, (Value.float x).equals (.float y) = true ↔
      (x.isNaN = false ∧ y.isNaN = false) ∧ (x = y ∨ x.isZero = true ∧ y.isZero = true)) ∧
    (∀ a b : Value, a.equals b = b.equals a) ∧
    (∀ a b c : Value, a.equals b = true → b.equals c = true → a.equals c = true) ∧
    (∀ value : Value,
      value.equals value = true ↔ ∀ x, HasPart (.float x) value → x.isNaN = false) ∧
    (∀ a b : ObjectRef, (Value.object a).equals (.object b) = true ↔
      a.typeName = b.typeName ∧ a.host = b.host) ∧
    (∀ a b : Value, a.equals b = true →
      a.typeName = b.typeName ∧ ∀ type, a.conformsTo type = b.conformsTo type) ∧
    ∀ (policy : Policy) (extension : Extension) (bodies : Bodies H) (first : Nat)
      (compiled : CompiledExtension H D) (member : Member) (dispatcher : Dispatcher H)
      (token : Token) (bindings others : List Request.Binding),
      extension.compile policy bodies first = .ok compiled →
      compiled.Resolves extension member dispatcher →
      List.Forall₂ Request.Binding.IsLike bindings others →
      ∃ body, bodies.get? member.name = some body ∧
        dispatcher.call (Request.built token bindings).toContext =
          extension.resolution member (.built token bindings) body ∧
        dispatcher.call (Request.built token others).toContext =
          extension.resolution member (.built token others) body ∧
        extension.BindsAlike member (.built token bindings) (.built token others) := by
  refine ⟨Double.equals_iff, equals_comm, fun a b c => equals_trans, equals_self_iff,
    equals_object_iff, ?_, ?_⟩
  · intro a b equal
    exact ⟨typeName_of_equals equal, conformsTo_of_equals equal⟩
  · intro policy extension bodies first compiled member dispatcher token bindings others success
      resolves alike
    obtain ⟨body, bound, calls⟩ := resolves.exists_body (Extension.compile_eq_ok success)
    exact ⟨body, bound, calls _, calls _,
      (Request.isLike_built token alike).bindsAlike extension member⟩

namespace Sample

def scale : Member :=
  (Member.method "Scale" (.value ⟨"Float!"⟩)).asStatic.withParameter
    (.argument "factors" "[Float!]!")

def scaling : Extension := (Extension.ofType "Chart").withMember scale

def scalingBodies : Bodies host :=
  OrderedMap.empty.insert "Scale" (.staticMethod fun _ => pure (.float Double.quietNaN))

def zeroOfSign (negative : Bool) : Value := .float (Double.pack negative 0)

/-- Factors of which one is a zero, beside a state that is no number. -/
def scaleBindings (negative : Bool) : List Request.Binding :=
  [.argument "factors" (.list [.int 3, zeroOfSign negative]),
    .state "seen" (.float Double.quietNaN)]

end Sample

/-- The zeros are equal with all their digits different, so one may stand for the other; the NaN in
the state is not equal to itself and stays where it is. -/
theorem Value.equality_respected_zeros :
    (Value.float Double.quietNaN).equals (.float Double.quietNaN) = false ∧
    Sample.zeroOfSign false ≠ Sample.zeroOfSign true ∧
    (Sample.zeroOfSign true).equals (Sample.zeroOfSign false) = true ∧
    (Sample.zeroOfSign true).conformsTo ⟨"Float!"⟩ =
      (Sample.zeroOfSign false).conformsTo ⟨"Float!"⟩ ∧
    ∃ (compiled : CompiledExtension Sample.host (ObjectType Sample.host))
      (dispatcher : Dispatcher Sample.host),
      Sample.scaling.compile .skip Sample.scalingBodies 0 = .ok compiled ∧
      compiled.Resolves Sample.scaling Sample.scale dispatcher ∧
      List.Forall₂ Request.Binding.IsLike (Sample.scaleBindings false)
        (Sample.scaleBindings true) ∧
      Sample.scaling.BindsAlike Sample.scale (.built ⟨0⟩ (Sample.scaleBindings false))
        (.built ⟨0⟩ (Sample.scaleBindings true)) ∧
      (Sample.scaling.invocation Sample.scale
        (.built ⟨0⟩ (Sample.scaleBindings true))).toOption.isSome = true := by
  obtain ⟨floats, symm, -, self, -, congr, dispatch⟩ :=
    Value.equality_respected Sample.host (ObjectType Sample.host)
  have zeros : (Sample.zeroOfSign true).equals (Sample.zeroOfSign false) = true := by
    decide
  have compiles : ((Sample.scaling.compile .skip Sample.scalingBodies 0).toOption.bind
      fun compiled : CompiledExtension Sample.host (ObjectType Sample.host) =>
        compiled.dispatcher? "Scale").isSome = true := by
    decide +kernel
  obtain ⟨dispatcher, found⟩ := Option.isSome_iff_exists.mp compiles
  obtain ⟨compiled, made, present⟩ := Option.bind_eq_some_iff.mp found
  have success := (toOption_eq_some_iff _ _).mp made
  have resolves : compiled.Resolves Sample.scaling Sample.scale dispatcher :=
    .field (List.mem_singleton_self _) present
  have factors : (Value.list [.int 3, Sample.zeroOfSign false]).IsLike
      (.list [.int 3, Sample.zeroOfSign true]) := .inr (by decide)
  have alike : List.Forall₂ Request.Binding.IsLike (Sample.scaleBindings false)
      (Sample.scaleBindings true) :=
    .cons ⟨.cons ⟨rfl, factors⟩ .nil, rfl⟩ (.cons ⟨.cons ⟨rfl, .inl rfl⟩ .nil, rfl⟩ .nil)
  obtain ⟨body, -, -, -, binds⟩ := dispatch _ _ _ _ _ _ _ ⟨0⟩ _ _ success resolves alike
  have noNumber : (Value.float Double.quietNaN).equals (.float Double.quietNaN) = false := by
    apply Bool.eq_false_iff.mpr
    intro equal
    cases (self _).mp equal _ .self
  have different : Sample.zeroOfSign false ≠ Sample.zeroOfSign true := by
    intro same
    exact absurd (Value.float.inj same) (by decide)
  exact ⟨noNumber, different, zeros, (congr _ _ zeros).2 _, compiled, dispatcher, success, resolves,
    alike, binds, by decide +kernel⟩

end FieldDispatch
