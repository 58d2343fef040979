import FieldDispatch.Proofs.Conformance
import FieldDispatch.Proofs.EndToEnd

/-!
What a body can rely on. Whenever a dispatcher comes to run its body, the arguments are the values
that the request has for the parameters of the member, one for each and in their order, and each is
of the type declared for it. So the accessor of a scalar does not fail on a parameter that has the
scalar as its type, but for a null where the type allows one.
-/

namespace FieldDispatch

variable {H : Host} {D : Type}

theorem collect_eq_ok_iff (outcomes : List Outcome) (values : List Value) :
    collect outcomes = .ok values ↔ outcomes = values.map .ok := by
  induction outcomes generalizing values with
  | nil =>
      have empty : collect [] = .ok [] := rfl
      rw [empty, Except.ok.injEq]
      cases values <;> simp
  | cons outcome rest induction =>
      cases outcome with
      | error error =>
          have refused : collect (.error error :: rest) = .error error := rfl
          rw [refused]
          cases values <;> simp
      | ok value =>
          rw [collect_cons_ok]
          cases values with
          | nil => cases collect rest <;> simp [Except.map]
          | cons head tail =>
              rw [List.map_cons, List.cons.injEq, ← induction tail]
              cases collect rest <;> simp [Except.map]

namespace Request

/-- The value that the source of a parameter selects, null if there is none. -/
def valueFor (request : Request) (parameter : Parameter) : Value :=
  match parameter.source with
  | .argument none => (request.arguments.get? parameter.name).getD .null
  | .argument (some name) => (request.arguments.get? name).getD .null
  | .parent =>
      match request.parent with
      | some parent => .object parent
      | none => .null
  | .state key => (request.state.get? key).getD .null

/-- The arguments are the request's values for the parameters, each of its declared type. -/
structure Supplies (request : Request) (parameters : List Parameter) (arguments : Arguments) :
    Prop where
  size : arguments.size = parameters.length
  value : ∀ position parameter, parameters[position]? = some parameter →
    arguments.get? position = some (request.valueFor parameter)
  conforms : ∀ parameter ∈ parameters,
    (request.valueFor parameter).conformsTo parameter.type = true

/-- At whatever place a parameter stands, its slot reads the same. -/
theorem lookup_ofParameter (request : Request) (position : Nat) (parameter : Parameter) :
    request.lookup (origin (Slot.ofParameter position parameter)) = request.valueFor parameter := by
  obtain ⟨name, type, source⟩ := parameter
  cases source with
  | argument renamed => cases renamed <;> rfl
  | parent =>
      obtain ⟨parent, arguments, state, token⟩ := request
      cases parent <;> rfl
  | state key => rfl

theorem bind_ofParameter_eq_ok_iff (request : Request) (position : Nat) (parameter : Parameter)
    (value : Value) :
    request.bind (Slot.ofParameter position parameter) = .ok value ↔
      value = request.valueFor parameter ∧
        (request.valueFor parameter).conformsTo parameter.type = true := by
  have type : (Slot.ofParameter position parameter).type = parameter.type := rfl
  unfold bind
  rw [lookup_ofParameter, type]
  dsimp only
  split
  · next conforms => simp [conforms, eq_comm]
  · next refused => simp [refused]

theorem argumentsFor_eq_ok_iff (request : Request) (parameters : List Parameter)
    (arguments : Arguments) :
    request.argumentsFor parameters = .ok arguments ↔ request.Supplies parameters arguments := by
  have collected : request.argumentsFor parameters = .ok arguments ↔
      (parameters.mapIdx fun position parameter =>
        request.bind (Slot.ofParameter position parameter)) = arguments.values.map .ok := by
    rw [← collect_eq_ok_iff, argumentsFor]
    obtain ⟨values⟩ := arguments
    cases collect _ <;> simp [Except.map]
  rw [collected]
  constructor
  · intro same
    have bound (position : Nat) (parameter : Parameter)
        (there : parameters[position]? = some parameter) :
        arguments.get? position = some (request.valueFor parameter) ∧
          (request.valueFor parameter).conformsTo parameter.type = true := by
      have outcome : (parameters.mapIdx fun position parameter =>
          request.bind (Slot.ofParameter position parameter))[position]? =
            (arguments.values.map Except.ok)[position]? := by
        rw [same]
      rw [List.getElem?_mapIdx, there, Option.map_some, List.getElem?_map] at outcome
      obtain ⟨value, found, answered⟩ := Option.map_eq_some_iff.mp outcome.symm
      obtain ⟨rfl, conforms⟩ := (bind_ofParameter_eq_ok_iff _ _ _ _).mp answered.symm
      exact ⟨found, conforms⟩
    have lengths := congrArg List.length same
    rw [List.length_mapIdx, List.length_map] at lengths
    refine ⟨lengths.symm, fun position parameter there => (bound position parameter there).1, ?_⟩
    intro parameter present
    obtain ⟨position, there⟩ := List.getElem?_of_mem present
    exact (bound position parameter there).2
  · rintro ⟨size, value, conforms⟩
    apply List.ext_getElem?
    intro position
    rw [List.getElem?_mapIdx, List.getElem?_map]
    cases there : parameters[position]? with
    | none =>
        have outside : arguments.values[position]? = none := by
          rw [List.getElem?_eq_none_iff] at there ⊢
          exact Nat.le_trans (Nat.le_of_eq size) there
        rw [outside]
        rfl
    | some parameter =>
        have found : arguments.values[position]? = some (request.valueFor parameter) :=
          value position parameter there
        rw [found, Option.map_some, Option.map_some, Option.some_inj,
          bind_ofParameter_eq_ok_iff]
        exact ⟨rfl, conforms parameter (List.mem_of_getElem? there)⟩

end Request

namespace Arguments

/-- The accessor of the scalar gives a value at the position; an `ID` has two accessors. -/
def Reads (arguments : Arguments) (position : Nat) : String → Prop
  | "Int" => ∃ number, arguments.int position = .ok number
  | "Float" => ∃ number, arguments.float position = .ok number
  | "String" => ∃ text, arguments.string position = .ok text
  | "Boolean" => ∃ truth, arguments.boolean position = .ok truth
  | "ID" =>
      (∃ text, arguments.string position = .ok text) ∨
        ∃ number, arguments.int position = .ok number
  | _ => False

/-- Whatever is declared to be a scalar can be read as that scalar, unless it may be null and is. -/
def ReadAsDeclared (arguments : Arguments) (parameters : List Parameter) : Prop :=
  ∀ position parameter, parameters[position]? = some parameter →
    ∀ name ∈ Value.scalarNames,
      (parameter.type = ⟨name ++ "!"⟩ → arguments.Reads position name) ∧
        (parameter.type = ⟨name⟩ →
          arguments.get? position = some .null ∨ arguments.Reads position name)

theorem read_eq_ok {α : Type} {arguments : Arguments} {position : Nat} {value : Value}
    (bound : arguments.get? position = some value) (expected : String)
    (view? : Value → Option α) {seen : α} (viewed : view? value = some seen) :
    arguments.read expected view? position = .ok seen := by
  rw [read, Arguments.value, bound]
  dsimp only
  rw [viewed]

/-- The accessors take every value that conforms to the scalar. -/
theorem reads_of_isNamed {arguments : Arguments} {position : Nat} {value : Value}
    (bound : arguments.get? position = some value) {name : String}
    (scalar : name ∈ Value.scalarNames) (named : value.isNamed name = true) :
    arguments.Reads position name := by
  cases (Value.isNamed_iff name value).mp named with
  | int number => exact ⟨number, read_eq_ok bound "Int" Value.asInt? rfl⟩
  | float number => exact ⟨number, read_eq_ok bound "Float" Value.asFloat? rfl⟩
  | intAsFloat number =>
      exact ⟨Double.ofInt number.toInt, read_eq_ok bound "Float" Value.asFloat? rfl⟩
  | string text => exact ⟨text, read_eq_ok bound "String" Value.asString? rfl⟩
  | stringAsId text => exact Or.inl ⟨text, read_eq_ok bound "String" Value.asString? rfl⟩
  | intAsId number => exact Or.inr ⟨number, read_eq_ok bound "Int" Value.asInt? rfl⟩
  | boolean truth => exact ⟨truth, read_eq_ok bound "Boolean" Value.asBoolean? rfl⟩
  | object free same => exact absurd scalar free
  | data free data => exact absurd scalar free

end Arguments

theorem Request.Supplies.readAsDeclared {request : Request} {parameters : List Parameter}
    {arguments : Arguments} (supplied : request.Supplies parameters arguments) :
    arguments.ReadAsDeclared parameters := by
  intro position parameter there name scalar
  have bound := supplied.value position parameter there
  have conforms := supplied.conforms parameter (List.mem_of_getElem? there)
  obtain ⟨required, optional⟩ := Value.isNamed_of_conformsTo scalar (request.valueFor parameter)
  constructor
  · intro declared
    rw [declared] at conforms
    exact Arguments.reads_of_isNamed bound scalar (required conforms)
  · intro declared
    rw [declared] at conforms
    rcases optional conforms with null | named
    · left
      rw [bound, null]
    · right
      exact Arguments.reads_of_isNamed bound scalar named

namespace Extension

/-- A member is called if the request supplies its parameters and has a receiver for it. -/
theorem invocation_eq_ok_iff (extension : Extension) (member : Member) (request : Request)
    (receiver : Option ObjectRef) (arguments : Arguments) :
    extension.invocation member request = .ok (receiver, arguments) ↔
      request.Supplies member.parameters arguments ∧
        extension.receiverIn member request = .ok receiver := by
  rw [← request.argumentsFor_eq_ok_iff, invocation]
  cases request.argumentsFor member.parameters with
  | error error => simp
  | ok values =>
      cases extension.receiverIn member request with
      | error error => simp [Except.map]
      | ok object => simp [Except.map, and_comm]

/-- The dispatcher runs the body that is bound under the member's name, and runs it on nothing but
what the request has for the parameters of the member. -/
def RunsSupplied (extension : Extension) (bodies : Bodies H) (member : Member)
    (dispatcher : Dispatcher H) : Prop :=
  ∃ body, bodies.get? member.name = some body ∧ member.classify.kind? = some body.kind ∧
    ∀ request : Request,
      dispatcher.call request.toContext = extension.resolution member request body ∧
        ∀ receiver arguments, extension.invocation member request = .ok (receiver, arguments) →
          request.Supplies member.parameters arguments ∧
            arguments.ReadAsDeclared member.parameters

theorem runsSupplied_of_bind {extension : Extension} {member : Member} {kind : ResolverKind}
    {type : TypeText} {plan : ResolverPlan} {bodies : Bodies H} {handle : Nat}
    {dispatcher : Dispatcher H} (classified : member.classify = .resolver kind type)
    (planned : extension.planResolver member kind type = .ok plan)
    (bound : plan.bind bodies handle = .ok dispatcher) :
    extension.RunsSupplied bodies member dispatcher := by
  obtain ⟨body, found, kindEq, resolves⟩ :=
    ResolverPlan.resolution_of_bind classified planned bound
  refine ⟨body, found, kindEq, ?_⟩
  intro request
  refine ⟨resolves request, ?_⟩
  intro receiver arguments invoked
  obtain ⟨supplied, -⟩ := (extension.invocation_eq_ok_iff member request _ _).mp invoked
  exact ⟨supplied, supplied.readAsDeclared⟩

end Extension

namespace CompiledExtension

/-- Every dispatcher of a compiled extension, that of the node resolver included, runs its body on
arguments that have the declared types. -/
theorem dispatchers_run_supplied {policy : Policy} {extension : Extension} {bodies : Bodies H}
    {first : Nat} {compiled : CompiledExtension H D}
    (success : extension.compile policy bodies first = .ok compiled) :
    (∀ entry ∈ compiled.table.entries,
      ∃ member ∈ extension.resolvable, entry.key = (extension.runtimeType, member.name) ∧
        compiled.dispatcher? member.name = some entry.dispatcher ∧
          extension.RunsSupplied bodies member entry.dispatcher) ∧
    ∀ node, compiled.node = some node →
      ∃ member, extension.nodeResolver = some member ∧
        extension.RunsSupplied bodies member node.dispatcher := by
  have made := Extension.compile_eq_ok success
  constructor
  · intro entry present
    have planPresent : entry.plan ∈ (extension.plan policy).1.resolvers := by
      rw [← made.tablePlans]
      exact List.mem_map_of_mem present
    obtain ⟨member, resolvable, planned⟩ :=
      (Extension.resolvers_of_clean_plan made.clean).member_of_mem planPresent
    obtain ⟨kind, type, classified, planMade⟩ := Extension.resolverPlan?_eq_some planned
    obtain ⟨handle, bound⟩ := made.tableBound entry present
    have key : entry.key = (extension.runtimeType, member.name) :=
      Extension.key_of_resolverPlan? planned
    have found := (compiled.table.find?_eq_some_iff _ _ entry).mpr ⟨present, key⟩
    refine ⟨member, resolvable, key, ?_, Extension.runsSupplied_of_bind classified planMade bound⟩
    rw [dispatcher?, DispatchTable.dispatcher?, made.runtimeType, found, Option.map_some]
  · intro node nodeMade
    obtain ⟨declaredIff, planned⟩ := made.node_of_declared
    rw [nodeMade, Option.isSome_some] at declaredIff
    obtain ⟨member, declared⟩ := Option.isSome_iff_exists.mp declaredIff.symm
    obtain ⟨other, otherMade, nodePlanned⟩ := planned member declared
    cases nodeMade.symm.trans otherMade
    obtain ⟨kind, type, classified, -, -, planMade⟩ := Extension.planNode_eq_ok nodePlanned
    obtain ⟨handle, bound⟩ := made.nodeBound node nodeMade
    exact ⟨member, declared, Extension.runsSupplied_of_bind classified planMade bound⟩

/-- The body of a node resolver that declares an `ID!` gets a text or a number. -/
theorem dispatchers_run_supplied_sample :
    ∃ (compiled : CompiledExtension Sample.host (ObjectType Sample.host))
      (node : NodeResolver Sample.host),
      Sample.query.compile .skip Sample.queryBodies 0 = .ok compiled ∧ compiled.node = some node ∧
        (∀ (request : Request) receiver arguments,
          Sample.query.invocation Sample.byId request = .ok (receiver, arguments) →
            arguments.size = 1 ∧ arguments.Reads 0 "ID") ∧
        Sample.query.invocation Sample.byId
            ((Request.new ⟨0⟩).withArgument "id" (.string "seven")) =
          .ok (none, ⟨[.string "seven"]⟩) := by
  have compiles : ((Sample.query.compile .skip Sample.queryBodies 0 :
      Except CompileError (CompiledExtension Sample.host (ObjectType Sample.host))).toOption.bind
        CompiledExtension.node).isSome = true := by
    decide +kernel
  obtain ⟨node, made⟩ := Option.isSome_iff_exists.mp compiles
  obtain ⟨compiled, found, nodeMade⟩ := Option.bind_eq_some_iff.mp made
  have success := (toOption_eq_some_iff _ _).mp found
  obtain ⟨member, declared, body, -, -, runs⟩ := (dispatchers_run_supplied success).2 node nodeMade
  cases (Option.some.inj declared : Sample.byId = member)
  refine ⟨compiled, node, success, nodeMade, ?_, rfl⟩
  intro request receiver arguments invoked
  obtain ⟨supplied, reads⟩ := (runs request).2 receiver arguments invoked
  exact ⟨supplied.size, (reads 0 _ rfl "ID" (by decide)).1 rfl⟩

end CompiledExtension

end FieldDispatch
