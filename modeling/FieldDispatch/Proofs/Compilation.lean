import FieldDispatch.Dispatch.Schema
import FieldDispatch.Proofs.Planning
import FieldDispatch.Proofs.Table

/-!
What a successful compilation gives: a plan without errors, one table entry for each planned
resolver in the order of the plan, and a dispatcher from the body of each. A schema has the compiled
extensions in the order of its units and their entries one after the other. These statements are
about success only.
-/

namespace FieldDispatch

theorem bind_eq_ok_iff {Error α β : Type} (attempt : Except Error α) (next : α → Except Error β)
    (result : β) :
    (attempt >>= next) = .ok result ↔ ∃ value, attempt = .ok value ∧ next value = .ok result := by
  cases attempt <;> simp [bind, Except.bind]

theorem toOption_eq_some_iff {Error α : Type} (result : Except Error α) (value : α) :
    result.toOption = some value ↔ result = .ok value := by
  cases result <;> simp [Except.toOption]

namespace ResolverPlan

variable {H : Host}

theorem bind_eq_ok {plan : ResolverPlan} {bodies : Bodies H} {handle : Nat}
    {dispatcher : Dispatcher H} (success : plan.bind bodies handle = .ok dispatcher) :
    ∃ body, bodies.get? plan.name.memberName = some body ∧
      Dispatcher.ofPlan handle plan body = .ok dispatcher := by
  unfold bind at success
  split at success
  · cases success
  · next body found => exact ⟨body, found, success⟩

/-- What a node resolver is made of. -/
theorem bindNode_eq_ok {planned : Option ResolverPlan} {bodies : Bodies H} {handle : Nat}
    {node : Option (NodeResolver H)} (success : bindNode bodies handle planned = .ok node) :
    node.map NodeResolver.plan = planned ∧
      ∀ resolver ∈ node, resolver.plan.bind bodies handle = .ok resolver.dispatcher := by
  cases planned with
  | none =>
      cases success
      simp
  | some plan =>
      obtain ⟨dispatcher, bound, made⟩ := (bind_eq_ok_iff _ _ _).mp success
      cases made
      simpa using bound

theorem bindAll_eq_ok {plans : List ResolverPlan} {bodies : Bodies H} {handle : Nat}
    {table final : DispatchTable H} (success : bindAll bodies handle table plans = .ok final) :
    ∃ fresh, final.entries = table.entries ++ fresh ∧
      fresh.map DispatchTable.Entry.plan = plans ∧
      ∀ entry ∈ fresh, ∃ number, entry.plan.bind bodies number = .ok entry.dispatcher := by
  induction plans generalizing handle table with
  | nil =>
      cases success
      exact ⟨[], by simp⟩
  | cons plan rest induction =>
      obtain ⟨dispatcher, bound, afterBind⟩ := (bind_eq_ok_iff _ _ _).mp success
      obtain ⟨⟨id, extended⟩, inserted, afterInsert⟩ := (bind_eq_ok_iff _ _ _).mp afterBind
      have grown : extended.entries = table.entries ++ [⟨plan, dispatcher⟩] := by
        cases attempt : table.insert ⟨plan, dispatcher⟩ with
        | error error => simp [attempt, Except.mapError] at inserted
        | ok result =>
            rw [attempt] at inserted
            cases inserted
            exact ((DispatchTable.insert_eq_ok_iff _ _ _ _).mp attempt).2.2
      obtain ⟨fresh, entriesEq, plansEq, boundAll⟩ := induction afterInsert
      refine ⟨⟨plan, dispatcher⟩ :: fresh, ?_, by simp [plansEq], ?_⟩
      · rw [entriesEq, grown, List.append_assoc, List.singleton_append]
      · rintro entry present
        rcases List.mem_cons.mp present with rfl | later
        · exact ⟨handle, bound⟩
        · exact boundAll entry later

end ResolverPlan

/-- A compiled extension as it leaves the compiler. -/
structure CompiledExtension.IsCompiled {H : Host} {D : Type} (policy : Policy)
    (extension : Extension) (bodies : Bodies H) (compiled : CompiledExtension H D) : Prop where
  clean : Diagnostic.hasErrors (extension.plan policy).2 = false
  runtimeType : compiled.runtimeType = extension.runtimeType
  extensionType : compiled.extensionType = extension.extensionType
  nodePlan : compiled.node.map NodeResolver.plan = (extension.plan policy).1.nodeResolver
  nodeBound : ∀ node ∈ compiled.node, ∃ handle, node.plan.bind bodies handle = .ok node.dispatcher
  tablePlans :
    compiled.table.entries.map DispatchTable.Entry.plan = (extension.plan policy).1.resolvers
  tableBound : ∀ entry ∈ compiled.table.entries,
    ∃ handle, entry.plan.bind bodies handle = .ok entry.dispatcher
  steps : compiled.steps = CompiledExtension.stepsFor compiled.node compiled.table
  omitted : compiled.omitted = (extension.plan policy).1.omitted
  hook : compiled.hook = none

namespace Extension

variable {H : Host} {D : Type}

theorem compile_eq_ok {policy : Policy} {extension : Extension} {bodies : Bodies H} {first : Nat}
    {compiled : CompiledExtension H D}
    (success : extension.compile policy bodies first = .ok compiled) :
    compiled.IsCompiled policy extension bodies := by
  unfold compile at success
  by_cases clean : Diagnostic.hasErrors (extension.plan policy).2 = true
  · simp [clean, throw, throwThe, MonadExceptOf.throw, bind, Except.bind] at success
  · simp only [clean] at success
    obtain ⟨node, nodeMade, afterNode⟩ := (bind_eq_ok_iff _ _ _).mp success
    obtain ⟨table, tableMade, made⟩ := (bind_eq_ok_iff _ _ _).mp afterNode
    cases made
    obtain ⟨nodePlan, nodeBound⟩ := ResolverPlan.bindNode_eq_ok nodeMade
    obtain ⟨fresh, entriesEq, plansEq, boundAll⟩ := ResolverPlan.bindAll_eq_ok tableMade
    have entries : table.entries = fresh := entriesEq
    exact {
      clean := by simpa using clean
      runtimeType := rfl
      extensionType := rfl
      nodePlan
      nodeBound := fun resolver present => ⟨first, nodeBound resolver present⟩
      tablePlans := entries ▸ plansEq
      tableBound := entries ▸ boundAll
      steps := rfl
      omitted := rfl
      hook := rfl }

end Extension

namespace CompiledSchema

variable {H : Host} {D : Type}

/-- Extensions compiled from the units of a list, one from each. -/
def AreCompiled (policy : Policy) (units : List (Extension × Bodies H))
    (extensions : List (CompiledExtension H D)) : Prop :=
  List.Forall₂ (fun unit compiled => compiled.IsCompiled policy unit.1 unit.2) units extensions

/-- The table entries of extensions, one extension after the other. -/
def entriesOf (extensions : List (CompiledExtension H D)) : List (DispatchTable.Entry H) :=
  extensions.flatMap fun compiled => compiled.table.entries

theorem entriesOf_cons (compiled : CompiledExtension H D)
    (rest : List (CompiledExtension H D)) :
    entriesOf (compiled :: rest) = compiled.table.entries ++ entriesOf rest :=
  List.flatMap_cons

theorem mem_entriesOf {extensions : List (CompiledExtension H D)}
    {entry : DispatchTable.Entry H} :
    entry ∈ entriesOf extensions ↔ ∃ compiled ∈ extensions, entry ∈ compiled.table.entries :=
  List.mem_flatMap

theorem add_eq_ok {schema final : CompiledSchema H D} {compiled : CompiledExtension H D}
    (success : schema.add compiled = .ok final) :
    final.extensions = schema.extensions ++ [compiled] ∧
      final.table.entries = schema.table.entries ++ compiled.table.entries := by
  unfold add at success
  split at success
  · next ids table appended =>
    cases success
    exact ⟨rfl, DispatchTable.entries_append appended⟩
  · cases success

theorem extend_eq_ok {policy : Policy} {handle : Nat} {schema final : CompiledSchema H D}
    {units : List (Extension × Bodies H)} (success : schema.extend policy handle units = .ok final) :
    ∃ extensions, AreCompiled policy units extensions ∧
      final.extensions = schema.extensions ++ extensions ∧
      final.table.entries = schema.table.entries ++ entriesOf extensions := by
  induction units generalizing schema handle with
  | nil =>
      cases success
      exact ⟨[], List.Forall₂.nil, by simp, by simp [entriesOf]⟩
  | cons unit rest induction =>
      obtain ⟨compiled, made, afterCompile⟩ := (bind_eq_ok_iff _ _ _).mp success
      obtain ⟨extended, added, afterAdd⟩ := (bind_eq_ok_iff _ _ _).mp afterCompile
      obtain ⟨extensionsAdded, entriesAdded⟩ := add_eq_ok added
      obtain ⟨extensions, areCompiled, extensionsEq, entriesEq⟩ := induction afterAdd
      refine ⟨compiled :: extensions, ?_, ?_, ?_⟩
      · exact List.Forall₂.cons (Extension.compile_eq_ok made) areCompiled
      · rw [extensionsEq, extensionsAdded, List.append_assoc, List.singleton_append]
      · rw [entriesEq, entriesAdded, List.append_assoc, entriesOf_cons]

theorem compile_eq_ok {policy : Policy} {units : List (Extension × Bodies H)} {first : Nat}
    {schema : CompiledSchema H D} (success : compile policy units first = .ok schema) :
    AreCompiled policy units schema.extensions ∧
      schema.table.entries = entriesOf schema.extensions := by
  obtain ⟨extensions, areCompiled, extensionsEq, entriesEq⟩ := extend_eq_ok success
  have same : schema.extensions = extensions := extensionsEq
  rw [same]
  exact ⟨areCompiled, entriesEq⟩

end CompiledSchema

/-! A small schema: a type that is a node and leaves one method out, another with a property, the
first once more with a further field, and one without members. -/

namespace Sample

/-- Work that takes some polls and ends with null. -/
def host : Host where
  Env := Unit
  Task := Nat
  advance
    | 0 => pure (.finished (.ok .null))
    | polls + 1 => pure (.running polls)

def byId : Member :=
  (Member.method "ById" (.value ⟨"Query"⟩)).asStatic.withParameter (.argument "id" "ID!")

def version : Member :=
  (Member.method "Version" (.value ⟨"Int"⟩)).asStatic.withParameter (.argument "at" "[Int!]")

def query : Extension :=
  (((Extension.ofType "Query").extendedBy "QueryFields").withNodeResolver byId)
    |>.withMember (.method "Ping" .nothing)
    |>.withMember version
    |>.withMember (.method "Later" (.future (some ⟨"Int"⟩)))

def queryBodies : Bodies host :=
  OrderedMap.empty
    |>.insert "ById" (.staticMethod fun _ => pure .null)
    |>.insert "Version" (.staticMethod fun _ => pure (.int 7))
    |>.insert "Later" (.staticAsync fun _ => pure (.running (2 : Nat)))

def units : List (Extension × Bodies host) :=
  [(query, queryBodies), (.ofType "Empty", .empty),
    ((Extension.ofType "Product").withMember (.property "Price" "Float"),
      OrderedMap.empty.insert "Price" (.staticProperty (pure .null))),
    (((Extension.ofType "Query").extendedBy "MoreFields").withMember
        ((Member.method "Count" (.value ⟨"Int"⟩)).asStatic),
      OrderedMap.empty.insert "Count" (.staticMethod fun _ => pure (.int 1)))]

theorem units_compile :
    ∃ schema : CompiledSchema host (ObjectType host),
      CompiledSchema.compile .skip units 0 = .ok schema ∧ schema.table.size = 4 ∧
        schema.table.lookup? "Query" "Count" = some 3 := by
  have compiles : ((CompiledSchema.compile .skip units 0).toOption.map
      fun schema : CompiledSchema host (ObjectType host) =>
        (schema.table.size, schema.table.lookup? "Query" "Count")) = some (4, some 3) := by
    decide +kernel
  obtain ⟨schema, found, facts⟩ := Option.map_eq_some_iff.mp compiles
  obtain ⟨size, count⟩ := Prod.mk.inj facts
  exact ⟨schema, (toOption_eq_some_iff _ _).mp found, size, count⟩

end Sample

end FieldDispatch
