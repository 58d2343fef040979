import FieldDispatch.Proofs.LastEntry
import FieldDispatch.Proofs.MergedTable
import FieldDispatch.Proofs.RegistrationCalls

/-!
Hooks that are installed on the extensions of a schema, one after the other. The first extension of
an extension type takes every hook that is given for the type and keeps the last of them. Extensions
that share the type or the runtime type with it take none. Nothing else of a schema changes, neither
its tables nor its manifest nor what an extension registers before its hook.
-/

namespace FieldDispatch

variable {H : Host} {D : Type}

namespace CompiledSchema

def extensionTypes (extensions : List (CompiledExtension H D)) : List String :=
  extensions.map CompiledExtension.extensionType

/-- The hook for an extension that has extensions of the types `earlier` before it: the last one
that is given for its own type, unless that is among them. -/
def hookFor? (hooks : List (String × Hook H D)) (earlier : List String) (extensionType : String) :
    Option (Hook H D) :=
  if extensionType ∈ earlier then none else lastUnder? extensionType hooks

/-- What the installations answer. -/
def answers (schema : CompiledSchema H D) : List (String × Hook H D) → List Bool
  | [] => []
  | hook :: rest =>
      (schema.configure hook.1 hook.2).1 :: (schema.configure hook.1 hook.2).2.answers rest

end CompiledSchema

/-- An extension with the hook that is for it, or else the one that it had. -/
def CompiledExtension.hookedFrom (compiled : CompiledExtension H D)
    (hooks : List (String × Hook H D)) (earlier : List String) : CompiledExtension H D :=
  { compiled with
    hook := (CompiledSchema.hookFor? hooks earlier compiled.extensionType).or compiled.hook }

namespace CompiledSchema

theorem hookFor?_cons (hook : String × Hook H D) (rest : List (String × Hook H D))
    (earlier : List String) (extensionType : String) :
    hookFor? (hook :: rest) earlier extensionType =
      (hookFor? rest earlier extensionType).or (hookFor? [hook] earlier extensionType) := by
  unfold hookFor?
  split
  · rfl
  · exact lastUnder?_cons extensionType hook rest

theorem hookFor?_of_mem (hooks : List (String × Hook H D)) {earlier : List String}
    {extensionType : String} (taken : extensionType ∈ earlier) :
    hookFor? hooks earlier extensionType = none :=
  if_pos taken

/-- An extension of another type takes nothing away. -/
theorem hookFor?_of_ne_head (hooks : List (String × Hook H D)) {extensionType other : String}
    (different : extensionType ≠ other) (earlier : List String) :
    hookFor? hooks (other :: earlier) extensionType = hookFor? hooks earlier extensionType := by
  have passed : extensionType ∈ other :: earlier ↔ extensionType ∈ earlier :=
    List.mem_cons.trans (or_iff_right different)
  exact if_congr passed rfl rfl

theorem hookFor?_of_ne {hooks : List (String × Hook H D)} {extensionType : String}
    (others : ∀ hook ∈ hooks, hook.1 ≠ extensionType) (earlier : List String) :
    hookFor? hooks earlier extensionType = none := by
  rw [hookFor?, lastUnder?_eq_none others]
  exact ite_self none

/-! ## One hook -/

section InstallHook

variable (extensionType : String) (hook : Hook H D)

theorem extensionTypes_installHook (extensions : List (CompiledExtension H D)) :
    extensionTypes (installHook extensionType hook extensions) = extensionTypes extensions := by
  induction extensions with
  | nil => rfl
  | cons compiled rest induction =>
      rw [installHook]
      split
      · rfl
      · exact congrArg (compiled.extensionType :: ·) induction

/-- The first extension of the type takes the hook. -/
theorem hookedFrom_of_eq {compiled : CompiledExtension H D}
    (same : compiled.extensionType = extensionType) :
    compiled.hookedFrom [(extensionType, hook)] [] = compiled.withHook hook := by
  have given : hookFor? [(extensionType, hook)] [] compiled.extensionType = some hook := by
    rw [hookFor?, if_neg List.not_mem_nil, lastUnder?_singleton, if_pos same]
  rw [CompiledExtension.hookedFrom, given]
  rfl

theorem hookedFrom_of_ne {compiled : CompiledExtension H D}
    (different : compiled.extensionType ≠ extensionType) (earlier : List String) :
    compiled.hookedFrom [(extensionType, hook)] earlier = compiled := by
  have nothing : hookFor? [(extensionType, hook)] earlier compiled.extensionType = none := by
    apply hookFor?_of_ne
    intro only present
    rw [List.mem_singleton.mp present]
    exact different.symm
  rw [CompiledExtension.hookedFrom, nothing]
  rfl

theorem getElem?_installHook (extensions : List (CompiledExtension H D)) (place : Nat) :
    (installHook extensionType hook extensions)[place]? =
      extensions[place]?.map fun compiled =>
        compiled.hookedFrom [(extensionType, hook)] (extensionTypes (extensions.take place)) := by
  induction extensions generalizing place with
  | nil => rfl
  | cons compiled rest induction =>
      by_cases same : compiled.extensionType = extensionType
      · rw [installHook, if_pos same]
        cases place with
        | zero => exact congrArg some (hookedFrom_of_eq extensionType hook same).symm
        | succ place =>
            -- Whatever comes later either has another type or comes too late.
            have passed (later : CompiledExtension H D) : later.hookedFrom [(extensionType, hook)]
                (extensionTypes ((compiled :: rest).take (place + 1))) = later := by
              by_cases named : later.extensionType = extensionType
              · have taken : later.extensionType ∈
                    extensionTypes ((compiled :: rest).take (place + 1)) := by
                  rw [named, ← same]
                  exact List.mem_cons_self
                rw [CompiledExtension.hookedFrom, hookFor?_of_mem _ taken]
                rfl
              · exact hookedFrom_of_ne extensionType hook named _
            simp only [passed]
            exact Option.map_id'.symm
      · rw [installHook, if_neg same]
        cases place with
        | zero => exact congrArg some (hookedFrom_of_ne extensionType hook same []).symm
        | succ place =>
            have passed (later : CompiledExtension H D) : later.hookedFrom [(extensionType, hook)]
                (extensionTypes ((compiled :: rest).take (place + 1))) =
                  later.hookedFrom [(extensionType, hook)] (extensionTypes (rest.take place)) := by
              by_cases named : later.extensionType = extensionType
              · have other : later.extensionType ≠ compiled.extensionType := by
                  rw [named]
                  exact Ne.symm same
                exact congrArg (fun given => { later with hook := given.or later.hook })
                  (hookFor?_of_ne_head _ other _)
              · rw [hookedFrom_of_ne extensionType hook named,
                  hookedFrom_of_ne extensionType hook named]
            simp only [passed]
            exact induction place

end InstallHook

/-! ## Any number of hooks -/

theorem configureAll_cons (schema : CompiledSchema H D) (hook : String × Hook H D)
    (rest : List (String × Hook H D)) :
    schema.configureAll (hook :: rest) = (schema.configure hook.1 hook.2).2.configureAll rest := rfl

theorem table_configureAll (schema : CompiledSchema H D) (hooks : List (String × Hook H D)) :
    (schema.configureAll hooks).table = schema.table := by
  induction hooks generalizing schema with
  | nil => rfl
  | cons hook rest induction => exact induction _

theorem extensionTypes_configureAll (schema : CompiledSchema H D)
    (hooks : List (String × Hook H D)) :
    extensionTypes (schema.configureAll hooks).extensions = extensionTypes schema.extensions := by
  induction hooks generalizing schema with
  | nil => rfl
  | cons hook rest induction =>
      exact (induction _).trans (extensionTypes_installHook hook.1 hook.2 schema.extensions)

/-- The extension at a place has its last hook, or else the one that it had. -/
theorem getElem?_configureAll (schema : CompiledSchema H D) (hooks : List (String × Hook H D))
    (place : Nat) :
    (schema.configureAll hooks).extensions[place]? =
      schema.extensions[place]?.map fun compiled =>
        compiled.hookedFrom hooks (extensionTypes (schema.extensions.take place)) := by
  induction hooks generalizing schema with
  | nil =>
      have unchanged (compiled : CompiledExtension H D) (earlier : List String) :
          compiled.hookedFrom [] earlier = compiled := by
        rw [CompiledExtension.hookedFrom, hookFor?_of_ne (by simp)]
        rfl
      simp only [unchanged]
      exact Option.map_id'.symm
  | cons hook rest induction =>
      have types : extensionTypes ((schema.configure hook.1 hook.2).2.extensions.take place) =
          extensionTypes (schema.extensions.take place) := by
        have kept := extensionTypes_installHook hook.1 hook.2 schema.extensions
        unfold extensionTypes at kept ⊢
        rw [List.map_take, List.map_take]
        exact congrArg (List.take place) kept
      have installed : (schema.configure hook.1 hook.2).2.extensions[place]? = _ :=
        getElem?_installHook hook.1 hook.2 schema.extensions place
      rw [configureAll_cons, induction, types, installed, Option.map_map]
      congr 1
      funext compiled
      have split := hookFor?_cons hook rest (extensionTypes (schema.extensions.take place))
        compiled.extensionType
      rw [CompiledExtension.hookedFrom, split, Option.or_assoc]
      rfl

theorem mem_extensionTypes {extensions : List (CompiledExtension H D)} {extensionType : String} :
    extensionType ∈ extensionTypes extensions ↔
      ∃ compiled ∈ extensions, compiled.extensionType = extensionType :=
  List.mem_map

theorem fst_configure (schema : CompiledSchema H D) (extensionType : String) (hook : Hook H D) :
    (schema.configure extensionType hook).1 = true ↔
      ∃ compiled ∈ schema.extensions, compiled.extensionType = extensionType := by
  apply List.find?_isSome.trans
  simp only [decide_eq_true_eq]

/-- Which types there are does not depend on the hooks that were given before. -/
theorem forall₂_answers (schema : CompiledSchema H D) (hooks : List (String × Hook H D)) :
    List.Forall₂ (fun hook answer => answer = true ↔
      ∃ compiled ∈ schema.extensions, compiled.extensionType = hook.1) hooks
      (schema.answers hooks) := by
  induction hooks generalizing schema with
  | nil => exact List.Forall₂.nil
  | cons hook rest induction =>
      apply List.Forall₂.cons
      · exact schema.fst_configure hook.1 hook.2
      · have later := induction (schema.configure hook.1 hook.2).2
        have kept := extensionTypes_installHook hook.1 hook.2 schema.extensions
        simp only [← mem_extensionTypes] at later ⊢
        rw [← kept]
        exact later

end CompiledSchema

namespace CompiledExtension

variable [TypeRegistry H D]

/-- Registering makes the generated calls and then calls the hook, if there is one, up to the first
call that fails. On a descriptor of another type nothing is called. -/
def RunsHook (compiled : CompiledExtension H D) (hook : Option (Hook H D)) : Prop :=
  ∀ (descriptor : D) (world : World H.Env), ∃ log outcome final after,
    (Registration.run compiled.logged.register (⟨descriptor, []⟩ : Logged H D)).run world =
      ((outcome, ⟨final, log⟩), after) ∧
    (Registration.run compiled.register descriptor).run world = ((outcome, final), after) ∧
    (TypeRegistry.typeName descriptor = compiled.runtimeType →
      Replays (compiled.generatedCalls ++ (hook.map .configure).toList) (descriptor, world) log
        outcome (final, after)) ∧
    (TypeRegistry.typeName descriptor ≠ compiled.runtimeType →
      log = [] ∧ final = descriptor ∧ after = world)

theorem runsHook {compiled : CompiledExtension H D}
    (emitted : compiled.steps = stepsFor compiled.node compiled.table) :
    compiled.RunsHook compiled.hook := by
  intro descriptor world
  rw [run_register emitted, run_register_logged emitted]
  by_cases named : TypeRegistry.typeName descriptor = compiled.runtimeType
  · rw [if_pos named, if_pos named]
    obtain ⟨log, outcome, final, after, run, replays⟩ :=
      RegistrationCall.run_performAll_logged compiled.calls descriptor [] world
    exact ⟨log, outcome, final, after, run, replays.run_performAll, fun _ => replays, absurd named⟩
  · rw [if_neg named, if_neg named]
    exact ⟨[], _, descriptor, world, rfl, rfl, fun same => absurd same named,
      fun _ => ⟨rfl, rfl, rfl⟩⟩

end CompiledExtension

namespace CompiledSchema

/-- Hooks are installed locally. An installation says whether there is an extension of the type. At
each place stands the extension that stood there, with nothing changed but its hook, and it runs the
last hook for its type if it is the first of the type, and otherwise none. Table and manifest are as
they were. -/
theorem configureAll_localized [TypeRegistry H D] {policy : Policy}
    {units : List (Extension × Bodies H)} {first : Nat} {schema : CompiledSchema H D}
    (success : compile policy units first = .ok schema) (hooks : List (String × Hook H D)) :
    List.Forall₂ (fun hook answer => answer = true ↔
      ∃ compiled ∈ schema.extensions, compiled.extensionType = hook.1) hooks
      (schema.answers hooks) ∧
    (schema.configureAll hooks).table = schema.table ∧
    (schema.configureAll hooks).manifest = schema.manifest ∧
    (schema.configureAll hooks).extensions.length = schema.extensions.length ∧
    ∀ (place : Nat) (compiled : CompiledExtension H D), schema.extensions[place]? = some compiled →
      ∃ configured : CompiledExtension H D,
        (schema.configureAll hooks).extensions[place]? = some configured ∧
        configured = { compiled with hook := configured.hook } ∧
        configured.RunsHook (hookFor? hooks (extensionTypes (schema.extensions.take place))
          compiled.extensionType) := by
  refine ⟨schema.forall₂_answers hooks, schema.table_configureAll hooks,
    schema.manifest_configureAll hooks, ?_, ?_⟩
  · have kept := congrArg List.length (schema.extensionTypes_configureAll hooks)
    rw [extensionTypes, extensionTypes, List.length_map, List.length_map] at kept
    exact kept
  · intro place compiled there
    have found := schema.getElem?_configureAll hooks place
    rw [there, Option.map_some] at found
    obtain ⟨unit, -, made⟩ :=
      (compile_eq_ok success).1.of_mem (List.mem_of_getElem? there)
    refine ⟨_, found, rfl, ?_⟩
    have runs := (compiled.hookedFrom hooks
      (extensionTypes (schema.extensions.take place))).runsHook made.steps
    rw [CompiledExtension.hookedFrom, made.hook, Option.or_none] at runs ⊢
    exact runs

end CompiledSchema

namespace Sample

/-- Two extensions of one extension type. -/
def rivals : List (Extension × Bodies host) :=
  [(query, queryBodies), (((Extension.ofType "Query").extendedBy "QueryFields").withMember
    ((Member.method "Count" (.value ⟨"Int"⟩)).asStatic),
      OrderedMap.empty.insert "Count" (.staticMethod fun _ => pure (.int 1)))]

def rivalHooks : List (String × Hook host (ObjectType host)) :=
  [("QueryFields", (pure () : Registration host (ObjectType host) Unit)), ("Query", strictHook),
    ("QueryFields", strictHook)]

end Sample

/-- The second of two hooks stays, on the first of two extensions. -/
theorem CompiledSchema.configureAll_localized_rivals :
    ∃ (schema : CompiledSchema Sample.host (ObjectType Sample.host))
      (one other : CompiledExtension Sample.host (ObjectType Sample.host)),
      compile .skip Sample.rivals 0 = .ok schema ∧
      extensionTypes schema.extensions = ["QueryFields", "QueryFields"] ∧
      schema.answers Sample.rivalHooks = [true, false, true] ∧
      (schema.configureAll Sample.rivalHooks).extensions = [one, other] ∧
      (schema.configureAll Sample.rivalHooks).manifest = schema.manifest ∧
      one.RunsHook (some Sample.strictHook) ∧ other.RunsHook none := by
  have compiles : ((compile .skip Sample.rivals 0).toOption.map
      fun schema : CompiledSchema Sample.host (ObjectType Sample.host) =>
        (extensionTypes schema.extensions, schema.answers Sample.rivalHooks)) =
      some (["QueryFields", "QueryFields"], [true, false, true]) := by
    decide +kernel
  obtain ⟨schema, found, facts⟩ := Option.map_eq_some_iff.mp compiles
  obtain ⟨types, answers⟩ := Prod.mk.inj facts
  have success := (toOption_eq_some_iff _ _).mp found
  obtain ⟨-, -, manifest, length, places⟩ := configureAll_localized success Sample.rivalHooks
  obtain ⟨first, rest, firstEq, firstType, restTypes⟩ := List.map_eq_cons_iff.mp types
  obtain ⟨second, last, rfl, secondType, lastTypes⟩ := List.map_eq_cons_iff.mp restTypes
  cases List.map_eq_nil_iff.mp lastTypes
  rw [firstEq] at length places
  obtain ⟨one, oneThere, -, oneRuns⟩ := places 0 first rfl
  obtain ⟨other, otherThere, -, otherRuns⟩ := places 1 second rfl
  obtain ⟨hooked, hookless, both⟩ := List.length_eq_two.mp length
  rw [both] at oneThere otherThere
  cases oneThere
  cases otherThere
  rw [firstType] at oneRuns
  have taken : second.extensionType ∈ extensionTypes ([first, second].take 1) := by
    rw [secondType, ← firstType]
    exact List.mem_cons_self
  rw [hookFor?_of_mem _ taken] at otherRuns
  exact ⟨schema, one, other, success, types, answers, both, manifest, oneRuns, otherRuns⟩

end FieldDispatch
