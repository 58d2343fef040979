import FieldDispatch.Proofs.Compilation

/-!
Two ways to one manifest: numbering the plans of extensions, and numbering the tables of the
compiled extensions. They agree on every schema that compiles, and hooks installed later do not show
in the manifest. Numbers are words that wrap in both, so the size of the schema plays no part.
-/

namespace FieldDispatch

/-- Counting on from a number, first over the items skipped and then to an offset after them. -/
theorem word_add_skipped (first : UInt32) (skipped offset : Nat) :
    first + UInt32.ofNat skipped + UInt32.ofNat offset =
      first + UInt32.ofNat (offset + skipped) := by
  rw [UInt32.ofNat_add, UInt32.add_assoc, UInt32.add_comm (UInt32.ofNat skipped)]

theorem mapIdx_of_map {α β γ : Type} (f : α → β) (g : Nat → β → γ) (items : List α) :
    (items.map f).mapIdx g = items.mapIdx fun position item => g position (f item) :=
  List.ext_getElem (by simp) (by simp)

theorem map_of_mapIdx {α β γ : Type} (f : Nat → α → β) (g : β → γ) (items : List α) :
    (items.mapIdx f).map g = items.mapIdx fun position item => g (f position item) :=
  List.ext_getElem (by simp) (by simp)

/-- A recursion that gives each item the next number gives each its place after the first. -/
theorem counting_eq_mapIdx {α β : Type} (number : UInt32 → List α → List β) (f : UInt32 → α → β)
    (done : ∀ first, number first [] = [])
    (next : ∀ first item rest, number first (item :: rest) = f first item :: number (first + 1) rest)
    (first : UInt32) (items : List α) :
    number first items = items.mapIdx fun offset item => f (first + UInt32.ofNat offset) item := by
  induction items generalizing first with
  | nil => exact done first
  | cons item rest induction =>
      have counted (offset : Nat) :
          first + 1 + UInt32.ofNat offset = first + UInt32.ofNat (offset + 1) :=
        word_add_skipped first 1 offset
      have start : first + UInt32.ofNat 0 = first := UInt32.add_zero first
      rw [next, induction, List.mapIdx_cons, start]
      simp only [counted]

namespace ExtensionPlan

theorem describeResolvers_eq_mapIdx (first : UInt32) (plans : List ResolverPlan) :
    describeResolvers first plans =
      plans.mapIdx fun offset plan => plan.describe (some (first + UInt32.ofNat offset)) :=
  counting_eq_mapIdx describeResolvers (fun id plan => plan.describe (some id)) (fun _ => rfl)
    (fun _ _ _ => rfl) first plans

theorem fieldSteps_eq_mapIdx (first : UInt32) (plans : List ResolverPlan) :
    fieldSteps first plans =
      plans.mapIdx fun offset plan =>
        .field plan.name.memberName (first + UInt32.ofNat offset) :=
  counting_eq_mapIdx fieldSteps (fun id plan => .field plan.name.memberName id) (fun _ => rfl)
    (fun _ _ _ => rfl) first plans

end ExtensionPlan

namespace CompiledExtension

variable {H : Host} {D : Type}

theorem describe_stepsFor (node : Option (NodeResolver H)) (table : DispatchTable H)
    (first : UInt32) :
    (stepsFor node table).map (RegistrationStep.describe first) =
      (if node.isSome then [.node] else []) ++
        table.entries.mapIdx fun offset entry =>
          .field entry.plan.name.memberName (first + UInt32.ofNat offset) := by
  unfold stepsFor
  rw [List.map_append, map_of_mapIdx]
  congr 1
  cases node <;> rfl

/-- The manifest entry of a compiled extension is that of its plan, whatever the first number. -/
theorem IsCompiled.describe_eq {policy : Policy} {extension : Extension} {bodies : Bodies H}
    {compiled : CompiledExtension H D} (made : compiled.IsCompiled policy extension bodies)
    (first : UInt32) : compiled.describe first = (extension.plan policy).1.describe first := by
  have resolvers : compiled.table.describe first =
      ExtensionPlan.describeResolvers first (extension.plan policy).1.resolvers := by
    rw [ExtensionPlan.describeResolvers_eq_mapIdx, ← made.tablePlans, mapIdx_of_map]
    rfl
  have nodes : compiled.node.isSome = (extension.plan policy).1.nodeResolver.isSome := by
    rw [← made.nodePlan, Option.isSome_map]
  have steps : compiled.steps.map (RegistrationStep.describe first) =
      (if (extension.plan policy).1.nodeResolver.isSome then [.node] else []) ++
        ExtensionPlan.fieldSteps first (extension.plan policy).1.resolvers := by
    rw [made.steps, describe_stepsFor, nodes, ExtensionPlan.fieldSteps_eq_mapIdx,
      ← made.tablePlans, mapIdx_of_map]
  unfold describe ExtensionPlan.describe
  rw [resolvers, steps, made.runtimeType, made.extensionType, made.omitted, ← made.nodePlan,
    Option.map_map]
  rfl

theorem IsCompiled.size_table {policy : Policy} {extension : Extension} {bodies : Bodies H}
    {compiled : CompiledExtension H D} (made : compiled.IsCompiled policy extension bodies) :
    compiled.table.size = (extension.plan policy).1.resolvers.length := by
  rw [← made.tablePlans, List.length_map]
  rfl

end CompiledExtension

namespace CompiledSchema

variable {H : Host} {D : Type}

theorem describeFrom_eq_describeAll {policy : Policy} {units : List (Extension × Bodies H)}
    {extensions : List (CompiledExtension H D)} (made : AreCompiled policy units extensions)
    (next : UInt32) :
    describeFrom next extensions = (Manifest.describeAll policy next (units.map Prod.fst)).1 := by
  induction made generalizing next with
  | nil => rfl
  | cons compiled later induction =>
      rw [describeFrom, List.map_cons, Manifest.describeAll, compiled.describe_eq,
        compiled.size_table, induction]

/-- Installing hooks one after the other, each on the first extension with its extension type. -/
def configureAll (schema : CompiledSchema H D) (hooks : List (String × Hook H D)) :
    CompiledSchema H D :=
  hooks.foldl (fun configured hook => (configured.configure hook.1 hook.2).2) schema

theorem describeFrom_installHook (extensionType : String) (hook : Hook H D) (next : UInt32)
    (extensions : List (CompiledExtension H D)) :
    describeFrom next (installHook extensionType hook extensions) =
      describeFrom next extensions := by
  induction extensions generalizing next with
  | nil => rfl
  | cons compiled rest induction =>
      rw [installHook]
      split
      · rfl
      · rw [describeFrom, describeFrom, induction]

theorem manifest_configure (schema : CompiledSchema H D) (extensionType : String)
    (hook : Hook H D) : (schema.configure extensionType hook).2.manifest = schema.manifest :=
  congrArg Manifest.ofEntries (describeFrom_installHook extensionType hook 0 schema.extensions)

theorem manifest_configureAll (schema : CompiledSchema H D) (hooks : List (String × Hook H D)) :
    (schema.configureAll hooks).manifest = schema.manifest := by
  induction hooks generalizing schema with
  | nil => rfl
  | cons hook rest induction =>
      exact (induction _).trans (schema.manifest_configure hook.1 hook.2)

/-- A schema that compiles has the manifest planned for its extensions, before and after hooks are
installed. -/
theorem manifest_eq_planned {policy : Policy} {units : List (Extension × Bodies H)} {first : Nat}
    {schema : CompiledSchema H D} (success : compile policy units first = .ok schema) :
    (Manifest.ofExtensions policy (units.map Prod.fst)).1 = schema.manifest ∧
      ∀ hooks : List (String × Hook H D),
        (Manifest.ofExtensions policy (units.map Prod.fst)).1 =
          (schema.configureAll hooks).manifest := by
  have planned : (Manifest.ofExtensions policy (units.map Prod.fst)).1 = schema.manifest :=
    (congrArg Manifest.ofEntries
      (describeFrom_eq_describeAll (compile_eq_ok success).1 0)).symm
  refine ⟨planned, ?_⟩
  intro hooks
  rw [planned, schema.manifest_configureAll hooks]

theorem manifest_eq_planned_sample :
    ∃ schema : CompiledSchema Sample.host (ObjectType Sample.host),
      compile .skip Sample.units 0 = .ok schema ∧ schema.table.size = 4 ∧
        (Manifest.ofExtensions .skip (Sample.units.map Prod.fst)).1 = schema.manifest ∧
        (schema.manifest.extensions.map fun entry =>
          (entry.runtimeType, entry.resolvers.map Manifest.Resolver.id, entry.omitted.length)) =
          [("Query", [some 0, some 1], 1), ("Empty", [], 0), ("Product", [some 2], 0),
            ("Query", [some 3], 0)] := by
  obtain ⟨schema, success, size, -⟩ := Sample.units_compile
  have planned := (manifest_eq_planned success).1
  refine ⟨schema, success, size, planned, ?_⟩
  rw [← planned]
  decide +kernel

end CompiledSchema

end FieldDispatch
