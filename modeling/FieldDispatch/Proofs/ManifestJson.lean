import FieldDispatch.Manifest.Codec
import FieldDispatch.Proofs.ExtensionJson

/-!
Manifests are read back from their JSON, with everything that was left out of it. Two manifests
cannot share one JSON tree. Nothing is asked of a manifest: ids, slot numbers and steps may be
arbitrary.
-/

namespace FieldDispatch

open Json.Draft

@[simp]
theorem ResolverName.ofDraft?_toJson (name : ResolverName) :
    ofDraft? (ofJson name.toJson) = some name := by
  unfold toJson ofDraft?
  rw [fields?_object (by simp)]
  simp [List.lookup_cons, required]

@[simp]
theorem ResolverKind.ofDraft?_toJson (kind : ResolverKind) :
    ofDraft? (ofJson kind.toJson) = some kind := by
  cases kind <;> rfl

@[simp]
theorem Receiver.ofDraft?_toJson (receiver : Receiver) :
    ofDraft? (ofJson receiver.toJson) = some receiver := by
  unfold ofDraft?
  cases receiver with
  | static declaringType =>
      unfold toJson
      rw [tagged?_object (by simp) (by simp)]
      simp [fields?_object, required]
  | parent runtimeType =>
      unfold toJson
      rw [tagged?_object (by simp) (by simp)]
      simp [fields?_object, required]

@[simp]
theorem Slot.ofDraft?_toJson (slot : Slot) : ofDraft? (ofJson slot.toJson) = some slot := by
  unfold toJson ofDraft?
  rw [fields?_object (by simp)]
  simp [List.lookup_cons, required]

@[simp]
theorem ArgumentPlan.ofDraft?_toJson (plan : ArgumentPlan) :
    ofDraft? (ofJson plan.toJson) = some plan := by
  unfold toJson ofDraft?
  rw [list?_ofJson Slot.ofDraft?_toJson]
  rfl

namespace Manifest

/-- A list that was left out because it is empty is read back as empty. -/
theorem defaulted_nonempty? {α β : Type} {toJson : α → Json} {value? : Json.Draft → Option β}
    {ofList : List α → β}
    (reads : ∀ items, value? (ofJson (.array (items.map toJson))) = some (ofList items))
    (items : List α) :
    defaulted (ofList []) value? ((nonempty? toJson items).map ofJson) = some (ofList items) := by
  cases items with
  | nil => rfl
  | cons item rest => exact reads (item :: rest)

@[simp]
theorem Resolver.ofDraft?_toJson (resolver : Resolver) :
    ofDraft? (ofJson resolver.toJson) = some resolver := by
  have id : optional word32? (resolver.id.map (ofJson ∘ fun id => Json.natural id.toNat)) =
      some resolver.id := optional_ofJson word32?_ofJson rfl resolver.id
  have arguments : defaulted .empty ArgumentPlan.ofDraft?
      ((nonempty? Slot.toJson resolver.arguments.slots).map ofJson) = some resolver.arguments :=
    defaulted_nonempty? (fun slots => ArgumentPlan.ofDraft?_toJson ⟨slots⟩) resolver.arguments.slots
  unfold toJson ofDraft?
  rw [fields?_present (by simp)]
  simp [List.lookup_cons, required, id, arguments]

@[simp]
theorem Omitted.ofDraft?_toJson (omitted : Omitted) :
    ofDraft? (ofJson omitted.toJson) = some omitted := by
  unfold toJson ofDraft?
  rw [fields?_object (by simp)]
  simp [List.lookup_cons, required]

@[simp]
theorem Step.ofDraft?_toJson (step : Step) : ofDraft? (ofJson step.toJson) = some step := by
  unfold ofDraft?
  cases step with
  | node =>
      unfold toJson
      rw [tagged?_object (by simp) (by simp)]
      rfl
  | field name resolver =>
      unfold toJson
      rw [tagged?_object (by simp) (by simp)]
      simp [fields?_object, List.lookup_cons, required]
  | configure =>
      unfold toJson
      rw [tagged?_object (by simp) (by simp)]
      rfl

@[simp]
theorem Entry.ofDraft?_toJson (entry : Entry) : ofDraft? (ofJson entry.toJson) = some entry := by
  have node : optional Resolver.ofDraft? (entry.nodeResolver.map (ofJson ∘ Resolver.toJson)) =
      some entry.nodeResolver := optional_ofJson Resolver.ofDraft?_toJson rfl entry.nodeResolver
  have resolvers : defaulted [] (list? Resolver.ofDraft?)
      ((nonempty? Resolver.toJson entry.resolvers).map ofJson) = some entry.resolvers :=
    defaulted_nonempty? (list?_ofJson Resolver.ofDraft?_toJson) entry.resolvers
  have omitted : defaulted [] (list? Omitted.ofDraft?)
      ((nonempty? Omitted.toJson entry.omitted).map ofJson) = some entry.omitted :=
    defaulted_nonempty? (list?_ofJson Omitted.ofDraft?_toJson) entry.omitted
  have steps : list? Step.ofDraft? (ofJson (.array (entry.steps.map Step.toJson))) =
      some entry.steps := list?_ofJson Step.ofDraft?_toJson entry.steps
  unfold toJson ofDraft?
  rw [fields?_present (by simp)]
  simp [List.lookup_cons, required, node, resolvers, omitted, steps]

@[simp]
theorem ofDraft?_toJson (manifest : Manifest) :
    ofDraft? (ofJson manifest.toJson) = some manifest := by
  have extensions : defaulted [] (list? Entry.ofDraft?)
      ((nonempty? Entry.toJson manifest.extensions).map ofJson) = some manifest.extensions :=
    defaulted_nonempty? (list?_ofJson Entry.ofDraft?_toJson) manifest.extensions
  unfold toJson ofDraft?
  rw [fields?_present (by simp)]
  simp [List.lookup_cons, required, extensions]

/-- What is left out of the JSON of a manifest is restored, so no two manifests have the same. -/
theorem manifests_read_back (manifest : Manifest) :
    ofDraft? (ofJson manifest.toJson) = some manifest ∧
      ∀ other : Manifest, other.toJson = manifest.toJson → other = manifest := by
  refine ⟨manifest.ofDraft?_toJson, ?_⟩
  intro other same
  have read : some other = some manifest := by
    rw [← other.ofDraft?_toJson, same, manifest.ofDraft?_toJson]
  exact Option.some.inj read

end Manifest

end FieldDispatch
