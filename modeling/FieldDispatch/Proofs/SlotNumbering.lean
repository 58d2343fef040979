import FieldDispatch.Proofs.ManifestText
import FieldDispatch.Proofs.Reference

/-!
Which argument plans are numbered by position. Plans for parameters are, and the check of a list of
slots lets nothing else pass. Reading JSON makes no such check: a plan that was read is numbered if
and only if the JSON states so, slot by slot, and this is the same for a plan by itself, for that of
a resolver and for those of a whole manifest.
-/

namespace FieldDispatch

namespace Json.Draft

/-- The value of one field of a record, if it is there. -/
def field? (names : List String) (name : String) (draft : Draft) : Option Draft :=
  (fields? names draft).bind fun values => ((names.zip values).lookup name).join

theorem field?_of_fields? {names : List String} {draft : Draft} {values : List (Option Draft)}
    (found : fields? names draft = some values) (name : String) :
    field? names name draft = ((names.zip values).lookup name).join := by
  rw [field?, found]
  rfl

def items : Draft → List Draft
  | .array items => items
  | _ => []

/-- A draft that is not null. -/
def given? : Draft → Option Draft
  | .null => none
  | draft => some draft

theorem forall₂_of_mapM {α β : Type} {f : α → Option β} {inputs : List α} {outputs : List β}
    (mapped : inputs.mapM f = some outputs) :
    List.Forall₂ (fun input output => f input = some output) inputs outputs := by
  induction inputs generalizing outputs with
  | nil =>
      cases mapped
      exact List.Forall₂.nil
  | cons input rest induction =>
      rw [List.mapM_cons] at mapped
      obtain ⟨output, head, mapped⟩ := Option.bind_eq_some_iff.mp mapped
      obtain ⟨later, tail, mapped⟩ := Option.bind_eq_some_iff.mp mapped
      cases mapped
      exact List.Forall₂.cons head (induction tail)

section Lists

variable {α : Type} {item? : Draft → Option α}

/-- A list is read item by item. -/
theorem forall₂_of_list? {draft : Draft} {values : List α}
    (read : list? item? draft = some values) :
    List.Forall₂ (fun item value => item? item = some value) draft.items values := by
  cases draft with
  | array items => exact forall₂_of_mapM read
  | _ => cases read

theorem forall₂_of_defaulted {field : Option Draft} {values : List α}
    (read : defaulted [] (list? item?) field = some values) :
    List.Forall₂ (fun item value => item? item = some value)
      ((field.map items).getD []) values := by
  cases field with
  | none =>
      cases read
      exact List.Forall₂.nil
  | some draft => exact forall₂_of_list? read

theorem forall₂_of_optional {field : Option Draft} {value : Option α}
    (read : optional item? field = some value) :
    List.Forall₂ (fun item value => item? item = some value)
      (field.bind given?).toList value.toList := by
  cases field with
  | none =>
      cases read
      exact List.Forall₂.nil
  | some draft =>
      cases draft with
      | null =>
          cases read
          exact List.Forall₂.nil
      | _ =>
          obtain ⟨made, found, rfl⟩ := Option.map_eq_some_iff.mp read
          exact List.Forall₂.cons found List.Forall₂.nil

end Lists

end Json.Draft

open Json.Draft

/-- The index that the JSON of a slot states. -/
def Slot.statedIndex? (draft : Json.Draft) : Option UInt64 :=
  (field? ["index", "name", "type", "source"] "index" draft).bind word64?

theorem Slot.statedIndex?_of_ofDraft? {draft : Json.Draft} {slot : Slot}
    (read : ofDraft? draft = some slot) : statedIndex? draft = some slot.index := by
  unfold ofDraft? at read
  obtain ⟨values, found, read⟩ := Option.bind_eq_some_iff.mp read
  split at read
  · next index name type source =>
    obtain ⟨word, stated, read⟩ := Option.bind_eq_some_iff.mp read
    obtain ⟨_, _, read⟩ := Option.bind_eq_some_iff.mp read
    obtain ⟨_, _, read⟩ := Option.bind_eq_some_iff.mp read
    obtain ⟨_, _, read⟩ := Option.bind_eq_some_iff.mp read
    cases read
    rw [statedIndex?, field?_of_fields? found]
    exact stated
  · cases read

namespace ArgumentPlan

/-- Every slot has the index of its place. No list that fits into memory has two places with one
index, so the index is the place itself. -/
def IsNumbered (plan : ArgumentPlan) : Prop :=
  ∀ place slot, plan.slots[place]? = some slot → slot.index = UInt64.ofNat place

theorem isNumberedFrom_iff (first : Nat) (slots : List Slot) :
    isNumberedFrom first slots = true ↔
      ∀ place slot, slots[place]? = some slot → slot.index = UInt64.ofNat (first + place) := by
  induction slots generalizing first with
  | nil => simp [isNumberedFrom]
  | cons slot rest induction =>
      have counted (place : Nat) : first + 1 + place = first + (place + 1) := by omega
      rw [isNumberedFrom, Bool.and_eq_true, decide_eq_true_iff, induction]
      constructor
      · rintro ⟨own, later⟩ place other found
        cases place with
        | zero =>
            cases found
            exact own
        | succ place =>
            rw [← counted]
            exact later place other found
      · intro all
        refine ⟨all 0 slot rfl, ?_⟩
        intro place other found
        rw [counted]
        exact all (place + 1) other found

theorem isNumberedFrom_zero_iff (plan : ArgumentPlan) :
    isNumberedFrom 0 plan.slots = true ↔ plan.IsNumbered := by
  rw [isNumberedFrom_iff]
  simp only [Nat.zero_add]
  rfl

instance (plan : ArgumentPlan) : Decidable plan.IsNumbered :=
  decidable_of_iff _ plan.isNumberedFrom_zero_iff

theorem ofSlots?_eq_some_iff (slots : List Slot) (plan : ArgumentPlan) :
    ofSlots? slots = some plan ↔ plan.slots = slots ∧ plan.IsNumbered := by
  unfold ofSlots?
  rw [Option.ite_none_right_eq_some, isNumberedFrom_zero_iff ⟨slots⟩]
  constructor
  · rintro ⟨accepted, made⟩
    cases made
    exact ⟨rfl, accepted⟩
  · rintro ⟨rfl, accepted⟩
    exact ⟨accepted, rfl⟩

theorem isNumbered_ofParameters (parameters : List Parameter) :
    (ofParameters parameters).IsNumbered := by
  intro place slot found
  rw [ofParameters, slotsFrom_eq_mapIdx, List.getElem?_mapIdx] at found
  obtain ⟨parameter, -, rfl⟩ := Option.map_eq_some_iff.mp found
  rw [Nat.zero_add]
  rfl

/-- Every item of a JSON list states the place where it stands as its index. -/
def StatesPlaces (draft : Json.Draft) : Prop :=
  ∀ place item, draft.items[place]? = some item →
    Slot.statedIndex? item = some (UInt64.ofNat place)

theorem statedIndices_of_forall₂ {parts : List Json.Draft} {slots : List Slot}
    (read : List.Forall₂ (fun part slot => Slot.ofDraft? part = some slot) parts slots) :
    parts.map Slot.statedIndex? = slots.map fun slot => some slot.index := by
  induction read with
  | nil => rfl
  | cons head later induction =>
      rw [List.map_cons, List.map_cons, Slot.statedIndex?_of_ofDraft? head, induction]

theorem isNumbered_iff_of_ofDraft? {draft : Json.Draft} {plan : ArgumentPlan}
    (read : ofDraft? draft = some plan) : plan.IsNumbered ↔ StatesPlaces draft := by
  obtain ⟨slots, slotsRead, rfl⟩ := Option.map_eq_some_iff.mp read
  -- The slots and the JSON items agree on the indices place by place, whatever these are.
  have indices := statedIndices_of_forall₂ (forall₂_of_list? slotsRead)
  have stated (place : Nat) : draft.items[place]?.map Slot.statedIndex? =
      slots[place]?.map fun slot => some slot.index := by
    rw [← List.getElem?_map, ← List.getElem?_map, indices]
  constructor
  · intro numbered place item found
    have known := stated place
    rw [found, Option.map_some, eq_comm] at known
    obtain ⟨slot, present, own⟩ := Option.map_eq_some_iff.mp known
    rw [← own, numbered place slot present]
  · intro states place slot present
    have known := stated place
    rw [present, Option.map_some] at known
    obtain ⟨item, found, own⟩ := Option.map_eq_some_iff.mp known
    rw [states place item found] at own
    exact (Option.some.inj own).symm

end ArgumentPlan

namespace Manifest

namespace Resolver

/-- The part of the JSON of a resolver that is read as its argument plan. -/
def argumentsDraft? (draft : Json.Draft) : Option Json.Draft :=
  field? ["id", "name", "kind", "receiver", "arguments", "type"] "arguments" draft

/-- Slots are numbered by position, as far as the JSON of a resolver has any. -/
def StatesPlaces (draft : Json.Draft) : Prop :=
  ∀ part ∈ argumentsDraft? draft, ArgumentPlan.StatesPlaces part

theorem arguments_of_ofDraft? {draft : Json.Draft} {resolver : Resolver}
    (read : ofDraft? draft = some resolver) :
    defaulted .empty ArgumentPlan.ofDraft? (argumentsDraft? draft) =
      some resolver.arguments := by
  unfold ofDraft? at read
  obtain ⟨values, found, read⟩ := Option.bind_eq_some_iff.mp read
  split at read
  · next id name kind receiver arguments type =>
    obtain ⟨_, _, read⟩ := Option.bind_eq_some_iff.mp read
    obtain ⟨_, _, read⟩ := Option.bind_eq_some_iff.mp read
    obtain ⟨_, _, read⟩ := Option.bind_eq_some_iff.mp read
    obtain ⟨_, _, read⟩ := Option.bind_eq_some_iff.mp read
    obtain ⟨plan, planRead, read⟩ := Option.bind_eq_some_iff.mp read
    obtain ⟨_, _, read⟩ := Option.bind_eq_some_iff.mp read
    cases read
    rw [argumentsDraft?, field?_of_fields? found]
    exact planRead
  · cases read

theorem isNumbered_iff_of_ofDraft? {draft : Json.Draft} {resolver : Resolver}
    (read : ofDraft? draft = some resolver) :
    resolver.arguments.IsNumbered ↔ StatesPlaces draft := by
  have planRead := arguments_of_ofDraft? read
  unfold StatesPlaces
  cases written : argumentsDraft? draft with
  | none =>
      rw [written] at planRead
      have empty : resolver.arguments = .ofParameters [] := (Option.some.inj planRead).symm
      rw [empty]
      simpa using ArgumentPlan.isNumbered_ofParameters []
  | some part =>
      rw [written] at planRead
      rw [ArgumentPlan.isNumbered_iff_of_ofDraft? planRead]
      simp

end Resolver

/-- All resolvers of an extension, the node resolver before the others. -/
def Entry.everyResolver (entry : Entry) : List Resolver :=
  entry.nodeResolver.toList ++ entry.resolvers

/-- The parts of the JSON of an extension that are read as resolvers. -/
def Entry.resolverDrafts (draft : Json.Draft) : List Json.Draft :=
  let names := ["runtime_type", "extension_type", "node_resolver", "resolvers", "skipped",
    "initialize"]
  ((field? names "node_resolver" draft).bind given?).toList ++
    ((field? names "resolvers" draft).map items).getD []

theorem Entry.forall₂_resolverDrafts {draft : Json.Draft} {entry : Entry}
    (read : ofDraft? draft = some entry) :
    List.Forall₂ (fun part resolver => Resolver.ofDraft? part = some resolver)
      (resolverDrafts draft) entry.everyResolver := by
  unfold ofDraft? at read
  obtain ⟨values, found, read⟩ := Option.bind_eq_some_iff.mp read
  split at read
  · next runtimeType extensionType node resolvers omitted steps =>
    obtain ⟨_, _, read⟩ := Option.bind_eq_some_iff.mp read
    obtain ⟨_, _, read⟩ := Option.bind_eq_some_iff.mp read
    obtain ⟨_, nodeRead, read⟩ := Option.bind_eq_some_iff.mp read
    obtain ⟨_, resolversRead, read⟩ := Option.bind_eq_some_iff.mp read
    obtain ⟨_, _, read⟩ := Option.bind_eq_some_iff.mp read
    obtain ⟨_, _, read⟩ := Option.bind_eq_some_iff.mp read
    cases read
    simp only [resolverDrafts, field?_of_fields? found]
    exact List.rel_append (forall₂_of_optional nodeRead) (forall₂_of_defaulted resolversRead)
  · cases read

def everyResolver (manifest : Manifest) : List Resolver :=
  manifest.extensions.flatMap Entry.everyResolver

/-- The parts of the JSON of a manifest that are read as resolvers. -/
def resolverDrafts (draft : Json.Draft) : List Json.Draft :=
  (((field? ["version", "extensions"] "extensions" draft).map items).getD []).flatMap
    Entry.resolverDrafts

theorem forall₂_resolverDrafts {draft : Json.Draft} {manifest : Manifest}
    (read : ofDraft? draft = some manifest) :
    List.Forall₂ (fun part resolver => Resolver.ofDraft? part = some resolver)
      (resolverDrafts draft) manifest.everyResolver := by
  unfold ofDraft? at read
  obtain ⟨values, found, read⟩ := Option.bind_eq_some_iff.mp read
  split at read
  · next version extensions =>
    obtain ⟨_, _, read⟩ := Option.bind_eq_some_iff.mp read
    obtain ⟨_, extensionsRead, read⟩ := Option.bind_eq_some_iff.mp read
    cases read
    rw [resolverDrafts, field?_of_fields? found]
    exact List.rel_flatMap (forall₂_of_defaulted extensionsRead)
      fun _ _ entryRead => Entry.forall₂_resolverDrafts entryRead
  · cases read

end Manifest

/-- Where a plan comes from decides whether it is numbered. One that is made from parameters or
passes the check always is. One that is read from JSON is as the JSON has it. -/
theorem ArgumentPlan.isNumbered_by_origin (parameters : List Parameter) (slots : List Slot)
    (draft : Json.Draft) (plan : ArgumentPlan) (resolver : Manifest.Resolver)
    (manifest : Manifest) :
    ArgumentPlan.empty.IsNumbered ∧ (ofParameters parameters).IsNumbered ∧
    (ofSlots? slots = some plan ↔ plan.slots = slots ∧ plan.IsNumbered) ∧
    (ofDraft? draft = some plan → (plan.IsNumbered ↔ StatesPlaces draft)) ∧
    (Manifest.Resolver.ofDraft? draft = some resolver →
      (resolver.arguments.IsNumbered ↔ Manifest.Resolver.StatesPlaces draft)) ∧
    (Manifest.ofDraft? draft = some manifest →
      List.Forall₂
        (fun part resolver =>
          resolver.arguments.IsNumbered ↔ Manifest.Resolver.StatesPlaces part)
        (Manifest.resolverDrafts draft) manifest.everyResolver) := by
  refine ⟨isNumbered_ofParameters [], isNumbered_ofParameters parameters,
    ofSlots?_eq_some_iff slots plan, isNumbered_iff_of_ofDraft?,
    Manifest.Resolver.isNumbered_iff_of_ofDraft?, ?_⟩
  intro read
  apply (Manifest.forall₂_resolverDrafts read).imp
  intro part resolver resolverRead
  exact Manifest.Resolver.isNumbered_iff_of_ofDraft? resolverRead

namespace Sample

/-- A single slot that states the sixth place. -/
def misplacedSlots : Json :=
  .array [.object [("index", .natural 5), ("name", .string "a"), ("type", .string "Int"),
    ("source", .object [("kind", .string "argument")])]]

def misplacedResolver : Json :=
  .object [("name", .object [("type_name", .string "Query"), ("member_name", .string "ById"),
      ("arguments_count", .natural 1)]),
    ("kind", .string "sync"),
    ("receiver", .object [("kind", .string "static"), ("declaring_type", .string "Query")]),
    ("arguments", misplacedSlots), ("type", .string "Query")]

def misplacedManifest : Json :=
  .object [("version", .string "0.1.0"),
    ("extensions", .array [.object [("runtime_type", .string "Query"),
      ("extension_type", .string "Query"), ("node_resolver", misplacedResolver),
      ("initialize", .array [])]])]

def misplaced : ArgumentPlan := ⟨[⟨5, "a", ⟨"Int"⟩, .argument none⟩]⟩

/-- Reading JSON lets a plan pass that the check of a list of slots refuses. -/
theorem misplaced_read_unchecked :
    ¬ misplaced.IsNumbered ∧ ArgumentPlan.ofSlots? misplaced.slots = none ∧
      ArgumentPlan.ofDraft? (ofJson misplacedSlots) = some misplaced ∧
      (Manifest.Resolver.ofDraft? (ofJson misplacedResolver)).map Manifest.Resolver.arguments =
        some misplaced ∧
      (Manifest.ofDraft? (ofJson misplacedManifest)).map
          (fun manifest => manifest.everyResolver.map Manifest.Resolver.arguments) =
        some [misplaced] := by
  decide +kernel

/-- The index that is out of place stands in the JSON already. -/
theorem isNumbered_by_origin_misplaced :
    (∃ plan, ArgumentPlan.ofDraft? (ofJson misplacedSlots) = some plan ∧
      ¬ ArgumentPlan.StatesPlaces (ofJson misplacedSlots)) ∧
    (∃ resolver, Manifest.Resolver.ofDraft? (ofJson misplacedResolver) = some resolver ∧
      ¬ Manifest.Resolver.StatesPlaces (ofJson misplacedResolver)) ∧
    ∃ manifest, Manifest.ofDraft? (ofJson misplacedManifest) = some manifest ∧
      ∃ part ∈ Manifest.resolverDrafts (ofJson misplacedManifest),
        ¬ Manifest.Resolver.StatesPlaces part := by
  have unnumbered : ¬ misplaced.IsNumbered := by decide +kernel
  have planRead : ArgumentPlan.ofDraft? (ofJson misplacedSlots) = some misplaced := by
    decide +kernel
  have resolverRead : (Manifest.Resolver.ofDraft? (ofJson misplacedResolver)).map
      Manifest.Resolver.arguments = some misplaced := by
    decide +kernel
  have manifestRead : (Manifest.ofDraft? (ofJson misplacedManifest)).map
      (fun manifest => manifest.everyResolver.map Manifest.Resolver.arguments) =
        some [misplaced] := by
    decide +kernel
  have origin := ArgumentPlan.isNumbered_by_origin [] misplaced.slots
  refine ⟨⟨misplaced, planRead, ?_⟩, ?_, ?_⟩
  · obtain ⟨-, -, -, plans, -⟩ := origin (ofJson misplacedSlots) misplaced default default
    rw [← plans planRead]
    exact unnumbered
  · obtain ⟨resolver, read, same⟩ := Option.map_eq_some_iff.mp resolverRead
    obtain ⟨-, -, -, -, resolvers, -⟩ :=
      origin (ofJson misplacedResolver) misplaced resolver default
    refine ⟨resolver, read, ?_⟩
    rw [← resolvers read, same]
    exact unnumbered
  · obtain ⟨manifest, read, same⟩ := Option.map_eq_some_iff.mp manifestRead
    obtain ⟨resolver, single, own⟩ := List.map_eq_singleton_iff.mp same
    obtain ⟨-, -, -, -, -, manifests⟩ :=
      origin (ofJson misplacedManifest) misplaced default manifest
    have each := manifests read
    rw [single] at each
    obtain ⟨part, parts, numbered, -, drafts⟩ := List.forall₂_cons_right_iff.mp each
    refine ⟨manifest, read, part, ?_, ?_⟩
    · rw [drafts]
      exact List.mem_cons_self
    · rw [← numbered, own]
      exact unnumbered

end Sample

end FieldDispatch
