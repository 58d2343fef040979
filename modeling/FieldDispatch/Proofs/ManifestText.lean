import FieldDispatch.CommandLine.Run
import FieldDispatch.Proofs.JsonText
import FieldDispatch.Proofs.ManifestJson

/-!
The text of a manifest is read back as the manifest, on one line or indented. Its tree nests to a
small fixed depth, whatever it describes, and its numbers are words.
-/

namespace FieldDispatch

namespace Json

@[simp]
theorem fits_string (room : Nat) (text : String) : (Json.string text).Fits room := by
  simp [Fits]

theorem fits_natural (room : Nat) {n : Nat} (bounded : n < UInt64.size) :
    (natural n).Fits room := by
  have limit : Numeral.significandLimit = UInt64.size := rfl
  have sign : 0 ≤ Numeral.integerLimit := Nat.zero_le _
  unfold natural Fits Number.IsHeld
  omega

@[simp]
theorem fits_word32 (room : Nat) (word : UInt32) : (natural word.toNat).Fits room :=
  fits_natural room (Nat.lt_trans word.toNat_lt (by decide))

@[simp]
theorem fits_word64 (room : Nat) (word : UInt64) : (natural word.toNat).Fits room :=
  fits_natural room word.toNat_lt

theorem fits_array (room : Nat) {items : List Json} (fits : ∀ item ∈ items, item.Fits room) :
    (Json.array items).Fits (room + 1) := by
  have each : FitItems room items := by
    induction items with
    | nil => trivial
    | cons item rest induction =>
        have later := induction fun other present => fits other (List.mem_cons_of_mem _ present)
        exact ⟨fits item List.mem_cons_self, later⟩
  exact ⟨Nat.zero_lt_succ room, each⟩

theorem fits_object (room : Nat) {entries : List (String × Json)}
    (fits : ∀ entry ∈ entries, entry.2.Fits room) : (Json.object entries).Fits (room + 1) := by
  have each : FitEntries room entries := by
    induction entries with
    | nil => trivial
    | cons entry rest induction =>
        have later := induction fun other present => fits other (List.mem_cons_of_mem _ present)
        exact ⟨fits entry List.mem_cons_self, later⟩
  exact ⟨Nat.zero_lt_succ room, each⟩

theorem fits_present (room : Nat) {entries : List (String × Option Json)}
    (fits : ∀ entry ∈ entries, ∀ value ∈ entry.2, value.Fits room) :
    (present entries).Fits (room + 1) := by
  apply fits_object
  intro entry listed
  obtain ⟨⟨key, value⟩, kept, found⟩ := List.mem_filterMap.mp listed
  obtain ⟨tree, held, rfl⟩ := Option.map_eq_some_iff.mp found
  exact fits _ kept tree held

/-- A list takes one level more than its items, and none if it is left out. -/
theorem fits_nonempty? {α : Type} {room : Nat} {toJson : α → Json} {items : List α} {tree : Json}
    (fits : ∀ item, (toJson item).Fits room) (written : tree ∈ Manifest.nonempty? toJson items) :
    tree.Fits (room + 1) := by
  unfold Manifest.nonempty? at written
  split at written
  · cases written
  · cases written
    apply fits_array
    intro item listed
    obtain ⟨value, -, rfl⟩ := List.mem_map.mp listed
    exact fits value

end Json

open Json

/-! The depth of each record, with room to spare for what stands around it. -/

theorem Source.fits_toJson (room : Nat) (source : Source) : source.toJson.Fits (room + 1) := by
  cases source with
  | argument name =>
      apply fits_present
      simp
  | parent =>
      apply fits_object
      simp
  | state key =>
      apply fits_object
      simp

theorem Slot.fits_toJson (room : Nat) (slot : Slot) : slot.toJson.Fits (room + 2) := by
  apply fits_object
  simp [Source.fits_toJson, TypeText.toJson]

theorem ResolverName.fits_toJson (room : Nat) (name : ResolverName) :
    name.toJson.Fits (room + 1) := by
  apply fits_object
  simp

theorem Receiver.fits_toJson (room : Nat) (receiver : Receiver) :
    receiver.toJson.Fits (room + 1) := by
  cases receiver <;> (apply fits_object; simp)

namespace Manifest

theorem Resolver.fits_toJson (room : Nat) (resolver : Resolver) :
    resolver.toJson.Fits (room + 4) := by
  have arguments : ∀ tree ∈ nonempty? Slot.toJson resolver.arguments.slots,
      tree.Fits (room + 3) := fun _ => fits_nonempty? (Slot.fits_toJson room)
  have name : resolver.name.toJson.Fits (room + 3) := ResolverName.fits_toJson _ _
  have receiver : resolver.receiver.toJson.Fits (room + 3) := Receiver.fits_toJson _ _
  apply fits_present
  simp only [List.forall_mem_cons]
  exact ⟨by simp, by simp [name], by simp [ResolverKind.toJson], by simp [receiver], arguments,
    by simp [TypeText.toJson], by simp⟩

theorem Omitted.fits_toJson (room : Nat) (omitted : Omitted) :
    omitted.toJson.Fits (room + 1) := by
  apply fits_object
  simp

theorem Step.fits_toJson (room : Nat) (step : Step) : step.toJson.Fits (room + 1) := by
  cases step <;> (apply fits_object; simp)

theorem Entry.fits_toJson (room : Nat) (entry : Entry) : entry.toJson.Fits (room + 6) := by
  have node : ∀ tree ∈ entry.nodeResolver.map Resolver.toJson, tree.Fits (room + 5) := by
    intro tree written
    obtain ⟨resolver, -, rfl⟩ := Option.map_eq_some_iff.mp written
    exact Resolver.fits_toJson (room + 1) resolver
  have resolvers : ∀ tree ∈ nonempty? Resolver.toJson entry.resolvers, tree.Fits (room + 5) :=
    fun _ => fits_nonempty? (Resolver.fits_toJson room)
  have omitted : ∀ tree ∈ nonempty? Omitted.toJson entry.omitted, tree.Fits (room + 5) :=
    fun _ => fits_nonempty? (Omitted.fits_toJson (room + 3))
  have steps : (Json.array (entry.steps.map Step.toJson)).Fits (room + 5) := by
    apply fits_array
    intro tree listed
    obtain ⟨step, -, rfl⟩ := List.mem_map.mp listed
    exact Step.fits_toJson (room + 3) step
  apply fits_present
  simp only [List.forall_mem_cons]
  exact ⟨by simp, by simp, node, resolvers, omitted, by simp [steps], by simp⟩

theorem fits_toJson (room : Nat) (manifest : Manifest) : manifest.toJson.Fits (room + 8) := by
  have extensions : ∀ tree ∈ nonempty? Entry.toJson manifest.extensions, tree.Fits (room + 7) :=
    fun _ => fits_nonempty? (Entry.fits_toJson room)
  apply fits_present
  simp only [List.forall_mem_cons]
  exact ⟨by simp, extensions, by simp⟩

/-- The manifest of a text. -/
def read? (text : String) : Option Manifest := (Json.Draft.read? text).bind ofDraft?

theorem read?_compact (manifest : Manifest) : read? manifest.toJson.compact = some manifest := by
  rw [read?, Json.read?_compact (fits_toJson 119 manifest), Option.bind_some, ofDraft?_toJson]

theorem read?_pretty (manifest : Manifest) : read? manifest.toJson.pretty = some manifest := by
  rw [read?, Json.read?_pretty (fits_toJson 119 manifest), Option.bind_some, ofDraft?_toJson]

end Manifest

namespace CommandLine

/-- Whatever the settings, the text of a manifest says all of it. -/
theorem read?_renderManifest (settings : Settings) (manifest : Manifest) :
    Manifest.read? (renderManifest settings manifest) = some manifest := by
  unfold renderManifest
  split
  · exact manifest.read?_pretty
  · exact manifest.read?_compact

end CommandLine

end FieldDispatch
