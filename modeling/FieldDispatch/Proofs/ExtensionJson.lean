import FieldDispatch.Extension.Codec
import FieldDispatch.Proofs.JsonRecord

/-!
Descriptions of extensions are read back from their JSON. Each record is read back in the place where
it is written, below a member or outside; a member is read in two passes over one object, first its
own fields and then those of its shape. The statements are about trees, not about their text.
-/

namespace FieldDispatch

open Json.Draft

@[simp]
theorem TypeText.ofDraft?_toJson (type : TypeText) :
    ofDraft? (ofJson type.toJson) = some type := rfl

@[simp]
theorem Location.ofDraft?_toJson (location : Location) :
    ofDraft? (ofJson location.toJson) = some location := by
  unfold toJson ofDraft?
  rw [fields?_object (by simp)]
  simp [List.lookup_cons, required]

@[simp]
theorem Source.ofDraft?_toJson (place : Place) (source : Source) :
    ofDraft? place (ofJson source.toJson) = some source := by
  cases source with
  | argument name =>
      have field : optional string? (name.map (ofJson ∘ Json.string)) = some name :=
        optional_ofJson string?_ofJson rfl name
      unfold toJson ofDraft?
      rw [tagged?_present (by simp) (by simp)]
      simp [fields?_present, field]
  | parent =>
      unfold toJson ofDraft?
      rw [tagged?_object (by simp) (by simp)]
      rfl
  | state key =>
      unfold toJson ofDraft?
      rw [tagged?_object (by simp) (by simp)]
      simp [fields?_object, required]

@[simp]
theorem Parameter.ofDraft?_toJson (place : Place) (parameter : Parameter) :
    ofDraft? place (ofJson parameter.toJson) = some parameter := by
  unfold toJson ofDraft?
  rw [fields?_object (by simp)]
  simp [List.lookup_cons, required, defaulted]

@[simp]
theorem Returns.ofDraft?_toJson (place : Place) (returns : Returns) :
    ofDraft? place (ofJson returns.toJson) = some returns := by
  cases returns with
  | nothing => rfl
  | reference type => rfl
  | future type => cases type <;> rfl
  | value type => rfl

namespace Member

theorem Shape.ofDraft?_fields (shape : Shape) :
    Shape.ofDraft? (ofJson (.present shape.fields)) = some shape := by
  cases shape with
  | method returns parameters =>
      have list : list? (Parameter.ofDraft? .insideMember)
          (ofJson (.array (parameters.map Parameter.toJson))) = some parameters :=
        list?_ofJson (Parameter.ofDraft?_toJson .insideMember) parameters
      unfold fields Shape.ofDraft?
      rw [tagged?_present (by simp) (by simp)]
      simp [fields?_present, List.lookup_cons, required, defaulted, list]
  | property type =>
      unfold fields Shape.ofDraft?
      rw [tagged?_present (by simp) (by simp)]
      simp [fields?_present, required]

/-- The entries of a member as it is written. -/
def entries (member : Member) : List (String × Option Json) :=
  [("name", some (.string member.name)), ("is_static", some (.bool member.isStatic))] ++
    member.shape.fields ++ [("location", member.location.map Location.toJson)]

theorem nodup_keys_entries (member : Member) : (member.entries.map Prod.fst).Nodup := by
  unfold entries
  cases member.shape <;> simp [Shape.fields]

/-- The own fields are found among those of the shape. -/
theorem ownFields_entries (member : Member) :
    objectFields? ownFields (ofEntries (Json.presentEntries member.entries)) =
      some [some (ofJson (.string member.name)), some (ofJson (.bool member.isStatic)),
        member.location.map (ofJson ∘ Location.toJson)] := by
  have distinct := Json.nodup_keys_presentEntries member.nodup_keys_entries
  rw [objectFields?_ofEntries distinct]
  simp only [Json.lookup_presentEntries member.nodup_keys_entries]
  unfold entries ownFields
  cases member.shape <;> simp [Shape.fields, List.lookup_cons]

/-- Without the own fields the fields of the shape remain. -/
theorem filter_entries (member : Member) :
    (ofEntries (Json.presentEntries member.entries)).filter (fun entry => entry.1 ∉ ownFields) =
      ofEntries (Json.presentEntries member.shape.fields) := by
  rw [filter_ofEntries fun key => key ∉ ownFields,
    Json.filter_presentEntries fun key => key ∉ ownFields]
  apply congrArg (fun kept => ofEntries (Json.presentEntries kept))
  unfold entries ownFields
  cases member.shape <;> simp [Shape.fields]

@[simp]
theorem ofDraft?_toJson (member : Member) : ofDraft? (ofJson member.toJson) = some member := by
  have shape : Shape.ofDraft? (.object (ofEntries (Json.presentEntries member.shape.fields))) =
      some member.shape := Shape.ofDraft?_fields member.shape
  have location : optional Location.ofDraft? (member.location.map (ofJson ∘ Location.toJson)) =
      some member.location := optional_ofJson Location.ofDraft?_toJson rfl member.location
  change ofDraft? (.object (ofEntries (Json.presentEntries member.entries))) = some member
  unfold ofDraft?
  simp only [ownFields_entries, filter_entries, shape, location, required, defaulted,
    string?_ofJson, bool?_ofJson, Option.bind_eq_bind, Option.bind_some]

end Member

namespace Extension

@[simp]
theorem ofDraft?_toJson (extension : Extension) :
    ofDraft? (ofJson extension.toJson) = some extension := by
  have node : optional Member.ofDraft? (extension.nodeResolver.map (ofJson ∘ Member.toJson)) =
      some extension.nodeResolver := optional_ofJson Member.ofDraft?_toJson rfl extension.nodeResolver
  have members : list? Member.ofDraft? (ofJson (.array (extension.members.map Member.toJson))) =
      some extension.members := list?_ofJson Member.ofDraft?_toJson extension.members
  unfold toJson ofDraft?
  rw [fields?_present (by simp)]
  simp [List.lookup_cons, required, defaulted, node, members]

/-- A description is read back as it was, alone or in a file; in a file a single one counts as a
list of one. -/
theorem descriptions_read_back (extension : Extension) (extensions : List Extension) :
    ofDraft? (ofJson extension.toJson) = some extension ∧
      fileOfDraft? (ofJson (listToJson extensions)) = some extensions ∧
      fileOfDraft? (ofJson extension.toJson) = some [extension] := by
  refine ⟨extension.ofDraft?_toJson, ?_, ?_⟩
  · have many : list? ofDraft? (ofJson (listToJson extensions)) = some extensions :=
      list?_ofJson ofDraft?_toJson extensions
    rw [fileOfDraft?, if_pos (isWhole_ofJson _), many]
  · have single : list? ofDraft? (ofJson extension.toJson) = none := rfl
    rw [fileOfDraft?, if_pos (isWhole_ofJson _), single, ofDraft?_toJson]
    rfl

end Extension

end FieldDispatch
