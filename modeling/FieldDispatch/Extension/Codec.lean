import FieldDispatch.Extension.Basic
import FieldDispatch.Json.Record
import FieldDispatch.Json.Reader

/-!
Descriptions of extensions as JSON. A member is one flat object in which the fields of its kind
stand beside its own; the fields of the other kind are ignored there. A file of descriptions holds
a list of extensions or a single one, and is read as a whole.
-/

namespace FieldDispatch

open Json.Draft

namespace TypeText

def toJson (type : TypeText) : Json := .string type.text

def ofDraft? (draft : Json.Draft) : Option TypeText := (string? draft).map TypeText.mk

end TypeText

namespace Location

def toJson (location : Location) : Json :=
  .object [("file", .string location.file), ("line", .natural location.line.toNat),
    ("column", .natural location.column.toNat)]

def ofDraft? (draft : Json.Draft) : Option Location := do
  match ← fields? ["file", "line", "column"] draft with
  | [file, line, column] =>
      some ⟨← required string? file, ← required word32? line, ← required word32? column⟩
  | _ => none

end Location

namespace Source

def toJson : Source → Json
  | .argument name => .present [("kind", some (.string "argument")), ("name", name.map .string)]
  | .parent => .object [("kind", .string "parent")]
  | .state key => .object [("kind", .string "state"), ("key", .string key)]

def ofDraft? (place : Place) (draft : Json.Draft) : Option Source := do
  match ← tagged? place "kind" ["argument", "parent", "state"] draft with
  | ("argument", rest) =>
      match ← fields? ["name"] rest with
      | [name] => some (.argument (← optional string? name))
      | _ => none
  | ("parent", rest) => (empty? rest).map fun _ => .parent
  | ("state", rest) =>
      match ← fields? ["key"] rest with
      | [key] => some (.state (← required string? key))
      | _ => none
  | _ => none

end Source

namespace Parameter

def toJson (parameter : Parameter) : Json :=
  .object [("name", .string parameter.name), ("type", parameter.type.toJson),
    ("source", parameter.source.toJson)]

def ofDraft? (place : Place) (draft : Json.Draft) : Option Parameter := do
  match ← fields? ["name", "type", "source"] draft with
  | [name, type, source] =>
      some ⟨← required string? name, ← required TypeText.ofDraft? type,
        ← defaulted (.argument none) (Source.ofDraft? place) source⟩
  | _ => none

end Parameter

namespace Returns

def toJson : Returns → Json
  | .nothing => .string "void"
  | .reference type => .object [("by_ref", type.toJson)]
  | .future type => .object [("future", (type.map TypeText.toJson).getD .null)]
  | .value type => .object [("value", type.toJson)]

def ofDraft? (place : Place) (draft : Json.Draft) : Option Returns := do
  match ← choice? draft with
  | ("void", payload) => (noPayload? place payload).map fun _ => .nothing
  | ("by_ref", payload) => (required TypeText.ofDraft? payload).map .reference
  | ("future", some payload) => (nullable? TypeText.ofDraft? payload).map .future
  | ("value", payload) => (required TypeText.ofDraft? payload).map .value
  | _ => none

end Returns

namespace Member

def Shape.fields : Shape → List (String × Option Json)
  | .method returns parameters =>
      [("kind", some (.string "method")), ("returns", some returns.toJson),
        ("parameters", some (.array (parameters.map Parameter.toJson)))]
  | .property type => [("kind", some (.string "property")), ("type", some type.toJson)]

def toJson (member : Member) : Json :=
  .present ([("name", some (.string member.name)), ("is_static", some (.bool member.isStatic))] ++
    member.shape.fields ++ [("location", member.location.map Location.toJson)])

def Shape.ofDraft? (draft : Json.Draft) : Option Shape := do
  match ← tagged? .insideMember "kind" ["method", "property"] draft with
  | ("method", rest) =>
      match ← fields? ["returns", "parameters"] rest with
      | [returns, parameters] =>
          some (.method (← required (Returns.ofDraft? .insideMember) returns)
            (← defaulted [] (list? (Parameter.ofDraft? .insideMember)) parameters))
      | _ => none
  | ("property", rest) =>
      match ← fields? ["type"] rest with
      | [type] => some (.property (← required TypeText.ofDraft? type))
      | _ => none
  | _ => none

/-- The fields that every member has; the others belong to its shape. -/
def ownFields : List String := ["name", "is_static", "location"]

def ofDraft? : Json.Draft → Option Member
  | .object entries => do
      match ← objectFields? ownFields entries with
      | [name, isStatic, location] =>
          some {
            name := ← required string? name
            isStatic := ← defaulted false bool? isStatic
            shape := ← Shape.ofDraft? (.object (entries.filter fun entry => entry.1 ∉ ownFields))
            location := ← optional Location.ofDraft? location }
      | _ => none
  | _ => none

end Member

namespace Extension

def toJson (extension : Extension) : Json :=
  .present [("runtime_type", some (.string extension.runtimeType)),
    ("extension_type", some (.string extension.extensionType)),
    ("node_resolver", extension.nodeResolver.map Member.toJson),
    ("members", some (.array (extension.members.map Member.toJson)))]

def ofDraft? (draft : Json.Draft) : Option Extension := do
  match ← fields? ["runtime_type", "extension_type", "node_resolver", "members"] draft with
  | [runtimeType, extensionType, nodeResolver, members] =>
      some {
        runtimeType := ← required string? runtimeType
        extensionType := ← required string? extensionType
        nodeResolver := ← optional Member.ofDraft? nodeResolver
        members := ← defaulted [] (list? Member.ofDraft?) members }
  | _ => none

def listToJson (extensions : List Extension) : Json :=
  .array (extensions.map Extension.toJson)

/-- The extensions of a file: a list of them is tried before a single one. -/
def fileOfDraft? (draft : Json.Draft) : Option (List Extension) :=
  if draft.isWhole then
    match list? ofDraft? draft with
    | some extensions => some extensions
    | none => (ofDraft? draft).map ([·])
  else none

def readFile? (text : String) : Option (List Extension) :=
  (Json.Draft.read? text).bind fileOfDraft?

end Extension

end FieldDispatch
