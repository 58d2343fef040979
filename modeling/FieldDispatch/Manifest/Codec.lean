import FieldDispatch.Manifest.Basic
import FieldDispatch.Extension.Codec

/-!
Manifests as JSON. Absent options and empty lists are left out, except the list of registration
steps. Reading restores what was left out; it does not ask that slots are numbered by position.
-/

namespace FieldDispatch

open Json.Draft

namespace ResolverName

def toJson (name : ResolverName) : Json :=
  .object [("type_name", .string name.typeName), ("member_name", .string name.memberName),
    ("arguments_count", .natural name.argumentsCount.toNat)]

def ofDraft? (draft : Json.Draft) : Option ResolverName := do
  match ← fields? ["type_name", "member_name", "arguments_count"] draft with
  | [typeName, memberName, argumentsCount] =>
      some ⟨← required string? typeName, ← required string? memberName,
        ← required word64? argumentsCount⟩
  | _ => none

end ResolverName

namespace ResolverKind

def toJson (kind : ResolverKind) : Json := .string kind.text

def ofDraft? (draft : Json.Draft) : Option ResolverKind := do
  let (name, payload) ← choice? draft
  noPayload? .outside payload
  match name with
  | "sync" => some .sync
  | "async" => some .async
  | "property" => some .property
  | _ => none

end ResolverKind

namespace Receiver

def toJson : Receiver → Json
  | .static declaringType =>
      .object [("kind", .string "static"), ("declaring_type", .string declaringType)]
  | .parent runtimeType =>
      .object [("kind", .string "parent"), ("runtime_type", .string runtimeType)]

def ofDraft? (draft : Json.Draft) : Option Receiver := do
  match ← tagged? .outside "kind" ["static", "parent"] draft with
  | ("static", rest) =>
      match ← fields? ["declaring_type"] rest with
      | [declaringType] => some (.static (← required string? declaringType))
      | _ => none
  | ("parent", rest) =>
      match ← fields? ["runtime_type"] rest with
      | [runtimeType] => some (.parent (← required string? runtimeType))
      | _ => none
  | _ => none

end Receiver

namespace Slot

def toJson (slot : Slot) : Json :=
  .object [("index", .natural slot.index.toNat), ("name", .string slot.name),
    ("type", slot.type.toJson), ("source", slot.source.toJson)]

def ofDraft? (draft : Json.Draft) : Option Slot := do
  match ← fields? ["index", "name", "type", "source"] draft with
  | [index, name, type, source] =>
      some ⟨← required word64? index, ← required string? name,
        ← required TypeText.ofDraft? type, ← required (Source.ofDraft? .outside) source⟩
  | _ => none

end Slot

namespace ArgumentPlan

def toJson (plan : ArgumentPlan) : Json := .array (plan.slots.map Slot.toJson)

def ofDraft? (draft : Json.Draft) : Option ArgumentPlan :=
  (list? Slot.ofDraft? draft).map ArgumentPlan.mk

end ArgumentPlan

namespace Manifest

/-- The JSON of a list that is left out when empty. -/
def nonempty? {α : Type} (toJson : α → Json) (items : List α) : Option Json :=
  if items.isEmpty then none else some (.array (items.map toJson))

namespace Resolver

def toJson (resolver : Resolver) : Json :=
  .present [("id", resolver.id.map fun id => .natural id.toNat),
    ("name", some resolver.name.toJson), ("kind", some resolver.kind.toJson),
    ("receiver", some resolver.receiver.toJson),
    ("arguments", nonempty? Slot.toJson resolver.arguments.slots),
    ("type", some resolver.type.toJson)]

def ofDraft? (draft : Json.Draft) : Option Resolver := do
  match ← fields? ["id", "name", "kind", "receiver", "arguments", "type"] draft with
  | [id, name, kind, receiver, arguments, type] =>
      some {
        id := ← optional word32? id
        name := ← required ResolverName.ofDraft? name
        kind := ← required ResolverKind.ofDraft? kind
        receiver := ← required Receiver.ofDraft? receiver
        arguments := ← defaulted .empty ArgumentPlan.ofDraft? arguments
        type := ← required TypeText.ofDraft? type }
  | _ => none

end Resolver

namespace Omitted

def toJson (omitted : Omitted) : Json :=
  .object [("member", .string omitted.member), ("reason", .string omitted.reason)]

def ofDraft? (draft : Json.Draft) : Option Omitted := do
  match ← fields? ["member", "reason"] draft with
  | [member, reason] => some ⟨← required string? member, ← required string? reason⟩
  | _ => none

end Omitted

namespace Step

def toJson : Step → Json
  | .node => .object [("op", .string "implements_node")]
  | .field name resolver =>
      .object [("op", .string "field"), ("name", .string name),
        ("resolver", .natural resolver.toNat)]
  | .configure => .object [("op", .string "configure")]

def ofDraft? (draft : Json.Draft) : Option Step := do
  match ← tagged? .outside "op" ["implements_node", "field", "configure"] draft with
  | ("implements_node", rest) => (empty? rest).map fun _ => .node
  | ("field", rest) =>
      match ← fields? ["name", "resolver"] rest with
      | [name, resolver] =>
          some (.field (← required string? name) (← required word32? resolver))
      | _ => none
  | ("configure", rest) => (empty? rest).map fun _ => .configure
  | _ => none

end Step

namespace Entry

def toJson (entry : Entry) : Json :=
  .present [("runtime_type", some (.string entry.runtimeType)),
    ("extension_type", some (.string entry.extensionType)),
    ("node_resolver", entry.nodeResolver.map Resolver.toJson),
    ("resolvers", nonempty? Resolver.toJson entry.resolvers),
    ("skipped", nonempty? Omitted.toJson entry.omitted),
    ("initialize", some (.array (entry.steps.map Step.toJson)))]

def ofDraft? (draft : Json.Draft) : Option Entry := do
  match ← fields? ["runtime_type", "extension_type", "node_resolver", "resolvers", "skipped",
      "initialize"] draft with
  | [runtimeType, extensionType, nodeResolver, resolvers, omitted, steps] =>
      some {
        runtimeType := ← required string? runtimeType
        extensionType := ← required string? extensionType
        nodeResolver := ← optional Resolver.ofDraft? nodeResolver
        resolvers := ← defaulted [] (list? Resolver.ofDraft?) resolvers
        omitted := ← defaulted [] (list? Omitted.ofDraft?) omitted
        steps := ← required (list? Step.ofDraft?) steps }
  | _ => none

end Entry

def toJson (manifest : Manifest) : Json :=
  .present [("version", some (.string manifest.version)),
    ("extensions", nonempty? Entry.toJson manifest.extensions)]

def ofDraft? (draft : Json.Draft) : Option Manifest := do
  match ← fields? ["version", "extensions"] draft with
  | [version, extensions] =>
      some ⟨← required string? version, ← defaulted [] (list? Entry.ofDraft?) extensions⟩
  | _ => none

end Manifest

end FieldDispatch
