import FieldDispatch.Json.Basic

/-!
Records, tagged records and variants as JSON. A record is an object, whose unknown entries are
ignored and may be holes, or an array of its fields in declared order, of which the last may be
missing. A tagged record is read as a whole, so no part of it may be a hole.
-/

namespace FieldDispatch.Json.Draft

/-- Where a value stands decides how its tags may be written. Below a member the tag of a record
may also be the position of its variant, and an empty object may stand for no payload. -/
inductive Place where
  | outside
  | insideMember
  deriving DecidableEq

def string? : Draft → Option String
  | .string value => some value
  | _ => none

def bool? : Draft → Option Bool
  | .bool value => some value
  | _ => none

/-- An integer below a limit; a number written as a decimal is not one. -/
def natural? (limit : Nat) : Draft → Option Nat
  | .number (.integer value) =>
      if 0 ≤ value ∧ value.toNat < limit then some value.toNat else none
  | _ => none

def word32? (draft : Draft) : Option UInt32 := (draft.natural? UInt32.size).map UInt32.ofNat

def word64? (draft : Draft) : Option UInt64 := (draft.natural? UInt64.size).map UInt64.ofNat

def list? {α : Type} (item? : Draft → Option α) : Draft → Option (List α)
  | .array items => items.mapM item?
  | _ => none

/-- Null, or a value. -/
def nullable? {α : Type} (value? : Draft → Option α) : Draft → Option (Option α)
  | .null => some none
  | draft => (value? draft).map some

/-- The value under a key that may occur once; the outer level is absent if it repeats. -/
def single? (entries : List (String × Draft)) (key : String) : Option (Option Draft) :=
  match entries.filter fun entry => entry.1 = key with
  | [] => some none
  | [entry] => some (some entry.2)
  | _ => none

/-- The fields of an object, none of which may repeat. -/
def objectFields? (names : List String) (entries : List (String × Draft)) :
    Option (List (Option Draft)) :=
  names.mapM (single? entries)

/-- The fields of a record, in the order of their names. -/
def fields? (names : List String) : Draft → Option (List (Option Draft))
  | .object entries => objectFields? names entries
  | .array items =>
      if items.length ≤ names.length then
        some (items.map some ++ List.replicate (names.length - items.length) none)
      else none
  | _ => none

/-- A field that must be there. -/
def required {α : Type} (value? : Draft → Option α) (field : Option Draft) : Option α :=
  field.bind value?

/-- A field with a value of its own when it is left out. -/
def defaulted {α : Type} (default : α) (value? : Draft → Option α) : Option Draft → Option α
  | none => some default
  | some draft => value? draft

/-- A field that may be left out or null. -/
def optional {α : Type} (value? : Draft → Option α) : Option Draft → Option (Option α) :=
  defaulted none (nullable? value?)

/-- Which of the variants a tag names. -/
def variant? (place : Place) (variants : List String) : Draft → Option String
  | .string value => if value ∈ variants then some value else none
  | .number (.integer position) =>
      if place = .insideMember ∧ 0 ≤ position then variants[position.toNat]? else none
  | _ => none

/-- The variant of a tagged record, and the record without its tag. -/
def tagged? (place : Place) (tag : String) (variants : List String) (draft : Draft) :
    Option (String × Draft) :=
  if draft.isWhole then
    match draft with
    | .object entries => do
        let value ← (← single? entries tag)
        let variant ← variant? place variants value
        some (variant, .object (entries.filter fun entry => entry.1 ≠ tag))
    | .array (value :: items) => do
        let variant ← variant? place variants value
        some (variant, .array items)
    | _ => none
  else none

/-- A record without fields: any object, or no further array item. -/
def empty? : Draft → Option Unit
  | .object _ => some ()
  | .array [] => some ()
  | _ => none

/-- A variant with a payload, or a bare name. -/
def choice? : Draft → Option (String × Option Draft)
  | .string name => some (name, none)
  | .object [(name, payload)] => some (name, some payload)
  | _ => none

/-- No payload, or one that says nothing. -/
def noPayload? (place : Place) : Option Draft → Option Unit
  | none => some ()
  | some .null => some ()
  | some (.object []) => if place = .insideMember then some () else none
  | some _ => none

end FieldDispatch.Json.Draft
