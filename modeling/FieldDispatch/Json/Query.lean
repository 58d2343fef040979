import FieldDispatch.Json.Basic

/-!
Asking a JSON tree for a part by key, with the type that the part must have. A key that stands
more than once answers with its first entry; on canonical trees there is only one.
-/

namespace FieldDispatch.Json

def get? (tree : Json) (key : String) : Option Json :=
  match tree with
  | .object entries => (entries.find? fun entry => entry.1 = key).map Prod.snd
  | _ => none

/-- The part under a key, unless it is null. -/
def given? (tree : Json) (key : String) : Option Json :=
  match tree.get? key with
  | some .null => none
  | found => found

def asString? : Json → Option String
  | .string value => some value
  | _ => none

def asBool? : Json → Option Bool
  | .bool value => some value
  | _ => none

def asInt? : Json → Option Int
  | .number (.integer value) => some value
  | _ => none

def asNat? : Json → Option Nat
  | .number (.integer value) => if 0 ≤ value then some value.toNat else none
  | _ => none

def asArray? : Json → Option (List Json)
  | .array items => some items
  | _ => none

def asEntries? : Json → Option (List (String × Json))
  | .object entries => some entries
  | _ => none

def string? (tree : Json) (key : String) : Option String := (tree.get? key).bind asString?

def natural? (tree : Json) (key : String) : Option Nat := (tree.get? key).bind asNat?

/-- A part with a value of its own when it is null or left out. -/
def orElse? {α : Type} (tree : Json) (key : String) (default : α) (read? : Json → Option α) :
    Option α :=
  match tree.given? key with
  | none => some default
  | some part => read? part

def stringOrNone? (tree : Json) (key : String) : Option (Option String) :=
  tree.orElse? key none fun part => part.asString?.map some

def bool? (tree : Json) (key : String) : Option Bool := tree.orElse? key false asBool?

def items? (tree : Json) (key : String) : Option (List Json) := tree.orElse? key [] asArray?

def entries? (tree : Json) (key : String) : Option (List (String × Json)) :=
  tree.orElse? key [] asEntries?

/-- A pair, written as an array of a text and another part. -/
def pair? {α : Type} (read? : Json → Option α) : Json → Option (String × α)
  | .array [.string key, part] => (read? part).map (key, ·)
  | _ => none

end FieldDispatch.Json
