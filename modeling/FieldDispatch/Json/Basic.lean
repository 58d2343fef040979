import FieldDispatch.Double.Basic

/-!
JSON trees, and drafts of them. An object keeps its entries in written order, repetitions
included; `canonical` gives the reading in which an object is a finite map. A draft is what a text
gives before anything is asked of it: a part that is correctly written but has no value (a number
beyond the doubles, half of a surrogate pair, nesting beyond the limit) is a hole, which matters
only to a reader that needs the part.
-/

namespace FieldDispatch

/-- A number is held as an integer if it is written as one, fits the 64-bit range of its sign and
is not minus zero. -/
inductive Json.Number where
  | integer (value : Int)
  | double (value : Double)
  deriving DecidableEq

inductive Json where
  | null
  | bool (value : Bool)
  | number (value : Json.Number)
  | string (value : String)
  | array (items : List Json)
  | object (entries : List (String × Json))
  deriving Inhabited

/-- Puts an entry into a list sorted by key, in the place of an equal key. -/
def insertSorted {α : Type} (key : String) (value : α) : List (String × α) → List (String × α)
  | [] => [(key, value)]
  | (other, kept) :: rest =>
      if key < other then (key, value) :: (other, kept) :: rest
      else if key = other then (key, value) :: rest
      else (other, kept) :: insertSorted key value rest

/-- The entries by increasing key; of entries with one key the last stays. -/
def sortEntries {α : Type} (entries : List (String × α)) : List (String × α) :=
  entries.foldl (fun sorted entry => insertSorted entry.1 entry.2 sorted) []

namespace Json

def natural (n : Nat) : Json := .number (.integer n)

mutual

/-- The tree with every object as a finite map, listed by increasing key. -/
def canonical : Json → Json
  | .array items => .array (canonicalItems items)
  | .object entries => .object (sortEntries (canonicalEntries entries))
  | other => other

def canonicalItems : List Json → List Json
  | [] => []
  | item :: rest => canonical item :: canonicalItems rest

def canonicalEntries : List (String × Json) → List (String × Json)
  | [] => []
  | (key, value) :: rest => (key, canonical value) :: canonicalEntries rest

end

/-- The entries that hold a value. -/
def present (entries : List (String × Option Json)) : Json :=
  .object (entries.filterMap fun (key, value) => value.map (key, ·))

inductive Draft where
  | null
  | bool (value : Bool)
  | number (value : Number)
  | string (value : String)
  | array (items : List Draft)
  | object (entries : List (String × Draft))
  | hole
  deriving Inhabited

namespace Draft

mutual

/-- Every tree is a draft without holes. -/
def ofJson : Json → Draft
  | .null => .null
  | .bool value => .bool value
  | .number value => .number value
  | .string value => .string value
  | .array items => .array (ofItems items)
  | .object entries => .object (ofEntries entries)

def ofItems : List Json → List Draft
  | [] => []
  | item :: rest => ofJson item :: ofItems rest

def ofEntries : List (String × Json) → List (String × Draft)
  | [] => []
  | (key, value) :: rest => (key, ofJson value) :: ofEntries rest

end

mutual

/-- The tree of a draft without holes. -/
def toJson? : Draft → Option Json
  | .null => some .null
  | .bool value => some (.bool value)
  | .number value => some (.number value)
  | .string value => some (.string value)
  | .array items => (toItems? items).map .array
  | .object entries => (toEntries? entries).map .object
  | .hole => none

def toItems? : List Draft → Option (List Json)
  | [] => some []
  | item :: rest =>
      match toJson? item, toItems? rest with
      | some value, some values => some (value :: values)
      | _, _ => none

def toEntries? : List (String × Draft) → Option (List (String × Json))
  | [] => some []
  | (key, value) :: rest =>
      match toJson? value, toEntries? rest with
      | some value, some values => some ((key, value) :: values)
      | _, _ => none

end

def isWhole (draft : Draft) : Bool := draft.toJson?.isSome

mutual

theorem toJson?_ofJson (tree : Json) : toJson? (ofJson tree) = some tree := by
  match tree with
  | .null | .bool _ | .number _ | .string _ => rfl
  | .array items => simp [ofJson, toJson?, toItems?_ofItems items]
  | .object entries => simp [ofJson, toJson?, toEntries?_ofEntries entries]

theorem toItems?_ofItems (items : List Json) : toItems? (ofItems items) = some items := by
  match items with
  | [] => rfl
  | item :: rest => simp [ofItems, toItems?, toJson?_ofJson item, toItems?_ofItems rest]

theorem toEntries?_ofEntries (entries : List (String × Json)) :
    toEntries? (ofEntries entries) = some entries := by
  match entries with
  | [] => rfl
  | (key, value) :: rest =>
      simp [ofEntries, toEntries?, toJson?_ofJson value, toEntries?_ofEntries rest]

end

@[simp]
theorem isWhole_ofJson (tree : Json) : (ofJson tree).isWhole = true := by
  simp [isWhole, toJson?_ofJson]

theorem ofItems_eq_map (items : List Json) : ofItems items = items.map ofJson := by
  induction items with
  | nil => rfl
  | cons item rest induction => simp [ofItems, induction]

theorem ofEntries_eq_map (entries : List (String × Json)) :
    ofEntries entries = entries.map fun entry => (entry.1, ofJson entry.2) := by
  induction entries with
  | nil => rfl
  | cons entry rest induction => simp [ofEntries, induction]

end Draft

end Json

end FieldDispatch
