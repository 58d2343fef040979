import FieldDispatch.Proofs.IntegerNumeral
import FieldDispatch.Proofs.SortedEntries
import FieldDispatch.Proofs.ValueEquality
import FieldDispatch.Value.OfJson

/-!
What a JSON tree becomes as a value. Nothing is lost but the size and the form of numbers: trees of
integers that fit 64 bits become equal values just if they are the same tree, objects being finite
maps. A value made from a tree holds no object of the host, its maps are sorted by the bytes of
their keys, and of all numbers those become integers that are written as integers and fit 64 bits.
-/

namespace FieldDispatch

namespace Json

section Nesting

variable {motive : Json → Prop}

/-- Induction on how trees are nested. -/
@[elab_as_elim]
theorem nesting (null : motive .null) (bool : ∀ value, motive (.bool value))
    (number : ∀ value, motive (.number value)) (string : ∀ value, motive (.string value))
    (array : ∀ items, (∀ item ∈ items, motive item) → motive (.array items))
    (object : ∀ entries, (∀ entry ∈ entries, motive entry.2) → motive (.object entries))
    (tree : Json) : motive tree := by
  apply @Json.rec motive (fun items => ∀ item ∈ items, motive item)
    (fun entries => ∀ entry ∈ entries, motive entry.2) (fun entry => motive entry.2)
    null bool number string array object
  · exact List.forall_mem_nil _
  · intro item rest first later
    exact List.forall_mem_cons.mpr ⟨first, later⟩
  · exact List.forall_mem_nil _
  · intro entry rest first later
    exact List.forall_mem_cons.mpr ⟨first, later⟩
  · intro key value holds
    exact holds

end Nesting

/-- A part of a tree, at whatever depth. An object has one part for each key, the last. -/
inductive HasPart (part : Json) : Json → Prop
  | self : HasPart part part
  | item {items : List Json} {item : Json} (present : item ∈ items) (inside : HasPart part item) :
      HasPart part (.array items)
  | entry {entries : List (String × Json)} {key : String} {value : Json}
      (held : lastUnder? key entries = some value) (inside : HasPart part value) :
      HasPart part (.object entries)

/-- The same tree, with every object read as a finite map from keys. -/
inductive SameTree : Json → Json → Prop
  | null : SameTree .null .null
  | bool (value : Bool) : SameTree (.bool value) (.bool value)
  | number (value : Number) : SameTree (.number value) (.number value)
  | string (value : String) : SameTree (.string value) (.string value)
  | array {items others : List Json} (same : List.Forall₂ SameTree items others) :
      SameTree (.array items) (.array others)
  | object {entries others : List (String × Json)}
      (same : ∀ key, Option.Rel SameTree (lastUnder? key entries) (lastUnder? key others)) :
      SameTree (.object entries) (.object others)

/-- Every number of the tree is an integer that fits 64 bits. -/
def HoldsShortIntegers (tree : Json) : Prop :=
  ∀ number, HasPart (.number number) tree → ∃ value : Int64, number = .integer value.toInt

namespace HoldsShortIntegers

theorem of_item {items : List Json} {item : Json} (short : (Json.array items).HoldsShortIntegers)
    (present : item ∈ items) : item.HoldsShortIntegers :=
  fun number inside => short number (.item present inside)

theorem of_entry {entries : List (String × Json)} {key : String} {value : Json}
    (short : (Json.object entries).HoldsShortIntegers)
    (held : lastUnder? key entries = some value) : value.HoldsShortIntegers :=
  fun number inside => short number (.entry held inside)

theorem array {items : List Json} (all : ∀ item ∈ items, item.HoldsShortIntegers) :
    (Json.array items).HoldsShortIntegers := by
  intro number occurs
  cases occurs with
  | item present inside => exact all _ present number inside

theorem object {entries : List (String × Json)}
    (all : ∀ entry ∈ entries, entry.2.HoldsShortIntegers) :
    (Json.object entries).HoldsShortIntegers := by
  intro number occurs
  cases occurs with
  | entry held inside => exact all _ (mem_of_lastUnder? held) number inside

theorem integer (value : Int64) : (Json.number (.integer value.toInt)).HoldsShortIntegers := by
  intro number occurs
  cases occurs
  exact ⟨value, rfl⟩

end HoldsShortIntegers

theorem Number.toValue_integer (value : Int64) :
    (Number.integer value.toInt).toValue = .int value := by
  rw [toValue, if_pos ⟨Int64.minValue_le_toInt value, Int64.toInt_le value⟩, Int64.ofInt_toInt]

/-- The number as a double, rounded if it has to be. -/
def Number.asDouble : Number → Double
  | .integer value => Double.ofInt value
  | .double x => x

theorem Number.toValue_of_other {number : Number}
    (other : ∀ value : Int64, number ≠ .integer value.toInt) :
    number.toValue = .float number.asDouble := by
  cases number with
  | double x => rfl
  | integer value =>
      apply if_neg
      rintro ⟨low, high⟩
      have kept : (Int64.ofInt value).toInt = value :=
        Int64.toInt_ofInt_of_le low (Int.lt_add_one_of_le high)
      exact other (Int64.ofInt value) (congrArg integer kept.symm)

end Json

section Related

variable {α β : Type}

theorem rel_map_iff (related : β → β → Prop) (f : α → β) (found other : Option α) :
    Option.Rel related (found.map f) (other.map f) ↔
      Option.Rel (fun x y => related (f x) (f y)) found other := by
  cases found <;> cases other <;> simp

theorem rel_imp {related relatedAfter : α → β → Prop} {found : Option α} {other : Option β}
    (rel : Option.Rel related found other)
    (step : ∀ x, found = some x → ∀ y, related x y → relatedAfter x y) :
    Option.Rel relatedAfter found other := by
  cases rel with
  | none => exact .none
  | some same => exact .some (step _ rfl _ same)

end Related

namespace Value

theorem ofItems_eq_map (items : List Json) : ofItems items = items.map ofJson := by
  induction items with
  | nil => rfl
  | cons item rest induction => rw [ofItems, induction, List.map_cons]

theorem ofEntries_eq_map (entries : List (String × Json)) :
    ofEntries entries = entries.map fun entry => (entry.1, ofJson entry.2) := by
  induction entries with
  | nil => rfl
  | cons entry rest induction => rw [ofEntries, induction, List.map_cons]

theorem ofJson_array (items : List Json) : ofJson (.array items) = .list (items.map ofJson) := by
  rw [ofJson, ofItems_eq_map]

theorem ofJson_object (entries : List (String × Json)) :
    ofJson (.object entries) =
      .map (sortEntries (entries.map fun entry => (entry.1, ofJson entry.2))) := by
  rw [ofJson, ofEntries_eq_map]

/-- What a tree becomes, at its root. -/
inductive Conversion : Json → Value → Prop
  | null : Conversion .null .null
  | boolean (value : Bool) : Conversion (.bool value) (.boolean value)
  | int (value : Int64) : Conversion (.number (.integer value.toInt)) (.int value)
  | float (number : Json.Number) : Conversion (.number number) (.float number.asDouble)
  | string (value : String) : Conversion (.string value) (.string value)
  | list (items : List Json) : Conversion (.array items) (.list (items.map ofJson))
  | map (entries : List (String × Json)) : Conversion (.object entries)
      (.map (sortEntries (entries.map fun entry => (entry.1, ofJson entry.2))))

theorem conversion (tree : Json) : Conversion tree (ofJson tree) := by
  cases tree with
  | null => exact .null
  | bool value => exact .boolean value
  | number number =>
      have read : ofJson (.number number) = number.toValue := rfl
      rw [read]
      by_cases integer : ∃ value : Int64, number = .integer value.toInt
      · obtain ⟨value, rfl⟩ := integer
        rw [Json.Number.toValue_integer]
        exact .int value
      · rw [Json.Number.toValue_of_other fun value same => integer ⟨value, same⟩]
        exact .float number
  | string value => exact .string value
  | array items =>
      rw [ofJson_array]
      exact .list items
  | object entries =>
      rw [ofJson_object]
      exact .map entries

theorem ofJson_eq_int_iff (number : Json.Number) (value : Int64) :
    ofJson (.number number) = .int value ↔ number = .integer value.toInt := by
  constructor
  · intro made
    have converted := conversion (.number number)
    rw [made] at converted
    cases converted
    rfl
  · rintro rfl
    exact Json.Number.toValue_integer value

/-! ## The same tree and equal values -/

/-- Two objects become equal maps if what they have under each key becomes equal. -/
theorem equalEntries_ofJson_iff (entries others : List (String × Json)) :
    List.Forall₂ EqualEntries
        (sortEntries (entries.map fun entry => (entry.1, ofJson entry.2)))
        (sortEntries (others.map fun entry => (entry.1, ofJson entry.2))) ↔
      ∀ key, Option.Rel (fun part other => (ofJson part).equals (ofJson other) = true)
        (lastUnder? key entries) (lastUnder? key others) := by
  have keywise := (hasIncreasingKeys_sortEntries
      (entries.map fun entry => (entry.1, ofJson entry.2))).forall₂_iff
    (hasIncreasingKeys_sortEntries (others.map fun entry => (entry.1, ofJson entry.2)))
    fun value other : Value => value.equals other = true
  apply keywise.trans
  simp only [find?_sortEntries, lastUnder?_map, rel_map_iff]

theorem sameTree_of_equalParts {a b : Json} {value : Value} (short : a.HoldsShortIntegers)
    (parts : EqualParts (ofJson a) value) (converted : Conversion b value) : a.SameTree b := by
  induction a using Json.nesting generalizing b value with
  | null =>
      cases parts
      cases converted
      exact .null
  | bool truth =>
      cases parts
      cases converted
      exact .bool truth
  | number number =>
      obtain ⟨integer, rfl⟩ := short number .self
      rw [(ofJson_eq_int_iff _ integer).mpr rfl] at parts
      cases parts
      cases converted
      exact .number _
  | string text =>
      cases parts
      cases converted
      exact .string text
  | array items induction =>
      rw [ofJson_array] at parts
      cases parts with
      | list same =>
          cases converted with
          | list others =>
              rw [List.forall₂_map_left_iff, List.forall₂_map_right_iff] at same
              have step : ∀ item ∈ items, ∀ other : Json,
                  (ofJson item).equals (ofJson other) = true → item.SameTree other :=
                fun item present other equal => induction item present (short.of_item present)
                  ((equals_iff _ _).mp equal) (conversion other)
              have both := (List.forall₂_and_left _ _).mpr ⟨step, same⟩
              exact .array (both.imp fun item other given => given.1 other given.2)
  | object entries induction =>
      rw [ofJson_object] at parts
      cases parts with
      | map same =>
          cases converted with
          | map others =>
              apply Json.SameTree.object
              intro key
              apply rel_imp ((equalEntries_ofJson_iff entries others).mp same key)
              intro part held other equal
              exact induction (key, part) (mem_of_lastUnder? held) (short.of_entry held)
                ((equals_iff _ _).mp equal) (conversion other)

theorem equals_of_sameTree {a b : Json} (short : a.HoldsShortIntegers) (same : a.SameTree b) :
    (ofJson a).equals (ofJson b) = true := by
  rw [equals_iff]
  induction a using Json.nesting generalizing b with
  | null =>
      cases same
      exact .null
  | bool truth =>
      cases same
      exact .boolean truth
  | number number =>
      obtain ⟨integer, rfl⟩ := short number .self
      cases same
      rw [(ofJson_eq_int_iff _ integer).mpr rfl]
      exact .int integer
  | string text =>
      cases same
      exact .string text
  | array items induction =>
      cases same with
      | array same =>
          have step : ∀ item ∈ items, ∀ other : Json,
              item.SameTree other → (ofJson item).equals (ofJson other) = true :=
            fun item present other same =>
              (equals_iff _ _).mpr (induction item present (short.of_item present) same)
          have both := (List.forall₂_and_left _ _).mpr ⟨step, same⟩
          rw [ofJson_array, ofJson_array]
          apply EqualParts.list
          rw [List.forall₂_map_left_iff, List.forall₂_map_right_iff]
          exact both.imp fun item other given => given.1 other given.2
  | object entries induction =>
      cases same with
      | @object _ others same =>
          rw [ofJson_object, ofJson_object]
          apply EqualParts.map ((equalEntries_ofJson_iff entries others).mpr ?_)
          intro key
          apply rel_imp (same key)
          intro part held other same
          exact (equals_iff _ _).mpr (induction (key, part) (mem_of_lastUnder? held)
            (short.of_entry held) same)

/-! ## The parts of a converted tree -/

/-- Every part comes from a part of the tree. -/
theorem exists_source {tree : Json} {part : Value} (occurs : HasPart part (ofJson tree)) :
    ∃ source, Json.HasPart source tree ∧ ofJson source = part := by
  induction tree using Json.nesting with
  | array items induction =>
      rw [ofJson_array] at occurs
      cases occurs with
      | self => exact ⟨.array items, .self, ofJson_array items⟩
      | item present inside =>
          obtain ⟨item, itemPresent, rfl⟩ := List.mem_map.mp present
          obtain ⟨source, sourceInside, same⟩ := induction item itemPresent inside
          exact ⟨source, .item itemPresent sourceInside, same⟩
  | object entries induction =>
      rw [ofJson_object] at occurs
      cases occurs with
      | self => exact ⟨.object entries, .self, ofJson_object entries⟩
      | @entry _ entry present inside =>
          have last := (mem_sortEntries_iff entry.1 entry.2 _).mp present
          rw [lastUnder?_map] at last
          obtain ⟨value, held, made⟩ := Option.map_eq_some_iff.mp last
          rw [← made] at inside
          obtain ⟨source, sourceInside, same⟩ :=
            induction (entry.1, value) (mem_of_lastUnder? held) inside
          exact ⟨source, .entry held sourceInside, same⟩
  | number number =>
      have converted := conversion (.number number)
      generalize made : ofJson (.number number) = value at occurs converted
      cases converted <;> cases occurs <;> exact ⟨_, .self, made⟩
  | _ =>
      cases occurs
      exact ⟨_, .self, rfl⟩

theorem hasPart_ofJson {source tree : Json} (occurs : Json.HasPart source tree) :
    HasPart (ofJson source) (ofJson tree) := by
  induction occurs with
  | self => exact .self
  | item present inside induction =>
      rw [ofJson_array]
      exact .item (List.mem_map_of_mem present) induction
  | @entry entries key value held inside induction =>
      rw [ofJson_object]
      have present : (key, ofJson value) ∈
          sortEntries (entries.map fun entry => (entry.1, ofJson entry.2)) := by
        rw [mem_sortEntries_iff, lastUnder?_map, held]
        rfl
      exact .entry present induction

theorem hasPart_ofJson_iff (tree : Json) (part : Value) :
    HasPart part (ofJson tree) ↔ ∃ source, Json.HasPart source tree ∧ ofJson source = part := by
  constructor
  · exact exists_source
  · rintro ⟨source, occurs, rfl⟩
    exact hasPart_ofJson occurs

theorem ofJson_ne_object (tree : Json) (object : ObjectRef) : ofJson tree ≠ .object object := by
  intro made
  have converted := conversion tree
  rw [made] at converted
  cases converted

theorem bytes_increase_of_ofJson {tree : Json} {entries : List (String × Value)}
    (made : ofJson tree = .map entries) :
    (entries.map fun entry => bytes entry.1).Pairwise (· < ·) := by
  have converted := conversion tree
  rw [made] at converted
  cases converted with
  | map written =>
      apply List.pairwise_map.mpr
      exact (hasIncreasingKeys_sortEntries _).imp bytes_lt_of_lt

/-- Trees of short integers become equal values just if they are the same tree. A value made from
any tree consists of what the parts of the tree become: there is no object of the host among them,
and the keys of every map increase byte by byte. A number becomes an integer if it is held as one of
64 bits, which means that it is written without fraction and exponent and not as minus zero, and
otherwise it becomes the nearest float. -/
theorem ofJson_faithful :
    (∀ a b : Json, a.HoldsShortIntegers →
      ((ofJson a).equals (ofJson b) = true ↔ a.SameTree b)) ∧
    (∀ tree : Json,
      (∀ part, HasPart part (ofJson tree) ↔
        ∃ source, Json.HasPart source tree ∧ ofJson source = part) ∧
      (∀ object, ¬HasPart (.object object) (ofJson tree)) ∧
      ∀ entries, HasPart (.map entries) (ofJson tree) →
        (entries.map fun entry => bytes entry.1).Pairwise (· < ·)) ∧
    (∀ number : Json.Number,
      (∀ value : Int64,
        ofJson (.number number) = .int value ↔ number = .integer value.toInt) ∧
      ((∀ value : Int64, number ≠ .integer value.toInt) →
        ofJson (.number number) = .float number.asDouble)) ∧
    ∀ (numeral : Json.Numeral) (number : Json.Number), numeral.value? = some number →
      ∀ value : Int64,
        ofJson (.number number) = .int value ↔ numeral.WritesInteger value.toInt := by
  refine ⟨?_, ?_, ?_, ?_⟩
  · intro a b short
    constructor
    · intro equal
      exact sameTree_of_equalParts short ((equals_iff _ _).mp equal) (conversion b)
    · exact equals_of_sameTree short
  · intro tree
    refine ⟨hasPart_ofJson_iff tree, ?_, ?_⟩
    · intro object occurs
      obtain ⟨source, -, made⟩ := exists_source occurs
      exact ofJson_ne_object source object made
    · intro entries occurs
      obtain ⟨source, -, made⟩ := exists_source occurs
      exact bytes_increase_of_ofJson made
  · intro number
    exact ⟨ofJson_eq_int_iff number, Json.Number.toValue_of_other⟩
  · intro numeral number held value
    rw [ofJson_eq_int_iff, ← numeral.value?_eq_integer_iff, held, Option.some_inj]

end Value

namespace Sample

/-- An object with one integer in it. -/
def counted (count : Int64) : List (String × Json) :=
  [("b", .array [.number (.integer count.toInt)]), ("a", .null)]

theorem counted_holdsShortIntegers (count : Int64) :
    (Json.object (counted count)).HoldsShortIntegers := by
  apply Json.HoldsShortIntegers.object
  intro entry present
  rcases List.mem_cons.mp present with rfl | last
  · apply Json.HoldsShortIntegers.array
    intro item itemPresent
    cases List.mem_singleton.mp itemPresent
    exact .integer count
  · cases List.mem_singleton.mp last
    intro number occurs
    cases occurs

end Sample

/-- The order of the keys is lost, but not the number; and of the numerals that may stand for it,
minus seven becomes an integer and minus zero does not. -/
theorem Value.ofJson_faithful_counted :
    (Json.object (Sample.counted 1)).HoldsShortIntegers ∧
    (Json.object (Sample.counted 1)).SameTree (.object (Sample.counted 1).reverse) ∧
    ¬(Json.object (Sample.counted 1)).SameTree (.object (Sample.counted 2)) ∧
    (∃ number, Json.Numeral.value? ⟨true, [7], [], none⟩ = some number ∧
      ofJson (.number number) = .int (-7)) ∧
    ∃ number, Json.Numeral.value? ⟨true, [0], [], none⟩ = some number ∧
      ofJson (.number number) = .float (Double.ofNat 0).negate := by
  obtain ⟨trees, -, numbers, numerals⟩ := ofJson_faithful
  have short := Sample.counted_holdsShortIntegers 1
  refine ⟨short, (trees _ _ short).mp (by decide +kernel), ?_, ?_, ?_⟩
  · intro same
    exact absurd ((trees _ _ short).mpr same) (by decide +kernel)
  · have held : Json.Numeral.value? ⟨true, [7], [], none⟩ = some (.integer (-7)) := by decide
    exact ⟨_, held, (numerals _ _ held (-7)).mpr ⟨rfl, rfl, by decide, by decide⟩⟩
  · have held : Json.Numeral.value? ⟨true, [0], [], none⟩ =
        some (.double (Double.ofNat 0).negate) := by decide
    exact ⟨_, held, (numbers _).2 nofun⟩

end FieldDispatch
