import FieldDispatch.Value.Basic
import Mathlib.Data.List.Forall2

/-!
The parts of a value. A list and a map hold values, which may hold further ones, so what is said of
values at every depth is proved by induction on how they are nested. Equality compares two values
part by part: the parts have to be as many, in the same order and under the same keys.
-/

namespace FieldDispatch

namespace Value

section Nesting

variable {motive : Value → Prop}

/-- Induction on how values are nested. -/
@[elab_as_elim]
theorem nesting (null : motive .null) (boolean : ∀ value, motive (.boolean value))
    (int : ∀ value, motive (.int value)) (float : ∀ value, motive (.float value))
    (string : ∀ value, motive (.string value))
    (list : ∀ items, (∀ item ∈ items, motive item) → motive (.list items))
    (map : ∀ entries, (∀ entry ∈ entries, motive entry.2) → motive (.map entries))
    (object : ∀ value, motive (.object value)) (value : Value) : motive value := by
  apply @Value.rec motive (fun items => ∀ item ∈ items, motive item)
    (fun entries => ∀ entry ∈ entries, motive entry.2) (fun entry => motive entry.2)
    null boolean int float string list map object
  · exact List.forall_mem_nil _
  · intro item rest first later
    exact List.forall_mem_cons.mpr ⟨first, later⟩
  · exact List.forall_mem_nil _
  · intro entry rest first later
    exact List.forall_mem_cons.mpr ⟨first, later⟩
  · intro key value holds
    exact holds

end Nesting

/-- A part of a value, at whatever depth. The whole is one of them. -/
inductive HasPart (part : Value) : Value → Prop
  | self : HasPart part part
  | item {items : List Value} {item : Value} (present : item ∈ items) (inside : HasPart part item) :
      HasPart part (.list items)
  | entry {entries : List (String × Value)} {entry : String × Value} (present : entry ∈ entries)
      (inside : HasPart part entry.2) : HasPart part (.map entries)

def EqualEntries (entry other : String × Value) : Prop :=
  entry.1 = other.1 ∧ entry.2.equals other.2 = true

/-- What makes two values equal, their parts being compared in turn. -/
inductive EqualParts : Value → Value → Prop
  | null : EqualParts .null .null
  | boolean (value : Bool) : EqualParts (.boolean value) (.boolean value)
  | int (value : Int64) : EqualParts (.int value) (.int value)
  | float {x y : Double} (equal : x.equals y = true) : EqualParts (.float x) (.float y)
  | string (value : String) : EqualParts (.string value) (.string value)
  | list {items others : List Value}
      (equal : List.Forall₂ (fun item other => item.equals other = true) items others) :
      EqualParts (.list items) (.list others)
  | map {entries others : List (String × Value)}
      (equal : List.Forall₂ EqualEntries entries others) : EqualParts (.map entries) (.map others)
  | object (value : ObjectRef) : EqualParts (.object value) (.object value)

theorem equalItems_iff (items others : List Value) :
    equalItems items others = true ↔
      List.Forall₂ (fun item other => item.equals other = true) items others := by
  induction items generalizing others with
  | nil => cases others <;> simp [equalItems]
  | cons item rest induction =>
      cases others with
      | nil => simp [equalItems]
      | cons other others => simp [equalItems, induction]

theorem equalEntries_iff (entries others : List (String × Value)) :
    equalEntries entries others = true ↔ List.Forall₂ EqualEntries entries others := by
  induction entries generalizing others with
  | nil => cases others <;> simp [equalEntries]
  | cons entry rest induction =>
      cases others with
      | nil => simp [equalEntries]
      | cons other others => simp [equalEntries, EqualEntries, induction]

theorem equals_object_iff (a b : ObjectRef) :
    (Value.object a).equals (.object b) = true ↔ a.typeName = b.typeName ∧ a.host = b.host := by
  have read : (Value.object a).equals (.object b) =
      (a.typeName == b.typeName && a.sameHost b) := rfl
  rw [read, Bool.and_eq_true, beq_iff_eq, ObjectRef.sameHost, decide_eq_true_eq]

theorem equals_iff (a b : Value) : a.equals b = true ↔ EqualParts a b := by
  constructor
  · intro equal
    -- Values of different forms are never equal.
    cases a with
    | null =>
        cases b with
        | null => exact .null
        | _ => exact absurd equal Bool.false_ne_true
    | boolean value =>
        cases b with
        | boolean other =>
            cases (beq_iff_eq.mp equal : value = other)
            exact .boolean value
        | _ => exact absurd equal Bool.false_ne_true
    | int value =>
        cases b with
        | int other =>
            cases (beq_iff_eq.mp equal : value = other)
            exact .int value
        | _ => exact absurd equal Bool.false_ne_true
    | float x =>
        cases b with
        | float y => exact .float equal
        | _ => exact absurd equal Bool.false_ne_true
    | string value =>
        cases b with
        | string other =>
            cases (beq_iff_eq.mp equal : value = other)
            exact .string value
        | _ => exact absurd equal Bool.false_ne_true
    | list items =>
        cases b with
        | list others => exact .list ((equalItems_iff items others).mp equal)
        | _ => exact absurd equal Bool.false_ne_true
    | map entries =>
        cases b with
        | map others => exact .map ((equalEntries_iff entries others).mp equal)
        | _ => exact absurd equal Bool.false_ne_true
    | object value =>
        cases b with
        | object other =>
            obtain ⟨typeName, host⟩ := value
            obtain ⟨rfl, rfl⟩ := (equals_object_iff _ other).mp equal
            exact .object other
        | _ => exact absurd equal Bool.false_ne_true
  · intro parts
    cases parts with
    | null => rfl
    | boolean value => exact beq_self_eq_true value
    | int value => exact beq_self_eq_true value
    | float equal => exact equal
    | string value => exact beq_self_eq_true value
    | list equal => exact (equalItems_iff _ _).mpr equal
    | map equal => exact (equalEntries_iff _ _).mpr equal
    | object value => exact (equals_object_iff value value).mpr ⟨rfl, rfl⟩

end Value

end FieldDispatch
