import FieldDispatch.Json.Record
import Mathlib.Data.List.Nodup

/-!
Reading back what was written as a record. An object in which no key repeats has under each name the
one value written there, wherever the entry stands and whatever else the object holds, and an entry
without a value is as good as none. A tag names its variant and is then out of the way.
-/

namespace FieldDispatch.Json

/-- The entries of `present`. -/
def presentEntries (entries : List (String × Option Json)) : List (String × Json) :=
  entries.filterMap fun (key, value) => value.map (key, ·)

theorem present_eq_object (entries : List (String × Option Json)) :
    present entries = .object (presentEntries entries) := rfl

theorem presentEntries_cons_none (key : String) (rest : List (String × Option Json)) :
    presentEntries ((key, none) :: rest) = presentEntries rest := rfl

theorem presentEntries_cons_some (key : String) (value : Json)
    (rest : List (String × Option Json)) :
    presentEntries ((key, some value) :: rest) = (key, value) :: presentEntries rest := rfl

theorem lookup_eq_none_of_absent {α : Type} {entries : List (String × α)} {key : String}
    (absent : key ∉ entries.map Prod.fst) : entries.lookup key = none := by
  apply List.lookup_eq_none_iff.mpr
  intro entry present
  have other : key ≠ entry.1 := by
    intro same
    apply absent
    exact List.mem_map.mpr ⟨entry, present, same.symm⟩
  simpa using other

theorem keys_presentEntries_sublist (entries : List (String × Option Json)) :
    ((presentEntries entries).map Prod.fst).Sublist (entries.map Prod.fst) := by
  induction entries with
  | nil => exact List.Sublist.slnil
  | cons entry rest induction =>
      obtain ⟨key, value⟩ := entry
      cases value with
      | none => exact induction.cons key
      | some value => exact induction.cons_cons key

theorem nodup_keys_presentEntries {entries : List (String × Option Json)}
    (distinct : (entries.map Prod.fst).Nodup) :
    ((presentEntries entries).map Prod.fst).Nodup :=
  (keys_presentEntries_sublist entries).nodup distinct

theorem lookup_presentEntries {entries : List (String × Option Json)}
    (distinct : (entries.map Prod.fst).Nodup) (key : String) :
    (presentEntries entries).lookup key = (entries.lookup key).join := by
  induction entries with
  | nil => rfl
  | cons entry rest induction =>
      obtain ⟨other, value⟩ := entry
      rw [List.map_cons, List.nodup_cons] at distinct
      have later := induction distinct.2
      by_cases same : key = other
      · subst same
        have none_later : rest.lookup key = none := lookup_eq_none_of_absent distinct.1
        cases value with
        | none => simp [presentEntries_cons_none, later, none_later]
        | some value => simp [presentEntries_cons_some]
      · have test : (key == other) = false := beq_eq_false_iff_ne.mpr same
        cases value with
        | none => rw [presentEntries_cons_none, later, List.lookup_cons, test]
        | some value =>
            rw [presentEntries_cons_some, List.lookup_cons, test, later, List.lookup_cons, test]

theorem filter_presentEntries (keep : String → Bool) (entries : List (String × Option Json)) :
    (presentEntries entries).filter (fun entry => keep entry.1) =
      presentEntries (entries.filter fun entry => keep entry.1) := by
  induction entries with
  | nil => rfl
  | cons entry rest induction =>
      obtain ⟨key, value⟩ := entry
      cases kept : keep key <;> cases value <;>
        simp [presentEntries_cons_none, presentEntries_cons_some, kept, induction]

namespace Draft

theorem filter_ofEntries (keep : String → Bool) (entries : List (String × Json)) :
    (ofEntries entries).filter (fun entry => keep entry.1) =
      ofEntries (entries.filter fun entry => keep entry.1) := by
  rw [ofEntries_eq_map, ofEntries_eq_map, List.filter_map]
  rfl

/-- The entries under a key that does not repeat: one or none. -/
theorem filter_key_eq_lookup {entries : List (String × Json)}
    (distinct : (entries.map Prod.fst).Nodup) (key : String) :
    (entries.filter fun entry => entry.1 = key) =
      ((entries.lookup key).map fun value => (key, value)).toList := by
  induction entries with
  | nil => rfl
  | cons entry rest induction =>
      obtain ⟨other, value⟩ := entry
      rw [List.map_cons, List.nodup_cons] at distinct
      have later := induction distinct.2
      by_cases same : other = key
      · subst same
        have none_later : rest.lookup other = none := lookup_eq_none_of_absent distinct.1
        rw [List.filter_cons_of_pos (by simp), later, none_later]
        simp
      · have test : (key == other) = false := beq_eq_false_iff_ne.mpr fun equal => same equal.symm
        rw [List.filter_cons_of_neg (by simpa using same), later, List.lookup_cons, test]

theorem single?_ofEntries {entries : List (String × Json)}
    (distinct : (entries.map Prod.fst).Nodup) (key : String) :
    single? (ofEntries entries) key = some ((entries.lookup key).map ofJson) := by
  have found := filter_ofEntries (fun other => other = key) entries
  rw [filter_key_eq_lookup distinct key] at found
  unfold single?
  rw [found]
  cases entries.lookup key <;> rfl

theorem objectFields?_ofEntries {entries : List (String × Json)}
    (distinct : (entries.map Prod.fst).Nodup) (names : List String) :
    objectFields? names (ofEntries entries) =
      some (names.map fun name => (entries.lookup name).map ofJson) := by
  unfold objectFields?
  induction names with
  | nil => rfl
  | cons name rest induction =>
      simp [single?_ofEntries distinct, induction]

theorem fields?_object {entries : List (String × Json)}
    (distinct : (entries.map Prod.fst).Nodup) (names : List String) :
    fields? names (ofJson (.object entries)) =
      some (names.map fun name => (entries.lookup name).map ofJson) :=
  objectFields?_ofEntries distinct names

theorem fields?_present {entries : List (String × Option Json)}
    (distinct : (entries.map Prod.fst).Nodup) (names : List String) :
    fields? names (ofJson (present entries)) =
      some (names.map fun name => (entries.lookup name).join.map ofJson) := by
  rw [present_eq_object, fields?_object (nodup_keys_presentEntries distinct)]
  simp only [lookup_presentEntries distinct]

/-- A tag that heads its record names the variant; the rest is the variant's own record. -/
theorem tagged?_object {place : Place} {tag variant : String} {variants : List String}
    {entries : List (String × Json)} (distinct : (tag :: entries.map Prod.fst).Nodup)
    (listed : variant ∈ variants) :
    tagged? place tag variants (ofJson (.object ((tag, .string variant) :: entries))) =
      some (variant, ofJson (.object entries)) := by
  have found : single? (ofEntries ((tag, .string variant) :: entries)) tag =
      some (some (.string variant)) := by
    have keys : (((tag, Json.string variant) :: entries).map Prod.fst).Nodup := distinct
    rw [single?_ofEntries keys, List.lookup_cons_self]
    rfl
  have named : variant? place variants (.string variant) = some variant := if_pos listed
  have others : (ofEntries ((tag, .string variant) :: entries)).filter
      (fun entry => entry.1 ≠ tag) = ofEntries entries := by
    have absent : ∀ entry ∈ entries, entry.1 ≠ tag := by
      intro entry present same
      apply (List.nodup_cons.mp distinct).1
      exact List.mem_map.mpr ⟨entry, present, same⟩
    have filtered := filter_ofEntries (fun key => key ≠ tag) ((tag, .string variant) :: entries)
    rw [filtered, List.filter_cons_of_neg (by simp),
      List.filter_eq_self.mpr fun entry present => decide_eq_true (absent entry present)]
  unfold tagged?
  rw [if_pos (isWhole_ofJson _)]
  simp only [ofJson, found, named, others, Option.bind_eq_bind, Option.bind_some]

theorem tagged?_present {place : Place} {tag variant : String} {variants : List String}
    {entries : List (String × Option Json)} (distinct : (tag :: entries.map Prod.fst).Nodup)
    (listed : variant ∈ variants) :
    tagged? place tag variants (ofJson (present ((tag, some (.string variant)) :: entries))) =
      some (variant, ofJson (present entries)) := by
  have sublist := (keys_presentEntries_sublist entries).cons_cons tag
  exact tagged?_object (sublist.nodup distinct) listed

@[simp]
theorem string?_ofJson (text : String) : string? (ofJson (.string text)) = some text := rfl

@[simp]
theorem bool?_ofJson (value : Bool) : bool? (ofJson (.bool value)) = some value := rfl

theorem natural?_ofJson {limit n : Nat} (bounded : n < limit) :
    natural? limit (ofJson (.natural n)) = some n := by
  simp [natural?, Json.natural, ofJson, bounded]

@[simp]
theorem word32?_ofJson (word : UInt32) : word32? (ofJson (.natural word.toNat)) = some word := by
  simp [word32?, natural?_ofJson word.toNat_lt]

@[simp]
theorem word64?_ofJson (word : UInt64) : word64? (ofJson (.natural word.toNat)) = some word := by
  simp [word64?, natural?_ofJson word.toNat_lt]

section Written

variable {α : Type} {value? : Draft → Option α} {toJson : α → Json}

theorem mapM_ofItems (reads : ∀ value, value? (ofJson (toJson value)) = some value)
    (values : List α) : (ofItems (values.map toJson)).mapM value? = some values := by
  induction values with
  | nil => rfl
  | cons value rest induction => simp [ofItems, reads, induction]

theorem list?_ofJson (reads : ∀ value, value? (ofJson (toJson value)) = some value)
    (values : List α) : list? value? (ofJson (.array (values.map toJson))) = some values :=
  mapM_ofItems reads values

/-- An option is read back from a field that is left out when there is no value. Values must not
look like null. -/
theorem optional_ofJson (reads : ∀ value, value? (ofJson (toJson value)) = some value)
    (refuses : value? .null = none) (value : Option α) :
    optional value? (value.map (ofJson ∘ toJson)) = some value := by
  cases value with
  | none => rfl
  | some value =>
      have written := reads value
      change nullable? value? (ofJson (toJson value)) = some (some value)
      cases draft : ofJson (toJson value) with
      | null => simp [draft, refuses] at written
      | _ => simp [nullable?, ← draft, written]

end Written

end Draft

end FieldDispatch.Json
