import Mathlib.Data.List.Forall2

/-!
Entries of which the last under each key counts: writes that replace earlier ones, hooks given one
after the other, keys that a JSON object repeats.
-/

namespace FieldDispatch

variable {κ α β : Type} [DecidableEq κ] {key : κ} {value : α} {entries : List (κ × α)}

/-- The last value that stands under a key. -/
def lastUnder? (key : κ) (entries : List (κ × α)) : Option α :=
  (entries.filter fun entry => entry.1 = key).getLast?.map Prod.snd

theorem lastUnder?_append (key : κ) (first second : List (κ × α)) :
    lastUnder? key (first ++ second) = (lastUnder? key second).or (lastUnder? key first) := by
  unfold lastUnder?
  rw [List.filter_append, List.getLast?_append, Option.map_or]

theorem lastUnder?_singleton (key : κ) (entry : κ × α) :
    lastUnder? key [entry] = if key = entry.1 then some entry.2 else none := by
  by_cases same : key = entry.1
  · simp [lastUnder?, same]
  · have different : entry.1 ≠ key := fun equal => same equal.symm
    simp [lastUnder?, same, different]

/-- A single entry replaces what was kept if it has the key. -/
theorem lastUnder?_singleton_or (key : κ) (entry : κ × α) (kept : Option α) :
    (lastUnder? key [entry]).or kept = if key = entry.1 then some entry.2 else kept := by
  rw [lastUnder?_singleton]
  split <;> rfl

theorem lastUnder?_cons (key : κ) (entry : κ × α) (rest : List (κ × α)) :
    lastUnder? key (entry :: rest) = (lastUnder? key rest).or (lastUnder? key [entry]) :=
  lastUnder?_append key [entry] rest

theorem lastUnder?_concat (key : κ) (entries : List (κ × α)) (entry : κ × α) :
    lastUnder? key (entries ++ [entry]) =
      if key = entry.1 then some entry.2 else lastUnder? key entries := by
  rw [lastUnder?_append, lastUnder?_singleton_or]

theorem mem_of_lastUnder? (last : lastUnder? key entries = some value) :
    (key, value) ∈ entries := by
  obtain ⟨entry, found, rfl⟩ := Option.map_eq_some_iff.mp last
  obtain ⟨present, same⟩ := List.mem_filter.mp (List.mem_of_getLast? found)
  rw [← of_decide_eq_true same]
  exact present

theorem lastUnder?_eq_none (absent : ∀ entry ∈ entries, entry.1 ≠ key) :
    lastUnder? key entries = none := by
  apply Option.eq_none_iff_forall_ne_some.mpr
  intro value last
  exact absent (key, value) (mem_of_lastUnder? last) rfl

theorem lastUnder?_map (f : α → β) (key : κ) (entries : List (κ × α)) :
    lastUnder? key (entries.map fun entry => (entry.1, f entry.2)) =
      (lastUnder? key entries).map f := by
  induction entries with
  | nil => rfl
  | cons entry rest induction =>
      rw [List.map_cons, lastUnder?_cons, lastUnder?_cons key entry, induction, Option.map_or,
        lastUnder?_singleton, lastUnder?_singleton]
      split <;> rfl

/-- Related values in the place of each other are the last ones in both lists, or none are. -/
theorem lastUnder?_rel {related : α → β → Prop} {others : List (κ × β)}
    (pairwise : List.Forall₂ (fun entry other => entry.1 = other.1 ∧ related entry.2 other.2)
      entries others) (key : κ) :
    Option.Rel related (lastUnder? key entries) (lastUnder? key others) := by
  induction pairwise with
  | nil => exact .none
  | @cons entry other rest others first later induction =>
      rw [lastUnder?_cons, lastUnder?_cons key other, lastUnder?_singleton, lastUnder?_singleton,
        ← first.1]
      generalize lastUnder? key rest = last at induction
      generalize lastUnder? key others = otherLast at induction
      cases induction with
      | some same => exact .some same
      | none =>
          split
          · exact .some first.2
          · exact .none

end FieldDispatch
