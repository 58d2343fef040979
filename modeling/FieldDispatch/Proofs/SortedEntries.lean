import FieldDispatch.Json.Basic
import FieldDispatch.OrderedMap
import FieldDispatch.Proofs.LastEntry
import Mathlib.Data.List.Induction
import Mathlib.Data.String.Basic
import Mathlib.Tactic.SplitIfs

/-!
Entries sorted by key. Sorting leaves one entry for each key, the last one, and the keys increase:
texts are ordered by their characters, which is the order of their bytes. So sorted lists of entries
are compared entry by entry just if they are compared key by key.
-/

namespace FieldDispatch

section ByteOrder

/-- The bytes of a text. -/
def bytes (text : String) : List UInt8 := text.toUTF8.data.toList

theorem bytes_eq_flatMap (text : String) :
    bytes text = text.toList.flatMap String.utf8EncodeChar := by
  have encoded : text.toByteArray = (text.toList.flatMap String.utf8EncodeChar).toByteArray := by
    rw [← String.ofList_toList (s := text), String.toByteArray_ofList, String.toList_ofList]
    rfl
  rw [bytes, String.toUTF8_eq_toByteArray, encoded, List.data_toByteArray, List.toList_toArray]

theorem cons_lt_cons_of_le {a b : Nat} {first second : List UInt8} (le : a ≤ b) (small : b < 256)
    (tie : a = b → first < second) : UInt8.ofNat a :: first < UInt8.ofNat b :: second := by
  apply List.cons_lt_cons_iff.mpr
  rcases Nat.lt_or_eq_of_le le with less | same
  · left
    rw [UInt8.lt_iff_toNat_lt, UInt8.toNat_ofNat', UInt8.toNat_ofNat']
    omega
  · exact .inr ⟨congrArg UInt8.ofNat same, tie same⟩

/-- What comes after the characters does not matter. -/
theorem utf8EncodeChar_append_lt {c d : Char} (less : c < d) (first second : List UInt8) :
    String.utf8EncodeChar c ++ first < String.utf8EncodeChar d ++ second := by
  have codes : c.val.toNat < d.val.toNat := UInt32.lt_iff_toNat_lt.mp less
  have limit : d.val.toNat < 0x110000 := by
    have same : d.val.toNat = d.toNat := rfl
    rcases d.valid with low | ⟨-, high⟩ <;> omega
  unfold String.utf8EncodeChar
  generalize c.val.toNat = m at codes
  generalize d.val.toNat = n at codes limit
  dsimp only
  split_ifs
  -- The byte of the smaller code is never the larger one, and not all of them are the same: either
  -- the larger code has more bytes, and then a larger first one, or their digits differ somewhere.
  all_goals simp only [List.cons_append, List.nil_append]
  all_goals repeat' (apply cons_lt_cons_of_le (by omega) (by omega); intro tie)
  all_goals omega

theorem flatMap_utf8EncodeChar_lt {first second : List Char} (less : first < second) :
    first.flatMap String.utf8EncodeChar < second.flatMap String.utf8EncodeChar := by
  induction first generalizing second with
  | nil =>
      cases second with
      | nil => exact absurd less (List.lt_irrefl _)
      | cons d rest =>
          rw [List.flatMap_nil, List.flatMap_cons]
          cases encoded : String.utf8EncodeChar d with
          | nil => exact absurd encoded String.utf8EncodeChar_ne_nil
          | cons byte others => exact List.nil_lt_cons _ _
  | cons c rest induction =>
      cases second with
      | nil => exact absurd less (List.not_lt_nil _)
      | cons d others =>
          rw [List.flatMap_cons, List.flatMap_cons]
          rcases List.cons_lt_cons_iff.mp less with smaller | ⟨rfl, later⟩
          · exact utf8EncodeChar_append_lt smaller _ _
          · exact List.append_left_lt (induction later)

theorem bytes_lt_of_lt {text other : String} (less : text < other) : bytes text < bytes other := by
  rw [bytes_eq_flatMap, bytes_eq_flatMap]
  exact flatMap_utf8EncodeChar_lt (String.lt_iff.mp less)

end ByteOrder

variable {α β : Type} {key : String} {value : α} {entries : List (String × α)}

/-- Each key is smaller than all later ones. -/
def HasIncreasingKeys (entries : List (String × α)) : Prop :=
  entries.Pairwise fun entry later => entry.1 < later.1

open OrderedMap (find?)

theorem find?_insertSorted (key other : String) (value : α) (entries : List (String × α)) :
    find? other (insertSorted key value entries) =
      if other = key then some value else find? other entries := by
  induction entries with
  | nil => grind [find?, insertSorted]
  | cons entry rest induction => grind [find?, insertSorted]

theorem find?_cons_self (entry : String × α) (rest : List (String × α)) :
    find? entry.1 (entry :: rest) = some entry.2 :=
  if_pos rfl

theorem find?_cons_of_ne {entry : String × α} (other : entry.1 ≠ key) (rest : List (String × α)) :
    find? key (entry :: rest) = find? key rest :=
  if_neg other

theorem find?_eq_none_iff (key : String) (entries : List (String × α)) :
    find? key entries = none ↔ ∀ entry ∈ entries, entry.1 ≠ key := by
  induction entries with
  | nil => simp [find?]
  | cons entry rest induction => grind [find?]

/-- Lists that agree entry by entry have related values under each key. -/
theorem find?_of_forall₂ {others : List (String × β)} {related : α → β → Prop}
    (pairwise : List.Forall₂ (fun entry other => entry.1 = other.1 ∧ related entry.2 other.2)
      entries others) (key : String) :
    Option.Rel related (find? key entries) (find? key others) := by
  induction pairwise with
  | nil => exact .none
  | @cons entry other rest others first later induction =>
      by_cases here : entry.1 = key
      · have there : other.1 = key := first.1.symm.trans here
        subst here
        rw [find?_cons_self, ← there, find?_cons_self]
        exact .some first.2
      · have there : other.1 ≠ key := first.1 ▸ here
        rw [find?_cons_of_ne here, find?_cons_of_ne there]
        exact induction

theorem mem_insertSorted {entry : String × α} (present : entry ∈ insertSorted key value entries) :
    entry = (key, value) ∨ entry ∈ entries := by
  induction entries with
  | nil => grind [insertSorted]
  | cons head rest induction => grind [insertSorted]

namespace HasIncreasingKeys

theorem insertSorted (sorted : HasIncreasingKeys entries) (key : String) (value : α) :
    HasIncreasingKeys (insertSorted key value entries) := by
  induction entries with
  | nil => exact List.pairwise_singleton _ _
  | cons head rest induction =>
      obtain ⟨least, later⟩ := List.pairwise_cons.mp sorted
      unfold FieldDispatch.insertSorted
      split_ifs with before same
      · apply List.pairwise_cons.mpr ⟨?_, sorted⟩
        intro entry present
        rcases List.mem_cons.mp present with rfl | further
        · exact before
        · exact String.lt_trans before (least entry further)
      · subst same
        exact List.pairwise_cons.mpr ⟨least, later⟩
      · apply List.pairwise_cons.mpr ⟨?_, induction later⟩
        intro entry present
        rcases mem_insertSorted present with rfl | further
        · exact (lt_or_gt_of_ne same).resolve_left before
        · exact least entry further

section Cons

variable {head : String × α} {rest : List (String × α)}

theorem find?_head_tail (sorted : HasIncreasingKeys (head :: rest)) : find? head.1 rest = none := by
  apply (find?_eq_none_iff _ _).mpr
  intro entry present
  exact ((List.pairwise_cons.mp sorted).1 entry present).ne'

theorem find?_of_lt (sorted : HasIncreasingKeys (head :: rest)) (less : key < head.1) :
    find? key (head :: rest) = none := by
  apply (find?_eq_none_iff _ _).mpr
  intro entry present
  rcases List.mem_cons.mp present with rfl | later
  · exact less.ne'
  · exact (String.lt_trans less ((List.pairwise_cons.mp sorted).1 entry later)).ne'

/-- Behind the head, its key stands no more and all others stand as before. -/
theorem find?_tail (sorted : HasIncreasingKeys (head :: rest)) (key : String) :
    find? key rest = if head.1 = key then none else find? key (head :: rest) := by
  split_ifs with here
  · subst here
    exact sorted.find?_head_tail
  · exact (find?_cons_of_ne here rest).symm

end Cons

/-- A key stands once, so every entry is the one that is found. -/
theorem mem_iff (sorted : HasIncreasingKeys entries) (key : String) (value : α) :
    (key, value) ∈ entries ↔ find? key entries = some value := by
  induction entries with
  | nil => simp [find?]
  | cons head rest induction =>
      rw [List.mem_cons, induction (List.pairwise_cons.mp sorted).2]
      by_cases here : head.1 = key
      · subst here
        rw [sorted.find?_head_tail, find?_cons_self]
        simp [Prod.ext_iff, eq_comm]
      · have other : (key, value) ≠ head := fun same => here (congrArg Prod.fst same.symm)
        rw [or_iff_right other, find?_cons_of_ne here]

/-- Two sorted lists agree entry by entry if they agree on what they have under each key. -/
theorem forall₂_of_find? {others : List (String × β)} {related : α → β → Prop}
    (sorted : HasIncreasingKeys entries) (otherSorted : HasIncreasingKeys others)
    (keywise : ∀ key, Option.Rel related (find? key entries) (find? key others)) :
    List.Forall₂ (fun entry other => entry.1 = other.1 ∧ related entry.2 other.2)
      entries others := by
  induction entries generalizing others with
  | nil =>
      cases others with
      | nil => exact .nil
      | cons other others =>
          have found := keywise other.1
          rw [find?_cons_self] at found
          cases found
  | cons entry rest induction =>
      cases others with
      | nil =>
          have found := keywise entry.1
          rw [find?_cons_self] at found
          cases found
      | cons other others =>
          have here := keywise entry.1
          have there := keywise other.1
          rw [find?_cons_self] at here there
          -- The smaller of two first keys would be missing from the other list.
          have keys : entry.1 = other.1 := by
            rcases lt_trichotomy entry.1 other.1 with less | same | more
            · rw [otherSorted.find?_of_lt less] at here
              cases here
            · exact same
            · rw [sorted.find?_of_lt more] at there
              cases there
          rw [keys, find?_cons_self] at here
          cases here with
          | some first =>
              have later : ∀ key, Option.Rel related (find? key rest) (find? key others) := by
                intro key
                rw [sorted.find?_tail, otherSorted.find?_tail, keys]
                split
                · exact .none
                · exact keywise key
              exact .cons ⟨keys, first⟩ (induction (List.pairwise_cons.mp sorted).2
                (List.pairwise_cons.mp otherSorted).2 later)

theorem forall₂_iff {others : List (String × β)} (sorted : HasIncreasingKeys entries)
    (otherSorted : HasIncreasingKeys others) (related : α → β → Prop) :
    List.Forall₂ (fun entry other => entry.1 = other.1 ∧ related entry.2 other.2) entries others ↔
      ∀ key, Option.Rel related (find? key entries) (find? key others) :=
  ⟨find?_of_forall₂, sorted.forall₂_of_find? otherSorted⟩

end HasIncreasingKeys

theorem sortEntries_concat (entries : List (String × α)) (entry : String × α) :
    sortEntries (entries ++ [entry]) = insertSorted entry.1 entry.2 (sortEntries entries) :=
  List.foldl_concat _ _ _ _

theorem hasIncreasingKeys_sortEntries (entries : List (String × α)) :
    HasIncreasingKeys (sortEntries entries) := by
  induction entries using List.reverseRecOn with
  | nil => exact .nil
  | append_singleton entries entry induction =>
      rw [sortEntries_concat]
      exact induction.insertSorted _ _

theorem find?_sortEntries (key : String) (entries : List (String × α)) :
    find? key (sortEntries entries) = lastUnder? key entries := by
  induction entries using List.reverseRecOn with
  | nil => rfl
  | append_singleton entries entry induction =>
      rw [sortEntries_concat, find?_insertSorted, induction, lastUnder?_concat]

theorem mem_sortEntries_iff (key : String) (value : α) (entries : List (String × α)) :
    (key, value) ∈ sortEntries entries ↔ lastUnder? key entries = some value := by
  rw [(hasIncreasingKeys_sortEntries entries).mem_iff, find?_sortEntries]

end FieldDispatch
