import FieldDispatch.Json.Numeral
import Mathlib.Tactic.SplitIfs

/-!
Numbers that are held as integers. All digits of such a number are gathered, and nothing follows
them. Conversely digits that make an integer of 64 bits are held as that integer, but for minus
zero.
-/

namespace FieldDispatch.Json.Numeral

/-- The number is written as an integer: with neither fraction nor exponent, and not as minus
zero. -/
structure WritesInteger (numeral : Numeral) (value : Int) : Prop where
  noFraction : numeral.fraction = []
  noExponent : numeral.exponent = none
  notMinusZero : numeral.negative = true → digitsValue numeral.whole ≠ 0
  digits : value =
    if numeral.negative then -(digitsValue numeral.whole : Int) else digitsValue numeral.whole

/-- The number that digits make behind a first one. -/
def continued (first : Nat) (digits : List Nat) : Nat :=
  digits.foldl (fun value digit => value * 10 + digit) first

theorem le_continued (first : Nat) (digits : List Nat) : first ≤ continued first digits := by
  induction digits generalizing first with
  | nil => exact Nat.le_refl first
  | cons digit rest induction =>
      have step : first ≤ first * 10 + digit := by omega
      exact Nat.le_trans step (induction _)

theorem gather_of_lt {first : Nat} {digits : List Nat}
    (small : continued first digits < significandLimit) :
    gather first digits = (continued first digits, []) := by
  induction digits generalizing first with
  | nil => rfl
  | cons digit rest induction =>
      have step : first * 10 + digit < significandLimit :=
        Nat.lt_of_le_of_lt (le_continued _ rest) small
      rw [gather, if_pos step]
      exact induction small

theorem fst_gather_of_nil {first : Nat} {digits : List Nat}
    (all : (gather first digits).2 = []) : (gather first digits).1 = continued first digits := by
  induction digits generalizing first with
  | nil => rfl
  | cons digit rest induction =>
      rw [gather] at all ⊢
      split at all
      · next step =>
        rw [if_pos step]
        exact induction all
      · cases all

theorem value?_of_gathered (negative : Bool) {whole : List Nat} {n : Nat}
    (gathered : gather 0 whole = (n, [])) :
    value? ⟨negative, whole, [], none⟩ = some (
      if negative then
        if n = 0 ∨ integerLimit < n then .double (Double.ofNat n).negate else .integer (-n)
      else .integer n) := by
  simp only [value?, gathered]
  split_ifs <;> first | rfl | contradiction

/-- Only a number whose digits are all gathered is held as an integer. -/
theorem gathered_of_integer {numeral : Numeral} {written : Int}
    (held : numeral.value? = some (.integer written)) :
    numeral.fraction = [] ∧ numeral.exponent = none ∧
      gather 0 numeral.whole = (digitsValue numeral.whole, []) := by
  cases gathered : gather 0 numeral.whole with
  | mk head dropped =>
      unfold value? at held
      simp only [gathered] at held
      by_cases plain : numeral.fraction.isEmpty ∧ numeral.exponent.isNone ∧ dropped.isEmpty
      · obtain ⟨noFraction, noExponent, all⟩ := plain
        have none : dropped = [] := List.isEmpty_iff.mp all
        subst none
        have made := fst_gather_of_nil (congrArg Prod.snd gathered)
        rw [gathered] at made
        exact ⟨List.isEmpty_iff.mp noFraction, Option.isNone_iff_eq_none.mp noExponent,
          congrArg (·, []) made⟩
      · rw [if_neg plain] at held
        cases magnitude : numeral.magnitude with
        | none =>
            rw [magnitude] at held
            cases held
        | some x =>
            rw [magnitude] at held
            cases held

/-- Which numbers are held as integers of 64 bits. -/
theorem value?_eq_integer_iff (numeral : Numeral) (value : Int64) :
    numeral.value? = some (.integer value.toInt) ↔ numeral.WritesInteger value.toInt := by
  have low := value.le_toInt
  have high := value.toInt_lt
  have limits : significandLimit = 2 ^ 64 ∧ integerLimit = 2 ^ 63 := ⟨rfl, rfl⟩
  obtain ⟨negative, whole, fraction, exponent⟩ := numeral
  constructor
  · intro held
    obtain ⟨rfl, rfl, gathered⟩ := gathered_of_integer held
    rw [value?_of_gathered negative gathered] at held
    cases negative with
    | false =>
        have integer : (digitsValue whole : Int) = value.toInt := by simpa using held
        exact ⟨rfl, rfl, nofun, integer.symm⟩
    | true =>
        by_cases outside : digitsValue whole = 0 ∨ integerLimit < digitsValue whole
        · simp [outside] at held
        · have integer : -(digitsValue whole : Int) = value.toInt := by simpa [outside] using held
          exact ⟨rfl, rfl, fun _ zero => outside (.inl zero), integer.symm⟩
  · rintro ⟨rfl, rfl, notMinusZero, digits⟩
    dsimp only at notMinusZero digits
    have small : digitsValue whole < significandLimit := by
      split at digits <;> omega
    rw [value?_of_gathered negative (gather_of_lt small), digits]
    cases negative with
    | false => rfl
    | true =>
        have nonzero := notMinusZero rfl
        have inside : ¬(digitsValue whole = 0 ∨ integerLimit < digitsValue whole) := by
          rw [if_pos rfl] at digits
          omega
        exact congrArg some ((if_pos rfl).trans (if_neg inside))

end FieldDispatch.Json.Numeral
