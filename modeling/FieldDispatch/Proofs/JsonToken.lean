import FieldDispatch.Json.Printer
import FieldDispatch.Json.Reader
import FieldDispatch.Proofs.IntegerNumeral
import Mathlib.Data.List.TakeWhile

/-!
Numbers and strings are read back from what is written of them, whatever follows, as long as it
cannot be taken for more of a number. Doubles play no part: their text may stand for a neighbour.
-/

namespace FieldDispatch.Json

/-- A number that is held as an integer is in the range of its sign. -/
def Number.IsHeld : Number → Prop
  | .integer value => -(Numeral.integerLimit : Int) ≤ value ∧ value < Numeral.significandLimit
  | .double _ => False

namespace Reader

/-- What follows a number does not go on with it. -/
def EndsNumber (rest : List Char) : Prop :=
  ∀ c ∈ rest.head?, c.isDigit = false ∧ c ≠ '.' ∧ c ≠ 'e' ∧ c ≠ 'E'

theorem digits_append {written rest : List Char} (digital : ∀ c ∈ written, c.isDigit)
    (ends : EndsNumber rest) : digits (written ++ rest) = (written.map digitValue, rest) := by
  have stop : rest.takeWhile Char.isDigit = [] ∧ rest.dropWhile Char.isDigit = rest := by
    cases rest with
    | nil => exact ⟨rfl, rfl⟩
    | cons c rest =>
        have other : c.isDigit = false := (ends c rfl).1
        simp [other]
  unfold digits
  rw [List.takeWhile_append_of_pos digital, List.dropWhile_append_of_pos digital, stop.1, stop.2,
    List.append_nil]

/-- The digits of a natural number as they are written. -/
def decimal (n : Nat) : List Char := Nat.toDigits 10 n

theorem isDigit_of_mem_decimal {n : Nat} {c : Char} (present : c ∈ decimal n) : c.isDigit :=
  Nat.isDigit_of_mem_toDigits (by omega) (by omega) present

theorem decimal_ne_nil (n : Nat) : decimal n ≠ [] := Nat.toDigits_ne_nil

theorem digits?_decimal (n : Nat) {rest : List Char} (ends : EndsNumber rest) :
    digits? (decimal n ++ rest) = some ((decimal n).map digitValue, rest) := by
  have digital : ∀ c ∈ decimal n, c.isDigit := fun _ => isDigit_of_mem_decimal
  have found := digits_append digital ends
  have present : (decimal n).map digitValue ≠ [] := by
    simpa using decimal_ne_nil n
  unfold digits?
  rw [found]
  split
  · next nothing =>
    exact absurd (congrArg Prod.fst nothing) present
  · rfl

theorem digitValue_eq_zero {c : Char} (digital : c.isDigit) (zero : digitValue c = 0) :
    c = '0' := by
  have bounds := Char.isDigit_iff_toNat.mp digital
  have code : c.toNat = '0'.toNat := by
    unfold digitValue at zero
    omega
  exact Char.toNat_inj.mp code

/-- Only zero is written with a zero in front. -/
theorem eq_zero_of_head?_decimal {n : Nat} (zero : (decimal n).head? = some '0') : n = 0 := by
  induction n using Nat.strongRecOn with
  | ind n induction =>
      by_cases small : n < 10
      · have digits : ∀ digit < 10, digit.digitChar = '0' → digit = 0 := by decide
        rw [decimal, Nat.toDigits_of_lt_base small] at zero
        exact digits n small (Option.some.inj zero)
      · have shorter : (decimal (n / 10)).head? = some '0' := by
          have split := Nat.toDigits_of_base_le (b := 10) (by omega) (Nat.le_of_not_lt small)
          rw [decimal, split] at zero
          cases head : decimal (n / 10) with
          | nil => exact absurd head (decimal_ne_nil _)
          | cons c rest =>
              change (decimal (n / 10) ++ _).head? = _ at zero
              rw [head] at zero
              exact zero
        have none := induction (n / 10) (by omega) shorter
        omega

theorem unsigned?_decimal (negative : Bool) (n : Nat) {rest : List Char}
    (ends : EndsNumber rest) :
    unsigned? negative (decimal n ++ rest) =
      some (⟨negative, (decimal n).map digitValue, [], none⟩, rest) := by
  have unpadded : ¬(((decimal n).map digitValue).head? = some 0 ∧
      ((decimal n).map digitValue).length ≠ 1) := by
    rintro ⟨zero, long⟩
    obtain ⟨c, first, value⟩ := Option.map_eq_some_iff.mp (List.head?_map ▸ zero)
    have digital := isDigit_of_mem_decimal (List.mem_of_head? first)
    have nothing : n = 0 := by
      apply eq_zero_of_head?_decimal
      rw [first, digitValue_eq_zero digital value]
    subst nothing
    exact long (by decide)
  have whole : fraction? rest = some ([], rest) := by
    cases rest with
    | nil => rfl
    | cons c rest =>
        have other : c ≠ '.' := (ends c rfl).2.1
        unfold fraction?
        split
        · next same => exact absurd (List.cons.inj same).1 other
        · rfl
  have bare : exponent? rest = some (none, rest) := by
    cases rest with
    | nil => rfl
    | cons c rest =>
        have other : ¬(c = 'e' ∨ c = 'E') := by
          have ended := (ends c rfl).2.2
          simp [ended.1, ended.2]
        rw [exponent?, if_neg other]
  unfold unsigned?
  simp only [digits?_decimal n ends, Option.bind_eq_bind, Option.bind_some]
  rw [if_neg unpadded]
  simp only [whole, bare, Option.bind_some]

theorem continued_digitValues (cs : List Char) (first : Nat) :
    Numeral.continued first (cs.map digitValue) = Nat.ofDigitChars 10 cs first := by
  induction cs generalizing first with
  | nil => rfl
  | cons c rest induction =>
      have step : 10 * first + (c.toNat - '0'.toNat) = first * 10 + digitValue c := by
        rw [Nat.mul_comm]
        rfl
      rw [Nat.ofDigitChars_cons, step, ← induction]
      rfl

theorem value?_decimal {negative : Bool} {n : Nat} (bounded : n < Numeral.significandLimit)
    (signed : negative → 0 < n ∧ n ≤ Numeral.integerLimit) :
    Numeral.value? ⟨negative, (decimal n).map digitValue, [], none⟩ =
      some (.integer (if negative then -n else n)) := by
  have total : Numeral.continued 0 ((decimal n).map digitValue) = n :=
    (continued_digitValues _ _).trans Nat.ofDigitChars_ten_toDigits
  have gathered : Numeral.gather 0 ((decimal n).map digitValue) = (n, []) := by
    rw [Numeral.gather_of_lt (by rw [total]; exact bounded), total]
  rw [Numeral.value?_of_gathered negative gathered]
  cases negative with
  | false => rfl
  | true =>
      have range := signed rfl
      have inside : ¬(n = 0 ∨ Numeral.integerLimit < n) := by omega
      rw [if_pos rfl, if_neg inside]
      rfl

theorem number_of_nonnegative {value : Int} (sign : 0 ≤ value) :
    Printer.number (.integer value) = decimal value.toNat := by
  have written : toString value = value.repr := rfl
  rw [Printer.number, written, Int.repr_eq_if, if_pos sign, Nat.repr_eq_ofList_toDigits,
    String.toList_ofList]
  rfl

theorem number_of_negative {value : Int} (sign : value < 0) :
    Printer.number (.integer value) = '-' :: decimal (-value).toNat := by
  have written : toString value = value.repr := rfl
  rw [Printer.number, written, Int.repr_eq_if, if_neg (by omega), Nat.repr_eq_ofList_toDigits,
    String.toList_append, String.toList_ofList (l := Nat.toDigits 10 (-value).toNat)]
  rfl

theorem numeral?_decimal (n : Nat) {rest : List Char} (ends : EndsNumber rest) :
    numeral? (decimal n ++ rest) =
      some (⟨false, (decimal n).map digitValue, [], none⟩, rest) := by
  cases written : decimal n with
  | nil => exact absurd written (decimal_ne_nil n)
  | cons c cs =>
      have digital : c.isDigit := isDigit_of_mem_decimal (n := n) (by simp [written])
      have read := unsigned?_decimal false n ends
      rw [written] at read
      unfold numeral?
      split
      · next same =>
        rw [(List.cons.inj same).1] at digital
        exact absurd digital (by decide)
      · exact read

/-- A number that is held as an integer is read back, up to its end. -/
theorem numeral?_number {value : Number} (held : value.IsHeld) {rest : List Char}
    (ends : EndsNumber rest) :
    ∃ written : Numeral, numeral? (Printer.number value ++ rest) = some (written, rest) ∧
      written.value? = some value := by
  cases value with
  | double value => exact held.elim
  | integer value =>
      obtain ⟨lower, upper⟩ := held
      have limits : Numeral.integerLimit < Numeral.significandLimit := by decide
      rcases Int.lt_or_le value 0 with negative | sign
      · have bounded : (-value).toNat < Numeral.significandLimit := by omega
        have range : 0 < (-value).toNat ∧ (-value).toNat ≤ Numeral.integerLimit := by omega
        refine ⟨⟨true, (decimal (-value).toNat).map digitValue, [], none⟩, ?_, ?_⟩
        · rw [number_of_negative negative]
          exact unsigned?_decimal true _ ends
        · rw [value?_decimal bounded fun _ => range, if_pos rfl]
          congr 2
          omega
      · have bounded : value.toNat < Numeral.significandLimit := by omega
        refine ⟨⟨false, (decimal value.toNat).map digitValue, [], none⟩, ?_, ?_⟩
        · rw [number_of_nonnegative sign]
          exact numeral?_decimal _ ends
        · have unsigned : false = true → 0 < value.toNat ∧ value.toNat ≤ Numeral.integerLimit :=
            fun absurdity => absurd absurdity Bool.false_ne_true
          rw [value?_decimal bounded unsigned, if_neg Bool.false_ne_true]
          congr 2
          omega

/-- What a number is written with does not open any other value. -/
theorem head?_number {value : Number} (held : value.IsHeld) :
    ∃ c cs, Printer.number value = c :: cs ∧ (c.isDigit ∨ c = '-') := by
  cases value with
  | double value => exact held.elim
  | integer value =>
      rcases Int.lt_or_le value 0 with negative | sign
      · exact ⟨'-', _, number_of_negative negative, Or.inr rfl⟩
      · cases written : decimal value.toNat with
        | nil => exact absurd written (decimal_ne_nil _)
        | cons c cs =>
            refine ⟨c, cs, ?_, Or.inl (isDigit_of_mem_decimal (n := value.toNat) ?_)⟩
            · rw [number_of_nonnegative sign, written]
            · simp [written]

/-- The code of an escape, read from its four digits. -/
def hexRead? : List Char → Option Nat
  | [a, b, c, d] => hexCode? a b c d
  | _ => none

theorem hexRead?_hexDigits : ∀ code < 0x20, hexRead? (Printer.hexDigits code) = some code := by
  decide

theorem hexDigits_control {code : Nat} (control : code < 0x20) :
    ∃ a b c d, Printer.hexDigits code = [a, b, c, d] ∧ hexCode? a b c d = some code := by
  have found := hexRead?_hexDigits code control
  unfold hexRead? at found
  split at found
  · next a b c d written => exact ⟨a, b, c, d, written, found⟩
  · cases found

theorem joinPieces?_unit {code : Nat} (plain : code < 0xd800) (more : List Piece) :
    joinPieces? (.unit code :: more) = (joinPieces? more).map (Char.ofNat code :: ·) := by
  have high : isHighUnit code = false := by
    simp [isHighUnit]
    omega
  have low : isLowUnit code = false := by
    simp [isLowUnit]
    omega
  cases more with
  | nil => simp [joinPieces?, high, low]
  | cons piece rest =>
      cases piece with
      | char c => simp [joinPieces?, high, low]
      | unit other => simp [joinPieces?, high, low]

/-- What a character is written with is read as one piece, which stands for the character. -/
def ReadsAs (written : List Char) (c : Char) : Prop :=
  ∃ piece, (∀ more, joinPieces? (piece :: more) = (joinPieces? more).map (c :: ·)) ∧
    ∀ rest, pieces? (written ++ rest) =
      (pieces? rest).map fun found => (piece :: found.1, found.2)

theorem readsAs_escaped {letter c : Char} (short : escaped? letter = some c)
    (other : letter ≠ 'u') : ReadsAs ['\\', letter] c := by
  refine ⟨.char c, fun _ => rfl, ?_⟩
  intro rest
  change pieces? ('\\' :: letter :: rest) = _
  rw [pieces?]
  · rw [short]
    cases pieces? rest <;> rfl
  · intro _ _ _ _ _ same
    exact absurd same other

theorem readsAs_control {c : Char} (control : c.toNat < 0x20) :
    ReadsAs ('\\' :: 'u' :: Printer.hexDigits c.toNat) c := by
  obtain ⟨w, x, y, z, written, code⟩ := hexDigits_control control
  refine ⟨.unit c.toNat, ?_, ?_⟩
  · intro more
    rw [joinPieces?_unit (by omega), Char.ofNat_toNat]
  · intro rest
    rw [written]
    change pieces? ('\\' :: 'u' :: w :: x :: y :: z :: rest) = _
    rw [pieces?, code]
    cases pieces? rest <;> rfl

theorem readsAs_plain {c : Char} (quote : c ≠ '"') (slash : c ≠ '\\')
    (printed : ¬c.toNat < 0x20) : ReadsAs [c] c := by
  refine ⟨.char c, fun _ => rfl, ?_⟩
  intro rest
  change pieces? (c :: rest) = _
  rw [pieces?]
  · rw [if_neg printed]
  · exact quote
  · exact fun _ _ _ _ _ same => absurd same slash
  · exact fun _ _ same => absurd same slash

theorem readsAs_escapeChar (c : Char) : ReadsAs (Printer.escapeChar c) c := by
  unfold Printer.escapeChar
  split
  · next same =>
    subst same
    exact readsAs_escaped rfl (by decide)
  next quote =>
  split
  · next same =>
    subst same
    exact readsAs_escaped rfl (by decide)
  next slash =>
  split
  · next same =>
    subst same
    exact readsAs_escaped rfl (by decide)
  split
  · next same =>
    subst same
    exact readsAs_escaped rfl (by decide)
  split
  · next same =>
    subst same
    exact readsAs_escaped rfl (by decide)
  split
  · next same =>
    subst same
    exact readsAs_escaped rfl (by decide)
  split
  · next same =>
    subst same
    exact readsAs_escaped rfl (by decide)
  split
  · next control => exact readsAs_control control
  · next printed => exact readsAs_plain quote slash printed

/-- The pieces up to the closing quote stand for the characters that were written. -/
theorem pieces?_escaped (cs rest : List Char) :
    ∃ found, pieces? (cs.flatMap Printer.escapeChar ++ '"' :: rest) = some (found, rest) ∧
      joinPieces? found = some cs := by
  induction cs with
  | nil => exact ⟨[], rfl, rfl⟩
  | cons c cs induction =>
      obtain ⟨found, read, joined⟩ := induction
      obtain ⟨piece, joins, reads⟩ := readsAs_escapeChar c
      refine ⟨piece :: found, ?_, ?_⟩
      · rw [List.flatMap_cons, List.append_assoc, reads, read]
        rfl
      · rw [joins, joined]
        rfl

theorem quote_append (text : String) (rest : List Char) :
    Printer.quote text ++ rest =
      '"' :: (text.toList.flatMap Printer.escapeChar ++ '"' :: rest) := by
  simp [Printer.quote]

theorem string?_quoted (text : String) (rest : List Char) :
    string? (text.toList.flatMap Printer.escapeChar ++ '"' :: rest) = some (some text, rest) := by
  obtain ⟨found, read, joined⟩ := pieces?_escaped text.toList rest
  rw [string?, read, Option.map_some]
  simp only [joined, Option.map_some, String.ofList_toList]

end Reader

end FieldDispatch.Json
