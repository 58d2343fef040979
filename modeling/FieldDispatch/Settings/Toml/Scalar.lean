import FieldDispatch.Double.Basic
import FieldDispatch.Settings.Toml.Text

/-!
The forms of TOML numbers, dates and times. No setting is one of them, so only the form and the
range count and no value is computed beyond what decides whether they are right.
-/

namespace FieldDispatch.Toml

/-- Digits with single underscores between them. -/
def isDigitRun (isDigit : Char → Bool) (cs : List Char) : Bool :=
  ((String.ofList cs).splitOn "_").all fun part => !part.isEmpty && part.toList.all isDigit

def withoutSign : List Char → List Char
  | '+' :: rest => rest
  | '-' :: rest => rest
  | cs => cs

def digitsValue (base : Nat) (cs : List Char) : Nat :=
  cs.foldl (fun value c => value * base + (hexValue? c).getD 0) 0

def withoutUnderscores (cs : List Char) : List Char := cs.filter (· ≠ '_')

def isPlainInteger (cs : List Char) : Bool :=
  isDigitRun Char.isDigit cs && (cs.head? ≠ some '0' || cs.length = 1)

/-- Integers have 64 bits, one of them for the sign. -/
def integerLimit : Nat := 0x8000000000000000

/-- An integer in one of the four bases. -/
def isInteger : List Char → Bool
  | '0' :: 'x' :: rest =>
      isDigitRun (fun c => (hexValue? c).isSome) rest &&
        digitsValue 16 (withoutUnderscores rest) < integerLimit
  | '0' :: 'o' :: rest =>
      isDigitRun (fun c => '0' ≤ c && c ≤ '7') rest &&
        digitsValue 8 (withoutUnderscores rest) < integerLimit
  | '0' :: 'b' :: rest =>
      isDigitRun (fun c => c = '0' || c = '1') rest &&
        digitsValue 2 (withoutUnderscores rest) < integerLimit
  | cs =>
      let magnitude := digitsValue 10 (withoutUnderscores (withoutSign cs))
      isPlainInteger (withoutSign cs) &&
        magnitude < (if cs.head? = some '-' then integerLimit + 1 else integerLimit)

/-- The value of an exponent part, its letter included. -/
def exponentValue (cs : List Char) : Int :=
  let written := cs.drop 1
  let magnitude : Int := digitsValue 10 (withoutUnderscores (withoutSign written))
  if written.head? = some '-' then -magnitude else magnitude

/-- The number of digits before the point of the largest double. -/
def largestOrder : Int := 309

/-- Whether digits, times a power of ten, round beyond the largest double. Only a number of as
many digits before the point as the largest double has is worth computing. -/
def isTooLarge (digits : List Char) (exponent : Int) : Bool :=
  let digits := digits.dropWhile (· = '0')
  let order := digits.length + exponent
  if digits.isEmpty || order < largestOrder then false
  else if largestOrder < order then true
  else
    Double.nearestMagnitude (digitsValue 10 digits * Nat.pow 10 exponent.toNat)
      (Nat.pow 10 (-exponent).toNat) = Double.infiniteMagnitude

/-- A decimal with a fraction, an exponent or both, or one of the two special numbers. A decimal
too large for a double is refused, but a negative one stands for negative infinity. -/
def isDecimal (cs : List Char) : Bool :=
  let unsigned := withoutSign cs
  let (mantissa, exponent) := unsigned.span fun c => c ≠ 'e' && c ≠ 'E'
  let (whole, fraction) := mantissa.span (· ≠ '.')
  let places := withoutUnderscores (fraction.drop 1)
  unsigned = "inf".toList || unsigned = "nan".toList ||
    (isPlainInteger whole &&
      (fraction.isEmpty || isDigitRun Char.isDigit (fraction.drop 1)) &&
      (exponent.isEmpty || isDigitRun Char.isDigit (withoutSign (exponent.drop 1))) &&
      !(fraction.isEmpty && exponent.isEmpty) &&
      (cs.head? = some '-' ||
        !isTooLarge (withoutUnderscores whole ++ places) (exponentValue exponent - places.length)))

/-- A number of exactly so many digits, within bounds. -/
def bounded? (digits least most : Nat) (cs : List Char) : Option (Nat × List Char) :=
  let written := cs.take digits
  let value := digitsValue 10 written
  if written.length = digits && written.all Char.isDigit && least ≤ value && value ≤ most then
    some (value, cs.drop digits)
  else none

def after? (c : Char) : List Char → Option (List Char)
  | [] => none
  | other :: rest => if c = other then some rest else none

def isLeap (year : Nat) : Bool := year % 4 = 0 && (year % 100 ≠ 0 || year % 400 = 0)

def daysIn (year month : Nat) : Nat :=
  if month = 2 then if isLeap year then 29 else 28
  else if month ∈ [4, 6, 9, 11] then 30
  else 31

/-- What follows a date of the calendar. -/
def afterDate? (cs : List Char) : Option (List Char) := do
  let (year, rest) ← bounded? 4 0 9999 cs
  let (month, rest) ← bounded? 2 1 12 (← after? '-' rest)
  let (_, rest) ← bounded? 2 1 (daysIn year month) (← after? '-' rest)
  some rest

/-- What follows a fraction of a second, if there is one. -/
def afterFraction : List Char → List Char
  | '.' :: rest =>
      match rest.span Char.isDigit with
      | ([], _) => '.' :: rest
      | (_, rest) => rest
  | cs => cs

/-- What follows a time of the day. A minute may have a leap second. -/
def afterTime? (cs : List Char) : Option (List Char) := do
  let (_, rest) ← bounded? 2 0 23 cs
  let (_, rest) ← bounded? 2 0 59 (← after? ':' rest)
  let (_, rest) ← bounded? 2 0 60 (← after? ':' rest)
  some (afterFraction rest)

/-- What follows an offset from universal time. -/
def afterOffset? : List Char → Option (List Char)
  | [] => none
  | c :: rest =>
      if c = 'Z' || c = 'z' then some rest
      else if c = '+' || c = '-' then do
        let (_, rest) ← bounded? 2 0 23 rest
        let (_, rest) ← bounded? 2 0 59 (← after? ':' rest)
        some rest
      else none

/-- What follows the time of a dated moment; a date may also stand alone. -/
def afterClock (cs : List Char) : List Char :=
  match cs with
  | [] => []
  | c :: rest =>
      if c = 'T' || c = 't' || c = ' ' then
        match afterTime? rest with
        | some rest => (afterOffset? rest).getD rest
        | none => cs
      else cs

/-- What follows a date, a time or both. -/
def afterMoment? (cs : List Char) : Option (List Char) :=
  match afterDate? cs with
  | some rest => some (afterClock rest)
  | none => afterTime? cs

/-- What follows a number. -/
def afterNumber? (cs : List Char) : Option (List Char) :=
  let (written, rest) := cs.span fun c => isBareChar c || c = '+' || c = '.'
  if isInteger written || isDecimal written then some rest else none

end FieldDispatch.Toml
