import FieldDispatch.Double.Basic

/-!
The shortest decimal that reads back as a given finite double, and among the shortest the
nearest one. A decimal with `n` digits is a point of a grid; for each `n` only the two grid
points next to the double can lie in the interval of numbers that round to it.
-/

namespace FieldDispatch.Double

/-- The number `coefficient * 10 ^ scale`. -/
structure Decimal where
  coefficient : Nat
  scale : Int

/-- The numbers that round to one double: from `low / den` to `high / den`, around `mid / den`.
Both ends belong to it, or neither. -/
structure Interval where
  low : Nat
  mid : Nat
  high : Nat
  den : Nat
  closed : Bool

/-- The gap below a power of two is half the gap above it, the least normal double apart. -/
def interval (x : Double) : Interval :=
  let below := if x.significand = fractionLimit ∧ -1074 < x.power then 1 else 2
  let up := Nat.pow 2 (x.power - 2).toNat
  let mid := 4 * x.significand
  { low := (mid - below) * up
    mid := mid * up
    high := (mid + 2) * up
    den := Nat.pow 2 (2 - x.power).toNat
    closed := x.significand % 2 = 0 }

def Interval.contains (i : Interval) (d : Decimal) : Bool :=
  let point := d.coefficient * Nat.pow 10 d.scale.toNat * i.den
  let unit := Nat.pow 10 (-d.scale).toNat
  if i.closed then i.low * unit ≤ point && point ≤ i.high * unit
  else i.low * unit < point && point < i.high * unit

def digitCount (n : Nat) : Nat := (Nat.toDigits 10 n).length

/-- The greatest `e` with `10 ^ e ≤ num / den`, for positive arguments. -/
def decimalExponent (num den : Nat) : Int :=
  if den ≤ num then (digitCount (num / den) : Int) - 1
  else -(digitCount ((den - 1) / num) : Int)

/-- The neighbours of the double among the decimals with `digits` digits that read back as it,
the nearer one first; of two equally near ones the larger comes first. -/
def candidates (i : Interval) (digits : Nat) : List Decimal :=
  let scale := decimalExponent i.mid i.den + 1 - digits
  let num := i.mid * Nat.pow 10 (-scale).toNat
  let den := i.den * Nat.pow 10 scale.toNat
  let below : Decimal := ⟨num / den, scale⟩
  let above : Decimal := ⟨num / den + 1, scale⟩
  let ordered := if 2 * (num % den) < den then [below, above] else [above, below]
  ordered.filter i.contains

/-- Seventeen digits always suffice, so the last case is not reached for a finite double. -/
def shortest (x : Double) : Decimal :=
  let i := x.interval
  ((List.range 17).findSome? fun n => (candidates i (n + 1)).head?).getD ⟨0, 0⟩

/-- How numbers are laid out as text: with a positional point while the decimal exponent lies
between the two limits, and with a written exponent outside them. -/
structure Layout where
  leastPositional : Int
  leastExponential : Int

def dropZeros : List Char → List Char := fun cs => (cs.reverse.dropWhile (· = '0')).reverse

/-- Lays out `0.d₁d₂… * 10 ^ point`. -/
def positional (digits : List Char) (point : Int) : List Char :=
  if point ≤ 0 then ['0', '.'] ++ List.replicate (-point).toNat '0' ++ digits
  else
    let whole := digits.take point.toNat
    let fraction := digits.drop point.toNat
    whole ++ List.replicate (point.toNat - whole.length) '0' ++ ['.'] ++
      (if fraction.isEmpty then ['0'] else fraction)

def exponential (digits : List Char) (exponent : Int) : List Char :=
  let fraction := digits.drop 1
  digits.take 1 ++ (if fraction.isEmpty then [] else '.' :: fraction) ++
    'e' :: (toString exponent).toList

/-- The text of a double under a layout. -/
def layOut (layout : Layout) (x : Double) : String :=
  if x.isNaN then "NaN"
  else
    let body :=
      if x.isInfinite then "inf".toList
      else if x.isZero then "0.0".toList
      else
        let decimal := x.shortest
        let written := Nat.toDigits 10 decimal.coefficient
        let exponent := decimal.scale + written.length - 1
        let digits := dropZeros written
        if layout.leastPositional ≤ exponent ∧ exponent < layout.leastExponential then
          positional digits (exponent + 1)
        else exponential digits exponent
    String.ofList (if x.isNegative then '-' :: body else body)

end FieldDispatch.Double
