import FieldDispatch.Json.Basic

/-!
The value of a written number. Digits are gathered into a 64-bit significand as long as it does
not overflow; later digits of the whole part only raise the scale, later digits of the fraction
are ignored. The significand is rounded to a double and then scaled by powers of ten, each a
single rounded step, so a long decimal may differ from the nearest double in its last bits.
-/

namespace FieldDispatch.Json

/-- A number as written: digit values, and an exponent part with its sign. -/
structure Numeral where
  negative : Bool
  whole : List Nat
  fraction : List Nat
  exponent : Option (Bool × List Nat)

namespace Numeral

def significandLimit : Nat := UInt64.size

/-- The magnitude of the least 64-bit integer. -/
def integerLimit : Nat := 0x8000000000000000

/-- Exponents from here on are not read. -/
def exponentLimit : Nat := 0x80000000

/-- Gathers digits while the significand stays below its limit; gives the digits left over. -/
def gather (significand : Nat) : List Nat → Nat × List Nat
  | [] => (significand, [])
  | digit :: rest =>
      if significand * 10 + digit < significandLimit then gather (significand * 10 + digit) rest
      else (significand, digit :: rest)

def digitsValue (digits : List Nat) : Nat :=
  digits.foldl (fun value digit => value * 10 + digit) 0

def largestPower : Nat := 308

/-- Scales a finite double by a power of ten; there is no result beyond the doubles. A large
negative scale is taken in steps of the largest power that is a double. -/
def scale (x : Double) (exponent : Int) : Option Double :=
  if exponent.natAbs ≤ largestPower then
    if 0 ≤ exponent then
      let product := x.mul (Double.powerOfTen exponent.natAbs)
      if product.isInfinite then none else some product
    else some (x.div (Double.powerOfTen exponent.natAbs))
  else if x.isZero then some x
  else if 0 ≤ exponent then none
  else scale (x.div (Double.powerOfTen largestPower)) (exponent + largestPower)
termination_by (-exponent).toNat
decreasing_by
  simp only [largestPower] at *
  omega

def signed (negative : Bool) (x : Double) : Double := if negative then x.negate else x

/-- The magnitude of a number with a fraction, an exponent or too many digits. -/
def magnitude (n : Numeral) : Option Double :=
  let (head, dropped) := gather 0 n.whole
  let (significand, ignored) := gather head n.fraction
  let places : Int := (dropped.length : Int) - ((n.fraction.length : Int) - ignored.length)
  match n.exponent with
  | none => scale (Double.ofNat significand) places
  | some (negative, digits) =>
      let exponent := digitsValue digits
      if exponent < exponentLimit then
        scale (Double.ofNat significand) (if negative then places - exponent else places + exponent)
      else if significand = 0 ∨ negative then some (Double.ofNat 0)
      else none

def value? (n : Numeral) : Option Number :=
  let (head, dropped) := gather 0 n.whole
  if n.fraction.isEmpty ∧ n.exponent.isNone ∧ dropped.isEmpty then
    if n.negative then
      if head = 0 ∨ integerLimit < head then some (.double (Double.ofNat head).negate)
      else some (.integer (-head))
    else some (.integer head)
  else n.magnitude.map fun x => .double (signed n.negative x)

end Numeral

end FieldDispatch.Json
