/-!
Double-precision numbers of IEEE 754, held as their 64-bit patterns. Every operation is exact
arithmetic on naturals followed by one rounding to the nearest double, ties to the even
neighbour; no machine arithmetic is involved. Products and quotients are defined for finite
arguments only, which is all that reading a decimal needs.
-/

namespace FieldDispatch

structure Double where
  bits : UInt64
  deriving DecidableEq, Inhabited

namespace Double

def fractionLimit : Nat := 0x10000000000000

def signBit : Nat := 0x8000000000000000

/-- The magnitude of infinity: every exponent bit set, no fraction bit. -/
def infiniteMagnitude : Nat := 2047 * fractionLimit

def isNegative (x : Double) : Bool := signBit ≤ x.bits.toNat

/-- The pattern without its sign bit. Magnitudes of numbers are ordered as the numbers are. -/
def magnitude (x : Double) : Nat := x.bits.toNat % signBit

def isNaN (x : Double) : Bool := infiniteMagnitude < x.magnitude

def isInfinite (x : Double) : Bool := x.magnitude = infiniteMagnitude

def isZero (x : Double) : Bool := x.magnitude = 0

/-- Equality of numbers: no NaN equals anything, and the two zeros are equal. -/
def equals (x y : Double) : Bool :=
  !x.isNaN && !y.isNaN && (x.bits == y.bits || (x.isZero && y.isZero))

/-- A finite double is `significand * 2 ^ power`, up to its sign. -/
def significand (x : Double) : Nat :=
  if x.magnitude < fractionLimit then x.magnitude
  else fractionLimit + x.magnitude % fractionLimit

def power (x : Double) : Int :=
  if x.magnitude < fractionLimit then -1074
  else (x.magnitude / fractionLimit : Nat) - 1075

def pack (negative : Bool) (magnitude : Nat) : Double :=
  ⟨UInt64.ofNat (if negative then signBit + magnitude else magnitude)⟩

/-- The quotient rounded to the nearest natural; a half goes to the even neighbour. -/
def roundDiv (num den : Nat) : Nat :=
  let quotient := num / den
  let twice := 2 * (num % den)
  if twice < den then quotient
  else if den < twice then quotient + 1
  else quotient + quotient % 2

/-- The greatest `e` with `2 ^ e ≤ num / den`, for positive arguments. -/
def binaryExponent (num den : Nat) : Int :=
  let guess : Int := (num.log2 : Int) - den.log2
  if den * Nat.pow 2 guess.toNat ≤ num * Nat.pow 2 (-guess).toNat then guess else guess - 1

/-- The magnitude of the double nearest to `num / den`. Adding the rounded significand to the
exponent field carries into it, and what lies beyond the largest double is infinite. -/
def nearestMagnitude (num den : Nat) : Nat :=
  if num = 0 then 0
  else
    let power := max (binaryExponent num den - 52) (-1074)
    let significand := roundDiv (num * Nat.pow 2 (-power).toNat) (den * Nat.pow 2 power.toNat)
    min ((power + 1074).toNat * fractionLimit + significand) infiniteMagnitude

/-- The double nearest to `num / den * 2 ^ power`. -/
def nearest (negative : Bool) (num den : Nat) (power : Int) : Double :=
  pack negative (nearestMagnitude (num * Nat.pow 2 power.toNat) (den * Nat.pow 2 (-power).toNat))

def ofNat (n : Nat) : Double := nearest false n 1 0

def ofInt (i : Int) : Double := nearest (decide (i < 0)) i.natAbs 1 0

def negate (x : Double) : Double := pack (!x.isNegative) x.magnitude

/-- The product of two finite doubles. -/
def mul (x y : Double) : Double :=
  nearest (x.isNegative != y.isNegative) (x.significand * y.significand) 1 (x.power + y.power)

/-- The quotient of two finite doubles, the second of them not zero. -/
def div (x y : Double) : Double :=
  nearest (x.isNegative != y.isNegative) x.significand y.significand (x.power - y.power)

def powerOfTen (exponent : Nat) : Double := ofNat (Nat.pow 10 exponent)

end Double

end FieldDispatch
