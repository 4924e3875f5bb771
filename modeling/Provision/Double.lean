/-!
# Double precision numbers

A double is its 64-bit word: a sign bit, eleven exponent bits and fifty-two
fraction bits. A finite double denotes `significand · 2 ^ exponent`. Everything
here is exact arithmetic on naturals: reading a number rounds one quotient to
the nearest double, ties to the even significand.
-/

set_option autoImplicit false

namespace Provision

structure Double where
  bits : UInt64
  deriving DecidableEq, Inhabited

namespace Double

def negative (x : Double) : Bool := 0x8000000000000000 ≤ x.bits.toNat

def field (x : Double) : Nat := x.bits.toNat / 0x10000000000000 % 0x800

def fraction (x : Double) : Nat := x.bits.toNat % 0x10000000000000

def isFinite (x : Double) : Bool := x.field < 2047

def isNaN (x : Double) : Bool := x.field = 2047 && x.fraction ≠ 0

def isZero (x : Double) : Bool := x.field = 0 && x.fraction = 0

def significand (x : Double) : Nat :=
  if x.field = 0 then x.fraction else 0x10000000000000 + x.fraction

def exponent (x : Double) : Int := (max x.field 1 : Nat) - 1075

/-- A not-a-number differs from itself and the two zeros are alike; all other
doubles are compared by their words. -/
def alike (x y : Double) : Bool :=
  !x.isNaN && !y.isNaN && (x.bits = y.bits || (x.isZero && y.isZero))

def ofWord (neg : Bool) (word : Nat) : Double :=
  ⟨((if neg then 0x8000000000000000 else 0) + word).toUInt64⟩

def zero (neg : Bool) : Double := ofWord neg 0

def infinity (neg : Bool) : Double := ofWord neg 0x7ff0000000000000

def notANumber : Double := ofWord false 0x7ff8000000000000

/-- The nearest natural to `num / den`, ties to even. -/
def roundDiv (num den : Nat) : Nat :=
  let q := num / den
  let r := num % den
  if 2 * r < den then q
  else if den < 2 * r then q + 1
  else q + q % 2

/-- The quotient `num / (den · 2 ^ e)` as a numerator and a denominator. -/
def scaled (num den : Nat) (e : Int) : Nat × Nat :=
  if 0 ≤ e then (num, den * Nat.pow 2 e.toNat) else (num * Nat.pow 2 (-e).toNat, den)

/-- The exponent of the double nearest to `num / den`: the significand takes
fifty-three bits unless that would pass below the least exponent. -/
def exponentFor (num den : Nat) : Int :=
  let e := max ((num.log2 : Int) - den.log2 - 53) (-1074)
  let (n, d) := scaled num den e
  if 0x20000000000000 * d ≤ n then e + 1 else e

/-- The double nearest to `num / den`, infinite when that is out of range. -/
def ofRatio (neg : Bool) (num den : Nat) : Double :=
  if num = 0 then zero neg else
    let e := exponentFor num den
    let (n, d) := scaled num den e
    let word := (e + 1074).toNat * 0x10000000000000 + roundDiv n d
    if 0x7ff0000000000000 ≤ word then infinity neg else ofWord neg word

def ofNat (n : Nat) : Double := ofRatio false n 1

/-- The double nearest to `mantissa · 10 ^ exponent`. Exponents far outside the
range of doubles are answered without forming the power. -/
def ofDecimal (neg : Bool) (mantissa : Nat) (exponent : Int) : Double :=
  if mantissa = 0 then zero neg
  else if 400 < exponent then infinity neg
  else if exponent + (mantissa.log2 + 1 : Nat) < -400 then zero neg
  else if 0 ≤ exponent then ofRatio neg (mantissa * Nat.pow 10 exponent.toNat) 1
  else ofRatio neg mantissa (Nat.pow 10 (-exponent).toNat)

def ofScaledRatio (num den : Nat) (e : Int) : Double :=
  if 0 ≤ e then ofRatio false (num * Nat.pow 2 e.toNat) den
  else ofRatio false num (den * Nat.pow 2 (-e).toNat)

def mulMagnitude (x y : Double) : Double :=
  ofScaledRatio (x.significand * y.significand) 1 (x.exponent + y.exponent)

def divMagnitude (x y : Double) : Double :=
  ofScaledRatio x.significand y.significand (x.exponent - y.exponent)

def negate (x : Double) : Double :=
  ofWord (!x.negative) (x.bits.toNat % 0x8000000000000000)

end Double

end Provision
