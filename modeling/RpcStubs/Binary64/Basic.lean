/-!
# Finite binary floating-point numbers of 64 bits

A finite double is a sign and a magnitude `significand * 2 ^ exponent` in units of `2 ^ -1074`, the
smallest positive double. All arithmetic here is exact arithmetic on natural numbers followed by one
rounding, `Magnitude.nearest?`, which goes to the nearest double and on a tie to the even
significand. No machine float takes part.
-/

namespace RpcStubs

/-- A magnitude of `significand * 2 ^ exponent` units of `2 ^ -1074`. In its normal form the
significand has at most 53 bits, and exactly 53 unless the exponent is zero. -/
structure Magnitude where
  significand : Nat
  exponent : Nat
  deriving DecidableEq, Repr

/-- A finite double. The two zeros differ in their sign. -/
structure Binary64 where
  negative : Bool
  magnitude : Magnitude
  deriving DecidableEq, Repr

namespace Magnitude

/-- The number of units of `2 ^ -1074` in one. -/
def unitsPerOne : Nat :=
  Nat.pow 2 1074

def maxExponent : Nat :=
  2045

def units (x : Magnitude) : Nat :=
  x.significand * Nat.pow 2 x.exponent

/-- The quotient rounded to the nearest natural number, a tie to the even one. -/
def roundQuotient (numerator denominator : Nat) : Nat :=
  let quotient := numerator / denominator
  let twice := 2 * (numerator % denominator)
  if twice < denominator ∨ (twice = denominator ∧ quotient % 2 = 0) then quotient else quotient + 1

/-- The double nearest to `numerator / denominator`; nothing when that is beyond the finite ones. -/
def nearest? (numerator denominator : Nat) : Option Magnitude :=
  let scaled := unitsPerOne * numerator
  let exponent := (scaled / denominator).log2 - 52
  let significand := roundQuotient scaled (denominator * Nat.pow 2 exponent)
  let rounded : Magnitude :=
    if significand = Nat.pow 2 53 then ⟨Nat.pow 2 52, exponent + 1⟩ else ⟨significand, exponent⟩
  if rounded.exponent ≤ maxExponent then some rounded else none

def ofNat? (n : Nat) : Option Magnitude :=
  nearest? n 1

def mul? (x y : Magnitude) : Option Magnitude :=
  nearest? (x.units * y.units) (unitsPerOne * unitsPerOne)

def div? (x y : Magnitude) : Option Magnitude :=
  nearest? x.units y.units

/-- Multiplies by `10 ^ power` in one step; nothing when the result or the power is too large. -/
def raise? (x : Magnitude) (power : Nat) : Option Magnitude :=
  if x.significand = 0 then some x
  else if power ≤ 308 then ofNat? (Nat.pow 10 power) >>= x.mul?
  else none

/-- Divides by `10 ^ power`, in steps of `10 ^ 308` with a rounding after each, until the rest of
the power is at most 308 or nothing is left to divide. -/
def lower? (x : Magnitude) (power : Nat) : Option Magnitude :=
  if x.significand = 0 then some x
  else if power ≤ 308 then ofNat? (Nat.pow 10 power) >>= x.div?
  else do
    let next ← ofNat? (Nat.pow 10 308) >>= x.div?
    lower? next (power - 308)
  termination_by power

end Magnitude

namespace Binary64

/-- The double for the decimal `significand * 10 ^ exponent`: the significand is rounded first, then
scaled by the power of ten. Nothing when the magnitude is beyond the finite doubles. -/
def ofDecimal? (negative : Bool) (significand : Nat) (exponent : Int) : Option Binary64 := do
  let start ← Magnitude.ofNat? significand
  let scaled ←
    if 0 ≤ exponent then start.raise? exponent.toNat else start.lower? (-exponent).toNat
  return ⟨negative, scaled⟩

end Binary64

end RpcStubs
