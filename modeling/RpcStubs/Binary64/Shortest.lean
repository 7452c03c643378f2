import RpcStubs.Binary64.Basic

/-!
# The shortest decimal of a double

The reals that round to a double form an interval around it, whose ends belong to it exactly when
the significand is even. The decimal of the double is the one with the fewest digits in that
interval, and of several with as many digits the nearest. It is found grid by grid: on the grid of
decimals with a given number of digits, only the two neighbours of the double can be nearest.
-/

namespace RpcStubs

/-- The decimal `digits * 10 ^ place`. -/
structure Decimal where
  digits : Nat
  place : Int
  deriving DecidableEq, Repr

namespace Magnitude

/-- The interval of the reals that round to a magnitude, in quarters of `2 ^ -1074`. -/
structure Interval where
  low : Nat
  value : Nat
  high : Nat
  closed : Bool

/-- The interval around a magnitude. Below a power of two the doubles are twice as dense, so there
the lower end is half as far. -/
def interval (x : Magnitude) : Interval :=
  let below := if x.significand = Nat.pow 2 52 ∧ 0 < x.exponent then 1 else 2
  let scale := Nat.pow 2 x.exponent
  { low := (4 * x.significand - below) * scale
    value := 4 * x.significand * scale
    high := (4 * x.significand + 2) * scale
    closed := x.significand % 2 == 0 }

def quartersPerOne : Nat :=
  4 * unitsPerOne

/-- A decimal in quarters of `2 ^ -1074`, over the denominator that comes second. -/
def quarters (d : Decimal) : Nat × Nat :=
  if 0 ≤ d.place then (d.digits * Nat.pow 10 d.place.toNat * quartersPerOne, 1)
  else (d.digits * quartersPerOne, Nat.pow 10 (-d.place).toNat)

def Interval.holds (i : Interval) (d : Decimal) : Bool :=
  let (numerator, denominator) := quarters d
  if i.closed then i.low * denominator ≤ numerator && numerator ≤ i.high * denominator
  else i.low * denominator < numerator && numerator < i.high * denominator

/-- How far a decimal is from the value, over its own denominator. -/
def Interval.distance (i : Interval) (d : Decimal) : Nat :=
  let (numerator, denominator) := quarters d
  (numerator - i.value * denominator) + (i.value * denominator - numerator)

/-- The number of places between the point and the first digit of `value / quartersPerOne`, counted
from `place` on; `fuel` bounds the search. -/
def leadingPlace (value : Nat) : (fuel place : Nat) → Nat
  | 0, place => place
  | fuel + 1, place =>
    if quartersPerOne ≤ value * Nat.pow 10 place then place else leadingPlace value fuel (place + 1)

/-- The power of ten of the first decimal digit of a positive magnitude. -/
def decimalExponent (x : Magnitude) : Int :=
  let value := x.interval.value
  let whole := value / quartersPerOne
  if whole = 0 then -(leadingPlace value 400 0 : Int)
  else ((Nat.toDigits 10 whole).length : Int) - 1

/-- The neighbours of the value on the grid of multiples of `10 ^ place`, from below and above. -/
def neighbours (i : Interval) (place : Int) : Decimal × Decimal :=
  let digits :=
    if 0 ≤ place then i.value / (quartersPerOne * Nat.pow 10 place.toNat)
    else i.value * Nat.pow 10 (-place).toNat / quartersPerOne
  (⟨digits, place⟩, ⟨digits + 1, place⟩)

/-- The decimal that a grid gives, if one of the two neighbours lies in the interval: the nearer
one, and on a tie the even one. -/
def onGrid? (i : Interval) (place : Int) : Option Decimal :=
  let (below, above) := neighbours i place
  match i.holds below, i.holds above with
  | true, true =>
    let down := i.distance below
    let up := i.distance above
    if down < up ∨ (down = up ∧ below.digits % 2 = 0) then some below else some above
  | true, false => some below
  | false, true => some above
  | false, false => none

/-- The shortest decimal of a magnitude; the seventeenth digit always settles it. -/
def shortest (x : Magnitude) : Decimal :=
  if x.significand = 0 then ⟨0, 0⟩
  else
    let i := x.interval
    let top := x.decimalExponent
    let found := (List.range 17).findSome? fun (n : Nat) => onGrid? i (top - n)
    found.getD (neighbours i (top - 16)).1

end Magnitude

def significantDigits (n : Nat) : List Char :=
  ((Nat.toDigits 10 n).reverse.dropWhile (· == '0')).reverse

/-- The text of a positive decimal whose first digit stands for `10 ^ exponent`: positional from
`10 ^ -5` up to below `10 ^ 16`, with at least one digit after the point, and else one digit before
the point and a signed exponent. -/
def decimalText (digits : List Char) (exponent : Int) : List Char :=
  if -5 ≤ exponent ∧ exponent < 0 then
    ['0', '.'] ++ List.replicate (-exponent - 1).toNat '0' ++ digits
  else if 0 ≤ exponent ∧ exponent < 16 then
    let size := exponent.toNat + 1
    if digits.length ≤ size then
      digits ++ List.replicate (size - digits.length) '0' ++ ['.', '0']
    else
      digits.take size ++ ['.'] ++ digits.drop size
  else
    let fraction := if digits.length ≤ 1 then [] else '.' :: digits.drop 1
    let sign := if exponent < 0 then '-' else '+'
    digits.take 1 ++ fraction ++ ['e', sign] ++ Nat.toDigits 10 exponent.natAbs

/-- The text of a double: the sign, then its shortest decimal. -/
def Binary64.text (x : Binary64) : List Char :=
  let sign := if x.negative then ['-'] else []
  if x.magnitude.significand = 0 then
    sign ++ ['0', '.', '0']
  else
    let d := x.magnitude.shortest
    let size := (Nat.toDigits 10 d.digits).length
    sign ++ decimalText (significantDigits d.digits) (d.place + size - 1)

end RpcStubs
