/-
# Decimal numerals and the digits of a binary number

A decimal is a count of units of a power of ten.  This file reads decimals into the nearest
binary number, and finds for a binary number the decimal with the fewest digits that reads
back as the same number.

## Main definitions

* `Decimal.toFloat32`, `Decimal.toFloat`: reading, rounded to nearest, ties to even.
* `Tie`: which of two equally near neighbours is taken.
* `Interval`: the decimals that read back as a given number.
* `Interval.shortest`: the decimal of fewest digits in an interval, the nearest of those.
-/
import Detection.Number.Binary

namespace Detection

open Float.Model (UnpackedFloat Format)

/-- A non-negative decimal: `units` times ten to the power `exponent`. -/
structure Decimal where
  /-- The digits, read as one number. -/
  units : Nat
  /-- The power of ten that a unit is worth. -/
  exponent : Int
deriving DecidableEq, Repr

/-- The number of decimal digits of a number; zero has none. -/
def digitCount (n : Nat) : Nat :=
  if n = 0 then 0 else digitCount (n / 10) + 1
termination_by n
decreasing_by omega

namespace Decimal

/-- The 32-bit number nearest to a decimal, ties to even. -/
def toFloat32 (d : Decimal) : Float32 :=
  .ofModel (.ofScientific d.units d.exponent)

/-- The 64-bit number nearest to a decimal, ties to even. -/
def toFloat (d : Decimal) : Float :=
  .ofModel (.ofScientific d.units d.exponent)

/-- The same decimal without trailing zeros. -/
def trimZeros (d : Decimal) : Decimal :=
  if d.units ≠ 0 ∧ d.units % 10 = 0 then trimZeros ⟨d.units / 10, d.exponent + 1⟩ else d
termination_by d.units
decreasing_by omega

/-- The power of ten of the leading digit. -/
def leadingExponent (d : Decimal) : Int :=
  d.exponent + digitCount d.units - 1

end Decimal

/-! ## The decimals that read back as a number -/

/-- Which of two neighbouring whole numbers stands for what lies halfway between them. -/
inductive Tie where
  /-- The even one. -/
  | toEven
  /-- The one that is farther from zero. -/
  | awayFromZero
deriving DecidableEq, Repr

/-- Whether what lies halfway above a whole number goes down to it. -/
def Tie.goesDownTo (tie : Tie) (below : Nat) : Bool :=
  match tie with
  | .toEven => below % 2 == 0
  | .awayFromZero => false

/-- A value between two bounds, all three fractions over one denominator. -/
structure Interval where
  /-- The numerator of the lower bound. -/
  low : Nat
  /-- The numerator of the value. -/
  value : Nat
  /-- The numerator of the upper bound. -/
  high : Nat
  /-- The common denominator. -/
  denominator : Nat
  /-- Whether the bounds belong to the interval. -/
  closed : Bool

namespace Interval

/-- The decimals that round to the positive number `mantissa * 2 ^ exponent` of a format:
half a step to either side, where the step below a power of two is half as wide.  The bounds
round to the number itself exactly when its mantissa is even. -/
def ofBinary (spec : Format) (mantissa : Nat) (exponent : Int) : Interval :=
  let narrowBelow := mantissa = Nat.pow 2 (spec.mantissaBits - 1) ∧ spec.minExponent < exponent
  let scale := Nat.pow 2 (exponent - 2).toNat
  { low := (4 * mantissa - if narrowBelow then 1 else 2) * scale
    value := 4 * mantissa * scale
    high := (4 * mantissa + 2) * scale
    denominator := Nat.pow 2 (2 - exponent).toNat
    closed := mantissa % 2 = 0 }

/-- The interval in units of ten to the power `exponent`. -/
def inUnits (i : Interval) (exponent : Int) : Interval :=
  let scale := Nat.pow 10 (-exponent).toNat
  { low := i.low * scale
    value := i.value * scale
    high := i.high * scale
    denominator := i.denominator * Nat.pow 10 exponent.toNat
    closed := i.closed }

/-- Whether a whole number of units lies in the interval. -/
def contains (i : Interval) (units : Nat) : Bool :=
  let scaled := units * i.denominator
  if i.closed then i.low ≤ scaled && scaled ≤ i.high else i.low < scaled && scaled < i.high

/-- The whole number of units that lies in the interval nearest to its value, if there is
one.  Only the two whole numbers next to the value can be; `tie` chooses where both are and
are equally near. -/
def nearestUnits? (tie : Tie) (i : Interval) : Option Nat :=
  let below := i.value / i.denominator
  let rest := i.value % i.denominator
  let goesDown :=
    2 * rest < i.denominator || (2 * rest == i.denominator && tie.goesDownTo below)
  match i.contains below, i.contains (below + 1) with
  | true, true => some (if goesDown then below else below + 1)
  | true, false => some below
  | false, true => some (below + 1)
  | false, false => none

/-- The power of ten of the value's leading digit. -/
def magnitude (i : Interval) : Int :=
  if i.denominator ≤ i.value then
    (digitCount (i.value / i.denominator) : Int) - 1
  else
    -(digitCount ((i.denominator + i.value - 1) / i.value - 1) : Int)

/-- The first decimal of the interval on grids of ever finer units, from `exponent` down;
`grids` bounds how many are tried. -/
def onGrids (tie : Tie) (i : Interval) (exponent : Int) : Nat → Decimal
  | 0 => ⟨(i.inUnits exponent).value / (i.inUnits exponent).denominator, exponent⟩
  | grids + 1 =>
    match (i.inUnits exponent).nearestUnits? tie with
    | some units => ⟨units, exponent⟩
    | none => onGrids tie i (exponent - 1) grids

/-- The decimal of fewest digits in the interval; of several the one nearest to the value.
Seventeen digits tell any two 64-bit numbers apart. -/
def shortest (tie : Tie) (i : Interval) : Decimal :=
  (i.onGrids tie i.magnitude 17).trimZeros

end Interval

/-! ## What a binary number is -/

/-- A binary number seen as text sees it. -/
inductive Numeral where
  /-- No number. -/
  | missing
  /-- Infinity, with whether it is negative. -/
  | infinite (negative : Bool)
  /-- A finite number, with whether its sign is negative. -/
  | finite (negative : Bool) (magnitude : Decimal)
deriving DecidableEq, Repr

namespace Numeral

/-- The shortest numeral of an unpacked number of a format. -/
def ofUnpacked (tie : Tie) (spec : Format) : UnpackedFloat → Numeral
  | .notANumber => .missing
  | .infinity sign => .infinite (sign == .negative)
  | .zero sign => .finite (sign == .negative) ⟨0, 0⟩
  | .finite sign mantissa exponent _ =>
    .finite (sign == .negative) ((Interval.ofBinary spec mantissa exponent).shortest tie)

/-- The shortest numeral that reads back as a 32-bit number. -/
def ofFloat32 (tie : Tie) (x : Float32) : Numeral :=
  ofUnpacked tie .binary32 x.toModel.unpack

/-- The shortest numeral that reads back as a 64-bit number. -/
def ofFloat (tie : Tie) (x : Float) : Numeral :=
  ofUnpacked tie .binary64 x.toModel.unpack

end Numeral

end Detection
