/-
# Binary floating-point numbers of two widths

The networks compute in 32-bit numbers, and a few formulas widen to 64 bits and narrow the
result again.  This file holds what those formulas need beyond the arithmetic of the core
library: conversion between the widths, truncation to integers, the minimum and maximum that
ignore a missing number, and the total order used for sorting.

Every conversion goes through the unpacked form (sign, mantissa, exponent) in which the core
library defines addition and multiplication, so that facts about rounding apply to all of
them alike.
-/

namespace Detection

open Float.Model (UnpackedFloat Format)

/-! ## Conversion between widths -/

/-- An unpacked number, rounded to the nearest number of a format, ties to even. -/
def roundTo (spec : Format) : UnpackedFloat → UnpackedFloat
  | .finite sign mantissa exponent _ => UnpackedFloat.round spec sign mantissa exponent
  | other => other

/-- The 64-bit number with the value of a 32-bit number; nothing is lost. -/
def widen (x : Float32) : Float :=
  .ofModel (.pack (roundTo .binary64 x.toModel.unpack))

/-- The 32-bit number nearest to a 64-bit number, ties to even. -/
def narrow (x : Float) : Float32 :=
  .ofModel (.pack (roundTo .binary32 x.toModel.unpack))

/-! ## Truncation to integers -/

/-- The nearest integer of a closed interval. -/
def clampInt (low high value : Int) : Int :=
  max low (min high value)

/-- The smallest integer of 32 bits. -/
def minInt32 : Int := -0x80000000

/-- The largest integer of 32 bits. -/
def maxInt32 : Int := 0x7fffffff

/-- The smallest integer of 64 bits. -/
def minInt64 : Int := -0x8000000000000000

/-- The largest integer of 64 bits. -/
def maxInt64 : Int := 0x7fffffffffffffff

/-- The integer part of an unpacked number, kept within 64 bits; a missing number has none
and gives zero. -/
def truncate (x : UnpackedFloat) : Int :=
  clampInt minInt64 maxInt64 (x.toInt minInt64 maxInt64)

/-- The integer part of a 32-bit number, kept within 64 bits. -/
def wholePart32 (x : Float32) : Int :=
  truncate x.toModel.unpack

/-- The integer part of a 64-bit number, kept within 64 bits. -/
def wholePart64 (x : Float) : Int :=
  truncate x.toModel.unpack

/-- The integer part of a 32-bit number as a count: negative and missing numbers give zero,
and numbers of 2^64 and more the largest count of 64 bits. -/
def countOf (x : Float32) : Nat :=
  x.toUInt64.toNat

/-- Truncation stays within 64 bits. -/
theorem truncate_mem (x : UnpackedFloat) : minInt64 ≤ truncate x ∧ truncate x ≤ maxInt64 := by
  unfold truncate clampInt
  simp only [minInt64, maxInt64]
  omega

/-! ## Minimum and maximum -/

/-- The smaller of two numbers; if one is missing, the other. -/
def least32 (a b : Float32) : Float32 :=
  if a.isNaN then b else if b < a then b else a

/-- The larger of two numbers; if one is missing, the other. -/
def greatest32 (a b : Float32) : Float32 :=
  if a.isNaN then b else if a < b then b else a

/-- The smaller of two 64-bit numbers; if one is missing, the other. -/
def least64 (a b : Float) : Float :=
  if a.isNaN then b else if b < a then b else a

/-- The larger of two 64-bit numbers; if one is missing, the other. -/
def greatest64 (a b : Float) : Float :=
  if a.isNaN then b else if a < b then b else a

/-! ## Total order -/

/-- The position of a number in the total order of the bit patterns: negative infinity first,
minus zero just before plus zero, and a missing number after positive infinity.  A missing number
is one number here, without a sign; bit patterns of missing numbers that have a minus sign, which
come before negative infinity in that order, are not represented. -/
def rank (x : Float32) : Int :=
  let bits := x.toBits.toNat
  if bits < 0x80000000 then bits else 0x7fffffff - bits

/-! ## Infinity -/

/-- Positive infinity of 32 bits. -/
def infinity32 : Float32 := .ofBits 0x7f800000

end Detection
