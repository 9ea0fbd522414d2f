/-
# Writing numbers as text

A shortest numeral is written either positionally or with an exponent.  Where one form ends
and the other begins, whether a whole number shows a fraction, and which of two equally near
shortest numerals is taken, is a matter of the format that the text belongs to.
-/
import Detection.Number.Decimal

namespace Detection

/-- How a format writes finite numbers. -/
structure NumberStyle where
  /-- Which of two shortest numerals is written where the number lies halfway between them. -/
  tie : Tie
  /-- The powers of ten of the leading digit that are written positionally: from the first
  bound on, and below the second.  Without bounds all are. -/
  positional : Option (Int × Int)
  /-- Whether a whole number written positionally ends in `.0`. -/
  showsFraction : Bool

namespace Decimal

/-- The digits of the units. -/
def digits (d : Decimal) : List Char :=
  Nat.toDigits 10 d.units

/-- Zeros, as many as a number says. -/
def zeros (count : Nat) : List Char :=
  List.replicate count '0'

/-- Positional notation, with a point where digits stand behind it. -/
def positional (d : Decimal) (showsFraction : Bool) : List Char :=
  let behind := (-d.exponent).toNat
  if behind = 0 then
    let whole := if d.units = 0 then ['0'] else d.digits ++ zeros d.exponent.toNat
    if showsFraction then whole ++ ['.', '0'] else whole
  else
    let padded := zeros (behind + 1 - d.digits.length) ++ d.digits
    padded.take (padded.length - behind) ++ '.' :: padded.drop (padded.length - behind)

/-- One digit, a point and the other digits if there are any, and a signed exponent. -/
def scientific (d : Decimal) : List Char :=
  let exponent := d.leadingExponent
  let mark := if exponent < 0 then ['e', '-'] else ['e', '+']
  let mantissa :=
    match d.digits with
    | [] => []
    | [digit] => [digit]
    | digit :: rest => digit :: '.' :: rest
  mantissa ++ mark ++ Nat.toDigits 10 exponent.natAbs

/-- A decimal in a given style. -/
def write (style : NumberStyle) (d : Decimal) : List Char :=
  match style.positional with
  | none => d.positional style.showsFraction
  | some (first, last) =>
    if d.units = 0 || (first ≤ d.leadingExponent && d.leadingExponent < last) then
      d.positional style.showsFraction
    else
      d.scientific

end Decimal

namespace Numeral

/-- A numeral in a given style, with words for what is no finite number. -/
def write (style : NumberStyle) (missing infinite : String) : Numeral → String
  | .missing => missing
  | .infinite negative => if negative then "-" ++ infinite else infinite
  | .finite negative magnitude =>
    let text := String.ofList (magnitude.write style)
    if negative then "-" ++ text else text

end Numeral

end Detection
