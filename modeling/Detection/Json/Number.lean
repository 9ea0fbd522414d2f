/-
# Numbers of JSON

A number without a fraction and an exponent is an integer as long as 64 bits hold it, with a
sign or without.  Minus zero and every other number are 64-bit numbers: the digits are
gathered in a count of 64 bits until one no longer fits, and the count is then multiplied or
divided by a power of ten.

## Main definitions

* `Number.spelling?`: the parts of a number at the beginning of a text.
* `Number.ofSpelling?`: the number that the parts stand for.
* `Number.write`: a number as text.
-/
import Detection.Number.Reading
import Detection.Number.Writing

namespace Detection
namespace Json

/-- A number in a JSON text. -/
inductive Number where
  /-- An integer. -/
  | integer (value : Int)
  /-- A 64-bit number. -/
  | double (value : Float)
  /-- A 32-bit number; it is written, and never read as such. -/
  | single (value : Float32)

/-- The parts of a number as it stands in a text. -/
structure Spelling where
  /-- Whether a minus comes first. -/
  negative : Bool
  /-- The digits before the point. -/
  whole : List Char
  /-- The digits behind the point, if there is one. -/
  fraction : Option (List Char)
  /-- The power of ten, if there is one. -/
  exponent : Option Int
deriving DecidableEq, Repr

namespace Number

/-! ## The parts of a number -/

/-- One digit or more at the beginning of a text, and the rest of it. -/
def digits? (text : List Char) : Option (List Char × List Char) :=
  let digits := text.takeWhile Text.isDigit
  if digits.isEmpty then none else some (digits, text.dropWhile Text.isDigit)

/-- The digits before the point; a zero comes first only if it stands alone. -/
def whole? (text : List Char) : Option (List Char × List Char) :=
  match digits? text with
  | some ('0' :: _ :: _, _) => none
  | found => found

/-- The digits behind the point, if a point comes first. -/
def fraction? : List Char → Option (Option (List Char) × List Char)
  | '.' :: rest => (digits? rest).map fun (digits, rest) => (some digits, rest)
  | text => some (none, text)

/-- The power of ten, if its mark comes first. -/
def exponent? : List Char → Option (Option Int × List Char)
  | [] => some (none, [])
  | c :: rest =>
    if c = 'e' ∨ c = 'E' then
      match rest with
      | '-' :: rest =>
        (digits? rest).map fun (digits, rest) => (some (-(Text.digitsValue digits : Int)), rest)
      | '+' :: rest =>
        (digits? rest).map fun (digits, rest) => (some (Text.digitsValue digits : Int), rest)
      | rest =>
        (digits? rest).map fun (digits, rest) => (some (Text.digitsValue digits : Int), rest)
    else
      some (none, c :: rest)

/-- The parts of a number after its sign. -/
def unsignedSpelling? (negative : Bool) (text : List Char) :
    Option (Spelling × List Char) := do
  let (whole, rest) ← whole? text
  let (fraction, rest) ← fraction? rest
  let (exponent, rest) ← exponent? rest
  return (⟨negative, whole, fraction, exponent⟩, rest)

/-- The parts of the number at the beginning of a text, and the rest of the text. -/
def spelling? : List Char → Option (Spelling × List Char)
  | '-' :: rest => unsignedSpelling? true rest
  | text => unsignedSpelling? false text

/-! ## The number that the parts stand for -/

/-- A count of 64 bits with as many more digits as it can take up, and the number of digits
left over. -/
def takeUp (count : Nat) : List Char → Nat × Nat
  | [] => (count, 0)
  | c :: rest =>
    let longer := 10 * count + Text.digitValue c
    if longer < UInt64.size then takeUp longer rest else (count, rest.length + 1)

/-- The largest power of ten that a number is multiplied with or divided by at once. -/
def maxPower : Nat := 308

/-- A power of ten. -/
def powerOfTen (exponent : Nat) : Float :=
  Decimal.toFloat ⟨1, exponent⟩

/-- A number times a power of ten, unless the result is beyond all numbers. -/
def scaled? (x : Float) (exponent : Int) : Option Float :=
  if 0 ≤ exponent then
    if exponent ≤ maxPower then
      let product := x * powerOfTen exponent.toNat
      if product.isInf then none else some product
    else if x == 0.0 then some x else none
  else if -maxPower ≤ exponent then
    some (x / powerOfTen (-exponent).toNat)
  else if x == 0.0 then
    some x
  else
    scaled? (x / powerOfTen maxPower) (exponent + maxPower)
termination_by (-exponent).toNat
decreasing_by simp only [maxPower] at *; omega

/-- The 64-bit number of a spelling. -/
def double? (s : Spelling) : Option Float :=
  let behind := s.fraction.getD []
  let (count, left) := takeUp 0 s.whole
  let (count, dropped) := takeUp count behind
  let exponent := (left : Int) - (behind.length - dropped : Int) + s.exponent.getD 0
  (scaled? (Float.ofNat count) exponent).map fun x => if s.negative then -x else x

/-- The integer of a spelling, if it is one that 64 bits hold. -/
def integer? (s : Spelling) : Option Int :=
  let value := Text.digitsValue s.whole
  if s.fraction.isSome || s.exponent.isSome then none
  else if s.negative then
    if value ≠ 0 ∧ value ≤ minInt64.natAbs then some (-(value : Int)) else none
  else if value < UInt64.size then some value
  else none

/-- The number that a spelling stands for, unless it is beyond all numbers. -/
def ofSpelling? (s : Spelling) : Option Number :=
  match integer? s with
  | some value => some (.integer value)
  | none => (double? s).map .double

/-! ## Writing -/

/-- The 64-bit numbers from 1e-5 up to 1e16 are written without an exponent. -/
def doubleStyle : NumberStyle := ⟨.toEven, some (-5, 16), true⟩

/-- The 32-bit numbers from 1e-6 up to 1e13 are written without an exponent. -/
def singleStyle : NumberStyle := ⟨.toEven, some (-6, 13), true⟩

/-- A numeral as text; what is no finite number is written as nothing. -/
def writeNumeral (style : NumberStyle) : Numeral → String
  | .finite negative magnitude => (Numeral.finite negative magnitude).write style "" ""
  | _ => "null"

/-- A number as text. -/
def write : Number → String
  | .integer value => toString value
  | .double value => writeNumeral doubleStyle (.ofFloat doubleStyle.tie value)
  | .single value => writeNumeral singleStyle (.ofFloat32 singleStyle.tie value)

end Number
end Json
end Detection
