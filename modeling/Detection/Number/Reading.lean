/-
# Reading numbers from text

Integers are an optional sign and digits; a minus is for signed kinds only.  Numbers with a
fraction are an optional sign and then either one of the words `inf`, `infinity` and `nan`, in
small or capital letters, or digits with at most one point among or around them and an
optional exponent.  No blanks are allowed anywhere.
-/
import Detection.Number.Decimal
import Detection.Text.Lines

namespace Detection
namespace Text

/-- Whether a character is one of the ten digits of ASCII. -/
def isDigit (c : Char) : Bool :=
  '0' ≤ c && c ≤ '9'

/-- The value of a digit. -/
def digitValue (c : Char) : Nat :=
  c.toNat - '0'.toNat

/-- The number written by a list of digits. -/
def digitsValue (digits : List Char) : Nat :=
  digits.foldl (fun value c => 10 * value + digitValue c) 0

/-- A natural number: one digit or more. -/
def natural? (text : List Char) : Option Nat :=
  if !text.isEmpty && text.all isDigit then some (digitsValue text) else none

/-- A natural number with an optional plus before it. -/
def unsigned? : List Char → Option Nat
  | '+' :: digits => natural? digits
  | digits => natural? digits

/-- A natural number with an optional sign before it. -/
def signed? : List Char → Option Int
  | '+' :: digits => (natural? digits).map Int.ofNat
  | '-' :: digits => (natural? digits).map fun n => -(n : Int)
  | digits => (natural? digits).map Int.ofNat

/-- The exponent behind the digits of a numeral, up to the end of the text. -/
def exponent? : List Char → Option Int
  | [] => some 0
  | c :: rest => if c = 'e' ∨ c = 'E' then signed? rest else none

/-- The digits of a fraction, when a point comes first, and what follows them. -/
def fraction : List Char → List Char × List Char
  | '.' :: rest => (rest.takeWhile isDigit, rest.dropWhile isDigit)
  | text => ([], text)

/-- Digits before and behind an optional point, and an optional exponent. -/
def decimal? (text : List Char) : Option Decimal :=
  let whole := text.takeWhile isDigit
  let (part, rest) := fraction (text.dropWhile isDigit)
  if whole.isEmpty && part.isEmpty then
    none
  else
    (exponent? rest).map fun exponent =>
      ⟨digitsValue (whole ++ part), exponent - part.length⟩

/-- A numeral without its sign. -/
def magnitude? (negative : Bool) (text : List Char) : Option Numeral :=
  let word := lower text
  if word = ['n', 'a', 'n'] then
    some .missing
  else if word = ['i', 'n', 'f'] || word = ['i', 'n', 'f', 'i', 'n', 'i', 't', 'y'] then
    some (.infinite negative)
  else
    (decimal? text).map (.finite negative)

/-- A numeral with an optional sign. -/
def numeral? : List Char → Option Numeral
  | '+' :: rest => magnitude? false rest
  | '-' :: rest => magnitude? true rest
  | text => magnitude? false text

end Text

namespace Numeral

/-- The 32-bit number that a numeral stands for, rounded to nearest. -/
def toFloat32 : Numeral → Float32
  | .missing => .ofBits 0x7fc00000
  | .infinite negative => if negative then -infinity32 else infinity32
  | .finite negative magnitude =>
    if negative then -magnitude.toFloat32 else magnitude.toFloat32

/-- The 64-bit number that a numeral stands for, rounded to nearest. -/
def toFloat : Numeral → Float
  | .missing => .ofBits 0x7ff8000000000000
  | .infinite negative => .ofBits (if negative then 0xfff0000000000000 else 0x7ff0000000000000)
  | .finite negative magnitude =>
    if negative then -magnitude.toFloat else magnitude.toFloat

end Numeral
end Detection
