/-
# Percent signs in addresses

In an address some characters are written as a percent sign and two hexadecimal digits for
each of their octets.
-/
import Detection.Text.Utf8

namespace Detection
namespace Text

/-- An octet as a percent sign and two digits. -/
def percentOctet (octet : UInt8) : List Char :=
  '%' :: hexDigits 2 octet.toNat

/-- A text in which the characters of a class are written with percent signs. -/
def percentEncode (isEncoded : Char → Bool) (text : List Char) : List Char :=
  text.flatMap fun c =>
    if isEncoded c then (String.utf8EncodeChar c).flatMap percentOctet else [c]

/-- The octets of a text written with percent signs; a percent sign without two digits behind
it stands for itself. -/
def percentOctets : List Char → List UInt8
  | '%' :: a :: b :: rest =>
    match hexValue? a, hexValue? b with
    | some high, some low => UInt8.ofNat (16 * high + low) :: percentOctets rest
    | _, _ => 0x25 :: percentOctets (a :: b :: rest)
  | c :: rest => String.utf8EncodeChar c ++ percentOctets rest
  | [] => []

/-- A word of a query: a plus sign is a blank. -/
def decodeWord (word : List Char) : List Char :=
  ofOctets (percentOctets (word.map fun c => if c = '+' then ' ' else c))

end Text
end Detection
