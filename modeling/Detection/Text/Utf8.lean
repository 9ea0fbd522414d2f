/-
# Text as octets

Text is stored as octets, one to four for a character.  Octets that are no text are read all
the same: what cannot belong to a character is replaced by the replacement character.
-/
import Detection.Text.Hex

namespace Detection
namespace Text

/-- The octets of a text. -/
def octets (text : List Char) : List UInt8 :=
  text.flatMap String.utf8EncodeChar

/-- The character that stands for octets which are no text. -/
def replacement : Char := '\ufffd'

/-- A character of which only the first octets have come. -/
structure Unfinished where
  /-- The number of octets that must still come. -/
  missing : Nat
  /-- The least octet that may come next. -/
  low : Nat
  /-- The greatest octet that may come next. -/
  high : Nat
  /-- The bits of the character's code that have come. -/
  bits : Nat
deriving DecidableEq, Repr

namespace Unfinished

/-- What the first octet of a longer character leaves to come.  The bounds of the second
octet keep out codes that fewer octets can hold, halves of pairs, and codes beyond the last. -/
def ofLead? (octet : Nat) : Option Unfinished :=
  if octet < 0xc2 then none
  else if octet ≤ 0xdf then some ⟨1, 0x80, 0xbf, octet - 0xc0⟩
  else if octet = 0xe0 then some ⟨2, 0xa0, 0xbf, 0⟩
  else if octet = 0xed then some ⟨2, 0x80, 0x9f, 0xd⟩
  else if octet ≤ 0xef then some ⟨2, 0x80, 0xbf, octet - 0xe0⟩
  else if octet = 0xf0 then some ⟨3, 0x90, 0xbf, 0⟩
  else if octet ≤ 0xf3 then some ⟨3, 0x80, 0xbf, octet - 0xf0⟩
  else if octet = 0xf4 then some ⟨3, 0x80, 0x8f, 4⟩
  else none

/-- The characters that an octet completes when none is unfinished, and what it begins. -/
def start (octet : Nat) : List Char × Option Unfinished :=
  if octet < 0x80 then
    ([Char.ofNat octet], none)
  else
    match ofLead? octet with
    | some begun => ([], some begun)
    | none => ([replacement], none)

/-- The characters that the next octet completes, and what is unfinished after it. -/
def step : Option Unfinished → Nat → List Char × Option Unfinished
  | none, octet => start octet
  | some u, octet =>
    if u.low ≤ octet ∧ octet ≤ u.high then
      let bits := 64 * u.bits + octet % 64
      if u.missing ≤ 1 then ([Char.ofNat bits], none)
      else ([], some ⟨u.missing - 1, 0x80, 0xbf, bits⟩)
    else
      let (characters, begun) := start octet
      (replacement :: characters, begun)

end Unfinished

/-- The text of octets that follow an unfinished character. -/
def ofOctetsFrom (unfinished : Option Unfinished) : List UInt8 → List Char
  | [] => if unfinished.isSome then [replacement] else []
  | octet :: rest =>
    let (characters, next) := Unfinished.step unfinished octet.toNat
    characters ++ ofOctetsFrom next rest

/-- The text of octets. -/
def ofOctets (octets : List UInt8) : List Char :=
  ofOctetsFrom none octets

end Text
end Detection
