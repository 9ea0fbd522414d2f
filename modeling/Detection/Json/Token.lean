/-
# The tokens of a JSON text

A JSON text is cut into brackets, commas, colons, words, numbers and quoted texts; blanks
between them do not count.

## Main definitions

* `Token.quoted`: a quoted text, behind its opening quote.
* `Token.ofText?`: the tokens of a text.
-/
import Detection.Json.Basic
import Detection.Text.Hex

namespace Detection
namespace Json

/-- A token of a JSON text. -/
inductive Token where
  /-- An array begins. -/
  | openArray
  /-- An array ends. -/
  | closeArray
  /-- An object begins. -/
  | openObject
  /-- An object ends. -/
  | closeObject
  /-- A comma between two items or members. -/
  | comma
  /-- A colon between a key and its value. -/
  | colon
  /-- The word for nothing. -/
  | null
  /-- The word for a truth value. -/
  | bool (value : Bool)
  /-- A number. -/
  | number (value : Number)
  /-- A quoted text. -/
  | string (value : String)

namespace Token

/-! ## Quoted texts -/

/-- Four hexadecimal digits at the beginning of a text. -/
def unit? : List Char → Option (Nat × List Char)
  | a :: b :: c :: d :: rest => do
    let units ← [a, b, c, d].mapM Text.hexValue?
    return (units.foldl (fun value digit => 16 * value + digit) 0, rest)
  | _ => none

/-- The character of a code given by four hexadecimal digits, or by two times four for a
character beyond 16 bits.  Half of such a pair is no character. -/
def codedCharacter? (text : List Char) : Option (Char × List Char) := do
  let (high, rest) ← unit? text
  if 0xd800 ≤ high ∧ high < 0xdc00 then
    match rest with
    | '\\' :: 'u' :: rest =>
      let (low, rest) ← unit? rest
      if 0xdc00 ≤ low ∧ low < 0xe000 then
        return (Char.ofNat (0x10000 + (high - 0xd800) * 0x400 + (low - 0xdc00)), rest)
      else
        none
    | _ => none
  else if 0xdc00 ≤ high ∧ high < 0xe000 then
    none
  else
    return (Char.ofNat high, rest)

/-- The character that stands behind a backslash for another. -/
def escaped? : Char → Option Char
  | '"' => some '"'
  | '\\' => some '\\'
  | '/' => some '/'
  | 'b' => some '\x08'
  | 'f' => some '\x0c'
  | 'n' => some '\n'
  | 'r' => some '\r'
  | 't' => some '\t'
  | _ => none

/-- The first character of a quoted text, and the rest of it. -/
def character? : List Char → Option (Char × List Char)
  | '\\' :: 'u' :: rest => codedCharacter? rest
  | '\\' :: c :: rest => (escaped? c).map fun c => (c, rest)
  | c :: rest => if c.toNat < 0x20 ∨ c = '\\' then none else some (c, rest)
  | [] => none

/-- The quoted text behind an opening quote, after the characters found so far in backward
order; `fuel` bounds the number of its characters. -/
def quoted (fuel : Nat) (found : List Char) (text : List Char) : Option (String × List Char) :=
  match fuel, text with
  | _, '"' :: rest => some (String.ofList found.reverse, rest)
  | 0, _ => none
  | fuel + 1, text => (character? text).bind fun (c, rest) => quoted fuel (c :: found) rest

/-! ## Tokens -/

/-- The blanks between tokens. -/
def isBlank (c : Char) : Bool :=
  c = ' ' || c = '\n' || c = '\t' || c = '\r'

/-- The token at the beginning of a text that is not blank there; `fuel` bounds the length of
a quoted text. -/
def first? (fuel : Nat) : List Char → Option (Token × List Char)
  | '[' :: rest => some (.openArray, rest)
  | ']' :: rest => some (.closeArray, rest)
  | '{' :: rest => some (.openObject, rest)
  | '}' :: rest => some (.closeObject, rest)
  | ',' :: rest => some (.comma, rest)
  | ':' :: rest => some (.colon, rest)
  | '"' :: rest => (quoted fuel [] rest).map fun (value, rest) => (.string value, rest)
  | 'n' :: 'u' :: 'l' :: 'l' :: rest => some (.null, rest)
  | 't' :: 'r' :: 'u' :: 'e' :: rest => some (.bool true, rest)
  | 'f' :: 'a' :: 'l' :: 's' :: 'e' :: rest => some (.bool false, rest)
  | text => do
    let (spelling, rest) ← Number.spelling? text
    let value ← Number.ofSpelling? spelling
    return (.number value, rest)

/-- The tokens of a text after those found so far, in backward order; `fuel` bounds the
number of tokens and blanks. -/
def gather (fuel : Nat) (found : List Token) (text : List Char) : Option (List Token) :=
  match fuel, text with
  | _, [] => some found.reverse
  | 0, _ => none
  | fuel + 1, c :: rest =>
    if isBlank c then gather fuel found rest
    else (first? fuel (c :: rest)).bind fun (token, rest) => gather fuel (token :: found) rest

/-- The tokens of a text, if it consists of tokens. -/
def ofText? (text : List Char) : Option (List Token) :=
  gather text.length [] text

end Token
end Json
end Detection
