/-
# Addresses

Sources and destinations are given by an address: a scheme that says what it is the address
of, a path, and questions with answers.  `scheme://authority/path?question=answer#fragment` is
the longest form; the authority and the fragment are of no use here and are dropped.

A path is a list of names behind slashes.  The names `.` and `..` are resolved, where `..` never
leaves a drive such as `c:`, and characters that a path cannot hold are written with percent
signs.  An address without slashes behind the scheme has a path that is no list of names and
stays as it is.

## Main definitions

* `Address.resolve`: the names of a path without those that stand for a place.
* `Address.filePath`, `Address.plainPath`: the path of an address.
* `Address.ofText?`: the address that a text holds.
* `Address.answer?`: the answer to a question.
-/
import Detection.Text.Percent

namespace Detection

/-- The address of a source or destination. -/
structure Address where
  /-- What it is the address of, in small letters. -/
  scheme : String
  /-- The path. -/
  path : String
  /-- The questions with their answers, in order. -/
  query : List (String × String)
deriving DecidableEq, Repr

namespace Address

/-! ## The scheme -/

/-- Characters of a scheme behind its first, which is a letter. -/
def isSchemeCharacter (c : Char) : Bool :=
  c.isAlphanum || c = '+' || c = '-' || c = '.'

/-- The scheme at the beginning of a text, and what follows its colon. -/
def scheme? (text : List Char) : Option (List Char × List Char) :=
  match Text.cut ':' text with
  | some (first :: others, rest) =>
    if first.isAlpha && others.all isSchemeCharacter then
      some (Text.lower (first :: others), rest)
    else
      none
  | _ => none

/-- The scheme of the addresses of files. -/
def fileScheme : String := "file"

/-! ## The path -/

/-- Whether a name in a path stands for the place itself. -/
def isHere (name : List Char) : Bool :=
  let name := Text.lower name
  name = ['.'] || name = ['%', '2', 'e']

/-- Whether a name in a path stands for the place above. -/
def isAbove (name : List Char) : Bool :=
  let name := Text.lower name
  name = ['.', '.'] || name = ['.', '%', '2', 'e'] || name = ['%', '2', 'e', '.'] ||
    name = ['%', '2', 'e', '%', '2', 'e']

/-- Whether a name in a path is that of a drive: a letter with a colon or a bar, and behind them
nothing or a backslash. -/
def isDrive : List Char → Bool
  | letter :: mark :: rest =>
    letter.isAlpha && (mark = ':' || mark = '|') && (rest.isEmpty || rest.head? = some '\\')
  | _ => false

/-- The names of the place above the one that some names lead to, last first.  There is nothing
above a drive. -/
def above : List (List Char) → List (List Char)
  | [] => []
  | name :: rest => if isDrive name then name :: rest else rest

/-- The names of a path without those that stand for a place, behind the names found so far,
last first.  Where the last name stands for a place the path ends in a slash. -/
def resolve (found : List (List Char)) : List (List Char) → List (List Char)
  | [] => found.reverse
  | name :: rest =>
    let ending := if rest.isEmpty then [[]] else []
    if isAbove name then resolve (ending ++ above found) rest
    else if isHere name then resolve (ending ++ found) rest
    else resolve (name :: found) rest

/-- Control characters and what is beyond ASCII cannot stand in an address. -/
def isForeign (c : Char) : Bool :=
  c.toNat < 0x20 || 0x7f ≤ c.toNat

/-- Characters that are written with a percent sign in a path. -/
def isEncoded (c : Char) : Bool :=
  isForeign c || c = ' ' || c = '"' || c = '<' || c = '>' || c = '\x60' || c = '#' || c = '?' ||
    c = '{' || c = '}'

/-- The path of names behind slashes. -/
def joinNames (names : List (List Char)) : List Char :=
  names.flatMap fun name => '/' :: name

/-- A path that begins with a slash, its names resolved. -/
def resolvePath (text : List Char) : List Char :=
  joinNames (resolve [] (Text.splitOn '/' (text.drop 1)))

/-- What follows the authority: everything from the first slash on.  Behind the user, who is
named before the last `@`, a backslash ends the authority too. -/
def dropAuthority (text : List Char) : List Char :=
  let authority := text.takeWhile fun c => c ≠ '/'
  let place := (authority.reverse.takeWhile fun c => c ≠ '@').reverse
  (place.dropWhile fun c => c ≠ '\\') ++ text.dropWhile fun c => c ≠ '/'

/-- A path with a slash at its beginning. -/
def rooted (text : List Char) : List Char :=
  if text.head? = some '/' then text else '/' :: text

/-- The path of a `file` address.  A backslash counts as a slash; the path always begins with a
slash, and slashes at its beginning count as one.  A drive in the place of the authority belongs
to the path. -/
def filePath (text : List Char) : List Char :=
  let text := text.map fun c => if c = '\\' then '/' else c
  let place :=
    match text with
    | '/' :: '/' :: rest =>
      if isDrive (rest.takeWhile fun c => c ≠ '/') then rest else dropAuthority rest
    | place => place
  '/' :: (Text.percentEncode isEncoded (resolvePath (rooted place))).dropWhile fun c => c = '/'

/-- The path of an address with any other scheme: names behind slashes, or a text as it stands. -/
def plainPath (text : List Char) : List Char :=
  match text with
  | '/' :: '/' :: rest =>
    let place := dropAuthority rest
    if place.isEmpty then [] else Text.percentEncode isEncoded (resolvePath (rooted place))
  | '/' :: _ => Text.percentEncode isEncoded (resolvePath text)
  | _ => Text.percentEncode isForeign text

/-! ## The questions -/

/-- The text before the first occurrence of a mark, and the text behind it if there is one. -/
def splitAt (mark : Char) (text : List Char) : List Char × Option (List Char) :=
  match Text.cut mark text with
  | some (before, behind) => (before, some behind)
  | none => (text, none)

/-- A question and its answer, which is empty where none is given. -/
def ofPiece (piece : List Char) : String × String :=
  let (question, answer) := splitAt '=' piece
  (String.ofList (Text.decodeWord question), String.ofList (Text.decodeWord (answer.getD [])))

/-- The questions and answers of a text in which they stand between ampersands. -/
def ofQuery (text : List Char) : List (String × String) :=
  ((Text.splitOn '&' text).filter fun piece => !piece.isEmpty).map ofPiece

/-! ## Addresses -/

/-- Whether a character is a tabulator or a line break; these do not count in an address. -/
def isSkipped (c : Char) : Bool :=
  c = '\t' || c = '\n' || c = '\r'

/-- Whether a character is a control character or a blank; these do not count at the ends of an
address. -/
def isMargin (c : Char) : Bool :=
  c.toNat ≤ 0x20

/-- A text without what does not count in an address. -/
def clean (text : List Char) : List Char :=
  let inner := ((text.dropWhile isMargin).reverse.dropWhile isMargin).reverse
  inner.filter fun c => !isSkipped c

/-- The address that a text holds; without a scheme it holds none. -/
def ofText? (text : String) : Option Address :=
  (scheme? (clean text.toList)).map fun (scheme, rest) =>
    let (visible, _) := splitAt '#' rest
    let (place, query) := splitAt '?' visible
    let path := if String.ofList scheme = fileScheme then filePath place else plainPath place
    { scheme := String.ofList scheme
      path := String.ofList path
      query := ofQuery (query.getD []) }

/-- The answer to a question; of several the first. -/
def answer? (a : Address) (question : String) : Option String :=
  a.query.lookup question

/-- Whether a question is asked at all. -/
def asks (a : Address) (question : String) : Bool :=
  (a.answer? question).isSome

/-- What is said about a text without a scheme. -/
def missingSchemeMessage : String := "relative URL without a base"

end Address

end Detection
