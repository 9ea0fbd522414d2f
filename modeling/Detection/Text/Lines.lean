/-
# Cutting text into lines and pieces

Text is a list of characters here.  A line ends at a line feed, with or without a carriage
return before it; a last line need not end.
-/
import Detection.Number.Binary

namespace Detection
namespace Text

/-- Characters that count as white space between words: the property of that name in the
Unicode character database. -/
def isBlank (c : Char) : Bool :=
  let code := c.toNat
  (0x9 ≤ code && code ≤ 0xd) || code == 0x20 || code == 0x85 || code == 0xa0 ||
    code == 0x1680 || (0x2000 ≤ code && code ≤ 0x200a) || code == 0x2028 || code == 0x2029 ||
    code == 0x202f || code == 0x205f || code == 0x3000

/-- Text without the blanks at both ends. -/
def trim (text : List Char) : List Char :=
  ((text.dropWhile isBlank).reverse.dropWhile isBlank).reverse

/-- The pieces of a text between the occurrences of a separator; there is always one more
piece than separators. -/
def splitOn (separator : Char) : List Char → List (List Char)
  | [] => [[]]
  | c :: rest =>
    if c = separator then
      [] :: splitOn separator rest
    else
      match splitOn separator rest with
      | [] => [[c]]
      | piece :: pieces => (c :: piece) :: pieces

/-- The text before and behind the first occurrence of a separator. -/
def cut (separator : Char) : List Char → Option (List Char × List Char)
  | [] => none
  | c :: rest =>
    if c = separator then
      some ([], rest)
    else
      (cut separator rest).map fun (before, behind) => (c :: before, behind)

/-- A line without the carriage return that may end it. -/
def dropReturn (line : List Char) : List Char :=
  if line.getLast? = some '\r' then line.dropLast else line

/-- The lines of the pieces between line feeds: each piece but the last was ended by a line
feed, and an empty last piece is no line. -/
def ended : List (List Char) → List (List Char)
  | [] => []
  | [last] => if last.isEmpty then [] else [last]
  | piece :: pieces => dropReturn piece :: ended pieces

/-- The lines of a text. -/
def lines (text : List Char) : List (List Char) :=
  ended (splitOn '\n' text)

/-- Text with the capital letters of ASCII replaced by small ones. -/
def lower (text : List Char) : List Char :=
  text.map Char.toLower

/-- There is always a piece. -/
theorem splitOn_ne_nil (separator : Char) (text : List Char) : splitOn separator text ≠ [] := by
  cases text with
  | nil => simp [splitOn]
  | cons c rest =>
    unfold splitOn
    split
    · simp
    · split <;> simp

/-- Text without the separator is one piece. -/
theorem splitOn_of_not_mem {separator : Char} {text : List Char} (h : separator ∉ text) :
    splitOn separator text = [text] := by
  induction text with
  | nil => rfl
  | cons c rest ih =>
    simp only [List.mem_cons, not_or] at h
    simp [splitOn, Ne.symm h.1, ih h.2]

/-- The separator ends the first piece. -/
theorem splitOn_append {separator : Char} {piece : List Char} (h : separator ∉ piece)
    (rest : List Char) :
    splitOn separator (piece ++ separator :: rest) = piece :: splitOn separator rest := by
  induction piece with
  | nil => simp [splitOn]
  | cons c cs ih =>
    simp only [List.mem_cons, not_or] at h
    simp [splitOn, Ne.symm h.1, ih h.2]

/-- Cutting puts the text together again around the separator, and the part before it is
free of the separator. -/
theorem cut_eq_some_iff {separator : Char} {text before behind : List Char} :
    cut separator text = some (before, behind) ↔
      text = before ++ separator :: behind ∧ separator ∉ before := by
  induction text generalizing before with
  | nil => simp [cut]
  | cons c rest ih =>
    by_cases hc : c = separator
    · subst hc
      cases before with
      | nil => simp [cut]
      | cons b bs =>
        simp only [cut, if_true, Option.some.injEq, Prod.mk.injEq, reduceCtorEq, false_and,
          List.cons_append, List.cons.injEq, List.mem_cons, not_or, false_iff, not_and, and_imp]
        rintro rfl - hne
        exact absurd rfl hne
    · cases before with
      | nil => simp [cut, hc]
      | cons b bs =>
        have := @ih bs
        simp only [cut, hc, if_false, Option.map_eq_some_iff, Prod.exists, Prod.mk.injEq,
          List.cons.injEq, List.cons_append, List.mem_cons, not_or]
        constructor
        · rintro ⟨x, y, hxy, ⟨rfl, rfl⟩, rfl⟩
          obtain ⟨h1, h2⟩ := this.1 hxy
          exact ⟨⟨rfl, h1⟩, Ne.symm hc, h2⟩
        · rintro ⟨⟨rfl, h1⟩, -, h2⟩
          exact ⟨bs, behind, this.2 ⟨h1, h2⟩, ⟨rfl, rfl⟩, rfl⟩

end Text
end Detection
