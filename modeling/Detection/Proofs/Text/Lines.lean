/-
# What lines and pieces of a text are

A text has one list of lines, and without its blanks at both ends it is one text.  Both are said
here without the functions that compute them.  A text that pieces are joined to with a separator
is cut into these pieces again, if the separator occurs in none of them.

## Main definitions

* `Text.AreLines`: the lines of a text.
* `Text.Trims`: a text without its blanks at both ends.

The main results are `Text.areLines_iff`, `Text.trims_iff` and `Text.splitOn_intercalate`.
-/
import Detection.Text.Lines
import Mathlib.Data.Char
import Mathlib.Data.List.DropRight
import Mathlib.Data.List.TakeWhile

namespace Detection
namespace Text

variable {text line rest t : List Char} {c : Char}

/-! ## Lines -/

/-- A line is ended by a line feed, with or without a carriage return before it.  What follows the
last line feed is a line, too, unless there is nothing. -/
inductive AreLines : List Char → List (List Char) → Prop where
  /-- Nothing follows. -/
  | nil : AreLines [] []
  /-- A line without an end follows. -/
  | last {line : List Char} (hne : line ≠ []) (hline : '\n' ∉ line) : AreLines line [line]
  /-- A line follows that is ended by a line feed alone. -/
  | feed {line rest : List Char} {others : List (List Char)} (hline : '\n' ∉ line)
      (hreturn : line.getLast? ≠ some '\r') (hrest : AreLines rest others) :
      AreLines (line ++ '\n' :: rest) (line :: others)
  /-- A line follows that is ended by a carriage return and a line feed. -/
  | returnFeed {line rest : List Char} {others : List (List Char)} (hline : '\n' ∉ line)
      (hrest : AreLines rest others) : AreLines (line ++ '\r' :: '\n' :: rest) (line :: others)

lemma lines_of_not_mem (hne : line ≠ []) (h : '\n' ∉ line) : lines line = [line] := by
  rw [lines, splitOn_of_not_mem h]
  simp [ended, hne]

lemma lines_append (h : '\n' ∉ line) (rest : List Char) :
    lines (line ++ '\n' :: rest) = dropReturn line :: lines rest := by
  rw [lines, splitOn_append h, lines]
  rcases hpieces : splitOn '\n' rest with _ | ⟨piece, pieces⟩
  · exact absurd hpieces (splitOn_ne_nil '\n' rest)
  · rfl

/-- What a line leaves without the carriage return that may end it. -/
lemma dropReturn_cases (line : List Char) :
    (line.getLast? ≠ some '\r' ∧ dropReturn line = line) ∨ line = dropReturn line ++ ['\r'] := by
  unfold dropReturn
  split_ifs with hlast
  · obtain ⟨before, rfl⟩ := List.getLast?_eq_some_iff.1 hlast
    exact .inr (by simp)
  · exact .inl ⟨hlast, rfl⟩

/-- The lines of a text are those that it is cut into. -/
theorem areLines_iff {all : List (List Char)} : AreLines text all ↔ lines text = all := by
  constructor
  · intro h
    induction h with
    | nil => rfl
    | last hne hline => exact lines_of_not_mem hne hline
    | feed hline hreturn _ ih =>
      rw [lines_append hline, ih]
      exact congrArg (· :: _) (if_neg hreturn)
    | @returnFeed line rest others hline _ ih =>
      have hline' : '\n' ∉ line ++ ['\r'] := by simpa using hline
      have hjoin : line ++ '\r' :: '\n' :: rest = (line ++ ['\r']) ++ '\n' :: rest := by simp
      rw [hjoin, lines_append hline', ih]
      simp [dropReturn]
  · rintro rfl
    induction h : text.length using Nat.strong_induction_on generalizing text with
    | _ n ih =>
      cases hcut : cut '\n' text with
      | none =>
        have hline : '\n' ∉ text := by
          intro hmem
          obtain ⟨before, behind, hbefore, heq⟩ := List.eq_append_cons_of_mem hmem
          have hsome := cut_eq_some_iff.2 ⟨hbefore, heq⟩
          rw [hcut] at hsome
          cases hsome
        rcases eq_or_ne text [] with rfl | hne
        · exact .nil
        · rw [lines_of_not_mem hne hline]
          exact .last hne hline
      | some parts =>
        obtain ⟨rfl, hline⟩ := cut_eq_some_iff.1 hcut
        have hshort : parts.2.length < n := by
          rw [← h, List.length_append, List.length_cons]
          omega
        have hrest := ih _ hshort rfl
        rw [lines_append hline]
        rcases dropReturn_cases parts.1 with ⟨hlast, hsame⟩ | hreturn
        · rw [hsame]
          exact .feed hline hlast hrest
        · generalize dropReturn parts.1 = before at hreturn ⊢
          rw [hreturn] at hline ⊢
          rw [List.append_assoc]
          exact .returnFeed (fun hmem => hline (List.mem_append_left _ hmem)) hrest

/-! ## Trimming -/

/-- A text is another one without the blanks at both ends. -/
def Trims (text t : List Char) : Prop :=
  ∃ before after, text = before ++ t ++ after ∧ (∀ c ∈ before, isBlank c) ∧
    (∀ c ∈ after, isBlank c) ∧ (∀ c ∈ t.head?, ¬ isBlank c) ∧ ∀ c ∈ t.getLast?, ¬ isBlank c

lemma trim_eq_rdropWhile (text : List Char) :
    trim text = (text.dropWhile isBlank).rdropWhile isBlank := rfl

/-- Blanks at both ends are dropped, whatever else there is. -/
lemma trim_append {before after : List Char} (hbefore : ∀ c ∈ before, isBlank c)
    (hafter : ∀ c ∈ after, isBlank c) (hhead : ∀ c ∈ t.head?, ¬ isBlank c)
    (hlast : ∀ c ∈ t.getLast?, ¬ isBlank c) : trim (before ++ t ++ after) = t := by
  rw [trim_eq_rdropWhile, List.append_assoc, List.dropWhile_append_of_pos hbefore]
  rcases t with _ | ⟨first, others⟩
  · have hnone : after.dropWhile isBlank = [] := List.dropWhile_eq_nil_iff.2 hafter
    rw [List.nil_append, hnone]
    rfl
  · have hfirst : ¬ isBlank first := hhead first rfl
    rw [List.cons_append, List.dropWhile_cons_of_neg hfirst, List.rdropWhile, ← List.cons_append,
      List.reverse_append, List.dropWhile_append_of_pos (by simpa using hafter)]
    refine List.rdropWhile_eq_self_iff.2 fun hne => hlast _ ?_
    exact List.getLast?_eq_some_getLast hne

/-- A text has one text without the blanks at both ends. -/
theorem trims_iff : Trims text t ↔ trim text = t := by
  constructor
  · rintro ⟨before, after, rfl, hbefore, hafter, hhead, hlast⟩
    exact trim_append hbefore hafter hhead hlast
  · rintro rfl
    refine ⟨text.takeWhile isBlank, (text.dropWhile isBlank).rtakeWhile isBlank, ?_,
      fun c hc => List.mem_takeWhile_imp hc, fun c hc => List.mem_rtakeWhile_imp hc, ?_, ?_⟩
    · rw [trim_eq_rdropWhile, List.append_assoc, List.rdropWhile_append_rtakeWhile,
        List.takeWhile_append_dropWhile]
    · intro c hc
      -- What is left begins as the text does behind its first blanks.
      obtain ⟨after, hafter⟩ := List.rdropWhile_prefix isBlank (text.dropWhile isBlank)
      rw [trim_eq_rdropWhile] at hc
      have hhead : c ∈ (text.dropWhile isBlank).head? := by
        rw [← hafter, List.head?_append, Option.mem_def.1 hc]
        rfl
      have hnot := List.head?_dropWhile_not isBlank text
      rw [Option.mem_def.1 hhead] at hnot
      simp [hnot]
    · intro c hc
      obtain ⟨hne, rfl⟩ := List.mem_getLast?_eq_getLast hc
      exact List.rdropWhile_last_not isBlank (text.dropWhile isBlank) hne

/-- Without blanks there is nothing to drop. -/
lemma trim_eq_self (h : ∀ c ∈ text, ¬ isBlank c) : trim text = text :=
  trims_iff.1 ⟨[], [], by simp, by simp, by simp, fun c hc => h c (List.mem_of_mem_head? hc),
    fun c hc => h c (List.mem_of_mem_getLast? hc)⟩

/-! ## Pieces -/

lemma splitOn_eq (separator : Char) (text : List Char) :
    splitOn separator text = text.splitOn separator := by
  induction text with
  | nil => rfl
  | cons c rest ih =>
    unfold splitOn
    rw [List.splitOn_eq_splitOnP, List.splitOnP_cons_eq_if_modifyHead,
      ← List.splitOn_eq_splitOnP, ← ih]
    by_cases hc : c = separator
    · simp [hc]
    · rcases hpieces : splitOn separator rest with _ | ⟨piece, pieces⟩
      · exact absurd hpieces (splitOn_ne_nil separator rest)
      · simp [hc]

/-- Pieces that are joined are cut apart again. -/
theorem splitOn_intercalate {separator : Char} {pieces : List (List Char)} (hne : pieces ≠ [])
    (h : ∀ piece ∈ pieces, separator ∉ piece) :
    splitOn separator ([separator].intercalate pieces) = pieces := by
  rw [splitOn_eq]
  exact List.splitOn_intercalate separator h hne

lemma not_mem_intercalate {separator c : Char} {pieces : List (List Char)} (hc : c ≠ separator)
    (h : ∀ piece ∈ pieces, c ∉ piece) : c ∉ [separator].intercalate pieces := by
  induction pieces with
  | nil => exact List.not_mem_nil
  | cons piece rest ih =>
    rw [List.forall_mem_cons] at h
    cases rest with
    | nil => simpa using h.1
    | cons next rest =>
      rw [List.intercalate_cons_cons]
      simpa [hc, h.1] using ih h.2

/-- A joined text tells which pieces were joined. -/
lemma intercalate_inj {separator : Char} {pieces pieces' : List (List Char)} (hne : pieces ≠ [])
    (hne' : pieces' ≠ []) (h : ∀ piece ∈ pieces, separator ∉ piece)
    (h' : ∀ piece ∈ pieces', separator ∉ piece) :
    [separator].intercalate pieces = [separator].intercalate pieces' ↔ pieces = pieces' := by
  constructor
  · intro heq
    rw [← splitOn_intercalate hne h, heq, splitOn_intercalate hne' h']
  · rintro rfl
    rfl

end Text
end Detection
