/-
# The grammar of settings in lines

A line of settings says nothing, or it has a key before its first equals sign, or it is malformed;
blanks at the ends of the line, of the key and of the value do not count.  A text of lines holds
settings exactly if no line is malformed.  A key then has the value of the last line that assigns
one to it, and otherwise the first malformed line is reported.

## Main definitions

* `Settings.AreLines`: the lines of a text, without the blanks at their ends.
* `Settings.IsRemark`, `Settings.Assigns`, `Settings.IsMalformed`: what a line says.

The main result is `Settings.ofText_of_areLines`.
-/
import Detection.Proofs.Text.Entries
import Detection.Proofs.Text.Lines
import Detection.Settings.Lines
import Mathlib.Data.Set.Card

namespace Detection
namespace Settings

open Text (Trims trims_iff)

/-! ## What lines say -/

/-- The lines of a text of settings, each without the blanks at its ends. -/
def AreLines (text : String) (lines : List (List Char)) : Prop :=
  ∃ all, Text.AreLines text.toList all ∧ List.Forall₂ Trims all lines

/-- A line is empty or begins with a number sign. -/
def IsRemark (line : List Char) : Prop := line = [] ∨ ∃ rest, line = '#' :: rest

/-- Before and behind its first equals sign a line has a key, which is not empty, and a value. -/
def Splits (line key value : List Char) : Prop :=
  ∃ before behind, line = before ++ '=' :: behind ∧ '=' ∉ before ∧ Trims before key ∧ key ≠ [] ∧
    Trims behind value

/-- A line assigns a value to a key. -/
def Assigns (line : List Char) (key value : String) : Prop :=
  ¬ IsRemark line ∧ Splits line key.toList value.toList

/-- A line that says something does not have a key before an equals sign. -/
def IsMalformed (line : List Char) : Prop :=
  ¬ IsRemark line ∧ ∀ key value, ¬ Splits line key value

variable {line key value : List Char} {text : String} {lines : List (List Char)} {number : ℕ}

lemma areLines_iff : AreLines text lines ↔ (Text.lines text.toList).map Text.trim = lines := by
  constructor
  · rintro ⟨all, hall, htrims⟩
    obtain rfl := Text.areLines_iff.1 hall
    rw [← List.forall₂_eq_eq_eq, List.forall₂_map_left_iff]
    exact htrims.imp fun _ _ => trims_iff.1
  · rintro rfl
    refine ⟨_, Text.areLines_iff.2 rfl, ?_⟩
    rw [List.forall₂_map_right_iff]
    exact List.forall₂_same.2 fun line _ => trims_iff.2 rfl

/-! ### What is read from a line -/

namespace Line

lemma ofTrimmed_eq_remark_iff : ofTrimmed line = .remark ↔ IsRemark line := by
  have hremark : IsRemark line ↔ line = [] ∨ line.head? = some '#' := by
    cases line <;> simp [IsRemark]
  rw [hremark]
  unfold ofTrimmed
  split_ifs with h
  · exact iff_of_true rfl h
  · refine iff_of_false (fun heq => ?_) h
    split at heq
    · cases heq
    · split_ifs at heq

lemma splits_iff : Splits line key value ↔ ∃ before behind,
    Text.cut '=' line = some (before, behind) ∧ Text.trim before = key ∧ key ≠ [] ∧
      Text.trim behind = value := by
  simp only [Splits, trims_iff, Text.cut_eq_some_iff, and_assoc]

lemma ofTrimmed_eq_assignment_iff :
    ofTrimmed line = .assignment key value ↔ ¬ IsRemark line ∧ Splits line key value := by
  rw [← ofTrimmed_eq_remark_iff, splits_iff]
  unfold ofTrimmed
  split_ifs with hremark
  · simp
  · cases hcut : Text.cut '=' line with
    | none => simp
    | some parts =>
      obtain ⟨before, behind⟩ := parts
      by_cases hkey : Text.trim before = []
      · suffices key = [] → key ≠ [] → Text.trim behind ≠ value by simpa [hkey, eq_comm]
        exact fun hempty hne => absurd hempty hne
      · suffices Text.trim before = key → Text.trim behind = value → key ≠ [] by
          simpa [hkey, and_left_comm]
        rintro rfl -
        exact hkey

lemma ofTrimmed_eq_malformed_iff : ofTrimmed line = .malformed ↔ IsMalformed line := by
  unfold IsMalformed
  simp only [← ofTrimmed_eq_remark_iff]
  cases h : ofTrimmed line with
  | remark => simp
  | assignment key value =>
    have hsplits := (ofTrimmed_eq_assignment_iff.1 h).2
    exact iff_of_false nofun fun hnone => hnone.2 key value hsplits
  | malformed =>
    refine iff_of_true rfl ⟨nofun, fun key value hsplits => ?_⟩
    have hholds : ¬ IsRemark line := by
      rw [← ofTrimmed_eq_remark_iff, h]
      nofun
    have hassigns := ofTrimmed_eq_assignment_iff.2 ⟨hholds, hsplits⟩
    rw [h] at hassigns
    cases hassigns

end Line

/-! ### What is read from all lines -/

/-- The assignment of a line, if it is one. -/
def assignment? (line : List Char) : Option (String × String) :=
  match Line.ofTrimmed line with
  | .assignment key value => some (String.ofList key, String.ofList value)
  | _ => none

lemma assignment?_eq_some_iff {key value : String} :
    assignment? line = some (key, value) ↔ Assigns line key value := by
  have hread : assignment? line = some (key, value) ↔
      Line.ofTrimmed line = .assignment key.toList value.toList := by
    unfold assignment?
    cases Line.ofTrimmed line with
    | remark => simp
    | assignment key' value' => simp [← String.toList_inj]
    | malformed => simp
  rw [hread, Line.ofTrimmed_eq_assignment_iff, Assigns]

/-- A line that is not malformed adds its assignment, if it is one. -/
lemma assignments_cons {first : List Char} (h : ¬ IsMalformed (Text.trim first))
    (rest : List (List Char)) : assignments number (first :: rest) =
      (assignments (number + 1) rest).map ((assignment? (Text.trim first)).toList ++ ·) := by
  unfold assignment?
  rw [← Line.ofTrimmed_eq_malformed_iff] at h
  rw [assignments]
  cases hfirst : Line.ofTrimmed (Text.trim first) with
  | remark => cases assignments (number + 1) rest <;> rfl
  | assignment key value => rfl
  | malformed => exact absurd hfirst h

lemma assignments_cons_of_isMalformed {first : List Char} (h : IsMalformed (Text.trim first))
    (rest : List (List Char)) : assignments number (first :: rest) =
      .error (.line number (String.ofList (Text.trim first))) := by
  rw [assignments, Line.ofTrimmed_eq_malformed_iff.2 h]

/-- Without a malformed line the assignments are those of all lines. -/
lemma assignments_eq_ok {all : List (List Char)}
    (h : ∀ line ∈ all.map Text.trim, ¬ IsMalformed line) :
    assignments number all = .ok ((all.map Text.trim).filterMap assignment?) := by
  induction all generalizing number with
  | nil => rfl
  | cons first rest ih =>
    rw [List.map_cons, List.forall_mem_cons] at h
    rw [assignments_cons h.1, ih h.2, List.map_cons, List.filterMap_cons]
    cases assignment? (Text.trim first) <;> rfl

/-- The first malformed line is reported. -/
lemma assignments_eq_error {all before after : List (List Char)}
    (hall : all.map Text.trim = before ++ line :: after)
    (hbefore : ∀ earlier ∈ before, ¬ IsMalformed earlier) (h : IsMalformed line) :
    assignments number all = .error (.line (number + before.length) (String.ofList line)) := by
  induction before generalizing number all with
  | nil =>
    obtain ⟨first, rest, rfl, rfl, -⟩ := List.map_eq_cons_iff.1 hall
    exact assignments_cons_of_isMalformed h rest
  | cons earlier before ih =>
    obtain ⟨first, rest, rfl, rfl, hrest⟩ := List.map_eq_cons_iff.1 hall
    rw [List.forall_mem_cons] at hbefore
    rw [assignments_cons hbefore.1, ih hrest hbefore.2, List.length_cons, Nat.add_right_comm]
    rfl

/-- If any line is malformed, one is the first. -/
lemma exists_first_isMalformed (h : ¬ ∀ line ∈ lines, ¬ IsMalformed line) :
    ∃ before line after, lines = before ++ line :: after ∧
      (∀ earlier ∈ before, ¬ IsMalformed earlier) ∧ IsMalformed line := by
  classical
  obtain ⟨line, hfind⟩ : ∃ line, lines.find? (IsMalformed ·) = some line := by
    rw [← Option.isSome_iff_exists, List.find?_isSome]
    simpa using h
  obtain ⟨hline, before, after, hlines, hbefore⟩ := List.find?_eq_some_iff_append.1 hfind
  exact ⟨before, line, after, hlines, by simpa using hbefore, by simpa using hline⟩

/-! ## What a text of lines holds -/

/-- Settings hold for each key the value of the last line that assigns one to it, and nothing
else. -/
structure AreOfLines (lines : List (List Char)) (s : Settings) : Prop where
  /-- A key has the value that is assigned to it in the last line that assigns one to it. -/
  get?_eq_some_iff (key value : String) : s.get? key = some value ↔
    ∃ before line after, lines = before ++ line :: after ∧ Assigns line key value ∧
      ∀ later ∈ after, ∀ other, ¬ Assigns later key other
  /-- A key has no value exactly if no line assigns one to it. -/
  get?_eq_none_iff (key : String) : s.get? key = none ↔
    ∀ line ∈ lines, ∀ value, ¬ Assigns line key value
  /-- There are as many keys as different ones are assigned a value. -/
  size_eq : s.size = {key | ∃ line ∈ lines, ∃ value, Assigns line key value}.ncard

lemma isLast_filterMap_iff {key value : String} :
    IsLast (lines.filterMap assignment?) key value ↔
      ∃ before line after, lines = before ++ line :: after ∧ Assigns line key value ∧
        ∀ later ∈ after, ∀ other, ¬ Assigns later key other := by
  simp only [← assignment?_eq_some_iff]
  constructor
  · rintro ⟨before, after, heq, hafter⟩
    obtain ⟨first, rest, rfl, -, hrest⟩ := List.filterMap_eq_append_iff.1 heq
    obtain ⟨skipped, line, last, rfl, -, hline, rfl⟩ := List.filterMap_eq_cons_iff.1 hrest
    refine ⟨first ++ skipped, line, last, by simp, hline, fun later hlater other hother => ?_⟩
    exact hafter _ (List.mem_filterMap.2 ⟨later, hlater, hother⟩) rfl
  · rintro ⟨before, line, after, rfl, hline, hafter⟩
    refine ⟨before.filterMap assignment?, after.filterMap assignment?, ?_, ?_⟩
    · rw [List.filterMap_append, List.filterMap_cons_some hline]
    · rintro ⟨key', other⟩ hmem rfl
      obtain ⟨later, hlater, hother⟩ := List.mem_filterMap.1 hmem
      exact hafter later hlater other hother

lemma areOfLines_ofList (lines : List (List Char)) :
    AreOfLines lines (Table.ofList (lines.filterMap assignment?)) where
  get?_eq_some_iff key value := Table.get?_ofList_eq_some_iff.trans isLast_filterMap_iff
  get?_eq_none_iff key := by
    rw [Table.get?_ofList_eq_none_iff]
    simp only [← assignment?_eq_some_iff]
    constructor
    · intro h line hline value hvalue
      exact h _ (List.mem_filterMap.2 ⟨line, hline, hvalue⟩) rfl
    · rintro h ⟨key', value⟩ hmem rfl
      obtain ⟨line, hline, hvalue⟩ := List.mem_filterMap.1 hmem
      exact h line hline value hvalue
  size_eq := by
    rw [Table.size_ofList, ← Set.ncard_coe_finset]
    congr 1
    ext key
    simp only [← assignment?_eq_some_iff, List.coe_toFinset, List.mem_map, List.mem_filterMap,
      Set.mem_ofPred_eq]
    constructor
    · rintro ⟨⟨_, value⟩, ⟨line, hline, hvalue⟩, rfl⟩
      exact ⟨line, hline, value, hvalue⟩
    · rintro ⟨line, hline, value, hvalue⟩
      exact ⟨(key, value), ⟨line, hline, hvalue⟩, rfl⟩

/-- **Settings in lines follow their grammar.**  They are read if and only if each line that says
something has a key before its first equals sign.  Then each key has the value of the last line
that assigns one to it; otherwise the first malformed line is reported, with its number. -/
theorem ofText_of_areLines (hlines : AreLines text lines) :
    ((∃ s, ofText text = .ok s) ↔
      ∀ line ∈ lines, ¬ IsRemark line → ∃ key value, Splits line key value) ∧
    (∀ s, ofText text = .ok s → AreOfLines lines s) ∧
    ∀ fault, ofText text = .error fault ↔
      ∃ before line after, lines = before ++ line :: after ∧
        (∀ earlier ∈ before, ¬ IsMalformed earlier) ∧ IsMalformed line ∧
        fault = .line (before.length + 1) (String.ofList line) := by
  have hall := areLines_iff.1 hlines
  have hgood : (∀ line ∈ lines, ¬ IsRemark line → ∃ key value, Splits line key value) ↔
      ∀ line ∈ lines, ¬ IsMalformed line := by
    simp [IsMalformed]
  have hok : (∀ line ∈ lines, ¬ IsMalformed line) →
      ofText text = .ok (Table.ofList (lines.filterMap assignment?)) := by
    rintro h
    subst hall
    rw [ofText, assignments_eq_ok h]
    rfl
  have herror : ∀ before line after, lines = before ++ line :: after →
      (∀ earlier ∈ before, ¬ IsMalformed earlier) → IsMalformed line →
      ofText text = .error (.line (before.length + 1) (String.ofList line)) := by
    intro before line after heq hbefore hline
    rw [ofText, assignments_eq_error (hall.trans heq) hbefore hline, Nat.add_comm]
    rfl
  rw [hgood]
  by_cases h : ∀ line ∈ lines, ¬ IsMalformed line
  · rw [hok h]
    refine ⟨iff_of_true ⟨_, rfl⟩ h, ?_, fun fault => iff_of_false nofun ?_⟩
    · rintro s hs
      cases hs
      exact areOfLines_ofList lines
    · rintro ⟨before, line, after, rfl, -, hline, -⟩
      exact h line (List.mem_append_right _ List.mem_cons_self) hline
  · obtain ⟨before, line, after, heq, hbefore, hline⟩ := exists_first_isMalformed h
    have hfirst := herror before line after heq hbefore hline
    refine ⟨iff_of_false ?_ h, ?_, fun fault => ⟨fun hfault => ?_, ?_⟩⟩
    · rw [hfirst]
      nofun
    · rw [hfirst]
      nofun
    · rw [hfirst] at hfault
      cases hfault
      exact ⟨before, line, after, heq, hbefore, hline, rfl⟩
    · rintro ⟨before', line', after', heq', hbefore', hline', rfl⟩
      exact herror before' line' after' heq' hbefore' hline'

/-- Settings that assign a key twice, the second time with a value that has an equals sign. -/
def assignedTwice : String := "# sizes\r\nA=1\n\n A = x=y \r\n"

/-- Settings of which the third line has no key. -/
def withoutKey : String := "A=1\n\n =2"

theorem ofText_assignedTwice_withoutKey :
    (AreLines assignedTwice ["# sizes".toList, "A=1".toList, [], "A = x=y".toList] ∧
      ∃ s, ofText assignedTwice = .ok s ∧ s.get? "A" = some "x=y") ∧
    (AreLines withoutKey ["A=1".toList, [], "=2".toList] ∧
      ofText withoutKey = .error (.line 3 "=2")) := by
  have htwice : AreLines assignedTwice
      ["# sizes".toList, "A=1".toList, [], "A = x=y".toList] := areLines_iff.2 (by decide)
  have hwithout : AreLines withoutKey ["A=1".toList, [], "=2".toList] :=
    areLines_iff.2 (by decide)
  refine ⟨⟨htwice, ?_⟩, hwithout, ?_⟩
  · obtain ⟨hread, hhold, -⟩ := ofText_of_areLines htwice
    have hgood : ∀ line ∈ ["# sizes".toList, "A=1".toList, [], "A = x=y".toList],
        ¬ IsMalformed line := by
      simp only [← Line.ofTrimmed_eq_malformed_iff]
      decide
    obtain ⟨s, hs⟩ := hread.2 fun line hline hholds => by
      simpa [IsMalformed, hholds] using hgood line hline
    refine ⟨s, hs, ((hhold s hs).get?_eq_some_iff "A" "x=y").2 ?_⟩
    exact ⟨["# sizes".toList, "A=1".toList, []], "A = x=y".toList, [], rfl,
      assignment?_eq_some_iff.1 (by decide), nofun⟩
  · obtain ⟨-, -, hfault⟩ := ofText_of_areLines hwithout
    refine (hfault _).2 ⟨["A=1".toList, []], "=2".toList, [], rfl, ?_, ?_, rfl⟩
    · simp only [← Line.ofTrimmed_eq_malformed_iff]
      decide
    · exact Line.ofTrimmed_eq_malformed_iff.1 (by decide)

end Settings
end Detection
