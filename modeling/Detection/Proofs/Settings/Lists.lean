/-
# Lists of numbers in settings

A list of a JSON object becomes a text, the texts of its items with commas between them, and where
numbers are asked for, this text is cut at its commas again.  What is written for a number holds no
comma and is always a numeral, so that as many numbers come back as were put in, and in the same
order.  Only a list without numbers does not come back: the empty text is one piece, and this piece
is no numeral.

## Main definitions

* `Settings.IsSettable`: a value that settings have.

The main result is `Settings.readNumbers_of_ofJsonText`.
-/
import Detection.Proofs.Json.Reading
import Detection.Proofs.Outcome
import Detection.Proofs.Text.Entries
import Detection.Proofs.Text.Numerals
import Detection.Settings.Json

namespace Detection
namespace Settings

/-! ## Objects -/

/-- A text, a number, a truth value, or a list of texts and numbers. -/
def IsSettable : Json → Prop
  | .string _ => True
  | .number _ => True
  | .bool _ => True
  | .array items => ∀ item ∈ items, (∃ x, item = .number x) ∨ ∃ text, item = .string text
  | _ => False

variable {key : String} {value : Json} {members : List (String × Json)}

lemma IsSettable.exists_valueText (h : IsSettable value) (key : String) :
    ∃ text, valueText key value = .ok text := by
  cases value with
  | null => exact h.elim
  | object => exact h.elim
  | string text => exact ⟨_, rfl⟩
  | number x => exact ⟨_, rfl⟩
  | bool truth => exact ⟨_, rfl⟩
  | array items =>
    have hitem : ∀ item ∈ items, ∃ text, itemText? item = some text := by
      intro item hitem
      obtain ⟨x, rfl⟩ | ⟨text, rfl⟩ := h item hitem
      · exact ⟨_, rfl⟩
      · exact ⟨_, rfl⟩
    obtain ⟨texts, htexts⟩ := exists_mapM_eq_some hitem
    rw [valueText, htexts]
    exact ⟨_, rfl⟩

/-- The settings of an object have the texts of its members under their keys. -/
lemma exists_ofJson (h : ∀ key value, IsLast members key value → IsSettable value) :
    ∃ s, ofJson (.object members) = .ok s ∧ ∀ key value, IsLast members key value →
      ∃ text, valueText key value = .ok text ∧ s.get? key = some text := by
  have hascending := Table.isAscending_ofList members
  have hentry : ∀ entry ∈ (Table.ofList members).entries, ∃ found : String × String,
      (do return (entry.1, ← valueText entry.1 entry.2) : Except SettingsFault _) = .ok found ∧
        entry.1 = found.1 ∧ valueText entry.1 entry.2 = .ok found.2 := by
    rintro ⟨key, value⟩ hmem
    rw [hascending.mem_entries_iff, Table.get?_ofList_eq_some_iff] at hmem
    obtain ⟨text, htext⟩ := (h key value hmem).exists_valueText key
    refine ⟨(key, text), ?_, rfl, htext⟩
    rw [htext]
    rfl
  obtain ⟨found, hfound, hrelated⟩ := exists_mapM_eq_ok hentry
  -- The keys are the same, so what stands in the new list is found under its key as before.
  have hkeys : (Table.ofList members).keys = (⟨found⟩ : Settings).keys := by
    rw [Table.keys, Table.keys, ← List.forall₂_eq_eq_eq, List.forall₂_map_left_iff,
      List.forall₂_map_right_iff]
    exact hrelated.imp fun _ _ hsame => hsame.1
  have hfoundAscending : (⟨found⟩ : Settings).IsAscending := by
    rwa [Table.IsAscending, ← hkeys]
  refine ⟨⟨found⟩, ?_, ?_⟩
  · exact congrArg (fun outcome => outcome >>= fun entries => pure (⟨entries⟩ : Settings)) hfound
  · intro key value hlast
    rw [← Table.get?_ofList_eq_some_iff, ← hascending.mem_entries_iff] at hlast
    obtain ⟨i, hi⟩ := List.getElem?_of_mem hlast
    obtain ⟨⟨key', text⟩, htext, hsame, hvalue⟩ := exists_getElem?_of_forall₂ hrelated hi
    obtain rfl : key = key' := hsame
    exact ⟨text, hvalue, hfoundAscending.mem_entries_iff.1 (List.mem_of_getElem? htext)⟩

/-! ## Lists -/

/-- Pieces of a text that are numerals are read one by one. -/
lemma readNumbers_of_splitOn {text : String} {pieces : List (List Char)}
    (hpieces : Text.splitOn ',' text.toList = pieces)
    (h : ∀ piece ∈ pieces, Text.IsNumeral piece) :
    ∃ values, readNumbers key text = .ok values ∧
      List.Forall₂ (fun piece value => SettingValue.read? piece = some value) pieces values := by
  rw [readNumbers, hpieces]
  refine exists_mapM_eq_ok fun piece hpiece => ?_
  obtain ⟨numeral, hnumeral⟩ := (h piece hpiece).exists_numeral?
  refine ⟨numeral.toFloat32, ?_, congrArg (Option.map Numeral.toFloat32) hnumeral⟩
  rw [(h piece hpiece).trim_eq, hnumeral]

/-- So are numerals with commas put between them. -/
lemma readNumbers_intercalate {texts : List String} (hne : texts ≠ [])
    (h : ∀ text ∈ texts, Text.IsNumeral text.toList) :
    ∃ values, readNumbers key (String.intercalate "," texts) = .ok values ∧
      List.Forall₂ (fun text value => SettingValue.read? text.toList = some value) texts
        values := by
  have hnumeral : ∀ piece ∈ texts.map String.toList, Text.IsNumeral piece :=
    List.forall_mem_map.2 h
  have hpieces : Text.splitOn ',' (String.intercalate "," texts).toList =
      texts.map String.toList := by
    rw [String.toList_intercalate]
    exact Text.splitOn_intercalate (mt List.map_eq_nil_iff.1 hne)
      fun piece hpiece => (hnumeral piece hpiece).not_mem_comma
  obtain ⟨values, hvalues, hread⟩ := readNumbers_of_splitOn hpieces hnumeral
  exact ⟨values, hvalues, List.forall₂_map_left_iff.1 hread⟩

/-- A list of numbers is their texts with commas between them. -/
lemma valueText_numbers (key : String) (numbers : List Json.Number) :
    valueText key (.array (numbers.map .number)) =
      .ok (String.intercalate "," (numbers.map Json.Number.write)) := by
  have htexts : (numbers.map Json.number).mapM itemText? =
      some (numbers.map Json.Number.write) := by
    rw [mapM_eq_some_iff, List.forall₂_map_left_iff, List.forall₂_map_right_iff,
      List.forall₂_same]
    exact fun _ _ => rfl
  rw [valueText, htexts]

/-- The numbers of a list in a text that was read are written as numerals. -/
lemma isNumeral_write_of_isLast {text : String} {numbers : List Json.Number}
    (htext : Json.ofText? text = some (.object members))
    (hlast : IsLast members key (.array (numbers.map .number))) :
    ∀ x ∈ numbers, Text.IsNumeral x.write.toList := by
  intro x hx
  have hobject := Json.allNumbers_isFinite_of_ofText? htext
  cases hobject with
  | object hmembers =>
    have harray := hmembers _ hlast.mem
    cases harray with
    | array hitems =>
      have hnumber := hitems _ (List.mem_map_of_mem hx)
      cases hnumber with
      | number hfinite => exact hfinite.isNumeral_write

/-- **Numbers of a list come back in their order**, each as the text written for it is read, unless
there are none. -/
theorem readNumbers_of_ofJsonText {text : String} {numbers : List Json.Number}
    (htext : Json.ofText? text = some (.object members))
    (hsettable : ∀ key value, IsLast members key value → IsSettable value)
    (hlast : IsLast members key (.array (numbers.map .number))) :
    ∃ s stored, ofJsonText text = .ok s ∧ s.get? key = some stored ∧
      (numbers ≠ [] → ∃ values, readNumbers key stored = .ok values ∧
        List.Forall₂ (fun x value => SettingValue.read? x.write.toList = some value)
          numbers values) ∧
      (numbers = [] → readNumbers key stored = .error (.kind key "")) := by
  obtain ⟨s, hs, hget⟩ := exists_ofJson hsettable
  obtain ⟨stored, hvalue, hstored⟩ := hget key _ hlast
  have hjson : ofJsonText text = .ok s := by
    rw [ofJsonText, htext]
    exact hs
  rw [valueText_numbers, Except.ok.injEq] at hvalue
  subst hvalue
  refine ⟨s, _, hjson, hstored, fun hne => ?_, ?_⟩
  · obtain ⟨values, hvalues, hread⟩ := readNumbers_intercalate
      (mt List.map_eq_nil_iff.1 hne)
      (List.forall_mem_map.2 (isNumeral_write_of_isLast htext hlast))
    exact ⟨values, hvalues, List.forall₂_map_left_iff.1 hread⟩
  · rintro rfl
    rfl

/-- A list of two integers with a number between them that is none. -/
def threeNumbers : List Json.Number := [.integer 1, .double 2.5, .integer (-7)]

/-- Settings with this list. -/
def withThreeNumbers : String := "\x7b\"BIASES\":[1,2.5,-7],\"BIASES_NUM\":3\x7d"

/-- The members of these settings. -/
def membersWithThreeNumbers : List (String × Json) :=
  [("BIASES", .array (threeNumbers.map .number)), ("BIASES_NUM", .number (.integer 3))]

set_option maxRecDepth 4000 in
lemma ofText?_withThreeNumbers :
    Json.ofText? withThreeNumbers = some (.object membersWithThreeNumbers) := by
  with_unfolding_all rfl

lemma isSettable_of_isLast_membersWithThreeNumbers :
    ∀ key value, IsLast membersWithThreeNumbers key value → IsSettable value := by
  intro key value hlast
  have hmem := hlast.mem
  simp only [membersWithThreeNumbers, List.mem_cons, Prod.mk.injEq, List.not_mem_nil,
    or_false] at hmem
  obtain ⟨-, rfl⟩ | ⟨-, rfl⟩ := hmem
  · rw [IsSettable, List.forall_mem_map]
    exact fun x _ => .inl ⟨x, rfl⟩
  · exact True.intro

lemma isLast_membersWithThreeNumbers :
    IsLast membersWithThreeNumbers "BIASES" (.array (threeNumbers.map .number)) :=
  ⟨[], [("BIASES_NUM", .number (.integer 3))], rfl, by decide⟩

theorem readNumbers_withThreeNumbers :
    Json.ofText? withThreeNumbers = some (.object membersWithThreeNumbers) ∧
    (∀ key value, IsLast membersWithThreeNumbers key value → IsSettable value) ∧
    IsLast membersWithThreeNumbers "BIASES" (.array (threeNumbers.map .number)) ∧
    ∃ s stored, ofJsonText withThreeNumbers = .ok s ∧ s.get? "BIASES" = some stored ∧
      readNumbers "BIASES" stored = .ok [1, 2.5, -7] := by
  refine ⟨ofText?_withThreeNumbers, isSettable_of_isLast_membersWithThreeNumbers,
    isLast_membersWithThreeNumbers, ?_⟩
  obtain ⟨s, stored, hs, hstored, hread, -⟩ := readNumbers_of_ofJsonText
    ofText?_withThreeNumbers isSettable_of_isLast_membersWithThreeNumbers
    isLast_membersWithThreeNumbers
  obtain ⟨values, hvalues, hrelated⟩ := hread (List.cons_ne_nil _ _)
  have hexpected : List.Forall₂
      (fun (x : Json.Number) (value : Float32) => SettingValue.read? x.write.toList = some value)
      threeNumbers [1, 2.5, -7] :=
    .cons rfl (.cons (by decide +kernel) (.cons rfl .nil))
  have hsame : values = [1, 2.5, -7] := by
    refine List.right_unique_forall₂' ?_ hrelated hexpected
    intro x value value' h h'
    exact Option.some.inj (h.symm.trans h')
  exact ⟨s, stored, hs, hstored, hsame ▸ hvalues⟩

/-- A list without numbers does not come back. -/
theorem readNumbers_withoutNumbers :
    Json.ofText? "\x7b\"BIASES\":[]\x7d" = some (.object [("BIASES", .array [])]) ∧
    ∃ s stored, ofJsonText "\x7b\"BIASES\":[]\x7d" = .ok s ∧ s.get? "BIASES" = some stored ∧
      readNumbers "BIASES" stored = .error (.kind "BIASES" "") :=
  ⟨rfl, ⟨[("BIASES", "")]⟩, "", rfl, rfl, rfl⟩

end Settings
end Detection
