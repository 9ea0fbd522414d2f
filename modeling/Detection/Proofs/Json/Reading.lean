/-
# What the numbers of a value are

A value is put together from tokens, one after the other.  So what holds for all numbers among the
tokens of a text holds for all numbers in its value, however deep they stand in arrays and objects.

## Main definitions

* `Json.AllNumbers`: all numbers in a value have a property.
* `Json.Reading.AllNumbers`: the same for what was read up to a place.

The main results are `Json.Reading.AllNumbers.step` and `Json.allNumbers_isFinite_of_ofText?`.
-/
import Detection.Json.Reading
import Detection.Proofs.Json.Numbers

namespace Detection
namespace Json

/-- All numbers in a value have a property. -/
inductive AllNumbers (P : Number → Prop) : Json → Prop where
  /-- There are none in nothing. -/
  | null : AllNumbers P .null
  /-- There are none in a truth value. -/
  | bool (value : Bool) : AllNumbers P (.bool value)
  /-- A number is the only one in itself. -/
  | number {x : Number} (h : P x) : AllNumbers P (.number x)
  /-- There are none in a text. -/
  | string (value : String) : AllNumbers P (.string value)
  /-- The numbers of an array are those of its items. -/
  | array {items : List Json} (h : ∀ item ∈ items, AllNumbers P item) : AllNumbers P (.array items)
  /-- The numbers of an object are those of its members. -/
  | object {members : List (String × Json)} (h : ∀ member ∈ members, AllNumbers P member.2) :
      AllNumbers P (.object members)

variable {P : Number → Prop}

/-- All numbers before a value, in an array or object that is open around it, have a property. -/
def Enclosure.AllNumbers (P : Number → Prop) : Enclosure → Prop
  | .array items => ∀ item ∈ items, item.AllNumbers P
  | .object members _ => ∀ member ∈ members, member.2.AllNumbers P

/-- The number of a token, if it is one, has a property. -/
def Token.AllNumbers (P : Number → Prop) : Token → Prop
  | .number x => P x
  | _ => True

/-! ## Tokens -/

namespace Token

/-- The numbers among the tokens of a text are integers or finite. -/
lemma isFinite_of_first? {fuel : ℕ} {text rest : List Char} {token : Token}
    (h : first? fuel text = some (token, rest)) : token.AllNumbers Number.IsFinite := by
  unfold first? at h
  split at h
  case h_7 =>
    obtain ⟨⟨value, rest⟩, -, h⟩ := Option.map_eq_some_iff.1 h
    cases h
    exact True.intro
  case h_11 =>
    obtain ⟨⟨spelling, rest⟩, -, h⟩ := Option.bind_eq_some_iff.1 h
    obtain ⟨x, hx, h⟩ := Option.bind_eq_some_iff.1 h
    cases h
    exact Number.isFinite_of_ofSpelling? hx
  all_goals
    cases h
    exact True.intro

lemma isFinite_of_gather {fuel : ℕ} {text : List Char} {found tokens : List Token}
    (hfound : ∀ token ∈ found, token.AllNumbers Number.IsFinite)
    (h : gather fuel found text = some tokens) :
    ∀ token ∈ tokens, token.AllNumbers Number.IsFinite := by
  induction fuel generalizing found text with
  | zero =>
    cases text with
    | nil =>
      cases h
      simpa using hfound
    | cons c rest => cases h
  | succ fuel ih =>
    cases text with
    | nil =>
      cases h
      simpa using hfound
    | cons c rest =>
      rw [gather] at h
      split_ifs at h
      · exact ih hfound h
      · obtain ⟨⟨token, rest⟩, hfirst, h⟩ := Option.bind_eq_some_iff.1 h
        exact ih (List.forall_mem_cons.2 ⟨isFinite_of_first? hfirst, hfound⟩) h

end Token

/-! ## Places between tokens -/

namespace Reading

/-- All numbers that were read up to a place have a property. -/
def AllNumbers (P : Number → Prop) : Reading → Prop
  | .valueDue around => ∀ enclosure ∈ around, enclosure.AllNumbers P
  | .firstItemDue around => ∀ enclosure ∈ around, enclosure.AllNumbers P
  | .firstMemberDue around => ∀ enclosure ∈ around, enclosure.AllNumbers P
  | .keyDue members around => (∀ member ∈ members, member.2.AllNumbers P) ∧
      ∀ enclosure ∈ around, enclosure.AllNumbers P
  | .colonDue members _ around => (∀ member ∈ members, member.2.AllNumbers P) ∧
      ∀ enclosure ∈ around, enclosure.AllNumbers P
  | .behind value around => value.AllNumbers P ∧ ∀ enclosure ∈ around, enclosure.AllNumbers P

variable {place next : Reading} {token : Token} {around : List Enclosure}

lemma AllNumbers.begin? (haround : ∀ enclosure ∈ around, enclosure.AllNumbers P)
    (htoken : token.AllNumbers P) (h : begin? around token = some next) : next.AllNumbers P := by
  cases token with
  | openArray =>
    obtain ⟨-, h⟩ := Option.ite_none_right_eq_some.1 h
    cases h
    exact haround
  | openObject =>
    obtain ⟨-, h⟩ := Option.ite_none_right_eq_some.1 h
    cases h
    exact haround
  | null =>
    cases h
    exact ⟨.null, haround⟩
  | bool value =>
    cases h
    exact ⟨.bool value, haround⟩
  | number x =>
    cases h
    exact ⟨.number htoken, haround⟩
  | string value =>
    cases h
    exact ⟨.string value, haround⟩
  | closeArray => cases h
  | closeObject => cases h
  | comma => cases h
  | colon => cases h

/-- A token adds its own number at most. -/
theorem AllNumbers.step (hplace : place.AllNumbers P) (htoken : token.AllNumbers P)
    (h : place.step token = some next) : next.AllNumbers P := by
  unfold Reading.step at h
  split at h
  case h_1 around token => exact AllNumbers.begin? hplace htoken h
  case h_2 around =>
    cases h
    exact ⟨.array (List.forall_mem_nil _), hplace⟩
  case h_3 around token _ =>
    have hfirst : Enclosure.AllNumbers P (.array []) := List.forall_mem_nil _
    exact AllNumbers.begin? (List.forall_mem_cons.2 ⟨hfirst, hplace⟩) htoken h
  case h_4 around =>
    cases h
    exact ⟨.object (List.forall_mem_nil _), hplace⟩
  case h_5 around key =>
    cases h
    exact ⟨List.forall_mem_nil _, hplace⟩
  case h_6 members around key =>
    cases h
    exact hplace
  case h_7 members key around =>
    cases h
    exact List.forall_mem_cons.2 hplace
  case h_8 value items around =>
    cases h
    obtain ⟨hvalue, haround⟩ := hplace
    obtain ⟨hitems, haround⟩ := List.forall_mem_cons.1 haround
    have hnext : Enclosure.AllNumbers P (.array (value :: items)) :=
      List.forall_mem_cons.2 ⟨hvalue, hitems⟩
    exact List.forall_mem_cons.2 ⟨hnext, haround⟩
  case h_9 value items around =>
    cases h
    obtain ⟨hvalue, haround⟩ := hplace
    obtain ⟨hitems, haround⟩ := List.forall_mem_cons.1 haround
    refine ⟨.array fun item hitem => ?_, haround⟩
    exact List.forall_mem_cons.2 ⟨hvalue, hitems⟩ item (List.mem_reverse.1 hitem)
  case h_10 value members key around =>
    cases h
    obtain ⟨hvalue, haround⟩ := hplace
    obtain ⟨hmembers, haround⟩ := List.forall_mem_cons.1 haround
    exact ⟨List.forall_mem_cons.2 ⟨hvalue, hmembers⟩, haround⟩
  case h_11 value members key around =>
    cases h
    obtain ⟨hvalue, haround⟩ := hplace
    obtain ⟨hmembers, haround⟩ := List.forall_mem_cons.1 haround
    refine ⟨.object fun member hmember => ?_, haround⟩
    have hall : ∀ member ∈ (key, value) :: members, member.2.AllNumbers P :=
      List.forall_mem_cons.2 ⟨hvalue, hmembers⟩
    exact hall member (List.mem_reverse.1 hmember)
  case h_12 => cases h

/-- Token after token, no other numbers are added. -/
lemma AllNumbers.run {tokens : List Token} (hplace : place.AllNumbers P)
    (htokens : ∀ token ∈ tokens, token.AllNumbers P)
    (h : tokens.foldlM Reading.step place = some next) : next.AllNumbers P := by
  induction tokens generalizing place with
  | nil =>
    cases h
    exact hplace
  | cons token tokens ih =>
    rw [List.forall_mem_cons] at htokens
    obtain ⟨between, hbetween, h⟩ := Option.bind_eq_some_iff.1 h
    exact ih (hplace.step htokens.1 hbetween) htokens.2 h

end Reading

/-- **All numbers in a value that was read are integers or finite.** -/
theorem allNumbers_isFinite_of_ofText? {text : String} {value : Json}
    (h : ofText? text = some value) : value.AllNumbers Number.IsFinite := by
  obtain ⟨tokens, htokens, h⟩ := Option.bind_eq_some_iff.1 h
  obtain ⟨place, hplace, h⟩ := Option.bind_eq_some_iff.1 h
  have hfinite := Token.isFinite_of_gather (List.forall_mem_nil _) htokens
  have hstart : (Reading.valueDue []).AllNumbers Number.IsFinite := List.forall_mem_nil _
  have hend := hstart.run hfinite hplace
  unfold Reading.result? at h
  split at h
  · cases h
    exact hend.1
  · cases h

end Json
end Detection
