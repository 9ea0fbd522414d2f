/-
# Outcomes of computations that can fail

Where a computation succeeds, so has every step of it; where it can fail only with faults of a
kind, so can every step that is reached.  Two computations agree if they fail with the same fault
or succeed with related results.  Agreement carries over to what is done next, and to lists that
are gone through one element after the other.
-/
import Mathlib.Data.List.Forall2
import Mathlib.Data.List.Perm.Basic

namespace Detection

/-! ## Success -/

/-- Where two steps succeed, the first one does, and the second one with its result. -/
lemma exists_of_bind_eq_ok {ε α β : Type} {x : Except ε α} {f : α → Except ε β} {b : β}
    (h : x >>= f = .ok b) : ∃ a, x = .ok a ∧ f a = .ok b := by
  cases x with
  | error fault => cases h
  | ok a => exact ⟨a, rfl, h⟩

lemma ok_bind {ε α β : Type} (a : α) (f : α → Except ε β) : (.ok a >>= f) = f a := rfl

/-- Where a first step with a state succeeds, the second one goes on with its result and state. -/
lemma bind_of_eq_ok {ε σ α β : Type} {x : ExceptT ε (StateM σ) α} {s s' : σ} {a : α}
    (h : x s = (.ok a, s')) (f : α → ExceptT ε (StateM σ) β) : (x >>= f) s = f a s' := by
  change ExceptT.bindCont f (x s).1 (x s).2 = _
  rw [h]
  rfl

/-- Where a first step with a state fails, so do both. -/
lemma bind_of_eq_error {ε σ α β : Type} {x : ExceptT ε (StateM σ) α} {s s' : σ} {fault : ε}
    (h : x s = (.error fault, s')) (f : α → ExceptT ε (StateM σ) β) :
    (x >>= f) s = (.error fault, s') := by
  change ExceptT.bindCont f (x s).1 (x s).2 = _
  rw [h]
  rfl

/-- Going through a list succeeds if each step does, and the result holds their results. -/
lemma mapM_eq_ok_iff {ε α β : Type} {f : α → Except ε β} {list : List α} {found : List β} :
    list.mapM f = .ok found ↔ List.Forall₂ (fun a b => f a = .ok b) list found := by
  induction list generalizing found with
  | nil =>
    rw [List.mapM_nil, List.forall₂_nil_left_iff]
    exact ⟨fun h => (Except.ok.inj h).symm, fun h => h ▸ rfl⟩
  | cons a rest ih =>
    rw [List.mapM_cons, List.forall₂_cons_left_iff]
    constructor
    · intro h
      obtain ⟨b, hb, h⟩ := exists_of_bind_eq_ok h
      obtain ⟨bs, hbs, h⟩ := exists_of_bind_eq_ok h
      cases h
      exact ⟨b, bs, hb, ih.1 hbs, rfl⟩
    · rintro ⟨b, bs, hb, hbs, rfl⟩
      rw [hb, ih.2 hbs]
      rfl

lemma mapM_eq_some_iff {α β : Type} {f : α → Option β} {list : List α} {found : List β} :
    list.mapM f = some found ↔ List.Forall₂ (fun a b => f a = some b) list found := by
  induction list generalizing found with
  | nil =>
    rw [List.mapM_nil, List.forall₂_nil_left_iff]
    exact ⟨fun h => (Option.some.inj h).symm, fun h => h ▸ rfl⟩
  | cons a rest ih =>
    rw [List.mapM_cons, List.forall₂_cons_left_iff]
    constructor
    · intro h
      obtain ⟨b, hb, h⟩ := Option.bind_eq_some_iff.1 h
      obtain ⟨bs, hbs, h⟩ := Option.bind_eq_some_iff.1 h
      cases h
      exact ⟨b, bs, hb, ih.1 hbs, rfl⟩
    · rintro ⟨b, bs, hb, hbs, rfl⟩
      rw [hb, ih.2 hbs]
      rfl

/-- Where each step finds something, so does going through the list. -/
lemma exists_mapM_eq_some {α β : Type} {f : α → Option β} {list : List α}
    (h : ∀ a ∈ list, ∃ b, f a = some b) : ∃ found, list.mapM f = some found := by
  simp only [mapM_eq_some_iff]
  induction list with
  | nil => exact ⟨[], .nil⟩
  | cons a rest ih =>
    rw [List.forall_mem_cons] at h
    obtain ⟨⟨b, hb⟩, hrest⟩ := h
    obtain ⟨bs, hbs⟩ := ih hrest
    exact ⟨b :: bs, .cons hb hbs⟩

/-- Where two lists are related, a member of the first has one related to it at its place. -/
lemma exists_getElem?_of_forall₂ {α β : Type} {R : α → β → Prop} {list : List α}
    {list' : List β} {i : ℕ} {a : α} (h : List.Forall₂ R list list') (ha : list[i]? = some a) :
    ∃ b, list'[i]? = some b ∧ R a b := by
  obtain ⟨hlength, hget⟩ := List.forall₂_iff_get.1 h
  obtain ⟨hi, rfl⟩ := List.getElem?_eq_some_iff.1 ha
  exact ⟨list'[i], List.getElem?_eq_getElem (hlength ▸ hi), hget i hi (hlength ▸ hi)⟩

/-- Everything in the result of going through a list comes from one of its members. -/
lemma exists_of_mem_of_mapM_eq_ok {ε α β : Type} {f : α → Except ε β} {list : List α}
    {found : List β} (h : list.mapM f = .ok found) {b : β} (hb : b ∈ found) :
    ∃ a ∈ list, f a = .ok b := by
  induction mapM_eq_ok_iff.1 h with
  | nil => cases hb
  | @cons a c rest cs hac _ ih =>
    rcases List.mem_cons.1 hb with rfl | hb
    · exact ⟨a, List.mem_cons_self, hac⟩
    · obtain ⟨a', ha', heq⟩ := ih (mapM_eq_ok_iff.2 ‹_›) hb
      exact ⟨a', List.mem_cons_of_mem a ha', heq⟩

/-- Every member of a list gives something in the result of going through it. -/
lemma exists_mem_of_mapM_eq_ok {ε α β : Type} {f : α → Except ε β} {list : List α}
    {found : List β} (h : list.mapM f = .ok found) {a : α} (ha : a ∈ list) :
    ∃ b ∈ found, f a = .ok b := by
  induction mapM_eq_ok_iff.1 h with
  | nil => cases ha
  | @cons c b rest bs hcb _ ih =>
    rcases List.mem_cons.1 ha with rfl | ha
    · exact ⟨b, List.mem_cons_self, hcb⟩
    · obtain ⟨b', hb', heq⟩ := ih (mapM_eq_ok_iff.2 ‹_›) ha
      exact ⟨b', List.mem_cons_of_mem b hb', heq⟩

lemma length_of_mapM_eq_ok {ε α β : Type} {f : α → Except ε β} {list : List α} {found : List β}
    (h : list.mapM f = .ok found) : found.length = list.length :=
  (mapM_eq_ok_iff.1 h).length_eq.symm

/-- Where each step succeeds with something that fits, so does going through the list. -/
lemma exists_mapM_eq_ok {ε α β : Type} {f : α → Except ε β} {R : α → β → Prop} {list : List α}
    (h : ∀ a ∈ list, ∃ b, f a = .ok b ∧ R a b) :
    ∃ found, list.mapM f = .ok found ∧ List.Forall₂ R list found := by
  induction list with
  | nil => exact ⟨[], rfl, List.Forall₂.nil⟩
  | cons a rest ih =>
    obtain ⟨b, hb, hab⟩ := h a List.mem_cons_self
    obtain ⟨bs, hbs, hrest⟩ := ih fun c hc => h c (List.mem_cons_of_mem a hc)
    refine ⟨b :: bs, ?_, List.Forall₂.cons hab hrest⟩
    rw [List.mapM_cons, hb, hbs]
    rfl

/-- Going through a list in another order gives the same results in another order. -/
lemma exists_perm_of_mapM_eq_ok {ε α β : Type} {f : α → Except ε β} {list list' : List α}
    {found : List β} (h : list.mapM f = .ok found) (hperm : list.Perm list') :
    ∃ found', list'.mapM f = .ok found' ∧ found.Perm found' := by
  obtain ⟨found', hfound', hperm'⟩ :=
    List.perm_comp_forall₂ hperm.symm (mapM_eq_ok_iff.1 h)
  exact ⟨found', mapM_eq_ok_iff.2 hfound', hperm'.symm⟩

/-- Where no step fails, going through a list is applying a function to its members. -/
lemma mapM_eq_ok_map {ε α β : Type} {f : α → Except ε β} {g : α → β} {list : List α}
    (h : ∀ a ∈ list, f a = .ok (g a)) : list.mapM f = .ok (list.map g) := by
  rw [mapM_eq_ok_iff, List.forall₂_map_right_iff]
  exact List.forall₂_same.2 h

/-! ## Failure -/

/-- A computation does not fail, unless with a fault of a kind. -/
def FailsOnly {ε α : Type} (P : ε → Prop) (x : Except ε α) : Prop :=
  ∀ fault, x = .error fault → P fault

namespace FailsOnly

variable {ε α β : Type} {P Q : ε → Prop}

lemma mono {x : Except ε α} (h : FailsOnly P x) (himp : ∀ fault, P fault → Q fault) :
    FailsOnly Q x :=
  fun fault hfault => himp fault (h fault hfault)

@[simp] lemma ok (a : α) : FailsOnly P (.ok a) := by
  intro fault h
  cases h

@[simp] lemma pure (a : α) : FailsOnly P (Pure.pure a : Except ε α) := ok a

@[simp] lemma error_iff {fault : ε} : FailsOnly P (.error fault : Except ε α) ↔ P fault := by
  constructor
  · intro h
    exact h fault rfl
  · intro h fault' hfault
    cases hfault
    exact h

@[simp] lemma throw_bind_iff {fault : ε} {f : α → Except ε β} :
    FailsOnly P ((throw fault : Except ε α) >>= f) ↔ P fault :=
  error_iff

lemma ok_bind_iff {a : α} {f : α → Except ε β} :
    FailsOnly P ((.ok a : Except ε α) >>= f) ↔ FailsOnly P (f a) :=
  Iff.rfl

lemma bind_iff {x : Except ε α} {f : α → Except ε β} :
    FailsOnly P (x >>= f) ↔ FailsOnly P x ∧ ∀ a, x = .ok a → FailsOnly P (f a) := by
  cases x with
  | error fault =>
    have hbind : (.error fault >>= f : Except ε β) = .error fault := rfl
    simp [hbind]
  | ok a =>
    have hbind : (.ok a >>= f : Except ε β) = f a := rfl
    simp [hbind]

lemma bind {x : Except ε α} {f : α → Except ε β} (hx : FailsOnly P x)
    (hnext : ∀ a, x = .ok a → FailsOnly P (f a)) : FailsOnly P (x >>= f) :=
  bind_iff.2 ⟨hx, hnext⟩

lemma mapM {f : α → Except ε β} {list : List α} (h : ∀ a ∈ list, FailsOnly P (f a)) :
    FailsOnly P (list.mapM f) := by
  induction list with
  | nil => exact ok []
  | cons a rest ih =>
    rw [List.mapM_cons]
    refine (h a List.mem_cons_self).bind fun b _ => ?_
    refine (ih fun c hc => h c (List.mem_cons_of_mem a hc)).bind fun bs _ => ?_
    exact ok (b :: bs)

end FailsOnly

/-! ## Agreement -/

/-- Two outcomes are the same fault, or related results. -/
inductive Agree {ε α β : Type} (R : α → β → Prop) : Except ε α → Except ε β → Prop where
  /-- Both fail, with the same fault. -/
  | error (fault : ε) : Agree R (.error fault) (.error fault)
  /-- Both succeed, with related results. -/
  | ok {a : α} {b : β} (h : R a b) : Agree R (.ok a) (.ok b)

namespace Agree

variable {ε α β γ δ : Type} {R : α → β → Prop} {S : γ → δ → Prop}

lemma eq {x y : Except ε α} (h : Agree (· = ·) x y) : x = y := by
  cases h with
  | error fault => rfl
  | ok h => rw [h]

lemma mono {T : α → β → Prop} {x : Except ε α} {y : Except ε β} (h : Agree R x y)
    (himp : ∀ a b, R a b → T a b) : Agree T x y := by
  cases h with
  | error fault => exact error fault
  | ok h => exact ok (himp _ _ h)

lemma refl (x : Except ε α) : Agree (· = ·) x x := by
  cases x with
  | error fault => exact error fault
  | ok a => exact ok rfl

/-- The related results are those of the first computation. -/
lemma and_eq_ok {x : Except ε α} {y : Except ε β} (h : Agree R x y) :
    Agree (fun a b => x = .ok a ∧ R a b) x y := by
  cases h with
  | error fault => exact error fault
  | ok h => exact ok ⟨rfl, h⟩

/-- What is done next with related results agrees, too. -/
lemma bind {x : Except ε α} {y : Except ε β} {f : α → Except ε γ} {g : β → Except ε δ}
    (h : Agree R x y) (hnext : ∀ a b, R a b → Agree S (f a) (g b)) :
    Agree S (x >>= f) (y >>= g) := by
  cases h with
  | error fault => exact error fault
  | ok h => exact hnext _ _ h

/-- What is done next with one and the same result may use that it is the result. -/
lemma bind_same {x : Except ε α} {f : α → Except ε γ} {g : α → Except ε δ}
    (hnext : ∀ a, x = .ok a → Agree S (f a) (g a)) : Agree S (x >>= f) (x >>= g) := by
  refine (refl x).and_eq_ok.bind ?_
  rintro a _ ⟨ha, rfl⟩
  exact hnext a ha

lemma mapM {f : α → Except ε γ} {g : β → Except ε δ} {list : List α} {list' : List β}
    (h : List.Forall₂ R list list') (heach : ∀ a b, R a b → Agree S (f a) (g b)) :
    Agree (List.Forall₂ S) (list.mapM f) (list'.mapM g) := by
  induction h with
  | nil => exact ok List.Forall₂.nil
  | cons hab _ ih =>
    rw [List.mapM_cons, List.mapM_cons]
    refine (heach _ _ hab).bind fun c d hcd => ?_
    exact ih.bind fun cs ds hcds => ok (List.Forall₂.cons hcd hcds)

end Agree

/-- Going through a list has the same outcome with functions that are the same on its members. -/
lemma mapM_congr {ε α β : Type} {f g : α → Except ε β} {list : List α}
    (h : ∀ a ∈ list, f a = g a) : list.mapM f = list.mapM g := by
  induction list with
  | nil => rfl
  | cons a rest ih =>
    rw [List.mapM_cons, List.mapM_cons, h a List.mem_cons_self,
      ih fun b hb => h b (List.mem_cons_of_mem a hb)]

/-- Two computations have the same outcome, which is a result or a fault of a kind. -/
structure SameOutcome {ε α : Type} (P : ε → Prop) (x y : Except ε α) : Prop where
  /-- The outcome is the same. -/
  eq : x = y
  /-- If it is a fault, it is one of the kind. -/
  failsOnly : FailsOnly P y

namespace SameOutcome

variable {ε α β : Type} {P : ε → Prop}

lemma refl {x : Except ε α} (h : FailsOnly P x) : SameOutcome P x x :=
  ⟨rfl, h⟩

lemma ok (a : α) : SameOutcome P (.ok a) (.ok a) :=
  refl (FailsOnly.ok a)

lemma bind {x y : Except ε α} {f g : α → Except ε β} (h : SameOutcome P x y)
    (hnext : ∀ a, y = .ok a → SameOutcome P (f a) (g a)) :
    SameOutcome P (x >>= f) (y >>= g) := by
  obtain ⟨rfl, hfails⟩ := h
  refine ⟨?_, hfails.bind fun a ha => (hnext a ha).failsOnly⟩
  cases x with
  | error fault => rfl
  | ok a => exact (hnext a rfl).eq

lemma ite {c : Prop} [Decidable c] {x x' y y' : Except ε α} (hpos : c → SameOutcome P x x')
    (hneg : ¬ c → SameOutcome P y y') :
    SameOutcome P (if c then x else y) (if c then x' else y') := by
  by_cases h : c
  · rw [if_pos h, if_pos h]
    exact hpos h
  · rw [if_neg h, if_neg h]
    exact hneg h

/-- What follows a fault does not matter. -/
lemma throw_bind {fault : ε} (h : P fault) (f g : α → Except ε β) :
    SameOutcome P ((throw fault : Except ε α) >>= f) ((throw fault : Except ε α) >>= g) := by
  refine bind (refl (FailsOnly.error_iff.2 h)) fun a ha => ?_
  cases ha

lemma mapM {f g : α → Except ε β} {list : List α}
    (h : ∀ a ∈ list, SameOutcome P (f a) (g a)) : SameOutcome P (list.mapM f) (list.mapM g) := by
  refine ⟨mapM_congr fun a ha => (h a ha).eq, ?_⟩
  exact FailsOnly.mapM fun a ha => (h a ha).failsOnly

end SameOutcome

end Detection
