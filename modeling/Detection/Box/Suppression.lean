/-
# Suppressing boxes that overlap better ones

Of the boxes of one class only those are kept that do not overlap a better kept box too much.
Boxes are gone through from the best to the worst, and the order in which they were given
decides between equals.

## Main definitions

* `sieve`: keeps what no earlier kept element excludes.
* `prioritised`: the boxes of a class from the best to the worst.
* `suppressBy`: the sieve applied class by class, the classes in ascending order.
-/
import Detection.Ascending
import Detection.Box.Overlap

namespace Detection

/-! ## The sieve -/

/-- What a sieve keeps of a list, given what it has kept before. -/
def sieveFrom {α : Type} (excludes : α → α → Bool) (kept : List α) : List α → List α
  | [] => []
  | a :: rest =>
    if kept.any (excludes · a) then
      sieveFrom excludes kept rest
    else
      a :: sieveFrom excludes (a :: kept) rest

/-- The elements that no element kept before them excludes. -/
def sieve {α : Type} (excludes : α → α → Bool) (candidates : List α) : List α :=
  sieveFrom excludes [] candidates

/-- The sieve takes from the list and keeps its order. -/
theorem sieveFrom_sublist {α : Type} (excludes : α → α → Bool) (kept candidates : List α) :
    (sieveFrom excludes kept candidates).Sublist candidates := by
  induction candidates generalizing kept with
  | nil => exact List.Sublist.refl _
  | cons a rest ih =>
    unfold sieveFrom
    split
    · exact (ih kept).cons a
    · exact (ih (a :: kept)).cons_cons a

/-- What was kept before excludes nothing that is kept later. -/
theorem excludes_eq_false_of_mem_sieveFrom {α : Type} {excludes : α → α → Bool}
    {kept candidates : List α} {k a : α} (hk : k ∈ kept)
    (ha : a ∈ sieveFrom excludes kept candidates) : excludes k a = false := by
  induction candidates generalizing kept with
  | nil => simp [sieveFrom] at ha
  | cons b rest ih =>
    unfold sieveFrom at ha
    split at ha
    · exact ih hk ha
    · rename_i h
      rcases List.mem_cons.1 ha with rfl | ha
      · simp only [List.any_eq_true, not_exists, not_and, Bool.not_eq_true] at h
        exact h k hk
      · exact ih (List.mem_cons_of_mem b hk) ha

namespace Box

/-! ## Boxes of one class -/

/-- Whether a box overlaps a better one more than is allowed. -/
def excludes (measure : OverlapMeasure) (threshold : Float32) (better worse : Box) : Bool :=
  threshold < overlap measure better worse

/-- The boxes that do not overlap an earlier kept one too much, whatever their classes. -/
def filterOverlapping (measure : OverlapMeasure) (threshold : Float32) (boxes : List Box) :
    List Box :=
  sieve (excludes measure threshold) boxes

/-- Boxes from the highest priority to the lowest; equal priorities keep their order. -/
def prioritised (priority : Box → Float32) (boxes : List Box) : List Box :=
  boxes.mergeSort fun a b => rank (priority b) ≤ rank (priority a)

/-- The proper boxes of a class, in the order given. -/
def ofClass (classId : Nat) (boxes : List Box) : List Box :=
  boxes.filter fun b => !b.isDegenerate && b.classId == classId

/-! ## Boxes of all classes -/

/-- The classes of the proper boxes, each once, in ascending order. -/
def classes (boxes : List Box) : List Nat :=
  ascending ((boxes.filter fun b => !b.isDegenerate).map (·.classId))

/-- The proper boxes that are kept when each class is gone through by falling priority, one
class after the other in ascending order. -/
def suppressBy (priority : Box → Float32) (measure : OverlapMeasure) (threshold : Float32)
    (boxes : List Box) : List Box :=
  (classes boxes).flatMap fun classId =>
    filterOverlapping measure threshold (prioritised priority (ofClass classId boxes))

/-- The boxes kept when the higher score goes first. -/
def suppress (measure : OverlapMeasure) (threshold : Float32) (boxes : List Box) : List Box :=
  suppressBy (·.score) measure threshold boxes

/-- The boxes kept when the larger area goes first. -/
def suppressByArea (measure : OverlapMeasure) (threshold : Float32) (boxes : List Box) :
    List Box :=
  suppressBy area measure threshold boxes

end Box

end Detection
