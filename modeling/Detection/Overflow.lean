/-
# Overflow

Sizes and indices are computed in words of the machine, and a result may not fit into its word.
What happens then is settled when the program is built: it gives up the run, or it goes on with
what is left of the result.  Definitions that compute in words take the build as an instance.

## Main definitions

* `Build`: what the program was built to do.
* `Build.natural`, `Build.int64`, `Build.int32`: results in words of 64 and 32 bits.
* `Build.product`, `Build.sum`: products and sums of numbers of 64 bits.
* `Build.kept`: what is left of a number in a word.
-/
import Detection.Fault
import Detection.Number.Binary

namespace Detection

/-- What happens when a result does not fit into its word. -/
inductive Overflow where
  /-- The run is given up. -/
  | caught
  /-- What does not fit is cut off. -/
  | wrapped
deriving DecidableEq, Repr

/-- What the program was built to do. -/
class Build where
  /-- What happens at an overflow. -/
  overflow : Overflow

/-- The program that is run gives up.  Whatever does not name a build is about this one. -/
instance : Build := ⟨.caught⟩

/-! ## Casts -/

/-- A number of 64 bits, taken for one with a sign. -/
def asInt64 (n : Nat) : Int :=
  (n : Int).bmod UInt64.size

/-- The last 32 bits of a number, taken for a number with a sign. -/
def asInt32 (n : Nat) : Int :=
  (n : Int).bmod UInt32.size

theorem asInt64_of_le {n : Nat} (h : (n : Int) ≤ maxInt64) : asInt64 n = n := by
  unfold maxInt64 at h
  exact Int.bmod_eq_of_le (by simp [UInt64.size]) (by simp [UInt64.size]; omega)

theorem asInt32_of_le {n : Nat} (h : (n : Int) ≤ maxInt32) : asInt32 n = n := by
  unfold maxInt32 at h
  exact Int.bmod_eq_of_le (by simp [UInt32.size]) (by simp [UInt32.size]; omega)

namespace Build

variable [Build]

/-! ## Results in words -/

/-- What is left of a result in its word, unless the run is given up because it does not fit. -/
def fitted {α : Type} (fits : Bool) (left : α) : Except Fault α :=
  if !fits && overflow = .caught then .error .overflow else .ok left

/-- A result of 64 bits without a sign. -/
def natural (n : Int) : Except Fault Nat :=
  let left := n % UInt64.size
  fitted (left == n) left.toNat

/-- A result of 64 bits with a sign. -/
def int64 (n : Int) : Except Fault Int :=
  let left := n.bmod UInt64.size
  fitted (left == n) left

/-- A result of 32 bits with a sign. -/
def int32 (n : Int) : Except Fault Int :=
  let left := n.bmod UInt32.size
  fitted (left == n) left

/-- The product of several numbers, which are multiplied one after the other. -/
def product (factors : List Nat) : Except Fault Nat :=
  factors.foldlM (fun total factor => natural (total * factor : Nat)) 1

/-- The sum of several numbers, which are added one after the other. -/
def sum (terms : List Nat) : Except Fault Nat :=
  terms.foldlM (fun total term => natural (total + term : Nat)) 0

/-- What is left of a number in a word of 64 bits.  The build that gives up has done so before, if
the number does not fit. -/
def kept (n : Nat) : Nat :=
  match overflow with
  | .caught => n
  | .wrapped => n % UInt64.size

end Build

end Detection
