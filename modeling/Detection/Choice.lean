/-
# Choosing the best of several scores
-/
import Detection.Number.Binary

namespace Detection

/-- The best score so far and its index, after the scores from an index on. -/
def bestFrom (best : Option Nat × Float32) (index : Nat) : List Float32 → Option Nat × Float32
  | [] => best
  | score :: rest =>
    if best.2 < score then
      bestFrom (some index, score) (index + 1) rest
    else
      bestFrom best (index + 1) rest

/-- The first of the greatest scores above a bound, with its index; without one, the bound.
Missing scores are passed over. -/
def bestAbove (bound : Float32) (scores : List Float32) : Option Nat × Float32 :=
  bestFrom (none, bound) 0 scores

end Detection
