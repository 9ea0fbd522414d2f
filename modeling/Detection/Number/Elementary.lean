/-
# Elementary functions

The arithmetic of floating-point numbers is settled to the last digit; the exponential function
and the logarithm are not.  They are therefore taken from outside: what needs them works with
any functions in their place, and what is said about it says what it assumes of them.

## Main definitions

* `Elementary`: the functions taken from outside.
* `logistic`: the logistic function, computed with them.
-/
import Detection.Number.Binary

namespace Detection

/-- The elementary functions that decoding needs. -/
class Elementary where
  /-- The exponential function of 32 bits. -/
  exp32 : Float32 → Float32
  /-- The exponential function of 64 bits. -/
  exp64 : Float → Float
  /-- The logarithm to the base two, of 32 bits. -/
  log2 : Float32 → Float32

/-- The logistic function, which squeezes an activation into the unit interval. -/
def logistic [Elementary] (x : Float32) : Float32 :=
  1.0 / (1.0 + Elementary.exp32 (-x))

end Detection
