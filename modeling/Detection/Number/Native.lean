/-
# The elementary functions of the machine

These are the functions of the mathematical library that the program is linked with.
-/
import Detection.Number.Elementary

namespace Detection

instance : Elementary where
  exp32 := Float32.exp
  exp64 := Float.exp
  log2 := Float32.log2

end Detection
