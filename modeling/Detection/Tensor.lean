/-
# Tensors

A tensor is a flat buffer with a shape.  Nothing ties the two together: who reads a tensor
first makes sure that the buffer reaches as far as will be read.
-/
import Detection.Picture.Basic

namespace Detection

/-- The elements of a tensor. -/
inductive TensorData where
  /-- Numbers of 32 bits. -/
  | float (values : Array Float32)
  /-- Integers of 64 bits. -/
  | integer (values : Array Int64)
deriving DecidableEq

/-- A flat buffer with a shape. -/
structure Tensor where
  /-- The extents of the dimensions, the outermost first. -/
  shape : List Nat
  /-- The elements. -/
  data : TensorData
deriving DecidableEq

/-- The product of a list of extents. -/
def extentProduct (extents : List Nat) : Nat :=
  extents.foldl (· * ·) 1

namespace Tensor

/-- The tensor of a shape whose elements are all zero. -/
def zeros (shape : List Nat) : Tensor :=
  ⟨shape, .float (Array.replicate (extentProduct shape) 0.0)⟩

/-- The number of elements that the shape describes. -/
def elementCount (t : Tensor) : Nat :=
  extentProduct t.shape

/-- The number of elements in the buffer. -/
def size (t : Tensor) : Nat :=
  match t.data with
  | .float values => values.size
  | .integer values => values.size

/-- The name of the kind of the elements. -/
def typeName (t : Tensor) : String :=
  match t.data with
  | .float _ => "float32"
  | .integer _ => "int64"

/-- The elements as numbers; there has to be one. -/
def floats (t : Tensor) : Except Fault (Array Float32) :=
  match t.data with
  | .float values => if values.isEmpty then .error (.tensor .empty) else .ok values
  | .integer _ => .error (.tensor .notFloat)

/-- The elements as integers; there has to be one. -/
def integers (t : Tensor) : Except Fault (Array Int64) :=
  match t.data with
  | .integer values => if values.isEmpty then .error (.tensor .empty) else .ok values
  | .float _ => .error (.tensor .notInteger)

end Tensor

/-- A buffer that reaches as far as an index. -/
def covering {α : Type} (index : Nat) (values : Array α) : Except Fault (Array α) :=
  if values.size ≤ index then .error (.tensor (.short values.size index)) else .ok values

/-- The element of a buffer at an index. -/
def element {α : Type} (values : Array α) (index : Nat) : Except Fault α :=
  match values[index]? with
  | some value => .ok value
  | none => .error (.tensor (.outside values.size index))

/-- A covered index can be read. -/
theorem element_of_lt {α : Type} {values : Array α} {index : Nat} (h : index < values.size) :
    element values index = .ok values[index] := by
  simp [element, h]

namespace Tensor

/-- The elements as numbers, reaching as far as an index. -/
def floatsCovering (t : Tensor) (index : Nat) : Except Fault (Array Float32) := do
  covering index (← t.floats)

/-- The elements as integers, reaching as far as an index. -/
def integersCovering (t : Tensor) (index : Nat) : Except Fault (Array Int64) := do
  covering index (← t.integers)

end Tensor

/-- The tensor of an index. -/
def tensorAt (tensors : List Tensor) (index : Nat) : Except Fault Tensor :=
  match tensors[index]? with
  | some tensor => .ok tensor
  | none => .error (.tensor (.missing index tensors.length))

/-- The tensors of one inference and the picture they belong to. -/
structure Frame where
  /-- The outputs of the model. -/
  tensors : List Tensor
  /-- The picture. -/
  picture : Picture
deriving DecidableEq

/-- The shapes of a frame's tensors. -/
def Frame.shapes (f : Frame) : List (List Nat) :=
  f.tensors.map (·.shape)

end Detection
