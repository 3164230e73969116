import Tilework.Artifact.Record
import Tilework.Lowering.Error

/-!
# Golden tensors

A golden tensor is the expected content of a tensor, stored in row-major order.
It is made from one value for each place of its shape.
-/

namespace Tilework

open Artifact

/-- The values of a golden tensor.  Half precision numbers are given by their
bits. -/
inductive GoldenValues
  | float32 (values : List Single)
  | float16 (values : List UInt16)
  | bfloat16 (values : List UInt16)
  | int32 (values : List Int32)
  | uint32 (values : List UInt32)
  | uint16 (values : List UInt16)
  | uint8 (values : List UInt8)

namespace GoldenValues

/-- The data type of the values. -/
def dataType : GoldenValues → DataType
  | float32 _ => .float32
  | float16 _ => .float16
  | bfloat16 _ => .bfloat16
  | int32 _ => .int32
  | uint32 _ => .uint32
  | uint16 _ => .uint16
  | uint8 _ => .uint8

/-- The bytes of one value. -/
def width : GoldenValues → Nat
  | float32 _ | int32 _ | uint32 _ => 4
  | float16 _ | bfloat16 _ | uint16 _ => 2
  | uint8 _ => 1

/-- The values as unsigned numbers with the same bits. -/
def words : GoldenValues → List Nat
  | float32 values => values.map fun value => value.bits.toNat
  | float16 values | bfloat16 values | uint16 values => values.map UInt16.toNat
  | int32 values => values.map fun value => value.toUInt32.toNat
  | uint32 values => values.map UInt32.toNat
  | uint8 values => values.map UInt8.toNat

/-- The values in order, each with its least significant byte first. -/
def bytes (values : GoldenValues) : Bytes :=
  values.words.flatMap (Bytes.littleEndian values.width)

end GoldenValues

/-- The expected content of a tensor. -/
structure GoldenTensor where
  name : String
  shape : List Int64
  stride : List Int64
  dataType : DataType
  data : Bytes
  deriving DecidableEq

namespace GoldenTensor

/-- The number of places of a shape, unless a size is negative or the number
overflows on the way. -/
def places? (shape : List Int64) : Option Nat :=
  shape.foldlM
    (fun count size =>
      if 0 ≤ size.toInt ∧ count * size.toInt.toNat < UInt64.size then
        some (count * size.toInt.toNat)
      else none)
    1

/-- The distance between neighbours along each dimension, in row-major order. -/
def rowMajorStrides : List Int64 → List Int64
  | [] => []
  | _ :: later => later.foldr (fun size stride => stride * size) 1 :: rowMajorStrides later

/-- The tensor of a given name and shape with one value for each place. -/
def ofValues (name : String) (shape : List Int64) (values : GoldenValues) :
    Except LoweringError GoldenTensor :=
  if places? shape = some values.words.length then
    .ok
      { name, shape, stride := rowMajorStrides shape
        dataType := values.dataType, data := values.bytes }
  else .error (.invalidGolden name shape values.words.length ((places? shape).getD 0))

/-- The record of a golden tensor. -/
def record (tensor : GoldenTensor) : GoldenRecord where
  name := tensor.name
  shape := tensor.shape
  stride := tensor.stride
  dataType := .of tensor.dataType
  data := tensor.data

end GoldenTensor

end Tilework
