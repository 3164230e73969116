import Tilework.Number.Checked
import Tilework.Tensor.Placement

/-!
# Types of values

A value of a device program is a tensor or a device.  A device stands for the
chips that it spans, arranged in a logical mesh.
-/

namespace Tilework

/-- The type of a tensor. -/
structure TensorType where
  shape : List Int64
  dataType : DataType
  placement : Placement
  deriving DecidableEq

namespace TensorType

/-- The number of dimensions. -/
def rank (type : TensorType) : Nat :=
  type.shape.length

/-- The printed form of a tensor type. -/
def text (type : TensorType) : String :=
  "tensor<" ++ String.join (type.shape.map fun size => toString size ++ "x") ++
    type.dataType.text ++ ", " ++ type.placement.text ++ ">"

end TensorType

/-- The type of a device. -/
structure DeviceType where
  chips : List UInt32
  mesh : List Int64
  deriving DecidableEq

namespace DeviceType

/-- The number of devices in the mesh, unless it overflows. -/
def meshVolume? (type : DeviceType) : Option Int64 :=
  Number.product? type.mesh

/-- The printed form of a device type. -/
def text (type : DeviceType) : String :=
  "!device<mesh = " ++ Text.crossed (type.mesh.map toString) ++ ", chips = " ++
    Text.bracketed (type.chips.map toString) ++ ">"

end DeviceType

/-- The type of a value. -/
inductive ValueType
  | tensor (type : TensorType)
  | device (type : DeviceType)
  deriving DecidableEq

namespace ValueType

/-- The printed form of a type. -/
def text : ValueType → String
  | tensor type => type.text
  | device type => type.text

end ValueType

/-- A value of a module, named by its position in the module's table of values. -/
structure ValueId where
  index : Nat
  deriving DecidableEq

namespace ValueId

/-- The printed name of a value. -/
def text (value : ValueId) : String :=
  "%" ++ toString value.index

end ValueId

end Tilework
