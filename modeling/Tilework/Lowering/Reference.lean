import Tilework.Device.MemoryConfig
import Tilework.Tensor.ValueType

/-!
# References

Before it is linked, the record of an operation refers to values and memory
configurations.  A reference also says how its handle is obtained: by looking
up what an earlier operation has defined, or by defining something new.
-/

namespace Tilework

/-- What the record of an operation refers to. -/
inductive Reference
  /-- A tensor that exists already. -/
  | tensor (value : ValueId)
  /-- A device that exists already. -/
  | device (value : ValueId)
  /-- A memory configuration. -/
  | memoryConfig (config : MemoryConfig)
  /-- A result that the runtime allocates. -/
  | allocated (result : ValueId)
  /-- A result that is written into the tensor `output`. -/
  | written (output result : ValueId)
  /-- A device that is opened. -/
  | opened (result : ValueId)
  /-- The result of an operation that fails to name the tensor it has to write
  into. -/
  | unplaced (operation : String)
  deriving DecidableEq

end Tilework
