import Tilework.Artifact.Enumeration

/-!
# Records of an artifact

The records that describe tensors, memory, devices and systems, and the debug
information that accompanies every program.  Records that several others share
are stored in tables, and referred to by their position there, their handle.
-/

namespace Tilework.Artifact

/-! ## Geometry -/

/-- The version of an artifact. -/
structure Version where
  major : UInt32 := 0
  minor : UInt32 := 0
  patch : UInt32 := 0
  deriving DecidableEq, Inhabited

/-- An extent or a coordinate, the vertical part first. -/
structure Extent where
  y : Int32 := 0
  x : Int32 := 0
  deriving DecidableEq, Inhabited

/-- A rectangle of cores. -/
structure CoreRange where
  origin : Option Extent := none
  size : Option Extent := none
  deriving DecidableEq, Inhabited

/-! ## Tensors and devices -/

/-- The memory that backs a tensor on each device. -/
structure MemoryRecord where
  shape : List Int32 := []
  /-- The shape of one element, which is one by one for scalars. -/
  tileShape : Option Extent := none
  dataType : Coded DataType := default
  memorySpace : Coded MemorySpace := default
  banks : Coded (Option BankLayout) := default
  /-- The size of the whole memory in bytes. -/
  size : UInt64 := 0
  deriving DecidableEq, Inhabited

/-- The cores that hold a tensor, and the handle of the memory each of them
uses. -/
structure LayoutRecord where
  outOfBounds : Coded OutOfBounds := default
  cores : List CoreRange := []
  memory : UInt32 := 0
  deriving DecidableEq, Inhabited

/-- The shape of a tensor and the handle of its layout. -/
structure TensorDescription where
  shape : List Int32 := []
  layout : UInt32 := 0
  deriving DecidableEq, Inhabited

/-- A tensor that operations read or write. -/
structure TensorRecord where
  globalId : UInt32 := 0
  address : UInt64 := 0
  size : UInt64 := 0
  description : Option TensorDescription := none
  deriving DecidableEq, Inhabited

/-- A device, identified by the first chip that it spans. -/
structure DeviceRecord where
  globalId : UInt32 := 0
  deriving DecidableEq, Inhabited

/-- The shape of a shard. -/
structure ShardRecord where
  shape : List Int64 := []
  deriving DecidableEq, Inhabited

/-- A memory configuration, with the handle of its shard shape if it has one. -/
structure MemoryConfigRecord where
  banks : Coded (Option BankLayout) := default
  buffer : Coded Buffer := default
  shard : Option UInt32 := none
  deriving DecidableEq, Inhabited

/-- A tensor cut along one of its dimensions. -/
structure LineCut where
  dimension : UInt32 := 0
  deriving DecidableEq, Inhabited

/-- A tensor cut across both dimensions of a mesh. -/
structure MeshCut where
  mesh : Option Extent := none
  deriving DecidableEq, Inhabited

/-- The ways of distributing a tensor. -/
inductive Distribution
  | line (cut : LineCut)
  | mesh (cut : MeshCut)
  deriving DecidableEq

/-- How a tensor is distributed over the devices of a mesh, if it is. -/
structure Strategy where
  distribution : Option Distribution := none
  deriving DecidableEq, Inhabited

/-! ## Systems -/

/-- The hardware of one kind of chip. -/
structure ChipRecord where
  architecture : Coded Architecture := default
  grid : Option Extent := none
  l1Size : UInt64 := 0
  dramChannels : UInt32 := 0
  dramChannelSize : UInt64 := 0
  nocL1Alignment : UInt32 := 0
  pcieAlignment : UInt32 := 0
  nocDramAlignment : UInt32 := 0
  l1UnreservedBase : UInt32 := 0
  dramUnreservedBase : UInt32 := 0
  dataTypes : List (Coded DataType) := []
  tileSizes : List Extent := []
  deriving DecidableEq, Inhabited

/-- A link between two chips. -/
structure LinkRecord where
  firstChip : UInt32 := 0
  firstCore : Option Extent := none
  secondChip : UInt32 := 0
  secondCore : Option Extent := none
  deriving DecidableEq, Inhabited

/-- The system that an artifact was made for. -/
structure SystemRecord where
  chips : List ChipRecord := []
  /-- For each chip of the system, the position of its description. -/
  chipIndices : List UInt32 := []
  positions : List ChipPosition := []
  links : List LinkRecord := []
  deriving DecidableEq, Inhabited

/-! ## Debug information -/

/-- A named text. -/
structure Snapshot where
  name : String := ""
  source : String := ""
  deriving DecidableEq, Inhabited

/-- The expected content of a tensor, in row-major order. -/
structure GoldenRecord where
  name : String := ""
  shape : List Int64 := []
  stride : List Int64 := []
  dataType : Coded DataType := default
  data : Bytes := []
  deriving DecidableEq, Inhabited

/-- An entry of the table of expected tensors. -/
structure GoldenEntry where
  key : String := ""
  value : Option GoldenRecord := none
  deriving DecidableEq, Inhabited

/-- The table of expected tensors. -/
structure GoldenTable where
  entries : List GoldenEntry := []
  deriving DecidableEq, Inhabited

/-- The debug information that all programs share. -/
structure DebugRecord where
  /-- The module that was lowered, as text. -/
  snapshot : Option Snapshot := none
  /-- Source code generated from the same module. -/
  generatedSource : String := ""
  /-- The module after each compiler pass. -/
  passes : List Snapshot := []
  golden : Option GoldenTable := none
  deriving DecidableEq, Inhabited

end Tilework.Artifact
