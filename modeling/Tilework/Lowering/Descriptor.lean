import Tilework.Lowering.Cores
import Tilework.Lowering.Interner

/-!
# Records of tensors, memory, devices and systems

A tensor refers to its layout, and a layout to the memory that backs it.  Both
are interned by content, so tensors that are placed alike share them.
-/

namespace Tilework

open Artifact

/-! ## Memory -/

/-- The memory space of a buffer that can hold tensors. -/
def Buffer.memorySpace : Buffer → Except LoweringError MemorySpace
  | .systemMemory => .ok .system
  | .dram => .ok .deviceDram
  | .l1 => .ok .deviceL1
  | buffer => .error (.unsupportedBuffer buffer)

/-- The shape of an element in scalars, and its bytes. -/
def Element.extent : Element → Except LoweringError (Extent × Nat)
  | .scalar dataType =>
      match dataType.scalarBytes? with
      | some bytes => .ok ({ y := 1, x := 1 }, bytes)
      | none => .error (.blockFloatScalar dataType)
  | .tile block => do
      let y ← Number.toInt32 "tile height" block.height.toNat
      let x ← Number.toInt32 "tile width" block.width.toNat
      pure ({ y, x }, block.bytes)

/-- Multiply a number of bytes by a size, within 64 bits. -/
def scaleBytes (bytes : Nat) (size : Int64) : Except LoweringError Nat :=
  if size.toInt < 0 then .error (.outOfRange "memref shape" size.toInt)
  else
    let scaled := bytes * size.toInt.toNat
    if scaled < UInt64.size then .ok scaled
    else .error (.outOfRange "memref size" Int64.maxValue.toInt)

/-- The record of a memory region. -/
def MemoryRegion.record (region : MemoryRegion) (banks : Option BankLayout) :
    Except LoweringError MemoryRecord := do
  let (tileShape, elementBytes) ← region.element.extent
  let bytes ← region.shape.foldlM scaleBytes elementBytes
  let shape ← Number.toInt32s "memref shape" region.shape
  let space ← region.buffer.memorySpace
  pure
    { shape
      tileShape := some tileShape
      dataType := .of region.element.dataType
      memorySpace := .of space
      banks := .of banks
      size := UInt64.ofNat bytes }

/-! ## Tensors -/

/-- The record of a placement. -/
def Placement.record (workers : WorkerGrid) (placement : Placement) :
    Interning LayoutRecord := do
  let cores ← placement.grid.coreRanges workers
  let memory ← Interning.intern .memories (.region placement.region placement.banks)
    (placement.region.record placement.banks)
  pure { outOfBounds := .of .undefined, cores, memory }

/-- The record of a tensor with a given address and size in bytes. -/
def TensorType.record (workers : WorkerGrid) (type : TensorType) (address size : UInt64) :
    Interning TensorRecord := do
  let layout ← Interning.intern .layouts (.placement type.placement)
    (type.placement.record workers)
  let shape ← Number.toInt32s "tensor shape" type.shape
  let globalId ← Interning.freshGlobalId
  pure { globalId, address, size, description := some { shape, layout } }

/-! ## Devices and memory configurations -/

/-- The record of a device. -/
def DeviceType.record (type : DeviceType) : Except LoweringError DeviceRecord :=
  match type.chips with
  | [] => .error .emptyDevice
  | chip :: _ => .ok { globalId := chip }

/-- The record of a memory configuration, whose shard shape is interned. -/
def MemoryConfig.record (config : MemoryConfig) : Interning MemoryConfigRecord := do
  let shard ← config.shardShape.mapM fun shape =>
    Interning.intern .shards (.shard shape) (pure { shape })
  pure { banks := .of (some config.banks), buffer := .of config.buffer, shard }

/-! ## Systems -/

/-- A pair of numbers in 32 bits. -/
def Cell.record (name : String) (cell : Cell) : Except LoweringError Extent := do
  let y ← Number.toInt32 name cell.y.toNat
  let x ← Number.toInt32 name cell.x.toNat
  pure { y, x }

/-- The record of a chip. -/
def Chip.record (chip : Chip) : Except LoweringError ChipRecord := do
  let grid ← chip.grid.record "grid size"
  let tileSizes ← chip.tileSizes.mapM (Cell.record "tile size")
  pure
    { architecture := .of chip.architecture
      grid := some grid
      l1Size := chip.l1Size
      dramChannels := chip.dramChannels
      dramChannelSize := chip.dramChannelSize
      nocL1Alignment := chip.nocL1Alignment
      pcieAlignment := chip.pcieAlignment
      nocDramAlignment := chip.nocDramAlignment
      l1UnreservedBase := chip.l1UnreservedBase
      dramUnreservedBase := chip.dramUnreservedBase
      dataTypes := chip.dataTypes.map .of
      tileSizes }

/-- The record of a link. -/
def ChipLink.record (link : ChipLink) : Except LoweringError LinkRecord := do
  let firstCore ← link.firstCore.record "ethernet core"
  let secondCore ← link.secondCore.record "ethernet core"
  pure
    { firstChip := link.firstChip
      firstCore := some firstCore
      secondChip := link.secondChip
      secondCore := some secondCore }

/-- The record of a system. -/
def System.record (system : System) : Except LoweringError SystemRecord := do
  let chips ← system.chips.mapM Chip.record
  let links ← system.links.mapM ChipLink.record
  pure { chips, chipIndices := system.chipIndices, positions := system.positions, links }

end Tilework
