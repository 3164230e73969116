import Tilework.Tensor.DataType
import Tilework.Text

/-!
# Where a tensor lives

The placement of a tensor names the grid of cores that hold it, the memory that
each of them uses, and how its pages are spread over the memory banks.
-/

namespace Tilework

/-- The memories in which a buffer can be allocated. -/
inductive Buffer
  | systemMemory
  | dram
  | l1
  | l1Small
  | trace
  deriving DecidableEq, Inhabited

namespace Buffer

/-- All memories. -/
def all : List Buffer :=
  [systemMemory, dram, l1, l1Small, trace]

/-- The printed name of a memory. -/
def text : Buffer → String
  | systemMemory => "system_memory"
  | dram => "dram"
  | l1 => "l1"
  | l1Small => "l1_small"
  | trace => "trace"

end Buffer

/-- How the pages of a tensor are spread over memory banks. -/
inductive BankLayout
  | singleBank
  | interleaved
  | heightSharded
  | widthSharded
  | blockSharded
  deriving DecidableEq, Inhabited

namespace BankLayout

/-- All bank layouts. -/
def all : List BankLayout :=
  [singleBank, interleaved, heightSharded, widthSharded, blockSharded]

/-- The printed name of a bank layout. -/
def text : BankLayout → String
  | singleBank => "single_bank"
  | interleaved => "interleaved"
  | heightSharded => "height_sharded"
  | widthSharded => "width_sharded"
  | blockSharded => "block_sharded"

end BankLayout

/-- The logical format of a tensor. -/
inductive DataFormat
  | rowMajor
  | tile
  | invalid
  deriving DecidableEq, Inhabited

namespace DataFormat

/-- All logical formats. -/
def all : List DataFormat :=
  [rowMajor, tile, invalid]

/-- The printed name of a logical format. -/
def text : DataFormat → String
  | rowMajor => "row_major"
  | tile => "tile"
  | invalid => "invalid"

end DataFormat

/-- The memory that each device sets aside for a tensor.  The shape counts
elements, which may be tiles. -/
structure MemoryRegion where
  shape : List Int64
  element : Element
  buffer : Buffer
  deriving DecidableEq

namespace MemoryRegion

/-- The printed form of a memory region. -/
def text (region : MemoryRegion) : String :=
  "memref<" ++ String.join (region.shape.map fun size => toString size ++ "x") ++
    region.element.text ++ ", #" ++ region.buffer.text ++ ">"

end MemoryRegion

/-- The extent of a grid of cores. -/
structure CoreGrid where
  rows : UInt32
  columns : UInt32
  deriving DecidableEq

namespace CoreGrid

/-- The printed form of a grid. -/
def text (grid : CoreGrid) : String :=
  "<" ++ toString grid.rows ++ "x" ++ toString grid.columns ++ ">"

end CoreGrid

/-- The placement of a tensor.  Tensors on the host have no bank layout. -/
structure Placement where
  grid : CoreGrid
  region : MemoryRegion
  banks : Option BankLayout
  deriving DecidableEq

namespace Placement

/-- The printed form of a placement. -/
def text (placement : Placement) : String :=
  "#layout<" ++ Text.commas ([placement.grid.text, placement.region.text] ++
    placement.banks.toList.map BankLayout.text) ++ ">"

end Placement

end Tilework
