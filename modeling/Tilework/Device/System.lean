import Tilework.Tensor.DataType
import Tilework.Text

/-!
# Chips and systems

A system is a list of chip descriptions, the description that each physical chip
uses, the position of every chip in its rack, and the links between chips.
-/

namespace Tilework

/-- Chip architectures. -/
inductive Architecture
  | grayskull
  | wormholeB0
  | blackhole
  deriving DecidableEq, Inhabited

namespace Architecture

/-- All architectures. -/
def all : List Architecture :=
  [grayskull, wormholeB0, blackhole]

/-- The printed name of an architecture. -/
def text : Architecture → String
  | grayskull => "grayskull"
  | wormholeB0 => "wormhole_b0"
  | blackhole => "blackhole"

end Architecture

/-- A pair of sizes or coordinates, the vertical one first. -/
structure Cell where
  y : UInt32
  x : UInt32
  deriving DecidableEq

/-- The hardware of one kind of chip. -/
structure Chip where
  architecture : Architecture
  grid : Cell
  l1Size : UInt64
  dramChannels : UInt32
  dramChannelSize : UInt64
  nocL1Alignment : UInt32
  pcieAlignment : UInt32
  nocDramAlignment : UInt32
  l1UnreservedBase : UInt32
  dramUnreservedBase : UInt32
  dataTypes : List DataType
  tileSizes : List Cell

namespace Chip

/-- The most common chip, with a grid of eight by eight workers. -/
def wormholeB0 : Chip where
  architecture := .wormholeB0
  grid := ⟨8, 8⟩
  l1Size := 1499136
  dramChannels := 12
  dramChannelSize := 1073741824
  nocL1Alignment := 16
  pcieAlignment := 32
  nocDramAlignment := 32
  l1UnreservedBase := 1024
  dramUnreservedBase := 1024
  dataTypes :=
    [.float32, .float16, .bfloat16, .blockFloat8, .blockBFloat8, .uint32, .uint16, .uint8]
  tileSizes := [⟨32, 32⟩, ⟨16, 32⟩, ⟨4, 32⟩, ⟨2, 32⟩, ⟨1, 32⟩]

/-- The printed summary of a chip. -/
def text (chip : Chip) : String :=
  "\x7barch = " ++ chip.architecture.text ++ ", grid = " ++ toString chip.grid.y ++ "x" ++
    toString chip.grid.x ++ ", l1_size = " ++ toString chip.l1Size ++
    ", num_dram_channels = " ++ toString chip.dramChannels ++ "\x7d"

end Chip

/-- The position of a chip in a cluster. -/
structure ChipPosition where
  rack : UInt32 := 0
  shelf : UInt32 := 0
  y : UInt32 := 0
  x : UInt32 := 0
  deriving DecidableEq, Inhabited

/-- An ethernet link, given by the chip and the core at either end. -/
structure ChipLink where
  firstChip : UInt32
  firstCore : Cell
  secondChip : UInt32
  secondCore : Cell
  deriving DecidableEq

/-- A system of chips. -/
structure System where
  chips : List Chip
  chipIndices : List UInt32
  positions : List ChipPosition
  links : List ChipLink

namespace System

/-- A number of chips of one kind, side by side on one shelf. -/
def homogeneous (chip : Chip) (count : Nat) : System where
  chips := [chip]
  chipIndices := List.replicate count 0
  positions := (List.range count).map fun column => { x := UInt32.ofNat column }
  links := []

/-- One chip of the most common kind. -/
def single : System :=
  homogeneous .wormholeB0 1

/-- The printed form of a system. -/
def text (system : System) : String :=
  "#system_desc<" ++ Text.bracketed (system.chips.map Chip.text) ++ ", chips = " ++
    toString system.chipIndices.length ++ ">"

end System

end Tilework
