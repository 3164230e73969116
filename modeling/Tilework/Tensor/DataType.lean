/-!
# Element formats

Tensors hold scalars of a data type, or tiles: fixed blocks of scalars that are
stored and moved as a unit.  Block floating-point formats share one exponent
byte among sixteen values and therefore exist only inside tiles.
-/

namespace Tilework

/-- The data types of the target devices. -/
inductive DataType
  | float32
  | float16
  | bfloat16
  | blockFloat8
  | blockBFloat8
  | blockFloat4
  | blockBFloat4
  | blockFloat2
  | blockBFloat2
  | uint32
  | uint16
  | uint8
  | int32
  deriving DecidableEq, Inhabited

namespace DataType

/-- All data types. -/
def all : List DataType :=
  [float32, float16, bfloat16, blockFloat8, blockBFloat8, blockFloat4, blockBFloat4,
    blockFloat2, blockBFloat2, uint32, uint16, uint8, int32]

/-- The short name used in printed types. -/
def text : DataType → String
  | float32 => "f32"
  | float16 => "f16"
  | bfloat16 => "bf16"
  | blockFloat8 => "bfp_f8"
  | blockBFloat8 => "bfp_bf8"
  | blockFloat4 => "bfp_f4"
  | blockBFloat4 => "bfp_bf4"
  | blockFloat2 => "bfp_f2"
  | blockBFloat2 => "bfp_bf2"
  | uint32 => "u32"
  | uint16 => "u16"
  | uint8 => "u8"
  | int32 => "si32"

/-- The bytes of one scalar.  A value of a block format has no address of its
own, and so no size. -/
def scalarBytes? : DataType → Option Nat
  | float32 | uint32 | int32 => some 4
  | float16 | bfloat16 | uint16 => some 2
  | uint8 => some 1
  | blockFloat8 | blockBFloat8 | blockFloat4 | blockBFloat4 | blockFloat2 | blockBFloat2 => none

/-- Whether the values of the format share exponents. -/
def isBlockFloat (format : DataType) : Bool :=
  format.scalarBytes?.isNone

end DataType

/-- A block of `height` by `width` scalars of one data type. -/
structure Tile where
  height : UInt32
  width : UInt32
  dataType : DataType
  deriving DecidableEq

namespace Tile

/-- The square tile of side 32 that devices use by default. -/
def standard (dataType : DataType) : Tile :=
  ⟨32, 32, dataType⟩

/-- The number of scalars in a tile. -/
def count (tile : Tile) : Nat :=
  tile.height.toNat * tile.width.toNat

/-- The bytes of one tile.  A block format adds one exponent byte for every
complete group of sixteen values. -/
def bytes (tile : Tile) : Nat :=
  match tile.dataType with
  | .blockFloat8 | .blockBFloat8 => tile.count + tile.count / 16
  | .blockFloat4 | .blockBFloat4 => tile.count / 2 + tile.count / 16
  | .blockFloat2 | .blockBFloat2 => tile.count / 4 + tile.count / 16
  | format => tile.count * format.scalarBytes?.getD 0

/-- The printed form of a tile type. -/
def text (tile : Tile) : String :=
  "!tile<" ++ toString tile.height ++ "x" ++ toString tile.width ++ ", " ++
    tile.dataType.text ++ ">"

end Tile

/-- What a buffer holds in each of its places. -/
inductive Element
  | scalar (dataType : DataType)
  | tile (block : Tile)
  deriving DecidableEq

namespace Element

/-- The data type of the scalars in an element. -/
def dataType : Element → DataType
  | .scalar dataType => dataType
  | .tile block => block.dataType

/-- The printed form of an element type. -/
def text : Element → String
  | .scalar dataType => dataType.text
  | .tile block => block.text

end Element

end Tilework
