import Tilework.Tensor.Placement

/-!
# Memory configurations

An operation may ask for its result to be stored in a given memory and bank
layout.  When the layout is sharded, the request can fix the shape of the shard
that each core holds.
-/

namespace Tilework

/-- A requested memory configuration. -/
structure MemoryConfig where
  banks : BankLayout
  buffer : Buffer
  shardShape : Option (List Int64) := none
  deriving DecidableEq

namespace MemoryConfig

/-- The printed form of a memory configuration. -/
def text (config : MemoryConfig) : String :=
  let shard := config.shardShape.toList.map fun shape =>
    "<" ++ Text.crossed (shape.map toString) ++ ">"
  "#memory_config<" ++
    Text.commas ([config.banks.text, "#" ++ config.buffer.text] ++ shard) ++ ">"

end MemoryConfig

end Tilework
