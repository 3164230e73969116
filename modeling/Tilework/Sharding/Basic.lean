import Tilework.Number.Checked
import Tilework.Text

/-!
# Shardings of tensors over a mesh

A sharding says how a tensor is laid out over a two-dimensional mesh of devices:
the number of ways in which every axis is split, the mesh, and the axis that
each mesh dimension splits.  This file holds the data and the ways in which
reading a sharding or completing it can fail.
-/

namespace Tilework

/-- The kinds of sharding. -/
inductive ShardKind
  /-- The tensor has been sharded by hand and is passed through. -/
  | manual
  /-- Every device holds the whole tensor. -/
  | replicate
  /-- One device holds the whole tensor. -/
  | maximal
  /-- The tensor is split over the devices of a mesh. -/
  | devices
  deriving DecidableEq, Inhabited

namespace ShardKind

/-- All kinds of sharding. -/
def all : List ShardKind :=
  [manual, replicate, maximal, devices]

/-- The printed name of a kind. -/
def text : ShardKind → String
  | manual => "manual"
  | replicate => "replicate"
  | maximal => "maximal"
  | devices => "devices"

end ShardKind

/-- A sharding.  The field `shardDims` has an entry for each mesh dimension: the
axis split along it, or `-1` when there is none. -/
structure Sharding where
  kind : ShardKind := .manual
  shardShape : List Int64 := []
  meshShape : List Int64 := []
  shardDims : List Int64 := []
  /-- Whether the last entry of the written shard shape counts replicas. -/
  lastTileReplicates : Bool := false
  /-- Whether the mesh has been taken to be a line of devices. -/
  isLine : Bool := false
  deriving DecidableEq, Inhabited

namespace Sharding

/-- Whether the tensor is split over devices. -/
def splitsDevices (sharding : Sharding) : Bool :=
  sharding.kind == .devices

/-- The number of devices in the mesh of a sharding that has one. -/
def deviceCount? (sharding : Sharding) : Option Int64 :=
  if sharding.splitsDevices then Number.product? sharding.meshShape else none

end Sharding

/-- How far a sharding annotation has been read. -/
inductive ShardingProgress
  | start
  | manual
  | replicated
  /-- After `maximal`, before the device that has to follow. -/
  | awaitingDevice
  | maximal
  | devices
  deriving DecidableEq

namespace ShardingProgress

/-- How messages refer to the last token read. -/
def text : ShardingProgress → String
  | start => "start of sharding"
  | manual => "'manual'"
  | replicated => "'replicated'"
  | awaitingDevice => "'maximal'"
  | maximal => "'device='"
  | devices => "'devices='"

end ShardingProgress

/-- Why an annotation is rejected, or a sharding cannot be completed. -/
inductive ShardingError
  | missingBraces (input : String)
  | unexpectedToken (token : String) (progress : ShardingProgress)
  | missingMaximalDevice
  | invalidInteger (text : String)
  | invalidDimensions (text : String)
  | meshTooLarge (mesh : List Int64)
  | unsupportedMeshRank (mesh : List Int64)
  | tooManyShardedAxes (shards mesh : List Int64)
  | shardMeshMismatch (axis : Nat) (shardSize : Int64) (dimension : Nat) (meshSize : Int64)
  deriving DecidableEq

namespace ShardingError

/-- The message of an error. -/
def message : ShardingError → String
  | missingBraces input =>
      "sharding string '" ++ input ++ "' must be enclosed in '\x7b' and '\x7d'"
  | unexpectedToken token progress =>
      "unexpected token '" ++ token ++ "' after " ++ progress.text
  | missingMaximalDevice => "'maximal' must be followed by a 'device=<id>' token"
  | invalidInteger text => "invalid integer '" ++ text ++ "' in sharding string"
  | invalidDimensions text =>
      "invalid dimension list '" ++ text ++ "', expected '[d0,d1,...]'"
  | meshTooLarge mesh =>
      "device mesh " ++ Text.sizes mesh ++ " has more devices than can be represented"
  | unsupportedMeshRank mesh =>
      "device mesh " ++ Text.sizes mesh ++ " must have exactly 2 dimensions"
  | tooManyShardedAxes shards mesh =>
      "shard shape " ++ Text.sizes shards ++ " shards more axes than mesh " ++
        Text.sizes mesh ++ " has dimensions"
  | shardMeshMismatch axis shardSize dimension meshSize =>
      "tensor axis #" ++ toString axis ++ " is split " ++ toString shardSize ++
        " ways, but mesh dimension #" ++ toString dimension ++ " has size " ++
        toString meshSize

end ShardingError

end Tilework
