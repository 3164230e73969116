import Tilework.Artifact.OperationRecord

/-!
# Binary artifacts

An artifact holds a description of the system it was made for, the tables of
shared records, and one program for each function.
-/

namespace Tilework.Artifact

/-- The position of a record in its table. -/
abbrev Handle := UInt32

/-- The tables of shared records. -/
structure ObjectTables where
  tensors : List TensorRecord := []
  devices : List DeviceRecord := []
  layouts : List LayoutRecord := []
  memories : List MemoryRecord := []
  memoryConfigs : List MemoryConfigRecord := []
  shards : List ShardRecord := []
  debugInfos : List DebugRecord := []
  deriving DecidableEq, Inhabited

/-- An operation of a program, with the text and the location of the instruction
that it was made from. -/
structure OperationEntry where
  record : Option (OperationRecord Handle) := none
  debugText : String := ""
  locationText : String := ""
  deriving Inhabited

/-- A program.  Inputs and outputs are handles of tensors. -/
structure Program where
  name : String := ""
  inputs : List Handle := []
  outputs : List Handle := []
  operations : List OperationEntry := []
  debugInfo : Handle := 0
  deriving Inhabited

/-- A whole artifact. -/
structure Binary where
  version : Option Version := none
  buildIdentity : String := ""
  system : Option SystemRecord := none
  objects : Option ObjectTables := none
  programs : List Program := []
  deriving Inhabited

/-! ## Tables -/

/-- The tables of shared records. -/
inductive Table
  | tensors
  | devices
  | layouts
  | memories
  | memoryConfigs
  | shards
  | debugInfos
  deriving DecidableEq

namespace Table

/-- All tables. -/
def all : List Table :=
  [tensors, devices, layouts, memories, memoryConfigs, shards, debugInfos]

/-- The name of a table in messages. -/
def text : Table → String
  | tensors => "tensor_refs"
  | devices => "device_refs"
  | layouts => "layout_descs"
  | memories => "memory_descs"
  | memoryConfigs => "memory_configs"
  | shards => "shard_specs"
  | debugInfos => "debug_infos"

/-- The type of the records in a table. -/
abbrev Record : Table → Type
  | tensors => TensorRecord
  | devices => DeviceRecord
  | layouts => LayoutRecord
  | memories => MemoryRecord
  | memoryConfigs => MemoryConfigRecord
  | shards => ShardRecord
  | debugInfos => DebugRecord

end Table

namespace ObjectTables

/-- The records of a table. -/
def records (objects : ObjectTables) : (table : Table) → List table.Record
  | .tensors => objects.tensors
  | .devices => objects.devices
  | .layouts => objects.layouts
  | .memories => objects.memories
  | .memoryConfigs => objects.memoryConfigs
  | .shards => objects.shards
  | .debugInfos => objects.debugInfos

end ObjectTables

end Tilework.Artifact
