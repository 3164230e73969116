import Tilework.Artifact.Binary
import Tilework.Lowering.Error

/-!
# Interning

Shared records are built once for each key: the value that a record describes,
or the content that it was made from.  The interner keeps the rows of every
table together with their keys, newest first, so the handle of a row is the
number of rows older than it.

Building a record may intern other records.  A build that fails leaves the rows
that were added on its way, but none for its own key.
-/

namespace Tilework

open Artifact

/-- What a shared record was made from. -/
inductive Key
  /-- A tensor or a device. -/
  | value (id : ValueId)
  | placement (place : Placement)
  /-- A memory region, with the bank layout of the placement it belongs to. -/
  | region (memory : MemoryRegion) (banks : Option BankLayout)
  | memoryConfig (config : MemoryConfig)
  | shard (shape : List Int64)
  | debugInfo
  deriving DecidableEq

namespace Key

/-- How messages refer to a key. -/
def text : Key → String
  | .value id => id.text
  | .placement place => place.text
  | .region memory (some banks) => memory.text ++ " (" ++ banks.text ++ ")"
  | .region memory none => memory.text
  | .memoryConfig config => config.text
  | .shard shape => "#shard_spec<" ++ Text.sizes shape ++ ">"
  | .debugInfo => "#debug_info"

end Key

/-- A table under construction: its rows and their keys, newest first. -/
abbrev Rows (ρ : Type) := List (Key × ρ)

namespace Rows

variable {ρ : Type}

/-- The position of the newest row with a given key. -/
def position? (key : Key) : Rows ρ → Option Nat
  | [] => none
  | (other, _) :: older =>
      if other = key then some older.length else position? key older

/-- The records, oldest first. -/
def records (rows : Rows ρ) : List ρ :=
  rows.reverse.map Prod.snd

end Rows

/-- The tables under construction, and the next number for a tensor. -/
structure Interner where
  tensors : Rows TensorRecord := []
  devices : Rows DeviceRecord := []
  layouts : Rows LayoutRecord := []
  memories : Rows MemoryRecord := []
  memoryConfigs : Rows MemoryConfigRecord := []
  shards : Rows ShardRecord := []
  debugInfos : Rows DebugRecord := []
  nextGlobalId : UInt32 := 0

namespace Interner

/-- The rows of a table. -/
def rows (interner : Interner) : (table : Table) → Rows table.Record
  | .tensors => interner.tensors
  | .devices => interner.devices
  | .layouts => interner.layouts
  | .memories => interner.memories
  | .memoryConfigs => interner.memoryConfigs
  | .shards => interner.shards
  | .debugInfos => interner.debugInfos

/-- Add a row to a table. -/
def push (interner : Interner) : (table : Table) → Key → table.Record → Interner
  | .tensors, key, record => { interner with tensors := (key, record) :: interner.tensors }
  | .devices, key, record => { interner with devices := (key, record) :: interner.devices }
  | .layouts, key, record => { interner with layouts := (key, record) :: interner.layouts }
  | .memories, key, record =>
      { interner with memories := (key, record) :: interner.memories }
  | .memoryConfigs, key, record =>
      { interner with memoryConfigs := (key, record) :: interner.memoryConfigs }
  | .shards, key, record => { interner with shards := (key, record) :: interner.shards }
  | .debugInfos, key, record =>
      { interner with debugInfos := (key, record) :: interner.debugInfos }

/-- The tables as they are stored in an artifact. -/
def objects (interner : Interner) : ObjectTables where
  tensors := interner.tensors.records
  devices := interner.devices.records
  layouts := interner.layouts.records
  memories := interner.memories.records
  memoryConfigs := interner.memoryConfigs.records
  shards := interner.shards.records
  debugInfos := interner.debugInfos.records

/-- The handle of the record with a given key. -/
def handle? (interner : Interner) (table : Table) (key : Key) : Option Handle :=
  ((interner.rows table).position? key).map UInt32.ofNat

/-- The record that a handle refers to. -/
def record? (interner : Interner) (table : Table) (handle : Handle) : Option table.Record :=
  (interner.rows table).records[handle.toNat]?

@[simp]
theorem rows_push_self (interner : Interner) (table : Table) (key : Key)
    (record : table.Record) :
    (interner.push table key record).rows table = (key, record) :: interner.rows table := by
  cases table <;> rfl

theorem rows_push_of_ne (interner : Interner) {table other : Table} (key : Key)
    (record : table.Record) (different : other ≠ table) :
    (interner.push table key record).rows other = interner.rows other := by
  cases table <;> cases other <;> simp_all [rows, push]

@[simp]
theorem records_objects (interner : Interner) (table : Table) :
    interner.objects.records table = (interner.rows table).records := by
  cases table <;> rfl

end Interner

/-- Steps that add rows to tables.  Rows that were added before a failure stay. -/
abbrev Interning := ExceptT LoweringError (StateM Interner)

namespace Interning

/-- The handle of the record with a given key, which is built unless there is
one already. -/
def intern (table : Table) (key : Key) (build : Interning table.Record) :
    Interning Handle := do
  match (← get).handle? table key with
  | some handle => pure handle
  | none =>
      let record ← build
      let interner ← get
      set (interner.push table key record)
      pure (UInt32.ofNat (interner.rows table).length)

/-- The handle of a record that has to have been built already. -/
def lookup (table : Table) (key : Key) : Interning Handle := do
  match (← get).handle? table key with
  | some handle => pure handle
  | none => throw (.notBuilt key.text table.text)

/-- A new number for a tensor. -/
def freshGlobalId : Interning UInt32 := do
  let interner ← get
  set { interner with nextGlobalId := interner.nextGlobalId + 1 }
  pure interner.nextGlobalId

end Interning

end Tilework
