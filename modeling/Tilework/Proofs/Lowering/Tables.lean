import Tilework.Lowering.Linking
import Tilework.Lowering.Options
import Tilework.Module.Printer
import Tilework.Proofs.Lowering.Interner

/-!
# What rows say

Every row describes its key: the row of a tensor its type, the row of a placement
its cores and its memory, and so on, down to the rows that it refers to.  This
holds of the empty tables, and every request keeps it, even one that fails.
-/

namespace Tilework

open Artifact

/-! ## Descriptions -/

namespace Interner

/-- A row for a tensor of a given type, at no fixed address. -/
def DescribesTensor (interner : Interner) (type : TensorType) (record : TensorRecord) : Prop :=
  ∃ shape layout, Number.toInt32s "tensor shape" type.shape = .ok shape ∧
    interner.handle? .layouts (.placement type.placement) = some layout ∧
    record.address = 0 ∧ record.size = 0 ∧ record.description = some { shape, layout }

/-- A row for tensors that are placed alike. -/
def DescribesPlacement (interner : Interner) (workers : WorkerGrid) (place : Placement)
    (record : LayoutRecord) : Prop :=
  ∃ cores memory, place.grid.coreRanges workers = .ok cores ∧
    interner.handle? .memories (.region place.region place.banks) = some memory ∧
    record = { outOfBounds := .of .undefined, cores, memory }

/-- A row for a memory configuration. -/
def DescribesMemoryConfig (interner : Interner) (config : MemoryConfig)
    (record : MemoryConfigRecord) : Prop :=
  ∃ shard, record = { banks := .of (some config.banks), buffer := .of config.buffer, shard } ∧
    config.shardShape.map (fun shape => interner.handle? .shards (.shard shape)) = shard.map some

/-- What the row of a key has to say about it. -/
def Describes (m : Module) (options : LoweringOptions) (interner : Interner) :
    (table : Table) → Key → table.Record → Prop
  | .tensors, key, record =>
      ∃ value type, key = .value value ∧ m.tensorType value = .ok type ∧
        interner.DescribesTensor type record
  | .devices, key, record =>
      ∃ value type, key = .value value ∧ m.deviceType value = .ok type ∧
        type.record = .ok record
  | .layouts, key, record =>
      ∃ place, key = .placement place ∧ interner.DescribesPlacement m.target.workers place record
  | .memories, key, record =>
      ∃ region banks, key = .region region banks ∧ region.record banks = .ok record
  | .memoryConfigs, key, record =>
      ∃ config, key = .memoryConfig config ∧ interner.DescribesMemoryConfig config record
  | .shards, key, record => ∃ shape, key = .shard shape ∧ record = { shape }
  | .debugInfos, key, record => key = .debugInfo ∧ record = options.debugRecord m.text

/-- The tables hold one row for each key, which describes it. -/
structure Sound (m : Module) (options : LoweringOptions) (interner : Interner) : Prop where
  distinct : interner.Distinct
  describes : ∀ table, ∀ row ∈ interner.rows table,
    Describes m options interner table row.1 row.2

variable {m : Module} {options : LoweringOptions} {earlier later interner : Interner}
  {table : Table} {key : Key}

/-! What a row says of a key of its own sort. -/

section Keys

variable {value : ValueId} {place : Placement} {region : MemoryRegion} {banks : Option BankLayout}
  {config : MemoryConfig} {shape : List Int64}

theorem describes_tensor_iff {record : TensorRecord} :
    Describes m options interner .tensors (.value value) record ↔
      ∃ type, m.tensorType value = .ok type ∧ interner.DescribesTensor type record := by
  simp [Describes]

theorem describes_device_iff {record : DeviceRecord} :
    Describes m options interner .devices (.value value) record ↔
      ∃ type, m.deviceType value = .ok type ∧ type.record = .ok record := by
  simp [Describes]

theorem describes_placement_iff {record : LayoutRecord} :
    Describes m options interner .layouts (.placement place) record ↔
      interner.DescribesPlacement m.target.workers place record := by
  simp [Describes]

theorem describes_region_iff {record : MemoryRecord} :
    Describes m options interner .memories (.region region banks) record ↔
      region.record banks = .ok record := by
  simp [Describes]

theorem describes_memoryConfig_iff {record : MemoryConfigRecord} :
    Describes m options interner .memoryConfigs (.memoryConfig config) record ↔
      interner.DescribesMemoryConfig config record := by
  simp [Describes]

theorem describes_shard_iff {record : ShardRecord} :
    Describes m options interner .shards (.shard shape) record ↔ record = { shape } := by
  simp [Describes]

end Keys

/-- A description stays true while tables grow. -/
theorem describes_of_grows (grows : earlier.Grows later) (distinct : later.Distinct)
    {record : table.Record} (holds : Describes m options earlier table key record) :
    Describes m options later table key record := by
  cases table with
  | tensors =>
      rcases holds with ⟨value, type, rfl, typed, shape, layout, narrowed, found, rest⟩
      exact ⟨value, type, rfl, typed, shape, layout, narrowed,
        handle?_of_grows grows distinct found, rest⟩
  | layouts =>
      rcases holds with ⟨place, rfl, cores, memory, ranges, found, rest⟩
      exact ⟨place, rfl, cores, memory, ranges, handle?_of_grows grows distinct found, rest⟩
  | memoryConfigs =>
      rcases holds with ⟨config, rfl, shard, rest, shards⟩
      refine ⟨config, rfl, shard, rest, ?_⟩
      cases requested : config.shardShape with
      | none =>
          rw [requested] at shards
          exact shards
      | some shape =>
          rw [requested] at shards
          cases shard with
          | none => cases shards
          | some handle =>
              have found := Option.some.inj shards
              exact congrArg some (handle?_of_grows grows distinct found)
  | devices | memories | shards | debugInfos => exact holds

/-- A key that has a handle is described by a row. -/
theorem Sound.exists_describes (sound : interner.Sound m options) {handle : Handle}
    (found : interner.handle? table key = some handle) :
    ∃ record, Describes m options interner table key record := by
  obtain ⟨position, at_position, _⟩ := Option.map_eq_some_iff.mp found
  obtain ⟨record, row, _⟩ := Rows.exists_row at_position
  exact ⟨record, sound.describes table (key, record) row⟩

theorem sound_empty : Sound m options {} where
  distinct table := by cases table <;> exact List.nodup_nil
  describes table row member := by cases table <;> cases member

/-- Tables grow, and go on to describe their keys. -/
def Advances (m : Module) (options : LoweringOptions) (before after : Interner) : Prop :=
  before.Grows after ∧ (before.Sound m options → after.Sound m options)

instance : Std.Refl (Advances m options) where
  refl interner := ⟨Std.Refl.refl interner, id⟩

instance : IsTrans Interner (Advances m options) where
  trans first second third earlier later :=
    ⟨IsTrans.trans first second third earlier.1 later.1, later.2 ∘ earlier.2⟩

theorem advances_push {record : table.Record} (absent : interner.handle? table key = none)
    (holds : Describes m options interner table key record) :
    Advances m options interner (interner.push table key record) := by
  have grows := grows_push interner table key record
  refine ⟨grows, fun sound => ?_⟩
  have distinct := distinct_push sound.distinct record absent
  refine ⟨distinct, ?_⟩
  intro other row member
  by_cases same : other = table
  · subst same
    rw [rows_push_self] at member
    rcases List.mem_cons.mp member with rfl | member
    · exact describes_of_grows grows distinct holds
    · exact describes_of_grows grows distinct (sound.describes other row member)
  · rw [rows_push_of_ne interner key record same] at member
    exact describes_of_grows grows distinct (sound.describes other row member)

/-- A table is left as it is. -/
def Leaves (table : Table) (before after : Interner) : Prop :=
  after.rows table = before.rows table

instance : Std.Refl (Leaves table) where
  refl _ := rfl

instance : IsTrans Interner (Leaves table) where
  trans _ _ _ first second := second.trans first

end Interner

/-! ## Requests -/

namespace Interning

open Interner

variable {m : Module} {options : LoweringOptions} {table : Table} {key : Key}
  {build : Interning table.Record}

/-- A request advances the tables when its build does, leaves its own table alone
and describes the key. -/
theorem advances_intern (kept : Keeps (Advances m options) build)
    (own : Keeps (Leaves table) build)
    (describes : ∀ before record after, Runs build before (.ok record) after →
      Describes m options after table key record) :
    Keeps (Advances m options) (intern table key build) := by
  apply keeps_intern kept
  intro before record middle absent built
  apply advances_push
  · have same : middle.rows table = before.rows table := own before _ middle built
    simpa only [handle?, same] using absent
  · exact describes before record middle built

theorem leaves_intern {other : Table} (different : other ≠ table)
    (kept : Keeps (Leaves other) build) : Keeps (Leaves other) (intern table key build) := by
  apply keeps_intern kept
  intro before record middle _ _
  exact rows_push_of_ne middle key record different

theorem runs_freshGlobalId {before after : Interner} {outcome : Except LoweringError UInt32} :
    Runs freshGlobalId before outcome after ↔
      outcome = .ok before.nextGlobalId ∧
        after = { before with nextGlobalId := before.nextGlobalId + 1 } := by
  rw [Runs, eq_comm, Prod.ext_iff]
  exact Iff.rfl

theorem handle?_nextGlobalId (interner : Interner) (next : UInt32) (other : Table) (key : Key) :
    { interner with nextGlobalId := next }.handle? other key = interner.handle? other key := by
  cases other <;> rfl

theorem describes_nextGlobalId {interner : Interner} (next : UInt32) {record : table.Record}
    (holds : Describes m options interner table key record) :
    Describes m options { interner with nextGlobalId := next } table key record := by
  cases table <;>
    simpa only [Describes, DescribesTensor, DescribesPlacement, DescribesMemoryConfig,
      handle?_nextGlobalId] using holds

theorem advances_freshGlobalId : Keeps (Advances m options) freshGlobalId := by
  intro before outcome after run
  rcases runs_freshGlobalId.mp run with ⟨_, rfl⟩
  have rows (other : Table) :
      { before with nextGlobalId := before.nextGlobalId + 1 }.rows other = before.rows other := by
    cases other <;> rfl
  refine ⟨fun other => by rw [rows], fun sound => ⟨fun other => ?_, fun other row member => ?_⟩⟩
  · rw [rows]
    exact sound.distinct other
  · rw [rows] at member
    exact describes_nextGlobalId _ (sound.describes other row member)

theorem leaves_freshGlobalId : Keeps (Leaves table) freshGlobalId := by
  intro before outcome after run
  rcases runs_freshGlobalId.mp run with ⟨_, rfl⟩
  cases table <;> rfl

end Interning

/-! ## Records -/

section Records

open Interner Interning

variable {m : Module} {options : LoweringOptions}

theorem advances_region (region : MemoryRegion) (banks : Option BankLayout) :
    Keeps (Advances m options)
      (intern .memories (.region region banks) (liftM (region.record banks))) := by
  apply advances_intern (keeps_lift _) (keeps_lift _)
  intro before record after run
  exact ⟨region, banks, rfl, (runs_lift.mp run).1.symm⟩

theorem leaves_placement_record {table : Table} (different : table ≠ .memories)
    (workers : WorkerGrid) (place : Placement) : Keeps (Leaves table) (place.record workers) := by
  refine keeps_bind (keeps_lift _) fun cores => ?_
  refine keeps_bind (leaves_intern different (keeps_lift _)) fun memory => ?_
  exact keeps_pure _

theorem advances_placement (place : Placement) :
    Keeps (Advances m options)
      (intern .layouts (.placement place) (place.record m.target.workers)) := by
  apply advances_intern
  · refine keeps_bind (keeps_lift _) fun cores => ?_
    refine keeps_bind (advances_region _ _) fun memory => ?_
    exact keeps_pure _
  · exact leaves_placement_record (by decide) m.target.workers place
  · intro before record after run
    rcases runs_bind_ok.mp run with ⟨cores, middle, ranges, run⟩
    rcases runs_bind_ok.mp run with ⟨memory, last, interned, run⟩
    rcases runs_pure.mp run with ⟨same, rfl⟩
    cases same
    exact ⟨place, rfl, cores, memory, (runs_lift.mp ranges).1.symm,
      handle?_of_runs_intern interned, rfl⟩

theorem advances_tensor {value : ValueId} {type : TensorType}
    (typed : m.tensorType value = .ok type) :
    Keeps (Advances m options)
      (intern .tensors (.value value) (type.record m.target.workers 0 0)) := by
  apply advances_intern
  · refine keeps_bind (advances_placement _) fun layout => ?_
    refine keeps_bind (keeps_lift _) fun shape => ?_
    refine keeps_bind advances_freshGlobalId fun globalId => ?_
    exact keeps_pure _
  · refine keeps_bind (leaves_intern (by decide)
      (leaves_placement_record (by decide) _ _)) fun layout => ?_
    refine keeps_bind (keeps_lift _) fun shape => ?_
    refine keeps_bind leaves_freshGlobalId fun globalId => ?_
    exact keeps_pure _
  · intro before record after run
    rcases runs_bind_ok.mp run with ⟨layout, middle, interned, afterLayout⟩
    rcases runs_bind_ok.mp afterLayout with ⟨shape, later, narrowed, afterShape⟩
    rcases runs_lift.mp narrowed with ⟨shape_eq, rfl⟩
    rcases runs_bind_ok.mp afterShape with ⟨globalId, last, numbered, stored⟩
    rcases runs_freshGlobalId.mp numbered with ⟨_, rfl⟩
    rcases runs_pure.mp stored with ⟨same, rfl⟩
    cases same
    refine ⟨value, type, rfl, typed, shape, layout, shape_eq.symm, ?_, rfl, rfl, rfl⟩
    rw [handle?_nextGlobalId]
    exact handle?_of_runs_intern interned

theorem advances_device {value : ValueId} {type : DeviceType}
    (typed : m.deviceType value = .ok type) :
    Keeps (Advances m options) (intern .devices (.value value) (liftM type.record)) := by
  apply advances_intern (keeps_lift _) (keeps_lift _)
  intro before record after run
  exact ⟨value, type, rfl, typed, (runs_lift.mp run).1.symm⟩

theorem advances_shard (shape : List Int64) :
    Keeps (Advances m options)
      (intern .shards (.shard shape) (pure { shape } : Interning ShardRecord)) := by
  apply advances_intern (keeps_pure _) (keeps_pure _)
  intro before record after run
  exact ⟨shape, rfl, Except.ok.inj (runs_pure.mp run).1⟩

theorem advances_memoryConfig (config : MemoryConfig) :
    Keeps (Advances m options) (intern .memoryConfigs (.memoryConfig config) config.record) := by
  apply advances_intern
  · refine keeps_bind ?_ fun shard => keeps_pure _
    cases config.shardShape with
    | none => exact keeps_pure _
    | some shape => exact keeps_map some (advances_shard shape)
  · refine keeps_bind ?_ fun shard => keeps_pure _
    cases config.shardShape with
    | none => exact keeps_pure _
    | some shape => exact keeps_map some (leaves_intern (by decide) (keeps_pure _))
  · intro before record after run
    rcases runs_bind_ok.mp run with ⟨shard, middle, requested, run⟩
    rcases runs_pure.mp run with ⟨same, rfl⟩
    cases same
    refine ⟨config, rfl, shard, rfl, ?_⟩
    cases given : config.shardShape with
    | none =>
        rw [given] at requested
        rcases runs_pure.mp requested with ⟨same, _⟩
        cases same
        rfl
    | some shape =>
        rw [given] at requested
        rcases runs_map_ok.mp requested with ⟨handle, interned, rfl⟩
        exact congrArg some (handle?_of_runs_intern interned)

theorem advances_debugInfo :
    Keeps (Advances m options)
      (intern .debugInfos .debugInfo
        (pure (options.debugRecord m.text) : Interning DebugRecord)) := by
  apply advances_intern (keeps_pure _) (keeps_pure _)
  intro before record after run
  exact ⟨rfl, Except.ok.inj (runs_pure.mp run).1⟩

end Records

end Tilework
