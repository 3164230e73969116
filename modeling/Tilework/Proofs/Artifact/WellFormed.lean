import Mathlib.Tactic.MkIffOfInductiveProp
import Tilework.Proofs.Artifact.Checks

/-!
# Well-formed artifacts

What an artifact has to be is stated record by record: which parts are mandatory,
which tables its handles have to stay within, and which numbers have to be those of
members.  Nothing is said about the order in which this is examined.

Verification accepts the well-formed artifacts and no others.
-/

namespace Tilework.Artifact

/-! ## Handles and numbers -/

/-- A table has a row with the handle. -/
def ObjectTables.HasRow (objects : ObjectTables) (table : Table) (handle : Handle) : Prop :=
  handle.toNat < (objects.records table).length

/-- The number of an enumeration field is that of a member. -/
def Coded.Known {ε : Type} [Enumeration ε] [BEq ε] (code : Coded ε) : Prop :=
  ∃ value : ε, code = .of value

@[simp]
theorem Coded.known_of {ε : Type} [Enumeration ε] [BEq ε] (value : ε) : (Coded.of value).Known :=
  ⟨value, rfl⟩

namespace Check

@[simp]
theorem run_field_iff {α : Type} {record name : String} {value : Option α} :
    (Check.field record name value).run = .ok () ↔ value.isSome = true := by
  cases value <;> simp [field, run]

@[simp]
theorem run_handle_iff {objects : ObjectTables} {table : Table} {handle : Handle} :
    (Check.handle objects table handle).run = .ok () ↔ objects.HasRow table handle := by
  simp [Check.handle, run, ObjectTables.HasRow]

@[simp]
theorem run_known_iff {ε : Type} [Enumeration ε] [CompleteEnumeration ε] [BEq ε] [LawfulBEq ε]
    {code : Coded ε} : (Check.known code).run = .ok () ↔ code.Known := by
  simp [known, run, Coded.isKnown_iff, Coded.Known]

end Check

/-- What is present and has a property is something present that has it. -/
theorem isSome_and_forall_iff {α : Type} {value : Option α} {P : α → Prop} :
    (value.isSome = true ∧ ∀ content, value = some content → P content) ↔
      ∃ content, value = some content ∧ P content := by
  cases value <;> simp

/-! ## Shared records -/

/-- A chip has a known architecture and a grid, and supports known types of data. -/
@[mk_iff]
structure ChipRecord.WellFormed (chip : ChipRecord) : Prop where
  architecture : chip.architecture.Known
  grid : chip.grid.isSome = true
  dataTypes : ∀ dataType ∈ chip.dataTypes, dataType.Known

theorem ChipRecord.hold_checks_iff {chip : ChipRecord} :
    Check.Hold chip.checks ↔ chip.WellFormed := by
  simp [ChipRecord.checks, ChipRecord.wellFormed_iff]

/-- The chips of a system are well formed, and its chip indices refer to them. -/
@[mk_iff]
structure SystemRecord.WellFormed (system : SystemRecord) : Prop where
  chips : ∀ chip ∈ system.chips, chip.WellFormed
  chipIndices : ∀ index ∈ system.chipIndices, index.toNat < system.chips.length

theorem SystemRecord.hold_checks_iff {system : SystemRecord} :
    Check.Hold system.checks ↔ system.WellFormed := by
  simp [SystemRecord.checks, SystemRecord.wellFormed_iff, ChipRecord.hold_checks_iff, Check.run]

/-- A rectangle of cores has an origin and a size. -/
@[mk_iff]
structure CoreRange.WellFormed (range : CoreRange) : Prop where
  origin : range.origin.isSome = true
  size : range.size.isSome = true

theorem CoreRange.hold_checks_iff {range : CoreRange} :
    Check.Hold range.checks ↔ range.WellFormed := by
  simp [CoreRange.checks, CoreRange.wellFormed_iff]

/-- A tensor is described, and its layout is listed. -/
@[mk_iff]
structure TensorRecord.WellFormed (objects : ObjectTables) (tensor : TensorRecord) : Prop where
  description : ∃ description ∈ tensor.description, objects.HasRow .layouts description.layout

theorem TensorRecord.hold_checks_iff {objects : ObjectTables} {tensor : TensorRecord} :
    Check.Hold (tensor.checks objects) ↔ tensor.WellFormed objects := by
  simp [TensorRecord.checks, TensorRecord.wellFormed_iff, isSome_and_forall_iff]

/-- A layout has a known rule for reads out of bounds, well-formed rectangles of cores
and a memory that is listed. -/
@[mk_iff]
structure LayoutRecord.WellFormed (objects : ObjectTables) (layout : LayoutRecord) : Prop where
  outOfBounds : layout.outOfBounds.Known
  cores : ∀ range ∈ layout.cores, range.WellFormed
  memory : objects.HasRow .memories layout.memory

theorem LayoutRecord.hold_checks_iff {objects : ObjectTables} {layout : LayoutRecord} :
    Check.Hold (layout.checks objects) ↔ layout.WellFormed objects := by
  simp [LayoutRecord.checks, LayoutRecord.wellFormed_iff, CoreRange.hold_checks_iff]

/-- A memory has a tile shape, and a known type of data, memory space and bank layout. -/
@[mk_iff]
structure MemoryRecord.WellFormed (memory : MemoryRecord) : Prop where
  tileShape : memory.tileShape.isSome = true
  dataType : memory.dataType.Known
  memorySpace : memory.memorySpace.Known
  banks : memory.banks.Known

theorem MemoryRecord.hold_checks_iff {memory : MemoryRecord} :
    Check.Hold memory.checks ↔ memory.WellFormed := by
  simp [MemoryRecord.checks, MemoryRecord.wellFormed_iff]

/-- A memory configuration has a known bank layout and buffer, and if it has a shard
shape, this is listed. -/
@[mk_iff]
structure MemoryConfigRecord.WellFormed (objects : ObjectTables) (config : MemoryConfigRecord) :
    Prop where
  banks : config.banks.Known
  buffer : config.buffer.Known
  shard : ∀ handle ∈ config.shard, objects.HasRow .shards handle

theorem MemoryConfigRecord.hold_checks_iff {objects : ObjectTables} {config : MemoryConfigRecord} :
    Check.Hold (config.checks objects) ↔ config.WellFormed objects := by
  simp [MemoryConfigRecord.checks, MemoryConfigRecord.wellFormed_iff]

/-- An entry for an expected tensor has one, with a known type of data. -/
@[mk_iff]
structure GoldenEntry.WellFormed (entry : GoldenEntry) : Prop where
  value : ∃ golden ∈ entry.value, golden.dataType.Known

theorem GoldenEntry.hold_checks_iff {entry : GoldenEntry} :
    Check.Hold entry.checks ↔ entry.WellFormed := by
  simp [GoldenEntry.checks, GoldenEntry.wellFormed_iff, isSome_and_forall_iff]

/-- Debug information has a snapshot, and its expected tensors are well formed. -/
@[mk_iff]
structure DebugRecord.WellFormed (debug : DebugRecord) : Prop where
  snapshot : debug.snapshot.isSome = true
  golden : ∀ golden ∈ debug.golden, ∀ entry ∈ golden.entries, entry.WellFormed

theorem DebugRecord.hold_checks_iff {debug : DebugRecord} :
    Check.Hold debug.checks ↔ debug.WellFormed := by
  simp [DebugRecord.checks, DebugRecord.wellFormed_iff, GoldenEntry.hold_checks_iff]

/-- The rows of the tables of shared records are well formed.  Devices and shard shapes
always are. -/
@[mk_iff]
structure ObjectTables.WellFormed (objects : ObjectTables) : Prop where
  tensors : ∀ tensor ∈ objects.tensors, tensor.WellFormed objects
  layouts : ∀ layout ∈ objects.layouts, layout.WellFormed objects
  memories : ∀ memory ∈ objects.memories, memory.WellFormed
  memoryConfigs : ∀ config ∈ objects.memoryConfigs, config.WellFormed objects
  debugInfos : ∀ debug ∈ objects.debugInfos, debug.WellFormed

theorem ObjectTables.hold_checks_iff {objects : ObjectTables} :
    Check.Hold objects.checks ↔ objects.WellFormed := by
  simp [ObjectTables.checks, ObjectTables.wellFormed_iff, TensorRecord.hold_checks_iff,
    LayoutRecord.hold_checks_iff, MemoryRecord.hold_checks_iff,
    MemoryConfigRecord.hold_checks_iff, DebugRecord.hold_checks_iff]

/-! ## Operations -/

/-- A tensor that is cut across a mesh is cut across one that is given. -/
def Strategy.WellFormed (strategy : Strategy) : Prop :=
  ∀ cut, strategy.distribution = some (.mesh cut) → cut.mesh.isSome = true

theorem hold_strategyChecks_iff {record : String} {strategy : Option Strategy} :
    Check.Hold (strategyChecks record strategy) ↔ ∃ given ∈ strategy, given.WellFormed := by
  have cuts (given : Strategy) :
      (∀ distribution, given.distribution = some distribution → Check.Hold distribution.checks) ↔
        given.WellFormed := by
    rcases given with ⟨_ | cut | cut⟩ <;> simp [Strategy.WellFormed, Distribution.checks]
  simp [strategyChecks, cuts, isSome_and_forall_iff]

namespace OperationRecord

/-- The mandatory parts of a record are there, and its enumeration fields hold members.
The kinds that are not listed have neither. -/
def AttributesWellFormed {ρ : Type} : OperationRecord ρ → Prop
  | getDevice op => op.mesh.isSome = true
  | toLayout op => op.format.Known ∧ ∀ dataType ∈ op.dataType, dataType.Known
  | toDType op | typecast op => op.dataType.Known
  | empty op =>
      op.dataType.Known ∧ op.format.Known ∧ ∃ strategy ∈ op.strategy, strategy.WellFormed
  | full op => ∃ strategy ∈ op.strategy, strategy.WellFormed
  | arange op => ∀ dataType ∈ op.dataType, dataType.Known
  | zeros op | ones op =>
      (∀ dataType ∈ op.dataType, dataType.Known) ∧ ∀ format ∈ op.format, format.Known
  | elementwise op => op.kind.Known
  | reduction op => op.kind.Known
  | embeddingBackward op => ∀ dataType ∈ op.dataType, dataType.Known
  | meshShard op => op.shardDirection.Known ∧ op.shardKind.Known
  | upsample op => op.scaleFactor.isSome = true
  | _ => True

/-- What sits in the slots of a record is listed in the tables of the slots, and its
attributes are in order. -/
structure WellFormed (objects : ObjectTables) (record : OperationRecord Handle) : Prop where
  slots : ∀ slot ∈ record.slots, objects.HasRow slot.1.table slot.2
  attributes : record.AttributesWellFormed

theorem hold_attributeChecks_iff {ρ : Type} {record : OperationRecord ρ} :
    Check.Hold record.attributeChecks ↔ record.AttributesWellFormed := by
  cases record <;>
    simp [attributeChecks, AttributesWellFormed, hold_strategyChecks_iff]

theorem hold_checks_iff {objects : ObjectTables} {record : OperationRecord Handle} :
    Check.Hold (record.checks objects) ↔ record.WellFormed objects := by
  have slots : Check.Hold (record.slotChecks objects) ↔
      ∀ slot ∈ record.slots, objects.HasRow slot.1.table slot.2 := by
    simp only [slotChecks, Check.hold_map, Check.run_handle_iff]
  have split : Check.Hold (record.checks objects) ↔
      Check.Hold (record.slotChecks objects) ∧ Check.Hold record.attributeChecks := by
    simp only [Check.Hold, mem_checks_iff, or_imp, forall_and]
  rw [split, slots, hold_attributeChecks_iff]
  constructor
  · rintro ⟨inside, inOrder⟩
    exact ⟨inside, inOrder⟩
  · rintro ⟨inside, inOrder⟩
    exact ⟨inside, inOrder⟩

end OperationRecord

/-! ## Programs and artifacts -/

/-- An operation has a well-formed record. -/
@[mk_iff]
structure OperationEntry.WellFormed (objects : ObjectTables) (entry : OperationEntry) : Prop where
  record : ∃ record ∈ entry.record, record.WellFormed objects

theorem OperationEntry.hold_checks_iff {objects : ObjectTables} {entry : OperationEntry} :
    Check.Hold (entry.checks objects) ↔ entry.WellFormed objects := by
  simp [OperationEntry.checks, OperationEntry.wellFormed_iff, OperationRecord.hold_checks_iff,
    isSome_and_forall_iff]

/-- The inputs, the outputs and the debug information of a program are listed, and its
operations are well formed. -/
@[mk_iff]
structure Program.WellFormed (objects : ObjectTables) (program : Program) : Prop where
  inputs : ∀ handle ∈ program.inputs, objects.HasRow .tensors handle
  outputs : ∀ handle ∈ program.outputs, objects.HasRow .tensors handle
  debugInfo : objects.HasRow .debugInfos program.debugInfo
  operations : ∀ entry ∈ program.operations, entry.WellFormed objects

theorem Program.hold_checks_iff {objects : ObjectTables} {program : Program} :
    Check.Hold (program.checks objects) ↔ program.WellFormed objects := by
  simp [Program.checks, Program.wellFormed_iff, tensorChecks, OperationEntry.hold_checks_iff]

/-- An artifact has a version, a well-formed system, and well-formed tables that its
programs agree with. -/
structure Binary.WellFormed (binary : Binary) : Prop where
  version : binary.version.isSome = true
  system : ∃ system ∈ binary.system, system.WellFormed
  objects : ∃ objects ∈ binary.objects, objects.WellFormed ∧
    ∀ program ∈ binary.programs, program.WellFormed objects

/-- Verification accepts exactly the well-formed artifacts. -/
theorem Binary.verify_eq_ok_iff (binary : Binary) : binary.verify = .ok () ↔ binary.WellFormed := by
  have passes : binary.verify = .ok () ↔ Check.Hold binary.checks := forM_eq_ok_iff
  rw [passes]
  simp only [Binary.checks, List.cons_append, Check.hold_cons, Check.hold_append,
    Check.hold_flatMap, Check.run_field_iff, Option.mem_toList, SystemRecord.hold_checks_iff,
    ObjectTables.hold_checks_iff, Program.hold_checks_iff]
  constructor
  · rintro ⟨version, hasSystem, systems, hasObjects, tables⟩
    exact ⟨version, isSome_and_forall_iff.mp ⟨hasSystem, systems⟩,
      isSome_and_forall_iff.mp ⟨hasObjects, tables⟩⟩
  · rintro ⟨version, system, objects⟩
    obtain ⟨hasSystem, systems⟩ := isSome_and_forall_iff.mpr system
    obtain ⟨hasObjects, tables⟩ := isSome_and_forall_iff.mpr objects
    exact ⟨version, hasSystem, systems, hasObjects, tables⟩

end Tilework.Artifact
