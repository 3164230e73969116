import Tilework.Proofs.Lowering.Requests
import Tilework.Proofs.Lowering.Scoping

/-!
# Sharing of records

A table has one row for each content that the functions of a module use, and nothing
else: one for each tensor that is not written into another one, one for each placement,
for each memory region, for each memory configuration and for each shard shape.  So two
handles are the same exactly when what they are held for is, and every row is reached from
the inputs of a program or from its records.
-/

namespace Tilework

open Artifact Interner

/-! ## Handles inside records -/

namespace Artifact

/-- The layout of a tensor. -/
def ObjectTables.layout? (objects : ObjectTables) (tensor : Handle) : Option Handle :=
  objects.tensors[tensor.toNat]?.bind fun record =>
    record.description.map TensorDescription.layout

/-- The memory of a layout. -/
def ObjectTables.memory? (objects : ObjectTables) (layout : Handle) : Option Handle :=
  objects.layouts[layout.toNat]?.map LayoutRecord.memory

/-- The shard shape of a memory configuration. -/
def ObjectTables.shard? (objects : ObjectTables) (config : Handle) : Option Handle :=
  objects.memoryConfigs[config.toNat]?.bind MemoryConfigRecord.shard

/-- A row is reached from the inputs of a program or from the slots of its records, or
through a row that is reached. -/
inductive Binary.Reaches (binary : Binary) (objects : ObjectTables) : Table → Handle → Prop
  | input {program : Program} {handle : Handle} (listed : program ∈ binary.programs)
      (given : handle ∈ program.inputs) : Reaches binary objects .tensors handle
  | slot {program : Program} {entry : OperationEntry} {role : Role} {handle : Handle}
      (listed : program ∈ binary.programs) (executed : entry ∈ program.operations)
      (held : (role, handle) ∈ entry.slots) : Reaches binary objects role.table handle
  | layout {tensor layout : Handle} (reached : Reaches binary objects .tensors tensor)
      (stored : objects.layout? tensor = some layout) : Reaches binary objects .layouts layout
  | memory {layout memory : Handle} (reached : Reaches binary objects .layouts layout)
      (stored : objects.memory? layout = some memory) : Reaches binary objects .memories memory
  | shard {config shard : Handle} (reached : Reaches binary objects .memoryConfigs config)
      (stored : objects.shard? config = some shard) : Reaches binary objects .shards shard

end Artifact

/-! ## What handles are held for -/

namespace Module

section

variable (m : Module) (binary : Binary) (objects : ObjectTables)

/-- A handle is held for a tensor whose root is given. -/
inductive HoldsRoot : ValueId → Handle → Prop
  | of {function : Function} {program : Program} {value : ValueId} {handle : Handle}
      (paired : (function, program) ∈ m.functions.zip binary.programs)
      (held : function.HoldsTensor m program value handle) :
      HoldsRoot (function.root value) handle

/-- A layout is the one of a tensor that is placed in a given way. -/
inductive HoldsLayout : Placement → Handle → Prop
  | of {function : Function} {program : Program} {value : ValueId} {type : TensorType}
      {tensor layout : Handle} (paired : (function, program) ∈ m.functions.zip binary.programs)
      (held : function.HoldsTensor m program value tensor)
      (typed : m.tensorType value = .ok type)
      (stored : objects.layout? tensor = some layout) : HoldsLayout type.placement layout

/-- A memory is the one of a layout with a given region and bank layout. -/
inductive HoldsMemory : MemoryRegion × Option BankLayout → Handle → Prop
  | of {place : Placement} {layout memory : Handle}
      (held : HoldsLayout m binary objects place layout)
      (stored : objects.memory? layout = some memory) :
      HoldsMemory (place.region, place.banks) memory

/-- A handle is held for a memory configuration. -/
inductive HoldsMemoryConfig : MemoryConfig → Handle → Prop
  | of {function : Function} {program : Program} {instruction : Instruction}
      {entry : OperationEntry} {role : Role} {config : MemoryConfig} {handle : Handle}
      (paired : (function, program) ∈ m.functions.zip binary.programs)
      (executed : (instruction, entry) ∈ function.body.zip program.operations)
      (held : instruction.Holds m entry role (.memoryConfig config) handle) :
      HoldsMemoryConfig config handle

/-- A handle is the one of the shard shape of a memory configuration. -/
inductive HoldsShard : List Int64 → Handle → Prop
  | of {config : MemoryConfig} {shape : List Int64} {handle shard : Handle}
      (held : HoldsMemoryConfig m binary config handle) (given : config.shardShape = some shape)
      (stored : objects.shard? handle = some shard) : HoldsShard shape shard

/-- A function defines a tensor with a given root. -/
def UsesRoot (root : ValueId) : Prop :=
  ∃ function ∈ m.functions, ∃ value ∈ function.definedValues,
    m.isTensor value = true ∧ function.root value = root

/-- A function defines a tensor that is placed in a given way. -/
def UsesPlacement (place : Placement) : Prop :=
  ∃ function ∈ m.functions, ∃ value ∈ function.definedValues, ∃ type,
    m.tensorType value = .ok type ∧ type.placement = place

/-- A function defines a tensor with a given memory region and bank layout. -/
def UsesRegion (region : MemoryRegion × Option BankLayout) : Prop :=
  ∃ place, m.UsesPlacement place ∧ (place.region, place.banks) = region

/-- An instruction asks for a memory configuration. -/
def UsesMemoryConfig (config : MemoryConfig) : Prop :=
  ∃ function ∈ m.functions, ∃ instruction ∈ function.body,
    instruction.operation.memoryConfig? = some config

/-- An instruction asks for a memory configuration with a given shard shape. -/
def UsesShard (shape : List Int64) : Prop :=
  ∃ config, m.UsesMemoryConfig config ∧ config.shardShape = some shape

end

end Module

/-! ## Tables without duplicates or orphans -/

/-- The rows of a table are one for each content that is used. -/
structure Enumerates {α : Type} (used : α → Prop) (held : α → Handle → Prop) (rows : Nat) :
    Prop where
  /-- Two handles are the same exactly when what they are held for is. -/
  handle_eq_iff : ∀ content handle other otherHandle, held content handle →
    held other otherHandle → (handle = otherHandle ↔ content = other)
  /-- Whatever is used has a row. -/
  total : ∀ content, used content → ∃ handle, held content handle
  listed : ∀ content handle, held content handle → used content ∧ handle.toNat < rows
  /-- There are no other rows. -/
  onto : ∀ index < rows, ∃ content handle, held content handle ∧ handle.toNat = index

/-- The shared records of an artifact are exactly those that the functions of a module
use, and all of them are reached from the programs. -/
structure Module.Shares (m : Module) (binary : Binary) (objects : ObjectTables) : Prop where
  tensors : Enumerates m.UsesRoot (m.HoldsRoot binary) objects.tensors.length
  layouts : Enumerates m.UsesPlacement (m.HoldsLayout binary objects) objects.layouts.length
  memories : Enumerates m.UsesRegion (m.HoldsMemory binary objects) objects.memories.length
  memoryConfigs :
    Enumerates m.UsesMemoryConfig (m.HoldsMemoryConfig binary) objects.memoryConfigs.length
  shards : Enumerates m.UsesShard (m.HoldsShard binary objects) objects.shards.length
  reached : ∀ table, table ≠ .devices → table ≠ .debugInfos →
    ∀ index < (objects.records table).length,
      ∃ handle, binary.Reaches objects table handle ∧ handle.toNat = index

namespace Interner

variable {m : Module} {options : LoweringOptions} {interner : Interner} {table : Table} {key : Key}
  {handle : Handle} (sound : interner.Sound m options)
  (small : ∀ table, (interner.objects.records table).length < UInt32.size)

/-- Where contents have keys, and the keys of a table are those of the contents that are
used, the table enumerates them. -/
theorem enumerates_of_keys (table : Table) {α : Type} {used : α → Prop}
    {held : α → Handle → Prop} {key : α → Key}
    (small : ∀ table, (interner.objects.records table).length < UInt32.size)
    (distinct : interner.Distinct) (injective : Function.Injective key)
    (found : ∀ content handle, held content handle →
      interner.handle? table (key content) = some handle)
    (uses : ∀ content handle, held content handle → used content)
    (total : ∀ content, used content → ∃ handle, held content handle)
    (asked : ∀ other, interner.Holds (table, other) →
      ∃ content, used content ∧ other = key content) :
    Enumerates used held (interner.objects.records table).length where
  handle_eq_iff content handle other otherHandle first second := by
    have foundFirst := found content handle first
    have foundSecond := found other otherHandle second
    constructor
    · rintro rfl
      exact injective (handle?_inj small foundFirst foundSecond)
    · rintro rfl
      exact Option.some.inj (foundFirst.symm.trans foundSecond)
  total := total
  listed content handle first :=
    ⟨uses content handle first, handle?_lt (found content handle first)⟩
  onto index inside := by
    obtain ⟨other, at_index⟩ := exists_handle?_of_lt distinct inside
    obtain ⟨content, used, rfl⟩ := asked other (holds_iff.mpr ⟨_, at_index⟩)
    obtain ⟨handle, first⟩ := total content used
    refine ⟨content, handle, first, ?_⟩
    have same := (found content handle first).symm.trans at_index
    rw [Option.some.inj same, UInt32.toNat_ofNat',
      Nat.mod_eq_of_lt (Nat.lt_trans inside (small table))]

include sound small

theorem Sound.exists_layout? {value : ValueId} {type : TensorType}
    (typed : m.tensorType value = .ok type)
    (found : interner.handle? .tensors (.value value) = some handle) :
    ∃ layout, interner.objects.layout? handle = some layout ∧
      interner.handle? .layouts (.placement type.placement) = some layout := by
  obtain ⟨record, stored, described⟩ := sound.exists_record small found
  obtain ⟨other, otherTyped, shape, layout, _, placed, _, _, description⟩ :=
    describes_tensor_iff.mp described
  cases typed.symm.trans otherTyped
  refine ⟨layout, ?_, placed⟩
  have row : interner.objects.tensors[handle.toNat]? = some record := stored
  rw [ObjectTables.layout?, row, Option.bind_some, description]
  rfl

theorem Sound.exists_memory? {place : Placement}
    (found : interner.handle? .layouts (.placement place) = some handle) :
    ∃ memory, interner.objects.memory? handle = some memory ∧
      interner.handle? .memories (.region place.region place.banks) = some memory := by
  obtain ⟨record, stored, described⟩ := sound.exists_record small found
  obtain ⟨cores, memory, _, backed, rfl⟩ := describes_placement_iff.mp described
  refine ⟨memory, ?_, backed⟩
  exact congrArg (Option.map LayoutRecord.memory) stored

theorem Sound.exists_shard? {config : MemoryConfig} {shape : List Int64}
    (given : config.shardShape = some shape)
    (found : interner.handle? .memoryConfigs (.memoryConfig config) = some handle) :
    ∃ shard, interner.objects.shard? handle = some shard ∧
      interner.handle? .shards (.shard shape) = some shard := by
  obtain ⟨record, stored, described⟩ := sound.exists_record small found
  obtain ⟨shard, rfl, shards⟩ := describes_memoryConfig_iff.mp described
  rw [given] at shards
  cases shard with
  | none => cases shards
  | some shard =>
      refine ⟨shard, ?_, Option.some.inj shards⟩
      exact congrArg (Option.bind · MemoryConfigRecord.shard) stored

end Interner

/-! ## Finished artifacts -/

/-- An artifact with programs that are filled from finished tables, which hold no rows but
those that the functions ask for. -/
structure Module.Finished (m : Module) (options : LoweringOptions) (interner : Interner)
    (binary : Binary) : Prop where
  wellFormed : m.WellFormed
  sound : interner.Sound m options
  small : ∀ table, (interner.objects.records table).length < UInt32.size
  filled : List.Forall₂ (Function.Filled m interner) m.functions binary.programs
  asked : ∀ row, interner.Holds row →
    row = (.debugInfos, .debugInfo) ∨ row ∈ m.functions.flatMap (Function.requests m)

namespace Module.Finished

variable {m : Module} {options : LoweringOptions} {interner : Interner} {binary : Binary}
  {function : Function} {program : Program} {value : ValueId} {handle : Handle}
  (finished : m.Finished options interner binary)

include finished

theorem of_paired (paired : (function, program) ∈ m.functions.zip binary.programs) :
    function.WellFormed m ∧ function.Filled m interner program ∧
      function.Described m interner.objects program := by
  have wellFormed := finished.wellFormed.function function (List.of_mem_zip paired).1
  have filled := List.forall₂_zip finished.filled paired
  exact ⟨wellFormed, filled, filled.described wellFormed finished.sound finished.small⟩

theorem exists_program (member : function ∈ m.functions) :
    ∃ program, (function, program) ∈ m.functions.zip binary.programs := by
  obtain ⟨program, paired, _⟩ := exists_mem_zip finished.filled member
  exact ⟨program, paired⟩

/-- What is asked for is asked for by a value that is its own root, or by an
instruction. -/
theorem exists_of_holds {table : Table} {key : Key} (held : interner.Holds (table, key))
    (other : table ≠ .debugInfos) :
    ∃ function ∈ m.functions,
      (∃ value ∈ function.definedValues, function.root value = value ∧
        (table, key) ∈ m.requests value) ∨
      ∃ instruction ∈ function.body, ∃ config,
        instruction.operation.memoryConfig? = some config ∧ (table, key) ∈ config.requests := by
  rcases finished.asked _ held with debug | asked
  · exact absurd (Prod.mk.inj debug).1 other
  · obtain ⟨function, member, asked⟩ := List.mem_flatMap.mp asked
    exact ⟨function, member, Function.exists_of_mem_requests
      (finished.wellFormed.function function member) asked⟩

/-! ### Tensors -/

/-- A handle is held for each tensor that a function defines, and it is reached from an
input or a slot. -/
theorem exists_reached (paired : (function, program) ∈ m.functions.zip binary.programs)
    (defined : value ∈ function.definedValues) (isTensor : m.isTensor value = true) :
    ∃ handle, function.HoldsTensor m program value handle ∧
      binary.Reaches interner.objects .tensors handle := by
  obtain ⟨_, filled, described⟩ := finished.of_paired paired
  have listed := (List.of_mem_zip paired).2
  rcases List.mem_append.mp defined with argument | result
  · obtain ⟨handle, pair, _⟩ :=
      exists_mem_zip filled.inputs (List.mem_filter.mpr ⟨argument, isTensor⟩)
    exact ⟨handle, .input pair, .input listed (List.of_mem_zip pair).2⟩
  · obtain ⟨instruction, member, defines⟩ := List.mem_flatMap.mp result
    obtain ⟨entry, executed, _⟩ := exists_mem_zip filled.operations member
    obtain ⟨type, typed⟩ := Module.isTensor_iff.mp isTensor
    obtain ⟨role, reference, handle, held, sort, mentioned⟩ :=
      described.used instruction entry executed value (List.mem_append_right _ defines) _
        (Module.tensorType_eq_ok_iff.mp typed)
    have reached : binary.Reaches interner.objects role.table handle :=
      .slot listed (List.of_mem_zip executed).2 held.mem_slots
    rw [sort] at reached
    exact ⟨handle, .slot executed held sort mentioned, reached⟩

/-- Whatever is held for a tensor is the handle of its root, and is reached. -/
theorem of_holdsTensor (paired : (function, program) ∈ m.functions.zip binary.programs)
    (held : function.HoldsTensor m program value handle) :
    value ∈ function.definedValues ∧ m.isTensor value = true ∧
      interner.handle? .tensors (.value (function.root value)) = some handle ∧
      binary.Reaches interner.objects .tensors handle := by
  obtain ⟨wellFormed, filled, described⟩ := finished.of_paired paired
  obtain ⟨defined, found⟩ := handle?_of_holdsTensor wellFormed filled held
  obtain ⟨type, typed, _⟩ := described.tensor value handle held
  have isTensor := Module.isTensor_iff.mpr ⟨type, typed⟩
  obtain ⟨other, otherHeld, reached⟩ := finished.exists_reached paired defined isTensor
  have otherFound := (handle?_of_holdsTensor wellFormed filled otherHeld).2
  rw [Option.some.inj (otherFound.symm.trans found)] at reached
  exact ⟨defined, isTensor, found, reached⟩

theorem tensors :
    Enumerates m.UsesRoot (m.HoldsRoot binary) interner.objects.tensors.length := by
  apply enumerates_of_keys .tensors finished.small finished.sound.distinct
    (fun _ _ => Key.value.inj)
  · rintro root handle ⟨paired, held⟩
    exact (finished.of_holdsTensor paired held).2.2.1
  · rintro root handle ⟨paired, held⟩
    obtain ⟨defined, isTensor, _⟩ := finished.of_holdsTensor paired held
    exact ⟨_, (List.of_mem_zip paired).1, _, defined, isTensor, rfl⟩
  · rintro root ⟨function, member, value, defined, isTensor, rfl⟩
    obtain ⟨program, paired⟩ := finished.exists_program member
    obtain ⟨handle, held, _⟩ := finished.exists_reached paired defined isTensor
    exact ⟨handle, .of paired held⟩
  · intro key held
    obtain ⟨function, member, ⟨value, defined, own, asked⟩ | ⟨_, _, config, _, asked⟩⟩ :=
      finished.exists_of_holds held (by decide)
    · rcases Module.mem_requests_iff.mp asked with ⟨type, typed, same | nested⟩ | ⟨_, _, same⟩
      · have isTensor := Module.isTensor_iff.mpr ⟨type, typed⟩
        exact ⟨value, ⟨function, member, value, defined, isTensor, own⟩, (Prod.mk.inj same).2⟩
      · rcases Placement.mem_requests_iff.mp nested with same | same <;> cases same
      · cases same
    · rcases MemoryConfig.mem_requests_iff.mp asked with same | ⟨_, _, same⟩ <;> cases same

/-! ### Layouts and memories -/

theorem of_holdsLayout {place : Placement}
    (held : m.HoldsLayout binary interner.objects place handle) :
    m.UsesPlacement place ∧ interner.handle? .layouts (.placement place) = some handle ∧
      binary.Reaches interner.objects .layouts handle := by
  obtain ⟨paired, held, typed, stored⟩ := held
  obtain ⟨defined, _, found, reached⟩ := finished.of_holdsTensor paired held
  have wellFormed := (finished.of_paired paired).1
  obtain ⟨layout, sameStored, placed⟩ :=
    finished.sound.exists_layout? finished.small
      ((tensorType_root wellFormed defined).mpr typed) found
  cases stored.symm.trans sameStored
  exact ⟨⟨_, (List.of_mem_zip paired).1, _, defined, _, typed, rfl⟩, placed, .layout reached stored⟩

theorem exists_holdsLayout {place : Placement} (used : m.UsesPlacement place) :
    ∃ handle, m.HoldsLayout binary interner.objects place handle := by
  obtain ⟨function, member, value, defined, type, typed, rfl⟩ := used
  obtain ⟨program, paired⟩ := finished.exists_program member
  have isTensor := Module.isTensor_iff.mpr ⟨type, typed⟩
  obtain ⟨tensor, held, _⟩ := finished.exists_reached paired defined isTensor
  obtain ⟨_, _, found, _⟩ := finished.of_holdsTensor paired held
  have wellFormed := (finished.of_paired paired).1
  obtain ⟨layout, stored, _⟩ :=
    finished.sound.exists_layout? finished.small
      ((tensorType_root wellFormed defined).mpr typed) found
  exact ⟨layout, .of paired held typed stored⟩

/-- A row that a placement refers to is asked for by a tensor. -/
theorem exists_of_holds_placed {table : Table} {key : Key} (held : interner.Holds (table, key))
    (sort : table = .layouts ∨ table = .memories) :
    ∃ place, m.UsesPlacement place ∧ (table, key) ∈ place.requests := by
  obtain ⟨function, member, ⟨value, defined, _, asked⟩ | ⟨_, _, config, _, asked⟩⟩ :=
    finished.exists_of_holds held (by rcases sort with rfl | rfl <;> decide)
  · rcases Module.mem_requests_iff.mp asked with ⟨type, typed, same | nested⟩ | ⟨_, _, same⟩
    · rcases sort with rfl | rfl <;> cases same
    · exact ⟨type.placement, ⟨function, member, value, defined, type, typed, rfl⟩, nested⟩
    · rcases sort with rfl | rfl <;> cases same
  · rcases MemoryConfig.mem_requests_iff.mp asked with same | ⟨_, _, same⟩ <;>
      rcases sort with rfl | rfl <;> cases same

theorem layouts :
    Enumerates m.UsesPlacement (m.HoldsLayout binary interner.objects)
      interner.objects.layouts.length := by
  apply enumerates_of_keys .layouts finished.small finished.sound.distinct
    (fun _ _ => Key.placement.inj)
  · exact fun place handle held => (finished.of_holdsLayout held).2.1
  · exact fun place handle held => (finished.of_holdsLayout held).1
  · exact fun place used => finished.exists_holdsLayout used
  · intro key held
    obtain ⟨place, used, asked⟩ := finished.exists_of_holds_placed held (Or.inl rfl)
    rcases Placement.mem_requests_iff.mp asked with same | same
    · exact ⟨place, used, (Prod.mk.inj same).2⟩
    · cases same

theorem of_holdsMemory {region : MemoryRegion × Option BankLayout}
    (held : m.HoldsMemory binary interner.objects region handle) :
    m.UsesRegion region ∧ interner.handle? .memories (.region region.1 region.2) = some handle ∧
      binary.Reaches interner.objects .memories handle := by
  obtain ⟨placed, stored⟩ := held
  obtain ⟨used, found, reached⟩ := finished.of_holdsLayout placed
  obtain ⟨memory, sameStored, backed⟩ := finished.sound.exists_memory? finished.small found
  cases stored.symm.trans sameStored
  exact ⟨⟨_, used, rfl⟩, backed, .memory reached stored⟩

theorem memories :
    Enumerates m.UsesRegion (m.HoldsMemory binary interner.objects)
      interner.objects.memories.length := by
  have injective : Function.Injective fun region : MemoryRegion × Option BankLayout =>
      Key.region region.1 region.2 :=
    fun _ _ same => Prod.ext (Key.region.inj same).1 (Key.region.inj same).2
  apply enumerates_of_keys .memories finished.small finished.sound.distinct injective
  · exact fun region handle held => (finished.of_holdsMemory held).2.1
  · exact fun region handle held => (finished.of_holdsMemory held).1
  · rintro _ ⟨place, used, rfl⟩
    obtain ⟨layout, held⟩ := finished.exists_holdsLayout used
    obtain ⟨memory, stored, _⟩ :=
      finished.sound.exists_memory? finished.small (finished.of_holdsLayout held).2.1
    exact ⟨memory, .of held stored⟩
  · intro key held
    obtain ⟨place, used, asked⟩ := finished.exists_of_holds_placed held (Or.inr rfl)
    rcases Placement.mem_requests_iff.mp asked with same | same
    · cases same
    · exact ⟨(place.region, place.banks), ⟨place, used, rfl⟩, (Prod.mk.inj same).2⟩

/-! ### Memory configurations and shard shapes -/

theorem of_holdsMemoryConfig {config : MemoryConfig}
    (held : m.HoldsMemoryConfig binary config handle) :
    m.UsesMemoryConfig config ∧
      interner.handle? .memoryConfigs (.memoryConfig config) = some handle ∧
      binary.Reaches interner.objects .memoryConfigs handle := by
  obtain ⟨paired, executed, held⟩ := held
  obtain ⟨_, filled, _⟩ := finished.of_paired paired
  obtain ⟨fits, found⟩ := (List.forall₂_zip filled.operations executed).handleIn held
  cases fits with
  | memoryConfig asked =>
      refine ⟨⟨_, (List.of_mem_zip paired).1, _, (List.of_mem_zip executed).1, asked⟩, found, ?_⟩
      exact .slot (List.of_mem_zip paired).2 (List.of_mem_zip executed).2 held.mem_slots

theorem exists_holdsMemoryConfig {config : MemoryConfig} (used : m.UsesMemoryConfig config) :
    ∃ handle, m.HoldsMemoryConfig binary config handle := by
  obtain ⟨function, member, instruction, executed, asked⟩ := used
  obtain ⟨program, paired⟩ := finished.exists_program member
  obtain ⟨_, filled, described⟩ := finished.of_paired paired
  obtain ⟨entry, both, _⟩ := exists_mem_zip filled.operations executed
  obtain ⟨handle, held⟩ := described.asked instruction entry both config asked
  exact ⟨handle, .of paired both held⟩

/-- A row for a memory configuration or its shard shape is asked for by an instruction. -/
theorem exists_of_holds_config {table : Table} {key : Key} (held : interner.Holds (table, key))
    (sort : table = .memoryConfigs ∨ table = .shards) :
    ∃ config, m.UsesMemoryConfig config ∧ (table, key) ∈ config.requests := by
  obtain ⟨function, member, ⟨value, _, _, asked⟩ | ⟨instruction, executed, config, given, asked⟩⟩ :=
    finished.exists_of_holds held (by rcases sort with rfl | rfl <;> decide)
  · rcases Module.mem_requests_iff.mp asked with ⟨type, _, same | nested⟩ | ⟨_, _, same⟩
    · rcases sort with rfl | rfl <;> cases same
    · rcases Placement.mem_requests_iff.mp nested with same | same <;>
        rcases sort with rfl | rfl <;> cases same
    · rcases sort with rfl | rfl <;> cases same
  · exact ⟨config, ⟨function, member, instruction, executed, given⟩, asked⟩

theorem memoryConfigs :
    Enumerates m.UsesMemoryConfig (m.HoldsMemoryConfig binary)
      interner.objects.memoryConfigs.length := by
  apply enumerates_of_keys .memoryConfigs finished.small finished.sound.distinct
    (fun _ _ => Key.memoryConfig.inj)
  · exact fun config handle held => (finished.of_holdsMemoryConfig held).2.1
  · exact fun config handle held => (finished.of_holdsMemoryConfig held).1
  · exact fun config used => finished.exists_holdsMemoryConfig used
  · intro key held
    obtain ⟨config, used, asked⟩ := finished.exists_of_holds_config held (Or.inl rfl)
    rcases MemoryConfig.mem_requests_iff.mp asked with same | ⟨_, _, same⟩
    · exact ⟨config, used, (Prod.mk.inj same).2⟩
    · cases same

theorem of_holdsShard {shape : List Int64}
    (held : m.HoldsShard binary interner.objects shape handle) :
    m.UsesShard shape ∧ interner.handle? .shards (.shard shape) = some handle ∧
      binary.Reaches interner.objects .shards handle := by
  obtain ⟨held, given, stored⟩ := held
  obtain ⟨used, found, reached⟩ := finished.of_holdsMemoryConfig held
  obtain ⟨shard, sameStored, listed⟩ := finished.sound.exists_shard? finished.small given found
  cases stored.symm.trans sameStored
  exact ⟨⟨_, used, given⟩, listed, .shard reached stored⟩

theorem shards :
    Enumerates m.UsesShard (m.HoldsShard binary interner.objects)
      interner.objects.shards.length := by
  apply enumerates_of_keys .shards finished.small finished.sound.distinct
    (fun _ _ => Key.shard.inj)
  · exact fun shape handle held => (finished.of_holdsShard held).2.1
  · exact fun shape handle held => (finished.of_holdsShard held).1
  · rintro shape ⟨config, used, given⟩
    obtain ⟨handle, held⟩ := finished.exists_holdsMemoryConfig used
    obtain ⟨shard, stored, _⟩ :=
      finished.sound.exists_shard? finished.small given (finished.of_holdsMemoryConfig held).2.1
    exact ⟨shard, .of held given stored⟩
  · intro key held
    obtain ⟨config, used, asked⟩ := finished.exists_of_holds_config held (Or.inr rfl)
    rcases MemoryConfig.mem_requests_iff.mp asked with same | ⟨shape, given, same⟩
    · cases same
    · exact ⟨shape, ⟨config, used, given⟩, (Prod.mk.inj same).2⟩

/-! ### All tables -/

theorem shares : m.Shares binary interner.objects where
  tensors := finished.tensors
  layouts := finished.layouts
  memories := finished.memories
  memoryConfigs := finished.memoryConfigs
  shards := finished.shards
  reached table notDevices notDebug index inside := by
    cases table with
    | devices => exact absurd rfl notDevices
    | debugInfos => exact absurd rfl notDebug
    | tensors =>
        obtain ⟨_, handle, ⟨paired, held⟩, same⟩ := finished.tensors.onto index inside
        exact ⟨handle, (finished.of_holdsTensor paired held).2.2.2, same⟩
    | layouts =>
        obtain ⟨_, handle, held, same⟩ := finished.layouts.onto index inside
        exact ⟨handle, (finished.of_holdsLayout held).2.2, same⟩
    | memories =>
        obtain ⟨_, handle, held, same⟩ := finished.memories.onto index inside
        exact ⟨handle, (finished.of_holdsMemory held).2.2, same⟩
    | memoryConfigs =>
        obtain ⟨_, handle, held, same⟩ := finished.memoryConfigs.onto index inside
        exact ⟨handle, (finished.of_holdsMemoryConfig held).2.2, same⟩
    | shards =>
        obtain ⟨_, handle, held, same⟩ := finished.shards.onto index inside
        exact ⟨handle, (finished.of_holdsShard held).2.2, same⟩

end Module.Finished

/-- What is read back from the frame of a module is finished. -/
theorem Module.WellFormed.finished {m : Module} {options : LoweringOptions} {buffer : Bytes}
    (wellFormed : m.WellFormed) (lowered : m.lower options = .ok buffer) :
    ∃ binary, Binary.ofFrame buffer = .ok binary ∧
      binary.objects = some (m.interner options).objects ∧
      m.Finished options (m.interner options) binary := by
  obtain ⟨binary, decoded, stored, small, filled⟩ := wellFormed.decoded lowered
  obtain ⟨assembled, built, _⟩ := Module.lower_eq_ok_iff.mp lowered
  obtain ⟨programs, _, ran, _⟩ := Module.binary_eq_ok_iff.mp built
  exact ⟨binary, decoded, stored, wellFormed, m.sound_interner options, small, filled,
    fun row held => (Module.holds_interner_iff ran row).mp held⟩

/-- The tables of a lowered module have exactly one row for each tensor, placement, memory
region, memory configuration and shard shape that its functions use, and no row that the
programs do not reach. -/
theorem Module.Built.records_shared {m : Module} {options : LoweringOptions} {buffer : Bytes}
    (built : m.Built) (lowered : m.lower options = .ok buffer) :
    ∃ binary objects, Binary.ofFrame buffer = .ok binary ∧ binary.objects = some objects ∧
      m.Shares binary objects := by
  obtain ⟨binary, decoded, stored, finished⟩ := built.wellFormed.finished lowered
  exact ⟨binary, _, decoded, stored, finished.shares⟩

theorem records_shared_copyAbs :
    (copyAbs .single).functions.map Function.name = ["copy_abs"] ∧ (copyAbs .single).Built ∧
      ∃ buffer, (copyAbs .single).lower {} = .ok buffer ∧
        ∃ binary objects, Binary.ofFrame buffer = .ok binary ∧ binary.objects = some objects ∧
          (copyAbs .single).Shares binary objects := by
  obtain ⟨buffer, lowered⟩ := exists_lower_copyAbs
  exact ⟨names_copyAbs _, built_copyAbs _, buffer, lowered,
    Module.Built.records_shared (built_copyAbs _) lowered⟩

end Tilework
