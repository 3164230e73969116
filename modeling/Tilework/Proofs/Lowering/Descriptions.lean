import Tilework.Proofs.Lowering.Handles
import Tilework.Proofs.Number

/-!
# What handles lead to

The handle that is held for a tensor leads to a row with the tensor's own shape, on
to the cores of its grid, and on to its memory.  This is so although the row was
made for the root of the tensor, since a result that is written into a tensor has
the type of that tensor.  The handles of devices and of memory configurations lead
to what they stand for just as well.
-/

namespace Tilework

open Artifact Interner

namespace Artifact.ObjectTables

/-- A handle leads to a tensor of a given type at no fixed address, to its layout and
to its memory. -/
def DescribesTensor (objects : ObjectTables) (workers : WorkerGrid) (type : TensorType)
    (handle : Handle) : Prop :=
  ∃ tensor description layout memory,
    objects.tensors[handle.toNat]? = some tensor ∧ tensor.address = 0 ∧ tensor.size = 0 ∧
    tensor.description = some description ∧
    description.shape.map Int32.toInt = type.shape.map Int64.toInt ∧
    objects.layouts[description.layout.toNat]? = some layout ∧
    type.placement.grid.coreRanges workers = .ok layout.cores ∧
    objects.memories[layout.memory.toNat]? = some memory ∧
    type.placement.region.record type.placement.banks = .ok memory

/-- A handle leads to the first chip of a device. -/
def DescribesDevice (objects : ObjectTables) (type : DeviceType) (handle : Handle) : Prop :=
  ∃ chip, type.chips.head? = some chip ∧
    objects.devices[handle.toNat]? = some { globalId := chip }

/-- A handle leads to a memory configuration, and to its shard shape if there is
one. -/
def DescribesMemoryConfig (objects : ObjectTables) (config : MemoryConfig) (handle : Handle) :
    Prop :=
  ∃ record, objects.memoryConfigs[handle.toNat]? = some record ∧
    record.banks = .of (some config.banks) ∧ record.buffer = .of config.buffer ∧
    record.shard.map (fun shard => objects.shards[shard.toNat]?) =
      config.shardShape.map fun shape => some { shape }

end Artifact.ObjectTables

/-! ## Rows of finished tables -/

namespace Interner

variable {m : Module} {options : LoweringOptions} {interner : Interner} {table : Table} {key : Key}
  {handle : Handle} (sound : interner.Sound m options)
  (small : ∀ table, (interner.objects.records table).length < UInt32.size)

include sound small

/-- A handle leads to a row that describes its key. -/
theorem Sound.exists_record (found : interner.handle? table key = some handle) :
    ∃ record, (interner.objects.records table)[handle.toNat]? = some record ∧
      Describes m options interner table key record := by
  obtain ⟨record, row, stored⟩ := exists_row_of_handle? small found
  exact ⟨record, stored, sound.describes table (key, record) row⟩

/-- The handle of a tensor leads to its type. -/
theorem Sound.describesTensor {value : ValueId}
    (found : interner.handle? .tensors (.value value) = some handle) :
    ∃ type, m.tensorType value = .ok type ∧
      interner.objects.DescribesTensor m.target.workers type handle := by
  obtain ⟨tensor, stored, ofTensor⟩ := sound.exists_record small found
  obtain ⟨type, typed, shape, layout, narrowed, placed, address, size, description⟩ :=
    describes_tensor_iff.mp ofTensor
  obtain ⟨layoutRecord, layoutStored, ofLayout⟩ := sound.exists_record small placed
  obtain ⟨cores, memory, ranges, backed, rfl⟩ := describes_placement_iff.mp ofLayout
  obtain ⟨memoryRecord, memoryStored, ofMemory⟩ := sound.exists_record small backed
  exact ⟨type, typed, tensor, _, _, memoryRecord, stored, address, size, description,
    Number.toInt32s_eq_ok_iff.1 narrowed, layoutStored, ranges, memoryStored,
    describes_region_iff.mp ofMemory⟩

/-- The handle of a device leads to its type. -/
theorem Sound.describesDevice {value : ValueId}
    (found : interner.handle? .devices (.value value) = some handle) :
    ∃ type, m.deviceType value = .ok type ∧ interner.objects.DescribesDevice type handle := by
  obtain ⟨device, stored, described⟩ := sound.exists_record small found
  obtain ⟨type, typed, encoded⟩ := describes_device_iff.mp described
  refine ⟨type, typed, ?_⟩
  cases chips : type.chips with
  | nil =>
      rw [DeviceType.record, chips] at encoded
      cases encoded
  | cons chip later =>
      rw [DeviceType.record, chips] at encoded
      cases encoded
      exact ⟨chip, by rw [chips, List.head?_cons], stored⟩

/-- The handle of a memory configuration leads to it. -/
theorem Sound.describesMemoryConfig {config : MemoryConfig}
    (found : interner.handle? .memoryConfigs (.memoryConfig config) = some handle) :
    interner.objects.DescribesMemoryConfig config handle := by
  obtain ⟨record, stored, described⟩ := sound.exists_record small found
  obtain ⟨shard, rfl, shards⟩ := describes_memoryConfig_iff.mp described
  refine ⟨_, stored, rfl, rfl, ?_⟩
  cases given : config.shardShape with
  | none =>
      rw [given] at shards
      rw [Option.map_eq_none_iff.mp shards.symm]
      rfl
  | some shape =>
      rw [given] at shards
      cases shard with
      | none => cases shards
      | some shardHandle =>
          obtain ⟨shardRecord, shardStored, ofShard⟩ :=
            sound.exists_record small (Option.some.inj shards)
          cases describes_shard_iff.mp ofShard
          exact congrArg some shardStored

end Interner

/-! ## Programs -/

/-- The table that the handles of values of a type refer to. -/
def ValueType.table : ValueType → Table
  | .tensor _ => .tensors
  | .device _ => .devices

theorem ValueType.table_eq_tensors_iff {type : ValueType} :
    type.table = .tensors ↔ ∃ content, .tensor content = type := by
  cases type <;> simp [table]

theorem ValueType.table_eq_devices_iff {type : ValueType} :
    type.table = .devices ↔ ∃ content, .device content = type := by
  cases type <;> simp [table]

namespace Module

variable {m : Module} {value : ValueId}

theorem exists_tensorType_iff :
    (∃ type, m.tensorType value = .ok type) ↔
      ∃ type : ValueType, type.table = .tensors ∧ m.valueType value = .ok type := by
  simp only [tensorType_eq_ok_iff, ValueType.table_eq_tensors_iff, exists_exists_eq_and]

theorem exists_deviceType_iff :
    (∃ type, m.deviceType value = .ok type) ↔
      ∃ type : ValueType, type.table = .devices ∧ m.valueType value = .ok type := by
  simp only [deviceType_eq_ok_iff, ValueType.table_eq_devices_iff, exists_exists_eq_and]

end Module

/-- The program of a function holds a handle wherever the function names a tensor, a
device or a memory configuration, and each handle leads to what it is held for. -/
structure Function.Described (m : Module) (objects : ObjectTables) (function : Function)
    (program : Program) : Prop where
  name : program.name = function.name
  /-- A handle held for a tensor leads to the tensor's own type. -/
  tensor : ∀ value handle, function.HoldsTensor m program value handle →
    ∃ type, m.tensorType value = .ok type ∧ objects.DescribesTensor m.target.workers type handle
  device : ∀ value handle, function.HoldsDevice m program value handle →
    ∃ type, m.deviceType value = .ok type ∧ objects.DescribesDevice type handle
  /-- A handle held for a memory configuration leads to the one that the operation asks
  for. -/
  memoryConfig : ∀ instruction entry role config handle,
    (instruction, entry) ∈ function.body.zip program.operations →
      instruction.Holds m entry role (.memoryConfig config) handle →
        instruction.operation.memoryConfig? = some config ∧
          objects.DescribesMemoryConfig config handle
  /-- Every tensor argument is an input, and every returned value an output. -/
  inputs : program.inputs.length = (function.tensorArguments m).length
  outputs : program.outputs.length = function.returns.length
  operations : program.operations.length = function.body.length
  /-- Something is held for each operand, destination and result of an instruction. -/
  used : ∀ instruction entry, (instruction, entry) ∈ function.body.zip program.operations →
    ∀ value ∈ instruction.operation.operands ++ instruction.operation.results,
      ∀ type, m.valueType value = .ok type →
        ∃ role reference handle, instruction.Holds m entry role reference handle ∧
          role.table = type.table ∧ value ∈ reference.values
  /-- Something is held for the memory configuration that an instruction asks for. -/
  asked : ∀ instruction entry, (instruction, entry) ∈ function.body.zip program.operations →
    ∀ config, instruction.operation.memoryConfig? = some config →
      ∃ handle, instruction.Holds m entry .memoryConfig (.memoryConfig config) handle

section

variable {m : Module} {options : LoweringOptions} {interner : Interner} {function : Function}
  {program : Program} {instruction : Instruction} {entry : OperationEntry} {value : ValueId}
  {type : ValueType} {handle : Handle}

/-- A value with a handle in a table has a type of the sort that the table is for. -/
theorem Interner.Sound.exists_type (sound : interner.Sound m options) {table : Table}
    (found : interner.handle? table (.value value) = some handle) :
    ∃ type : ValueType, type.table = table ∧ m.valueType value = .ok type := by
  obtain ⟨record, describes⟩ := sound.exists_describes found
  cases table with
  | tensors =>
      obtain ⟨type, isTensor, _⟩ := describes_tensor_iff.mp describes
      exact ⟨.tensor type, rfl, Module.tensorType_eq_ok_iff.mp isTensor⟩
  | devices =>
      obtain ⟨type, isDevice, _⟩ := describes_device_iff.mp describes
      exact ⟨.device type, rfl, Module.deviceType_eq_ok_iff.mp isDevice⟩
  | memories =>
      obtain ⟨region, banks, same, _⟩ := describes
      cases same
  | layouts | memoryConfigs | shards =>
      obtain ⟨content, same, _⟩ := describes
      cases same
  | debugInfos => cases describes.1

theorem Interner.Sound.table_eq (sound : interner.Sound m options) {table : Table}
    (found : interner.handle? table (.value value) = some handle)
    (typed : m.valueType value = .ok type) : table = type.table := by
  obtain ⟨other, rfl, known⟩ := sound.exists_type found
  cases known.symm.trans typed
  rfl

/-- A program that is filled from finished tables is described by them. -/
theorem Function.Filled.described (wellFormed : function.WellFormed m)
    (sound : interner.Sound m options)
    (small : ∀ table, (interner.objects.records table).length < UInt32.size)
    (filled : function.Filled m interner program) :
    function.Described m interner.objects program where
  name := filled.name
  tensor value handle held := by
    obtain ⟨defined, found⟩ := handle?_of_holdsTensor wellFormed filled held
    obtain ⟨type, typed, described⟩ := sound.describesTensor small found
    exact ⟨type, (tensorType_root wellFormed defined).1 typed, described⟩
  device value handle held := by
    obtain ⟨defined, found⟩ := handle?_of_holdsDevice wellFormed filled held
    obtain ⟨type, typed, described⟩ := sound.describesDevice small found
    exact ⟨type, (deviceType_root wellFormed defined).1 typed, described⟩
  memoryConfig instruction entry role config handle executed held := by
    obtain ⟨fits, found⟩ := (List.forall₂_zip filled.operations executed).handleIn held
    cases fits with
    | memoryConfig asked => exact ⟨asked, sound.describesMemoryConfig small found⟩
  inputs := filled.inputs.length_eq.symm
  outputs := filled.outputs.length_eq.symm
  operations := filled.operations.length_eq.symm
  used instruction entry executed value used type typed := by
    have filledEntry := List.forall₂_zip filled.operations executed
    have member := (List.of_mem_zip executed).1
    obtain ⟨role, reference, handle, held, mentioned⟩ := filledEntry.exists_holds used
    obtain ⟨defined, found⟩ := filledEntry.handle?_of_holds wellFormed member held mentioned
    rw [← valueType_root wellFormed defined] at typed
    exact ⟨role, reference, handle, held, sound.table_eq found typed, mentioned⟩
  asked instruction entry executed config asked := by
    obtain ⟨record, linked, encoded, stored, each⟩ := List.forall₂_zip filled.operations executed
    have slot := Operation.memoryConfig_mem_of_record encoded asked
    obtain ⟨⟨role, handle⟩, pair, sameRole, _⟩ := exists_mem_zip each slot
    cases sameRole
    exact ⟨handle, record, linked, encoded, stored, pair⟩

/-- Every handle of a lowered module leads to what it is held for: a tensor to its own
shape, cores and memory, even if it is written into another tensor. -/
theorem Module.Built.handles_described {buffer : Bytes} (built : m.Built)
    (lowered : m.lower options = .ok buffer) :
    ∃ binary objects, Binary.ofFrame buffer = .ok binary ∧ binary.objects = some objects ∧
      List.Forall₂ (Function.Described m objects) m.functions binary.programs := by
  obtain ⟨binary, decoded, stored, small, filled⟩ := built.wellFormed.decoded lowered
  refine ⟨binary, _, decoded, stored, ?_⟩
  rw [List.forall₂_iff_zip] at filled ⊢
  refine ⟨filled.1, fun {function program} paired => ?_⟩
  have wellFormed := built.wellFormed.function function (List.of_mem_zip paired).1
  exact (filled.2 paired).described wellFormed (m.sound_interner options) small

end

theorem handles_described_copyAbs :
    (copyAbs .single).functions.map Function.name = ["copy_abs"] ∧ (copyAbs .single).Built ∧
      ∃ buffer, (copyAbs .single).lower {} = .ok buffer ∧
        ∃ binary objects, Binary.ofFrame buffer = .ok binary ∧ binary.objects = some objects ∧
          List.Forall₂ (Function.Described (copyAbs .single) objects)
            (copyAbs .single).functions binary.programs := by
  rcases exists_lower_copyAbs with ⟨buffer, lowered⟩
  exact ⟨names_copyAbs _, built_copyAbs _, buffer, lowered,
    Module.Built.handles_described (built_copyAbs _) lowered⟩

end Tilework
