import Tilework.Artifact.Binary
import Tilework.Artifact.Error

/-!
# Verification of artifacts

An artifact that can be decoded may still lack a mandatory part, refer to a
record that no table has, or hold a number that names no member of an
enumeration.  Verification lists these conditions in the order in which they are
reported, and the first one that fails is the error.
-/

namespace Tilework.Artifact

/-! ## Conditions -/

/-- A condition on an artifact. -/
inductive Check
  /-- A field of a record has to be set. -/
  | isSet (record field : String) (set : Bool)
  /-- A handle has to lie below the length of its table. -/
  | isWithin (table : String) (handle : Handle) (length : Nat)
  /-- A number has to be that of a member. -/
  | isMember (enumeration : String) (number : Int32) (known : Bool)

namespace Check

/-- Whether the condition holds, and the error if it does not. -/
def run : Check → Except ArtifactError Unit
  | isSet record field set => if set then .ok () else .error (.missingField record field)
  | isWithin table handle length =>
      if handle.toNat < length then .ok () else .error (.invalidHandle table handle length)
  | isMember enumeration number known =>
      if known then .ok () else .error (.unknownMember enumeration number)

/-- A field of a record has to be set. -/
def field {α : Type} (record name : String) (value : Option α) : Check :=
  isSet record name value.isSome

/-- An enumeration field has to hold the number of a member. -/
def known {ε : Type} [Enumeration ε] (code : Coded ε) : Check :=
  isMember (Enumeration.label ε) code.number code.isKnown

/-- A handle has to refer to a record of a table. -/
def handle (objects : ObjectTables) (table : Table) (handle : Handle) : Check :=
  isWithin table.text handle (objects.records table).length

end Check

/-! ## Shared records -/

/-- The conditions on a chip. -/
def ChipRecord.checks (chip : ChipRecord) : List Check :=
  [.known chip.architecture, .field "ChipDesc" "grid_size" chip.grid] ++
    chip.dataTypes.map .known

/-- The conditions on a system. -/
def SystemRecord.checks (system : SystemRecord) : List Check :=
  system.chips.flatMap ChipRecord.checks ++
    system.chipIndices.map fun index => .isWithin "chip_descs" index system.chips.length

/-- The conditions on a rectangle of cores. -/
def CoreRange.checks (range : CoreRange) : List Check :=
  [.field "Dim2dRange" "loc" range.origin, .field "Dim2dRange" "size" range.size]

/-- The conditions on a tensor. -/
def TensorRecord.checks (objects : ObjectTables) (tensor : TensorRecord) : List Check :=
  .field "TensorRef" "desc" tensor.description ::
    tensor.description.toList.map fun description =>
      .handle objects .layouts description.layout

/-- The conditions on a layout. -/
def LayoutRecord.checks (objects : ObjectTables) (layout : LayoutRecord) : List Check :=
  .known layout.outOfBounds :: layout.cores.flatMap CoreRange.checks ++
    [.handle objects .memories layout.memory]

/-- The conditions on a memory. -/
def MemoryRecord.checks (memory : MemoryRecord) : List Check :=
  [.field "MemoryDesc" "tile_shape" memory.tileShape, .known memory.dataType,
    .known memory.memorySpace, .known memory.banks]

/-- The conditions on a memory configuration. -/
def MemoryConfigRecord.checks (objects : ObjectTables) (config : MemoryConfigRecord) :
    List Check :=
  [.known config.banks, .known config.buffer] ++
    config.shard.toList.map (.handle objects .shards)

/-- The conditions on an expected tensor. -/
def GoldenEntry.checks (entry : GoldenEntry) : List Check :=
  .field "GoldenKv" "value" entry.value ::
    entry.value.toList.map fun golden => .known golden.dataType

/-- The conditions on debug information. -/
def DebugRecord.checks (debug : DebugRecord) : List Check :=
  .field "DebugInfo" "mlir" debug.snapshot ::
    debug.golden.toList.flatMap fun golden => golden.entries.flatMap GoldenEntry.checks

/-- The conditions on the tables of shared records. -/
def ObjectTables.checks (objects : ObjectTables) : List Check :=
  objects.tensors.flatMap (TensorRecord.checks objects) ++
    objects.layouts.flatMap (LayoutRecord.checks objects) ++
    objects.memories.flatMap MemoryRecord.checks ++
    objects.memoryConfigs.flatMap (MemoryConfigRecord.checks objects) ++
    objects.debugInfos.flatMap DebugRecord.checks

/-! ## Operations -/

/-- The conditions on a distribution. -/
def Distribution.checks : Distribution → List Check
  | .line _ => []
  | .mesh cut => [.field "ShardTensor2D" "shard_mesh" cut.mesh]

/-- The conditions on the strategy of a record, which is mandatory. -/
def strategyChecks (record : String) (strategy : Option Strategy) : List Check :=
  .field record "strategy" strategy ::
    strategy.toList.flatMap fun strategy =>
      strategy.distribution.toList.flatMap Distribution.checks

section

variable (objects : ObjectTables)

/-- Handles have to refer to tensors. -/
def tensorChecks (handles : List Handle) : List Check :=
  handles.map (.handle objects .tensors)

/-- Handles have to refer to devices. -/
def deviceChecks (handles : List Handle) : List Check :=
  handles.map (.handle objects .devices)

/-- Handles have to refer to memory configurations. -/
def configChecks (handles : List Handle) : List Check :=
  handles.map (.handle objects .memoryConfigs)

/-- The conditions on a constant fill. -/
def OperationRecord.ConstantFill.checks (op : OperationRecord.ConstantFill Handle) :
    List Check :=
  tensorChecks objects [op.out] ++ op.dataType.toList.map .known ++
    op.format.toList.map .known ++ deviceChecks objects op.device.toList ++
    configChecks objects op.memoryConfig.toList

/-- The conditions on a conversion. -/
def OperationRecord.Conversion.checks (op : OperationRecord.Conversion Handle) : List Check :=
  tensorChecks objects [op.input, op.out] ++ [.known op.dataType]

/-- The conditions on the record of an operation. -/
def OperationRecord.checks : OperationRecord Handle → List Check
  | .getDevice op =>
      .field "GetDeviceOp" "mesh" op.mesh :: deviceChecks objects [op.out]
  | .toMemoryConfig op =>
      tensorChecks objects [op.input, op.out] ++ configChecks objects [op.memoryConfig]
  | .toLayout op =>
      tensorChecks objects [op.input, op.out] ++ .known op.format ::
        op.dataType.toList.map .known ++ configChecks objects op.memoryConfig.toList ++
        deviceChecks objects op.device.toList
  | .toDType op => op.checks objects
  | .typecast op => op.checks objects
  | .toDevice op =>
      tensorChecks objects [op.input, op.out] ++ deviceChecks objects [op.device] ++
        configChecks objects op.memoryConfig.toList
  | .fromDevice op => tensorChecks objects [op.input, op.out]
  | .empty op =>
      tensorChecks objects [op.out] ++ [.known op.dataType, .known op.format] ++
        deviceChecks objects op.device.toList ++ configChecks objects [op.memoryConfig] ++
        strategyChecks "EmptyOp" op.strategy
  | .full op =>
      tensorChecks objects [op.out] ++ deviceChecks objects op.device.toList ++
        strategyChecks "FullOp" op.strategy
  | .arange op =>
      tensorChecks objects [op.out] ++ op.dataType.toList.map .known ++
        deviceChecks objects op.device.toList ++
        configChecks objects op.memoryConfig.toList
  | .zeros op => op.checks objects
  | .ones op => op.checks objects
  | .elementwise op => .known op.kind :: tensorChecks objects (op.inputs ++ [op.out])
  | .linear op => tensorChecks objects ([op.a, op.b, op.out] ++ op.bias.toList)
  | .matmul op => tensorChecks objects [op.a, op.b, op.out]
  | .cumulativeSum op =>
      tensorChecks objects [op.input, op.out] ++
        configChecks objects op.memoryConfig.toList
  | .reduction op => .known op.kind :: tensorChecks objects [op.input, op.out]
  | .product op =>
      tensorChecks objects [op.input, op.out] ++
        configChecks objects op.memoryConfig.toList
  | .embedding op => tensorChecks objects [op.input, op.weight, op.out]
  | .embeddingBackward op =>
      tensorChecks objects [op.input, op.weight, op.inGradient, op.out] ++
        op.dataType.toList.map .known ++ configChecks objects op.memoryConfig.toList
  | .repeatInterleave op =>
      tensorChecks objects [op.input, op.out] ++
        configChecks objects op.memoryConfig.toList
  | .softmax op => tensorChecks objects [op.input, op.out]
  | .transpose op => tensorChecks objects [op.input, op.out]
  | .convolution op =>
      tensorChecks objects ([op.input, op.weight, op.out] ++ op.bias.toList) ++
        deviceChecks objects [op.device]
  | .transposedConvolution op =>
      tensorChecks objects ([op.input, op.weight, op.out] ++ op.bias.toList) ++
        deviceChecks objects [op.device]
  | .allGather op =>
      tensorChecks objects [op.input, op.out] ++ deviceChecks objects [op.device]
  | .reduceScatter op =>
      tensorChecks objects [op.input, op.out] ++ deviceChecks objects [op.device]
  | .meshShard op =>
      tensorChecks objects [op.input, op.out] ++ deviceChecks objects [op.device] ++
        [.known op.shardDirection, .known op.shardKind]
  | .concat op =>
      tensorChecks objects (op.inputs ++ [op.out]) ++
        configChecks objects op.memoryConfig.toList
  | .reshape op => tensorChecks objects [op.input, op.out]
  | .repeatTensor op => tensorChecks objects [op.input, op.out]
  | .pad op =>
      tensorChecks objects [op.input, op.out] ++
        configChecks objects op.memoryConfig.toList
  | .slice op => tensorChecks objects [op.input, op.out]
  | .maxPool op =>
      tensorChecks objects [op.input, op.out] ++ deviceChecks objects [op.device]
  | .deallocate op => tensorChecks objects [op.input]
  | .updateCache op => tensorChecks objects [op.cache, op.input, op.updateIndex]
  | .fillCache op => tensorChecks objects [op.cache, op.input]
  | .permute op =>
      tensorChecks objects [op.input, op.out] ++
        configChecks objects op.memoryConfig.toList
  | .upsample op =>
      tensorChecks objects [op.input, op.out] ++
        .field "UpsampleOp" "scale_factor" op.scaleFactor ::
        configChecks objects op.memoryConfig.toList

/-- The conditions on an operation of a program. -/
def OperationEntry.checks (entry : OperationEntry) : List Check :=
  .field "Operation" "op_type" entry.record ::
    entry.record.toList.flatMap (OperationRecord.checks objects)

/-- The conditions on a program. -/
def Program.checks (program : Program) : List Check :=
  tensorChecks objects (program.inputs ++ program.outputs) ++
    .handle objects .debugInfos program.debugInfo ::
    program.operations.flatMap (OperationEntry.checks objects)

end

/-! ## Artifacts -/

/-- The conditions on an artifact.  Where a mandatory part is missing, nothing
is asked of its content. -/
def Binary.checks (binary : Binary) : List Check :=
  .field "Binary" "version" binary.version ::
    .field "Binary" "system_desc" binary.system ::
    binary.system.toList.flatMap SystemRecord.checks ++
    .field "Binary" "objects" binary.objects ::
    binary.objects.toList.flatMap fun objects =>
      objects.checks ++ binary.programs.flatMap (Program.checks objects)

/-- Verify an artifact. -/
def Binary.verify (binary : Binary) : Except ArtifactError Unit :=
  binary.checks.forM Check.run

end Tilework.Artifact
