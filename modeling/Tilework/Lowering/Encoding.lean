import Tilework.Artifact.OperationRecord
import Tilework.Lowering.Mesh
import Tilework.Lowering.Reference

/-!
# Encoding operations

Every operation that belongs to a known dialect has one kind of record.  The
attributes are copied; values and memory configurations become references, which
are linked later in the order of the record's fields.  What a record says about
the mesh of a device follows from the types of the values in the module.
-/

namespace Tilework

open Artifact

/-! ## Parameters of elementwise operations -/

namespace ElementwiseKind

/-- Whether operations of the kind have to write into a tensor handed to them. -/
def needsOutput (kind : ElementwiseKind) : Bool :=
  kind != .clamp

/-- The parameters that the record of a kind keeps.  Only clamps have bounds,
and only leaky rectifiers have a slope. -/
def parameters (kind : ElementwiseKind) (given : Option Operation.ElementwiseParameters) :
    Option OperationRecord.ElementwiseParameters :=
  match kind, given with
  | .clamp, some (.clamp min max) => some (.clamp { min, max })
  | .leakyRelu, some (.scalar slope) => some (.scalar { value := slope })
  | _, _ => none

end ElementwiseKind

/-- The position of a collective reduction among all of them. -/
def CollectiveReduction.ordinal (reduction : CollectiveReduction) : UInt32 :=
  UInt32.ofNat (CollectiveReduction.all.idxOf reduction)

/-- The record of a scale factor. -/
def ScaleFactor.record : ScaleFactor → OperationRecord.Scale
  | .uniform scale => .uniform { scale }
  | .perDimension scales => .perDimension { scales }

/-! ## Records -/

namespace Operation

/-- The result of an elementwise operation. -/
def Elementwise.out (op : Elementwise) : Reference :=
  match op.output with
  | some output => .written output op.result
  | none =>
      if op.kind.needsOutput then .unplaced op.kind.operationName else .allocated op.result

/-- The record of a conversion. -/
def Conversion.record (op : Conversion) : OperationRecord.Conversion Reference where
  input := .tensor op.input
  dataType := .of op.dataType
  out := .allocated op.result

/-- The record of a constant fill. -/
def ConstantFill.record (op : ConstantFill) : OperationRecord.ConstantFill Reference where
  shape := op.shape
  dataType := op.dataType.map .of
  format := op.format.map .of
  device := op.device.map .device
  memoryConfig := op.memoryConfig.map .memoryConfig
  out := .allocated op.result

/-- The record of an operation that opens a device. -/
def GetDevice.record (m : Module) (op : GetDevice) :
    Except LoweringError (OperationRecord.GetDevice Reference) := do
  let type ← (m.deviceType op.result).mapError .program
  let mesh ← type.openedMesh
  pure { mesh := some mesh, chips := type.chips, out := .opened op.result }

/-- How a new tensor is distributed over the device that it is created on. -/
def creationStrategy (m : Module) (device : Option ValueId) (result : ValueId) :
    Except LoweringError (Strategy × UInt32) := do
  let device ← (device.mapM m.deviceType).mapError LoweringError.program
  let type ← (m.tensorType result).mapError .program
  type.strategy device

/-- The record of an allocation. -/
def Empty.record (m : Module) (op : Empty) :
    Except LoweringError (OperationRecord.Empty Reference) := do
  let (strategy, numShards) ← creationStrategy m op.device op.result
  pure
    { shape := op.shape
      dataType := .of op.dataType
      format := .of op.format
      numShards
      device := op.device.map .device
      memoryConfig := .memoryConfig op.memoryConfig
      strategy := some strategy
      out := .allocated op.result }

/-- The record of a fill. -/
def Full.record (m : Module) (op : Full) :
    Except LoweringError (OperationRecord.Full Reference) := do
  let (strategy, numShards) ← creationStrategy m op.device op.result
  pure
    { device := op.device.map .device
      fillValue := op.fillValue
      numShards
      strategy := some strategy
      out := .allocated op.result }

/-- The record of an operation on the shards of a mesh.  The sharding has to
replicate the tensor or to split it over devices. -/
def MeshShard.record (op : MeshShard) :
    Except LoweringError (OperationRecord.MeshShard Reference) :=
  if op.shardKind = .replicate ∨ op.shardKind = .devices then
    .ok
      { input := .tensor op.input
        out := .allocated op.result
        device := .device op.device
        shardDirection := .of op.shardDirection
        shardKind := .of op.shardKind
        shardShape := op.shardShape
        shardDims := op.shardDims }
  else .error (.unsupportedShardKind op.shardKind)

/-- The record of an operation. -/
def record (m : Module) : Operation → Except LoweringError (OperationRecord Reference)
  | getDevice op => (op.record m).map .getDevice
  | toMemoryConfig op =>
      .ok (.toMemoryConfig
        { input := .tensor op.input
          memoryConfig := .memoryConfig op.memoryConfig
          out := .allocated op.result })
  | toLayout op =>
      .ok (.toLayout
        { input := .tensor op.input
          format := .of op.format
          dataType := op.dataType.map .of
          memoryConfig := op.memoryConfig.map .memoryConfig
          device := op.device.map .device
          out := .allocated op.result })
  | toDType op => .ok (.toDType op.record)
  | typecast op => .ok (.typecast op.record)
  | toDevice op =>
      .ok (.toDevice
        { input := .tensor op.input
          device := .device op.device
          memoryConfig := op.memoryConfig.map .memoryConfig
          out := .allocated op.result })
  | fromDevice op =>
      .ok (.fromDevice { input := .tensor op.input, out := .allocated op.result })
  | empty op => (op.record m).map .empty
  | full op => (op.record m).map .full
  | arange op =>
      .ok (.arange
        { start := .ofInt op.start.toInt
          stop := .ofInt op.stop.toInt
          step := .ofInt op.step.toInt
          dataType := op.dataType.map .of
          device := op.device.map .device
          memoryConfig := op.memoryConfig.map .memoryConfig
          out := .allocated op.result })
  | zeros op => .ok (.zeros op.record)
  | ones op => .ok (.ones op.record)
  | elementwise op =>
      .ok (.elementwise
        { kind := .of op.kind
          inputs := op.inputs.map .tensor
          out := op.out
          parameters := op.kind.parameters op.parameters })
  | linear op =>
      .ok (.linear
        { a := .tensor op.a
          b := .tensor op.b
          bias := op.bias.map .tensor
          out := .written op.output op.result })
  | matmul op =>
      .ok (.matmul
        { a := .tensor op.a, b := .tensor op.b, out := .written op.output op.result })
  | cumulativeSum op =>
      .ok (.cumulativeSum
        { input := .tensor op.input
          out := .written op.output op.result
          dim := op.dim
          memoryConfig := op.memoryConfig.map .memoryConfig })
  | reduction op =>
      .ok (.reduction
        { kind := .of op.kind
          input := .tensor op.input
          out := .allocated op.result
          dims := op.dims.getD []
          keepDim := op.keepDim })
  | product op =>
      .ok (.product
        { input := .tensor op.input
          out := .allocated op.result
          allDimensions := op.allDimensions
          dim := op.dim
          keepDim := op.keepDim
          memoryConfig := op.memoryConfig.map .memoryConfig })
  | embedding op =>
      .ok (.embedding
        { input := .tensor op.input
          weight := .tensor op.weight
          out := .written op.output op.result })
  | embeddingBackward op =>
      .ok (.embeddingBackward
        { input := .tensor op.input
          weight := .tensor op.weight
          inGradient := .tensor op.inGradient
          dataType := op.dataType.map .of
          memoryConfig := op.memoryConfig.map .memoryConfig
          out := .written op.output op.result })
  | repeatInterleave op =>
      .ok (.repeatInterleave
        { input := .tensor op.input
          out := .allocated op.result
          repeats := op.repeats
          dim := op.dim
          memoryConfig := op.memoryConfig.map .memoryConfig })
  | softmax op =>
      .ok (.softmax
        { input := .tensor op.input
          out := .allocated op.result
          dimension := op.dimension })
  | transpose op =>
      .ok (.transpose
        { input := .tensor op.input
          out := .allocated op.result
          dim0 := op.dim0
          dim1 := op.dim1 })
  | convolution op =>
      .ok (.convolution
        { input := .tensor op.input
          weight := .tensor op.weight
          bias := op.bias.map .tensor
          out := .written op.output op.result
          device := .device op.device
          inChannels := op.inChannels
          outChannels := op.outChannels
          batchSize := op.batchSize
          inputHeight := op.inputHeight
          inputWidth := op.inputWidth
          kernel := op.kernelSize
          stride := op.stride
          padding := op.padding
          dilation := op.dilation
          groups := op.groups })
  | transposedConvolution op =>
      .ok (.transposedConvolution
        { input := .tensor op.input
          weight := .tensor op.weight
          bias := op.bias.map .tensor
          out := .written op.output op.result
          device := .device op.device
          inChannels := op.inChannels
          outChannels := op.outChannels
          batchSize := op.batchSize
          inputHeight := op.inputHeight
          inputWidth := op.inputWidth
          kernel := op.kernelSize.toList
          stride := op.stride.toList
          padding := op.padding.toList
          outputPadding := op.outputPadding.toList
          dilation := op.dilation.toList
          groups := op.groups })
  | allGather op =>
      .ok (.allGather
        { input := .tensor op.input
          out := .allocated op.result
          device := .device op.device
          dim := op.dim
          numLinks := op.numLinks })
  | reduceScatter op =>
      .ok (.reduceScatter
        { input := .tensor op.input
          out := .allocated op.result
          device := .device op.device
          scatterSplitDim := op.scatterSplitDim
          mathOp := op.mathOp.ordinal
          numLinks := op.numLinks })
  | meshShard op => op.record.map .meshShard
  | concat op =>
      .ok (.concat
        { inputs := op.inputs.map .tensor
          out := .written op.output op.result
          dim := op.dim
          memoryConfig := op.memoryConfig.map .memoryConfig })
  | reshape op =>
      .ok (.reshape
        { input := .tensor op.input, out := .allocated op.result, shape := op.shape })
  | repeatTensor op =>
      .ok (.repeatTensor
        { input := .tensor op.input
          out := .allocated op.result
          repeatDims := op.repeatDims })
  | pad op =>
      .ok (.pad
        { input := .tensor op.input
          out := .allocated op.result
          padding := op.padding
          value := op.value
          useMulticore := op.useMulticore
          memoryConfig := op.memoryConfig.map .memoryConfig })
  | slice op =>
      .ok (.slice
        { input := .tensor op.input
          out := .written op.output op.result
          begins := op.begins
          ends := op.ends
          step := op.step })
  | maxPool op =>
      .ok (.maxPool
        { input := .tensor op.input
          out := .written op.output op.result
          device := .device op.device
          batchSize := op.batchSize
          inputHeight := op.inputHeight
          inputWidth := op.inputWidth
          channels := op.channels
          kernel := op.kernelSize
          stride := op.stride
          dilation := op.dilation
          ceilMode := op.ceilMode
          padding := op.padding })
  | deallocate op => .ok (.deallocate { input := .tensor op.input, force := op.force })
  | updateCache op =>
      .ok (.updateCache
        { cache := .tensor op.cache
          input := .tensor op.input
          updateIndex := .tensor op.updateIndex
          batchOffset := op.batchOffset })
  | fillCache op =>
      .ok (.fillCache
        { cache := .tensor op.cache
          input := .tensor op.input
          batchOffset := op.batchOffset })
  | permute op =>
      .ok (.permute
        { input := .tensor op.input
          permutation := op.permutation
          memoryConfig := op.memoryConfig.map .memoryConfig
          padValue := op.padValue
          out := .allocated op.result })
  | upsample op =>
      .ok (.upsample
        { input := .tensor op.input
          scaleFactor := some op.scaleFactor.record
          mode := op.mode
          memoryConfig := op.memoryConfig.map .memoryConfig
          out := .allocated op.result })
  | unregistered op => .error (.unhandledOperation op.name)

end Operation

end Tilework
