import Tilework.Proofs.Artifact.Codec

/-!
# Merging messages

Two messages of one type are merged field by field, the second into the first.  What becomes of
a field depends on its type alone:

* a scalar is that of the second message, unless it is the default;
* an optional scalar is that of the second message if it is present there;
* lists are appended;
* a message inside both messages is merged in turn, and one that is inside one of them stays;
* a choice is merged when both messages hold the same member, and is that of the second message
  otherwise, if a choice is made there.

Nothing here refers to the wire format, except for which types are scalars and which are
messages.
-/

namespace Tilework.Artifact

open Wire

/-- Types whose values can be merged. -/
class Merging (τ : Type) where
  /-- What is read back for a value: zeros lose their signs. -/
  normalized : τ → τ := id
  /-- Merge the second value into the first. -/
  merge (first second : τ) : τ

open Merging (merge)

/-! ## Fields -/

section Fields

variable {α σ : Type}

/-- The second scalar, unless it is the default. -/
def Merging.scalar [DecidableEq α] [Inhabited α] (first second : α) : α :=
  if second = default then first else second

/-- Where both values are present they are merged, and otherwise the one that is present
stays. -/
@[reducible]
def Merging.optional (σ : Type) [Merging σ] : Merging (Option σ) where
  normalized := Option.map Merging.normalized
  merge
    | some first, some second => some (merge first second)
    | first, none => first
    | none, second => second

instance [Scalar α] [DecidableEq α] [Inhabited α] [ExactScalar α] : Merging α where
  merge := Merging.scalar

instance : Merging Single where
  normalized := Single.normalized
  merge := Merging.scalar

instance [Scalar α] : Merging (Option α) where
  merge first second := second.or first

instance [WordCoded α] : Merging (List α) where
  merge first second := first ++ second

instance [Message σ] [Merging σ] : Merging (Option σ) :=
  .optional σ

instance [Message σ] [Merging σ] : Merging (List σ) where
  normalized := List.map Merging.normalized
  merge first second := first ++ second

instance [Merging α] : Merging (Spatial α) where
  normalized sizes := ⟨Merging.normalized sizes.height, Merging.normalized sizes.width⟩
  merge first second := ⟨merge first.height second.height, merge first.width second.width⟩

end Fields

/-! ## Geometry -/

instance : Merging Version where
  merge first second :=
    ⟨merge first.major second.major, merge first.minor second.minor, merge first.patch second.patch⟩

instance : Merging Extent where
  merge first second := ⟨merge first.y second.y, merge first.x second.x⟩

instance : Merging CoreRange where
  merge first second := ⟨merge first.origin second.origin, merge first.size second.size⟩

/-! ## Tensors and devices -/

instance : Merging MemoryRecord where
  merge first second :=
    ⟨merge first.shape second.shape, merge first.tileShape second.tileShape,
      merge first.dataType second.dataType, merge first.memorySpace second.memorySpace,
      merge first.banks second.banks, merge first.size second.size⟩

instance : Merging LayoutRecord where
  merge first second :=
    ⟨merge first.outOfBounds second.outOfBounds, merge first.cores second.cores,
      merge first.memory second.memory⟩

instance : Merging TensorDescription where
  merge first second := ⟨merge first.shape second.shape, merge first.layout second.layout⟩

instance : Merging TensorRecord where
  merge first second :=
    ⟨merge first.globalId second.globalId, merge first.address second.address,
      merge first.size second.size, merge first.description second.description⟩

instance : Merging DeviceRecord where
  merge first second := ⟨merge first.globalId second.globalId⟩

instance : Merging ShardRecord where
  merge first second := ⟨merge first.shape second.shape⟩

instance : Merging MemoryConfigRecord where
  merge first second :=
    ⟨merge first.banks second.banks, merge first.buffer second.buffer,
      merge first.shard second.shard⟩

instance : Merging LineCut where
  merge first second := ⟨merge first.dimension second.dimension⟩

instance : Merging MeshCut where
  merge first second := ⟨merge first.mesh second.mesh⟩

instance : Merging Distribution where
  merge
    | .line first, .line second => .line (merge first second)
    | .mesh first, .mesh second => .mesh (merge first second)
    | _, second => second

instance : Merging (Option Distribution) :=
  .optional Distribution

instance : Merging Strategy where
  merge first second := ⟨merge first.distribution second.distribution⟩

/-! ## Systems -/

instance : Merging ChipRecord where
  merge first second :=
    ⟨merge first.architecture second.architecture, merge first.grid second.grid,
      merge first.l1Size second.l1Size, merge first.dramChannels second.dramChannels,
      merge first.dramChannelSize second.dramChannelSize,
      merge first.nocL1Alignment second.nocL1Alignment,
      merge first.pcieAlignment second.pcieAlignment,
      merge first.nocDramAlignment second.nocDramAlignment,
      merge first.l1UnreservedBase second.l1UnreservedBase,
      merge first.dramUnreservedBase second.dramUnreservedBase,
      merge first.dataTypes second.dataTypes, merge first.tileSizes second.tileSizes⟩

instance : Merging ChipPosition where
  merge first second :=
    ⟨merge first.rack second.rack, merge first.shelf second.shelf, merge first.y second.y,
      merge first.x second.x⟩

instance : Merging LinkRecord where
  merge first second :=
    ⟨merge first.firstChip second.firstChip, merge first.firstCore second.firstCore,
      merge first.secondChip second.secondChip, merge first.secondCore second.secondCore⟩

instance : Merging SystemRecord where
  merge first second :=
    ⟨merge first.chips second.chips, merge first.chipIndices second.chipIndices,
      merge first.positions second.positions, merge first.links second.links⟩

/-! ## Debug information -/

instance : Merging Snapshot where
  merge first second := ⟨merge first.name second.name, merge first.source second.source⟩

instance : Merging GoldenRecord where
  merge first second :=
    ⟨merge first.name second.name, merge first.shape second.shape, merge first.stride second.stride,
      merge first.dataType second.dataType, merge first.data second.data⟩

instance : Merging GoldenEntry where
  merge first second := ⟨merge first.key second.key, merge first.value second.value⟩

instance : Merging GoldenTable where
  merge first second := ⟨merge first.entries second.entries⟩

instance : Merging DebugRecord where
  merge first second :=
    ⟨merge first.snapshot second.snapshot, merge first.generatedSource second.generatedSource,
      merge first.passes second.passes, merge first.golden second.golden⟩

/-! ## Operation records -/

namespace OperationRecord

instance : Merging (GetDevice Handle) where
  merge first second :=
    ⟨merge first.mesh second.mesh, merge first.chips second.chips, merge first.out second.out⟩

instance : Merging (ToMemoryConfig Handle) where
  merge first second :=
    ⟨merge first.input second.input, merge first.memoryConfig second.memoryConfig,
      merge first.out second.out⟩

instance : Merging (ToLayout Handle) where
  merge first second :=
    ⟨merge first.input second.input, merge first.format second.format,
      merge first.dataType second.dataType, merge first.memoryConfig second.memoryConfig,
      merge first.device second.device, merge first.out second.out⟩

instance : Merging (Conversion Handle) where
  merge first second :=
    ⟨merge first.input second.input, merge first.dataType second.dataType,
      merge first.out second.out⟩

instance : Merging (ToDevice Handle) where
  merge first second :=
    ⟨merge first.input second.input, merge first.device second.device,
      merge first.memoryConfig second.memoryConfig, merge first.out second.out⟩

instance : Merging (FromDevice Handle) where
  merge first second := ⟨merge first.input second.input, merge first.out second.out⟩

instance : Merging (Empty Handle) where
  merge first second :=
    ⟨merge first.shape second.shape, merge first.dataType second.dataType,
      merge first.format second.format, merge first.numShards second.numShards,
      merge first.device second.device, merge first.memoryConfig second.memoryConfig,
      merge first.strategy second.strategy, merge first.out second.out⟩

instance : Merging (Full Handle) where
  normalized op := { op with fillValue := op.fillValue.normalized }
  merge first second :=
    ⟨merge first.device second.device, merge first.fillValue second.fillValue,
      merge first.numShards second.numShards, merge first.strategy second.strategy,
      merge first.out second.out⟩

instance : Merging (Arange Handle) where
  normalized op :=
    { op with
      start := op.start.normalized
      stop := op.stop.normalized
      step := op.step.normalized }
  merge first second :=
    ⟨merge first.start second.start, merge first.stop second.stop, merge first.step second.step,
      merge first.dataType second.dataType, merge first.device second.device,
      merge first.memoryConfig second.memoryConfig, merge first.out second.out⟩

instance : Merging (ConstantFill Handle) where
  merge first second :=
    ⟨merge first.shape second.shape, merge first.dataType second.dataType,
      merge first.format second.format, merge first.device second.device,
      merge first.memoryConfig second.memoryConfig, merge first.out second.out⟩

instance : Merging ClampParameters where
  normalized := ClampParameters.normalized
  merge first second := ⟨merge first.min second.min, merge first.max second.max⟩

instance : Merging ScalarParameters where
  normalized := ScalarParameters.normalized
  merge first second := ⟨merge first.value second.value⟩

instance : Merging ElementwiseParameters where
  normalized := ElementwiseParameters.normalized
  merge
    | .clamp first, .clamp second => .clamp (merge first second)
    | .scalar first, .scalar second => .scalar (merge first second)
    | _, second => second

instance : Merging (Option ElementwiseParameters) :=
  .optional ElementwiseParameters

instance : Merging (Elementwise Handle) where
  normalized op := { op with parameters := op.parameters.map ElementwiseParameters.normalized }
  merge first second :=
    ⟨merge first.kind second.kind, merge first.inputs second.inputs, merge first.out second.out,
      merge first.parameters second.parameters⟩

instance : Merging (Linear Handle) where
  merge first second :=
    ⟨merge first.a second.a, merge first.b second.b, merge first.bias second.bias,
      merge first.out second.out⟩

instance : Merging (Matmul Handle) where
  merge first second := ⟨merge first.a second.a, merge first.b second.b, merge first.out second.out⟩

instance : Merging (CumulativeSum Handle) where
  merge first second :=
    ⟨merge first.input second.input, merge first.out second.out, merge first.dim second.dim,
      merge first.memoryConfig second.memoryConfig⟩

instance : Merging (Reduction Handle) where
  merge first second :=
    ⟨merge first.kind second.kind, merge first.input second.input, merge first.out second.out,
      merge first.dims second.dims, merge first.keepDim second.keepDim⟩

instance : Merging (Product Handle) where
  merge first second :=
    ⟨merge first.input second.input, merge first.out second.out,
      merge first.allDimensions second.allDimensions, merge first.dim second.dim,
      merge first.keepDim second.keepDim, merge first.memoryConfig second.memoryConfig⟩

instance : Merging (Embedding Handle) where
  merge first second :=
    ⟨merge first.input second.input, merge first.weight second.weight, merge first.out second.out⟩

instance : Merging (EmbeddingBackward Handle) where
  merge first second :=
    ⟨merge first.input second.input, merge first.weight second.weight,
      merge first.inGradient second.inGradient, merge first.dataType second.dataType,
      merge first.memoryConfig second.memoryConfig, merge first.out second.out⟩

instance : Merging (RepeatInterleave Handle) where
  merge first second :=
    ⟨merge first.input second.input, merge first.out second.out, merge first.repeats second.repeats,
      merge first.dim second.dim, merge first.memoryConfig second.memoryConfig⟩

instance : Merging (Softmax Handle) where
  merge first second :=
    ⟨merge first.input second.input, merge first.out second.out,
      merge first.dimension second.dimension⟩

instance : Merging (Transpose Handle) where
  merge first second :=
    ⟨merge first.input second.input, merge first.out second.out, merge first.dim0 second.dim0,
      merge first.dim1 second.dim1⟩

instance : Merging (Convolution Handle) where
  merge first second :=
    ⟨merge first.input second.input, merge first.weight second.weight, merge first.bias second.bias,
      merge first.out second.out, merge first.device second.device,
      merge first.inChannels second.inChannels, merge first.outChannels second.outChannels,
      merge first.batchSize second.batchSize, merge first.inputHeight second.inputHeight,
      merge first.inputWidth second.inputWidth, merge first.kernel second.kernel,
      merge first.stride second.stride, merge first.padding second.padding,
      merge first.dilation second.dilation, merge first.groups second.groups⟩

instance : Merging (TransposedConvolution Handle) where
  merge first second :=
    ⟨merge first.input second.input, merge first.weight second.weight, merge first.bias second.bias,
      merge first.out second.out, merge first.device second.device,
      merge first.inChannels second.inChannels, merge first.outChannels second.outChannels,
      merge first.batchSize second.batchSize, merge first.inputHeight second.inputHeight,
      merge first.inputWidth second.inputWidth, merge first.kernel second.kernel,
      merge first.stride second.stride, merge first.padding second.padding,
      merge first.outputPadding second.outputPadding, merge first.dilation second.dilation,
      merge first.groups second.groups⟩

instance : Merging (AllGather Handle) where
  merge first second :=
    ⟨merge first.input second.input, merge first.out second.out, merge first.device second.device,
      merge first.dim second.dim, merge first.numLinks second.numLinks⟩

instance : Merging (ReduceScatter Handle) where
  merge first second :=
    ⟨merge first.input second.input, merge first.out second.out, merge first.device second.device,
      merge first.scatterSplitDim second.scatterSplitDim, merge first.mathOp second.mathOp,
      merge first.numLinks second.numLinks⟩

instance : Merging (MeshShard Handle) where
  merge first second :=
    ⟨merge first.input second.input, merge first.out second.out, merge first.device second.device,
      merge first.shardDirection second.shardDirection, merge first.shardKind second.shardKind,
      merge first.shardShape second.shardShape, merge first.shardDims second.shardDims⟩

instance : Merging (Concat Handle) where
  merge first second :=
    ⟨merge first.inputs second.inputs, merge first.out second.out, merge first.dim second.dim,
      merge first.memoryConfig second.memoryConfig⟩

instance : Merging (Reshape Handle) where
  merge first second :=
    ⟨merge first.input second.input, merge first.out second.out, merge first.shape second.shape⟩

instance : Merging (RepeatTensor Handle) where
  merge first second :=
    ⟨merge first.input second.input, merge first.out second.out,
      merge first.repeatDims second.repeatDims⟩

instance : Merging (Pad Handle) where
  normalized op := { op with value := op.value.normalized }
  merge first second :=
    ⟨merge first.input second.input, merge first.out second.out, merge first.padding second.padding,
      merge first.value second.value, merge first.useMulticore second.useMulticore,
      merge first.memoryConfig second.memoryConfig⟩

instance : Merging (Slice Handle) where
  merge first second :=
    ⟨merge first.input second.input, merge first.out second.out, merge first.begins second.begins,
      merge first.ends second.ends, merge first.step second.step⟩

instance : Merging (MaxPool Handle) where
  merge first second :=
    ⟨merge first.input second.input, merge first.out second.out, merge first.device second.device,
      merge first.batchSize second.batchSize, merge first.inputHeight second.inputHeight,
      merge first.inputWidth second.inputWidth, merge first.channels second.channels,
      merge first.kernel second.kernel, merge first.stride second.stride,
      merge first.dilation second.dilation, merge first.ceilMode second.ceilMode,
      merge first.padding second.padding⟩

instance : Merging (Deallocate Handle) where
  merge first second := ⟨merge first.input second.input, merge first.force second.force⟩

instance : Merging (UpdateCache Handle) where
  merge first second :=
    ⟨merge first.cache second.cache, merge first.input second.input,
      merge first.updateIndex second.updateIndex, merge first.batchOffset second.batchOffset⟩

instance : Merging (FillCache Handle) where
  merge first second :=
    ⟨merge first.cache second.cache, merge first.input second.input,
      merge first.batchOffset second.batchOffset⟩

instance : Merging (Permute Handle) where
  normalized op := { op with padValue := op.padValue.normalized }
  merge first second :=
    ⟨merge first.input second.input, merge first.permutation second.permutation,
      merge first.memoryConfig second.memoryConfig, merge first.padValue second.padValue,
      merge first.out second.out⟩

instance : Merging UniformScale where
  merge first second := ⟨merge first.scale second.scale⟩

instance : Merging ScalePerDimension where
  merge first second := ⟨merge first.scales second.scales⟩

instance : Merging Scale where
  merge
    | .uniform first, .uniform second => .uniform (merge first second)
    | .perDimension first, .perDimension second => .perDimension (merge first second)
    | _, second => second

instance : Merging (Option Scale) :=
  .optional Scale

instance : Merging (Upsample Handle) where
  merge first second :=
    ⟨merge first.input second.input, merge first.scaleFactor second.scaleFactor,
      merge first.mode second.mode, merge first.memoryConfig second.memoryConfig,
      merge first.out second.out⟩

end OperationRecord

instance : Merging (OperationRecord Handle) where
  normalized := OperationRecord.normalized
  merge
    | .getDevice first, .getDevice second => .getDevice (merge first second)
    | .toMemoryConfig first, .toMemoryConfig second => .toMemoryConfig (merge first second)
    | .toLayout first, .toLayout second => .toLayout (merge first second)
    | .toDType first, .toDType second => .toDType (merge first second)
    | .typecast first, .typecast second => .typecast (merge first second)
    | .toDevice first, .toDevice second => .toDevice (merge first second)
    | .fromDevice first, .fromDevice second => .fromDevice (merge first second)
    | .empty first, .empty second => .empty (merge first second)
    | .full first, .full second => .full (merge first second)
    | .arange first, .arange second => .arange (merge first second)
    | .zeros first, .zeros second => .zeros (merge first second)
    | .ones first, .ones second => .ones (merge first second)
    | .elementwise first, .elementwise second => .elementwise (merge first second)
    | .linear first, .linear second => .linear (merge first second)
    | .matmul first, .matmul second => .matmul (merge first second)
    | .cumulativeSum first, .cumulativeSum second => .cumulativeSum (merge first second)
    | .reduction first, .reduction second => .reduction (merge first second)
    | .product first, .product second => .product (merge first second)
    | .embedding first, .embedding second => .embedding (merge first second)
    | .embeddingBackward first, .embeddingBackward second => .embeddingBackward (merge first second)
    | .repeatInterleave first, .repeatInterleave second => .repeatInterleave (merge first second)
    | .softmax first, .softmax second => .softmax (merge first second)
    | .transpose first, .transpose second => .transpose (merge first second)
    | .convolution first, .convolution second => .convolution (merge first second)
    | .transposedConvolution first, .transposedConvolution second =>
        .transposedConvolution (merge first second)
    | .allGather first, .allGather second => .allGather (merge first second)
    | .reduceScatter first, .reduceScatter second => .reduceScatter (merge first second)
    | .meshShard first, .meshShard second => .meshShard (merge first second)
    | .concat first, .concat second => .concat (merge first second)
    | .reshape first, .reshape second => .reshape (merge first second)
    | .repeatTensor first, .repeatTensor second => .repeatTensor (merge first second)
    | .pad first, .pad second => .pad (merge first second)
    | .slice first, .slice second => .slice (merge first second)
    | .maxPool first, .maxPool second => .maxPool (merge first second)
    | .deallocate first, .deallocate second => .deallocate (merge first second)
    | .updateCache first, .updateCache second => .updateCache (merge first second)
    | .fillCache first, .fillCache second => .fillCache (merge first second)
    | .permute first, .permute second => .permute (merge first second)
    | .upsample first, .upsample second => .upsample (merge first second)
    | _, second => second

instance : Merging (Option (OperationRecord Handle)) :=
  .optional (OperationRecord Handle)

/-! ## Programs and artifacts -/

instance : Merging OperationEntry where
  normalized := OperationEntry.normalized
  merge first second :=
    ⟨merge first.record second.record, merge first.debugText second.debugText,
      merge first.locationText second.locationText⟩

instance : Merging ObjectTables where
  merge first second :=
    ⟨merge first.tensors second.tensors, merge first.devices second.devices,
      merge first.layouts second.layouts, merge first.memories second.memories,
      merge first.memoryConfigs second.memoryConfigs, merge first.shards second.shards,
      merge first.debugInfos second.debugInfos⟩

instance : Merging Program where
  normalized := Program.normalized
  merge first second :=
    ⟨merge first.name second.name, merge first.inputs second.inputs,
      merge first.outputs second.outputs, merge first.operations second.operations,
      merge first.debugInfo second.debugInfo⟩

instance : Merging Binary where
  normalized := Binary.normalized
  merge first second :=
    ⟨merge first.version second.version, merge first.buildIdentity second.buildIdentity,
      merge first.system second.system, merge first.objects second.objects,
      merge first.programs second.programs⟩

end Tilework.Artifact
