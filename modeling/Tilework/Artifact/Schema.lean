import Tilework.Artifact.Binary
import Tilework.Artifact.RecordSchema

/-!
# Wire format of artifacts

The fields of operation records, of programs and of whole artifacts, with their
numbers on the wire.  The member number of an operation record is its tag.
-/

namespace Tilework.Artifact

open Wire

/-! ## Operation records -/

namespace OperationRecord

instance : Message (GetDevice Handle) where
  fields :=
    [field 1 (·.mesh) fun r mesh => { r with mesh },
     field 2 (·.chips) fun r chips => { r with chips },
     field 3 (·.out) fun r out => { r with out }]

instance : Message (ToMemoryConfig Handle) where
  fields :=
    [field 1 (·.input) fun r input => { r with input },
     field 2 (·.memoryConfig) fun r memoryConfig => { r with memoryConfig },
     field 3 (·.out) fun r out => { r with out }]

instance : Message (ToLayout Handle) where
  fields :=
    [field 1 (·.input) fun r input => { r with input },
     field 2 (·.format) fun r format => { r with format },
     field 3 (·.dataType) fun r dataType => { r with dataType },
     field 4 (·.memoryConfig) fun r memoryConfig => { r with memoryConfig },
     field 5 (·.device) fun r device => { r with device },
     field 6 (·.out) fun r out => { r with out }]

instance : Message (Conversion Handle) where
  fields :=
    [field 1 (·.input) fun r input => { r with input },
     field 2 (·.dataType) fun r dataType => { r with dataType },
     field 3 (·.out) fun r out => { r with out }]

instance : Message (ToDevice Handle) where
  fields :=
    [field 1 (·.input) fun r input => { r with input },
     field 2 (·.device) fun r device => { r with device },
     field 3 (·.memoryConfig) fun r memoryConfig => { r with memoryConfig },
     field 4 (·.out) fun r out => { r with out }]

instance : Message (FromDevice Handle) where
  fields :=
    [field 1 (·.input) fun r input => { r with input },
     field 2 (·.out) fun r out => { r with out }]

instance : Message (Empty Handle) where
  fields :=
    [field 1 (·.shape) fun r shape => { r with shape },
     field 2 (·.dataType) fun r dataType => { r with dataType },
     field 3 (·.format) fun r format => { r with format },
     field 4 (·.numShards) fun r numShards => { r with numShards },
     field 5 (·.device) fun r device => { r with device },
     field 6 (·.memoryConfig) fun r memoryConfig => { r with memoryConfig },
     field 7 (·.strategy) fun r strategy => { r with strategy },
     field 8 (·.out) fun r out => { r with out }]

instance : Message (Full Handle) where
  fields :=
    [field 1 (·.device) fun r device => { r with device },
     field 2 (·.fillValue) fun r fillValue => { r with fillValue },
     field 3 (·.numShards) fun r numShards => { r with numShards },
     field 4 (·.strategy) fun r strategy => { r with strategy },
     field 5 (·.out) fun r out => { r with out }]

instance : Message (Arange Handle) where
  fields :=
    [field 1 (·.start) fun r start => { r with start },
     field 2 (·.stop) fun r stop => { r with stop },
     field 3 (·.step) fun r step => { r with step },
     field 4 (·.dataType) fun r dataType => { r with dataType },
     field 5 (·.device) fun r device => { r with device },
     field 6 (·.memoryConfig) fun r memoryConfig => { r with memoryConfig },
     field 7 (·.out) fun r out => { r with out }]

instance : Message (ConstantFill Handle) where
  fields :=
    [field 1 (·.shape) fun r shape => { r with shape },
     field 2 (·.dataType) fun r dataType => { r with dataType },
     field 3 (·.format) fun r format => { r with format },
     field 4 (·.device) fun r device => { r with device },
     field 5 (·.memoryConfig) fun r memoryConfig => { r with memoryConfig },
     field 6 (·.out) fun r out => { r with out }]

instance : Message ClampParameters where
  fields :=
    [field 1 (·.min) fun r min => { r with min },
     field 2 (·.max) fun r max => { r with max }]

instance : Message ScalarParameters where
  fields :=
    [field 1 (·.value) fun r value => { r with value }]

instance : Message (Elementwise Handle) where
  fields :=
    [field 1 (·.kind) fun r kind => { r with kind },
     field 2 (·.inputs) fun r inputs => { r with inputs },
     field 3 (·.out) fun r out => { r with out },
     choice
      [member 4 ElementwiseParameters.clamp fun | .clamp bounds => some bounds | _ => none,
       member 5 ElementwiseParameters.scalar fun | .scalar scalar => some scalar | _ => none]
      (·.parameters) fun r parameters => { r with parameters }]

instance : Message (Linear Handle) where
  fields :=
    [field 1 (·.a) fun r a => { r with a },
     field 2 (·.b) fun r b => { r with b },
     field 3 (·.bias) fun r bias => { r with bias },
     field 4 (·.out) fun r out => { r with out }]

instance : Message (Matmul Handle) where
  fields :=
    [field 1 (·.a) fun r a => { r with a },
     field 2 (·.b) fun r b => { r with b },
     field 3 (·.out) fun r out => { r with out }]

instance : Message (CumulativeSum Handle) where
  fields :=
    [field 1 (·.input) fun r input => { r with input },
     field 2 (·.out) fun r out => { r with out },
     field 3 (·.dim) fun r dim => { r with dim },
     field 4 (·.memoryConfig) fun r memoryConfig => { r with memoryConfig }]

instance : Message (Reduction Handle) where
  fields :=
    [field 1 (·.kind) fun r kind => { r with kind },
     field 2 (·.input) fun r input => { r with input },
     field 3 (·.out) fun r out => { r with out },
     field 4 (·.dims) fun r dims => { r with dims },
     field 5 (·.keepDim) fun r keepDim => { r with keepDim }]

instance : Message (Product Handle) where
  fields :=
    [field 1 (·.input) fun r input => { r with input },
     field 2 (·.out) fun r out => { r with out },
     field 3 (·.allDimensions) fun r allDimensions => { r with allDimensions },
     field 4 (·.dim) fun r dim => { r with dim },
     field 5 (·.keepDim) fun r keepDim => { r with keepDim },
     field 6 (·.memoryConfig) fun r memoryConfig => { r with memoryConfig }]

instance : Message (Embedding Handle) where
  fields :=
    [field 1 (·.input) fun r input => { r with input },
     field 2 (·.weight) fun r weight => { r with weight },
     field 3 (·.out) fun r out => { r with out }]

instance : Message (EmbeddingBackward Handle) where
  fields :=
    [field 1 (·.input) fun r input => { r with input },
     field 2 (·.weight) fun r weight => { r with weight },
     field 3 (·.inGradient) fun r inGradient => { r with inGradient },
     field 4 (·.dataType) fun r dataType => { r with dataType },
     field 5 (·.memoryConfig) fun r memoryConfig => { r with memoryConfig },
     field 6 (·.out) fun r out => { r with out }]

instance : Message (RepeatInterleave Handle) where
  fields :=
    [field 1 (·.input) fun r input => { r with input },
     field 2 (·.out) fun r out => { r with out },
     field 3 (·.repeats) fun r repeats => { r with repeats },
     field 4 (·.dim) fun r dim => { r with dim },
     field 5 (·.memoryConfig) fun r memoryConfig => { r with memoryConfig }]

instance : Message (Softmax Handle) where
  fields :=
    [field 1 (·.input) fun r input => { r with input },
     field 2 (·.out) fun r out => { r with out },
     field 3 (·.dimension) fun r dimension => { r with dimension }]

instance : Message (Transpose Handle) where
  fields :=
    [field 1 (·.input) fun r input => { r with input },
     field 2 (·.out) fun r out => { r with out },
     field 3 (·.dim0) fun r dim0 => { r with dim0 },
     field 4 (·.dim1) fun r dim1 => { r with dim1 }]

instance : Message (Convolution Handle) where
  fields :=
    [field 1 (·.input) fun r input => { r with input },
     field 2 (·.weight) fun r weight => { r with weight },
     field 3 (·.bias) fun r bias => { r with bias },
     field 4 (·.out) fun r out => { r with out },
     field 5 (·.device) fun r device => { r with device },
     field 6 (·.inChannels) fun r inChannels => { r with inChannels },
     field 7 (·.outChannels) fun r outChannels => { r with outChannels },
     field 8 (·.batchSize) fun r batchSize => { r with batchSize },
     field 9 (·.inputHeight) fun r inputHeight => { r with inputHeight },
     field 10 (·.inputWidth) fun r inputWidth => { r with inputWidth },
     field 11 (·.kernel.height) fun r height => { r with kernel.height := height },
     field 12 (·.kernel.width) fun r width => { r with kernel.width := width },
     field 13 (·.stride.height) fun r height => { r with stride.height := height },
     field 14 (·.stride.width) fun r width => { r with stride.width := width },
     field 15 (·.padding.height) fun r height => { r with padding.height := height },
     field 16 (·.padding.width) fun r width => { r with padding.width := width },
     field 17 (·.dilation.height) fun r height => { r with dilation.height := height },
     field 18 (·.dilation.width) fun r width => { r with dilation.width := width },
     field 19 (·.groups) fun r groups => { r with groups }]

instance : Message (TransposedConvolution Handle) where
  fields :=
    [field 1 (·.input) fun r input => { r with input },
     field 2 (·.weight) fun r weight => { r with weight },
     field 3 (·.bias) fun r bias => { r with bias },
     field 4 (·.out) fun r out => { r with out },
     field 5 (·.device) fun r device => { r with device },
     field 6 (·.inChannels) fun r inChannels => { r with inChannels },
     field 7 (·.outChannels) fun r outChannels => { r with outChannels },
     field 8 (·.batchSize) fun r batchSize => { r with batchSize },
     field 9 (·.inputHeight) fun r inputHeight => { r with inputHeight },
     field 10 (·.inputWidth) fun r inputWidth => { r with inputWidth },
     field 11 (·.kernel) fun r kernel => { r with kernel },
     field 12 (·.stride) fun r stride => { r with stride },
     field 13 (·.padding) fun r padding => { r with padding },
     field 14 (·.outputPadding) fun r outputPadding => { r with outputPadding },
     field 15 (·.dilation) fun r dilation => { r with dilation },
     field 16 (·.groups) fun r groups => { r with groups }]

instance : Message (AllGather Handle) where
  fields :=
    [field 1 (·.input) fun r input => { r with input },
     field 2 (·.out) fun r out => { r with out },
     field 3 (·.device) fun r device => { r with device },
     field 4 (·.dim) fun r dim => { r with dim },
     field 5 (·.numLinks) fun r numLinks => { r with numLinks }]

instance : Message (ReduceScatter Handle) where
  fields :=
    [field 1 (·.input) fun r input => { r with input },
     field 2 (·.out) fun r out => { r with out },
     field 3 (·.device) fun r device => { r with device },
     field 4 (·.scatterSplitDim) fun r scatterSplitDim => { r with scatterSplitDim },
     field 5 (·.mathOp) fun r mathOp => { r with mathOp },
     field 6 (·.numLinks) fun r numLinks => { r with numLinks }]

instance : Message (MeshShard Handle) where
  fields :=
    [field 1 (·.input) fun r input => { r with input },
     field 2 (·.out) fun r out => { r with out },
     field 3 (·.device) fun r device => { r with device },
     field 4 (·.shardDirection) fun r shardDirection => { r with shardDirection },
     field 5 (·.shardKind) fun r shardKind => { r with shardKind },
     field 6 (·.shardShape) fun r shardShape => { r with shardShape },
     field 7 (·.shardDims) fun r shardDims => { r with shardDims }]

instance : Message (Concat Handle) where
  fields :=
    [field 1 (·.inputs) fun r inputs => { r with inputs },
     field 2 (·.out) fun r out => { r with out },
     field 3 (·.dim) fun r dim => { r with dim },
     field 4 (·.memoryConfig) fun r memoryConfig => { r with memoryConfig }]

instance : Message (Reshape Handle) where
  fields :=
    [field 1 (·.input) fun r input => { r with input },
     field 2 (·.out) fun r out => { r with out },
     field 3 (·.shape) fun r shape => { r with shape }]

instance : Message (RepeatTensor Handle) where
  fields :=
    [field 1 (·.input) fun r input => { r with input },
     field 2 (·.out) fun r out => { r with out },
     field 3 (·.repeatDims) fun r repeatDims => { r with repeatDims }]

instance : Message (Pad Handle) where
  fields :=
    [field 1 (·.input) fun r input => { r with input },
     field 2 (·.out) fun r out => { r with out },
     field 3 (·.padding) fun r padding => { r with padding },
     field 4 (·.value) fun r value => { r with value },
     field 5 (·.useMulticore) fun r useMulticore => { r with useMulticore },
     field 6 (·.memoryConfig) fun r memoryConfig => { r with memoryConfig }]

instance : Message (Slice Handle) where
  fields :=
    [field 1 (·.input) fun r input => { r with input },
     field 2 (·.out) fun r out => { r with out },
     field 3 (·.begins) fun r begins => { r with begins },
     field 4 (·.ends) fun r ends => { r with ends },
     field 5 (·.step) fun r step => { r with step }]

instance : Message (MaxPool Handle) where
  fields :=
    [field 1 (·.input) fun r input => { r with input },
     field 2 (·.out) fun r out => { r with out },
     field 3 (·.device) fun r device => { r with device },
     field 4 (·.batchSize) fun r batchSize => { r with batchSize },
     field 5 (·.inputHeight) fun r inputHeight => { r with inputHeight },
     field 6 (·.inputWidth) fun r inputWidth => { r with inputWidth },
     field 7 (·.channels) fun r channels => { r with channels },
     field 8 (·.kernel.height) fun r height => { r with kernel.height := height },
     field 9 (·.kernel.width) fun r width => { r with kernel.width := width },
     field 10 (·.stride.height) fun r height => { r with stride.height := height },
     field 11 (·.stride.width) fun r width => { r with stride.width := width },
     field 12 (·.dilation.height) fun r height => { r with dilation.height := height },
     field 13 (·.dilation.width) fun r width => { r with dilation.width := width },
     field 14 (·.ceilMode) fun r ceilMode => { r with ceilMode },
     field 15 (·.padding.height) fun r height => { r with padding.height := height },
     field 16 (·.padding.width) fun r width => { r with padding.width := width }]

instance : Message (Deallocate Handle) where
  fields :=
    [field 1 (·.input) fun r input => { r with input },
     field 2 (·.force) fun r force => { r with force }]

instance : Message (UpdateCache Handle) where
  fields :=
    [field 1 (·.cache) fun r cache => { r with cache },
     field 2 (·.input) fun r input => { r with input },
     field 3 (·.updateIndex) fun r updateIndex => { r with updateIndex },
     field 4 (·.batchOffset) fun r batchOffset => { r with batchOffset }]

instance : Message (FillCache Handle) where
  fields :=
    [field 1 (·.cache) fun r cache => { r with cache },
     field 2 (·.input) fun r input => { r with input },
     field 3 (·.batchOffset) fun r batchOffset => { r with batchOffset }]

instance : Message (Permute Handle) where
  fields :=
    [field 1 (·.input) fun r input => { r with input },
     field 2 (·.permutation) fun r permutation => { r with permutation },
     field 3 (·.memoryConfig) fun r memoryConfig => { r with memoryConfig },
     field 4 (·.padValue) fun r padValue => { r with padValue },
     field 5 (·.out) fun r out => { r with out }]

instance : Message UniformScale where
  fields :=
    [field 1 (·.scale) fun r scale => { r with scale }]

instance : Message ScalePerDimension where
  fields :=
    [field 1 (·.scales) fun r scales => { r with scales }]

instance : Message (Upsample Handle) where
  fields :=
    [field 1 (·.input) fun r input => { r with input },
     choice
      [member 2 Scale.uniform fun | .uniform factor => some factor | _ => none,
       member 3 Scale.perDimension fun | .perDimension factors => some factors | _ => none]
      (·.scaleFactor) fun r scaleFactor => { r with scaleFactor },
     field 4 (·.mode) fun r mode => { r with mode },
     field 5 (·.memoryConfig) fun r memoryConfig => { r with memoryConfig },
     field 6 (·.out) fun r out => { r with out }]

/-- The kinds of operation records, as members of a choice. -/
def members : List (Member (OperationRecord Handle)) :=
  [member 1 getDevice fun | getDevice op => some op | _ => none,
   member 2 toMemoryConfig fun | toMemoryConfig op => some op | _ => none,
   member 3 toLayout fun | toLayout op => some op | _ => none,
   member 4 toDType fun | toDType op => some op | _ => none,
   member 5 typecast fun | typecast op => some op | _ => none,
   member 6 toDevice fun | toDevice op => some op | _ => none,
   member 7 fromDevice fun | fromDevice op => some op | _ => none,
   member 8 empty fun | empty op => some op | _ => none,
   member 9 full fun | full op => some op | _ => none,
   member 10 arange fun | arange op => some op | _ => none,
   member 11 zeros fun | zeros op => some op | _ => none,
   member 12 ones fun | ones op => some op | _ => none,
   member 13 elementwise fun | elementwise op => some op | _ => none,
   member 14 linear fun | linear op => some op | _ => none,
   member 15 matmul fun | matmul op => some op | _ => none,
   member 16 cumulativeSum fun | cumulativeSum op => some op | _ => none,
   member 17 reduction fun | reduction op => some op | _ => none,
   member 18 product fun | product op => some op | _ => none,
   member 19 embedding fun | embedding op => some op | _ => none,
   member 20 embeddingBackward fun | embeddingBackward op => some op | _ => none,
   member 21 repeatInterleave fun | repeatInterleave op => some op | _ => none,
   member 22 softmax fun | softmax op => some op | _ => none,
   member 23 transpose fun | transpose op => some op | _ => none,
   member 24 convolution fun | convolution op => some op | _ => none,
   member 25 transposedConvolution fun | transposedConvolution op => some op | _ => none,
   member 26 allGather fun | allGather op => some op | _ => none,
   member 27 reduceScatter fun | reduceScatter op => some op | _ => none,
   member 28 meshShard fun | meshShard op => some op | _ => none,
   member 29 concat fun | concat op => some op | _ => none,
   member 30 reshape fun | reshape op => some op | _ => none,
   member 31 repeatTensor fun | repeatTensor op => some op | _ => none,
   member 32 pad fun | pad op => some op | _ => none,
   member 33 slice fun | slice op => some op | _ => none,
   member 34 maxPool fun | maxPool op => some op | _ => none,
   member 35 deallocate fun | deallocate op => some op | _ => none,
   member 36 updateCache fun | updateCache op => some op | _ => none,
   member 37 fillCache fun | fillCache op => some op | _ => none,
   member 38 permute fun | permute op => some op | _ => none,
   member 39 upsample fun | upsample op => some op | _ => none]

end OperationRecord

/-! ## Programs and artifacts -/

instance : Message OperationEntry where
  fields :=
    [choice OperationRecord.members (·.record) fun r record => { r with record },
     field 100 (·.debugText) fun r debugText => { r with debugText },
     field 101 (·.locationText) fun r locationText => { r with locationText }]

instance : Message ObjectTables where
  fields :=
    [field 1 (·.tensors) fun r tensors => { r with tensors },
     field 2 (·.devices) fun r devices => { r with devices },
     field 3 (·.layouts) fun r layouts => { r with layouts },
     field 4 (·.memories) fun r memories => { r with memories },
     field 5 (·.memoryConfigs) fun r memoryConfigs => { r with memoryConfigs },
     field 6 (·.shards) fun r shards => { r with shards },
     field 7 (·.debugInfos) fun r debugInfos => { r with debugInfos }]

instance : Message Program where
  fields :=
    [field 1 (·.name) fun r name => { r with name },
     field 2 (·.inputs) fun r inputs => { r with inputs },
     field 3 (·.outputs) fun r outputs => { r with outputs },
     field 4 (·.operations) fun r operations => { r with operations },
     field 5 (·.debugInfo) fun r debugInfo => { r with debugInfo }]

instance : Message Binary where
  fields :=
    [field 1 (·.version) fun r version => { r with version },
     field 2 (·.buildIdentity) fun r buildIdentity => { r with buildIdentity },
     field 3 (·.system) fun r system => { r with system },
     field 4 (·.objects) fun r objects => { r with objects },
     field 5 (·.programs) fun r programs => { r with programs }]

/-- The message type of the records in a table. -/
instance : (table : Table) → Message table.Record
  | .tensors => inferInstanceAs (Message TensorRecord)
  | .devices => inferInstanceAs (Message DeviceRecord)
  | .layouts => inferInstanceAs (Message LayoutRecord)
  | .memories => inferInstanceAs (Message MemoryRecord)
  | .memoryConfigs => inferInstanceAs (Message MemoryConfigRecord)
  | .shards => inferInstanceAs (Message ShardRecord)
  | .debugInfos => inferInstanceAs (Message DebugRecord)

end Tilework.Artifact
