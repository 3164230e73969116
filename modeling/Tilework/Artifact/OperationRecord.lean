import Tilework.Artifact.Record

/-!
# Operation records

The record of an operation refers to tensors, devices and memory configurations.
In a finished artifact it does so by handles, which are positions in tables;
before that the same record can hold anything that will be replaced by a handle.
The type of the references is therefore a parameter, and `mapM` replaces them
one after another, in the order of the fields.
-/

namespace Tilework.Artifact

/-! ## Records -/

namespace OperationRecord

/-- The mesh that is opened, and its chips. -/
structure GetDevice (ρ : Type) where
  mesh : Option Extent
  chips : List UInt32
  out : ρ
  deriving Inhabited

structure ToMemoryConfig (ρ : Type) where
  input : ρ
  memoryConfig : ρ
  out : ρ
  deriving Inhabited

structure ToLayout (ρ : Type) where
  input : ρ
  format : Coded DataFormat
  dataType : Option (Coded DataType)
  memoryConfig : Option ρ
  device : Option ρ
  out : ρ
  deriving Inhabited

/-- A conversion on the host or on a device. -/
structure Conversion (ρ : Type) where
  input : ρ
  dataType : Coded DataType
  out : ρ
  deriving Inhabited

structure ToDevice (ρ : Type) where
  input : ρ
  device : ρ
  memoryConfig : Option ρ
  out : ρ
  deriving Inhabited

structure FromDevice (ρ : Type) where
  input : ρ
  out : ρ
  deriving Inhabited

/-- An allocation on `numShards` devices. -/
structure Empty (ρ : Type) where
  shape : List Int64
  dataType : Coded DataType
  format : Coded DataFormat
  numShards : UInt32
  device : Option ρ
  memoryConfig : ρ
  strategy : Option Strategy
  out : ρ
  deriving Inhabited

structure Full (ρ : Type) where
  device : Option ρ
  fillValue : Single
  numShards : UInt32
  strategy : Option Strategy
  out : ρ
  deriving Inhabited

structure Arange (ρ : Type) where
  start : Single
  stop : Single
  step : Single
  dataType : Option (Coded DataType)
  device : Option ρ
  memoryConfig : Option ρ
  out : ρ
  deriving Inhabited

/-- A constant fill, whose constant is implied by the kind of the operation. -/
structure ConstantFill (ρ : Type) where
  shape : List Int64
  dataType : Option (Coded DataType)
  format : Option (Coded DataFormat)
  device : Option ρ
  memoryConfig : Option ρ
  out : ρ
  deriving Inhabited

/-- The bounds of a clamp. -/
structure ClampParameters where
  min : Single
  max : Single
  deriving Inhabited, DecidableEq

/-- A single number. -/
structure ScalarParameters where
  value : Single
  deriving Inhabited, DecidableEq

/-- The numbers that an elementwise record carries. -/
inductive ElementwiseParameters
  | clamp (bounds : ClampParameters)
  | scalar (scalar : ScalarParameters)
  deriving DecidableEq

structure Elementwise (ρ : Type) where
  kind : Coded ElementwiseKind
  inputs : List ρ
  out : ρ
  parameters : Option ElementwiseParameters
  deriving Inhabited

structure Linear (ρ : Type) where
  a : ρ
  b : ρ
  bias : Option ρ
  out : ρ
  deriving Inhabited

structure Matmul (ρ : Type) where
  a : ρ
  b : ρ
  out : ρ
  deriving Inhabited

structure CumulativeSum (ρ : Type) where
  input : ρ
  out : ρ
  dim : Int64
  memoryConfig : Option ρ
  deriving Inhabited

/-- A reduction, over all dimensions when none is listed. -/
structure Reduction (ρ : Type) where
  kind : Coded ReductionKind
  input : ρ
  out : ρ
  dims : List Int32
  keepDim : Bool
  deriving Inhabited

structure Product (ρ : Type) where
  input : ρ
  out : ρ
  allDimensions : Bool
  dim : Int64
  keepDim : Bool
  memoryConfig : Option ρ
  deriving Inhabited

structure Embedding (ρ : Type) where
  input : ρ
  weight : ρ
  out : ρ
  deriving Inhabited

structure EmbeddingBackward (ρ : Type) where
  input : ρ
  weight : ρ
  inGradient : ρ
  dataType : Option (Coded DataType)
  memoryConfig : Option ρ
  out : ρ
  deriving Inhabited

structure RepeatInterleave (ρ : Type) where
  input : ρ
  out : ρ
  repeats : UInt32
  dim : Int32
  memoryConfig : Option ρ
  deriving Inhabited

structure Softmax (ρ : Type) where
  input : ρ
  out : ρ
  dimension : Int32
  deriving Inhabited

structure Transpose (ρ : Type) where
  input : ρ
  out : ρ
  dim0 : Int32
  dim1 : Int32
  deriving Inhabited

structure Convolution (ρ : Type) where
  input : ρ
  weight : ρ
  bias : Option ρ
  out : ρ
  device : ρ
  inChannels : UInt32
  outChannels : UInt32
  batchSize : UInt32
  inputHeight : UInt32
  inputWidth : UInt32
  kernel : Spatial UInt32
  stride : Spatial UInt32
  padding : Spatial UInt32
  dilation : Spatial UInt32
  groups : UInt32
  deriving Inhabited

/-- A transposed convolution, whose spatial attributes are lists. -/
structure TransposedConvolution (ρ : Type) where
  input : ρ
  weight : ρ
  bias : Option ρ
  out : ρ
  device : ρ
  inChannels : UInt32
  outChannels : UInt32
  batchSize : UInt32
  inputHeight : UInt32
  inputWidth : UInt32
  kernel : List Int32
  stride : List Int32
  padding : List Int32
  outputPadding : List Int32
  dilation : List Int32
  groups : UInt32
  deriving Inhabited

structure AllGather (ρ : Type) where
  input : ρ
  out : ρ
  device : ρ
  dim : Int32
  numLinks : UInt32
  deriving Inhabited

/-- A reduction and scattering.  The operator is given by its position among the
collective reductions. -/
structure ReduceScatter (ρ : Type) where
  input : ρ
  out : ρ
  device : ρ
  scatterSplitDim : Int32
  mathOp : UInt32
  numLinks : UInt32
  deriving Inhabited

structure MeshShard (ρ : Type) where
  input : ρ
  out : ρ
  device : ρ
  shardDirection : Coded ShardDirection
  shardKind : Coded ShardKind
  shardShape : List Int64
  shardDims : List Int64
  deriving Inhabited

structure Concat (ρ : Type) where
  inputs : List ρ
  out : ρ
  dim : Int32
  memoryConfig : Option ρ
  deriving Inhabited

structure Reshape (ρ : Type) where
  input : ρ
  out : ρ
  shape : List Int32
  deriving Inhabited

structure RepeatTensor (ρ : Type) where
  input : ρ
  out : ρ
  repeatDims : List Int64
  deriving Inhabited

structure Pad (ρ : Type) where
  input : ρ
  out : ρ
  padding : List UInt32
  value : Single
  useMulticore : Bool
  memoryConfig : Option ρ
  deriving Inhabited

structure Slice (ρ : Type) where
  input : ρ
  out : ρ
  begins : List Int64
  ends : List Int64
  step : List Int64
  deriving Inhabited

structure MaxPool (ρ : Type) where
  input : ρ
  out : ρ
  device : ρ
  batchSize : Int32
  inputHeight : Int32
  inputWidth : Int32
  channels : Int32
  kernel : Spatial Int32
  stride : Spatial Int32
  dilation : Spatial Int32
  ceilMode : Bool
  padding : Spatial Int32
  deriving Inhabited

structure Deallocate (ρ : Type) where
  input : ρ
  force : Bool
  deriving Inhabited

structure UpdateCache (ρ : Type) where
  cache : ρ
  input : ρ
  updateIndex : ρ
  batchOffset : UInt32
  deriving Inhabited

structure FillCache (ρ : Type) where
  cache : ρ
  input : ρ
  batchOffset : UInt32
  deriving Inhabited

structure Permute (ρ : Type) where
  input : ρ
  permutation : List Int64
  memoryConfig : Option ρ
  padValue : Single
  out : ρ
  deriving Inhabited

/-- One factor for both dimensions. -/
structure UniformScale where
  scale : Int32
  deriving Inhabited, DecidableEq

/-- A factor for each dimension. -/
structure ScalePerDimension where
  scales : List Int32
  deriving Inhabited, DecidableEq

/-- The factors of an upsampling. -/
inductive Scale
  | uniform (factor : UniformScale)
  | perDimension (factors : ScalePerDimension)
  deriving DecidableEq

structure Upsample (ρ : Type) where
  input : ρ
  scaleFactor : Option Scale
  mode : String
  memoryConfig : Option ρ
  out : ρ
  deriving Inhabited

end OperationRecord

/-- The record of an operation, with references of type `ρ`. -/
inductive OperationRecord (ρ : Type)
  | getDevice (op : OperationRecord.GetDevice ρ)
  | toMemoryConfig (op : OperationRecord.ToMemoryConfig ρ)
  | toLayout (op : OperationRecord.ToLayout ρ)
  | toDType (op : OperationRecord.Conversion ρ)
  | typecast (op : OperationRecord.Conversion ρ)
  | toDevice (op : OperationRecord.ToDevice ρ)
  | fromDevice (op : OperationRecord.FromDevice ρ)
  | empty (op : OperationRecord.Empty ρ)
  | full (op : OperationRecord.Full ρ)
  | arange (op : OperationRecord.Arange ρ)
  | zeros (op : OperationRecord.ConstantFill ρ)
  | ones (op : OperationRecord.ConstantFill ρ)
  | elementwise (op : OperationRecord.Elementwise ρ)
  | linear (op : OperationRecord.Linear ρ)
  | matmul (op : OperationRecord.Matmul ρ)
  | cumulativeSum (op : OperationRecord.CumulativeSum ρ)
  | reduction (op : OperationRecord.Reduction ρ)
  | product (op : OperationRecord.Product ρ)
  | embedding (op : OperationRecord.Embedding ρ)
  | embeddingBackward (op : OperationRecord.EmbeddingBackward ρ)
  | repeatInterleave (op : OperationRecord.RepeatInterleave ρ)
  | softmax (op : OperationRecord.Softmax ρ)
  | transpose (op : OperationRecord.Transpose ρ)
  | convolution (op : OperationRecord.Convolution ρ)
  | transposedConvolution (op : OperationRecord.TransposedConvolution ρ)
  | allGather (op : OperationRecord.AllGather ρ)
  | reduceScatter (op : OperationRecord.ReduceScatter ρ)
  | meshShard (op : OperationRecord.MeshShard ρ)
  | concat (op : OperationRecord.Concat ρ)
  | reshape (op : OperationRecord.Reshape ρ)
  | repeatTensor (op : OperationRecord.RepeatTensor ρ)
  | pad (op : OperationRecord.Pad ρ)
  | slice (op : OperationRecord.Slice ρ)
  | maxPool (op : OperationRecord.MaxPool ρ)
  | deallocate (op : OperationRecord.Deallocate ρ)
  | updateCache (op : OperationRecord.UpdateCache ρ)
  | fillCache (op : OperationRecord.FillCache ρ)
  | permute (op : OperationRecord.Permute ρ)
  | upsample (op : OperationRecord.Upsample ρ)

namespace OperationRecord

/-! ## References -/

section Traversal

variable {ρ τ : Type} {m : Type → Type} [Monad m] (f : ρ → m τ)

/-- Replace every reference of a record, in the order of its fields. -/
def mapM : OperationRecord ρ → m (OperationRecord τ)
  | getDevice op => return getDevice { op with out := ← f op.out }
  | toMemoryConfig op =>
      return toMemoryConfig
        { input := ← f op.input
          memoryConfig := ← f op.memoryConfig
          out := ← f op.out }
  | toLayout op =>
      return toLayout
        { op with
          input := ← f op.input
          memoryConfig := ← op.memoryConfig.mapM f
          device := ← op.device.mapM f
          out := ← f op.out }
  | toDType op => return toDType { op with input := ← f op.input, out := ← f op.out }
  | typecast op => return typecast { op with input := ← f op.input, out := ← f op.out }
  | toDevice op =>
      return toDevice
        { input := ← f op.input
          device := ← f op.device
          memoryConfig := ← op.memoryConfig.mapM f
          out := ← f op.out }
  | fromDevice op => return fromDevice { input := ← f op.input, out := ← f op.out }
  | empty op =>
      return empty
        { op with
          device := ← op.device.mapM f
          memoryConfig := ← f op.memoryConfig
          out := ← f op.out }
  | full op => return full { op with device := ← op.device.mapM f, out := ← f op.out }
  | arange op =>
      return arange
        { op with
          device := ← op.device.mapM f
          memoryConfig := ← op.memoryConfig.mapM f
          out := ← f op.out }
  | zeros op =>
      return zeros
        { op with
          device := ← op.device.mapM f
          memoryConfig := ← op.memoryConfig.mapM f
          out := ← f op.out }
  | ones op =>
      return ones
        { op with
          device := ← op.device.mapM f
          memoryConfig := ← op.memoryConfig.mapM f
          out := ← f op.out }
  | elementwise op =>
      return elementwise { op with inputs := ← op.inputs.mapM f, out := ← f op.out }
  | linear op =>
      return linear
        { a := ← f op.a
          b := ← f op.b
          bias := ← op.bias.mapM f
          out := ← f op.out }
  | matmul op => return matmul { a := ← f op.a, b := ← f op.b, out := ← f op.out }
  | cumulativeSum op =>
      return cumulativeSum
        { op with
          input := ← f op.input
          out := ← f op.out
          memoryConfig := ← op.memoryConfig.mapM f }
  | reduction op => return reduction { op with input := ← f op.input, out := ← f op.out }
  | product op =>
      return product
        { op with
          input := ← f op.input
          out := ← f op.out
          memoryConfig := ← op.memoryConfig.mapM f }
  | embedding op =>
      return embedding { input := ← f op.input, weight := ← f op.weight, out := ← f op.out }
  | embeddingBackward op =>
      return embeddingBackward
        { op with
          input := ← f op.input
          weight := ← f op.weight
          inGradient := ← f op.inGradient
          memoryConfig := ← op.memoryConfig.mapM f
          out := ← f op.out }
  | repeatInterleave op =>
      return repeatInterleave
        { op with
          input := ← f op.input
          out := ← f op.out
          memoryConfig := ← op.memoryConfig.mapM f }
  | softmax op => return softmax { op with input := ← f op.input, out := ← f op.out }
  | transpose op => return transpose { op with input := ← f op.input, out := ← f op.out }
  | convolution op =>
      return convolution
        { op with
          input := ← f op.input
          weight := ← f op.weight
          bias := ← op.bias.mapM f
          out := ← f op.out
          device := ← f op.device }
  | transposedConvolution op =>
      return transposedConvolution
        { op with
          input := ← f op.input
          weight := ← f op.weight
          bias := ← op.bias.mapM f
          out := ← f op.out
          device := ← f op.device }
  | allGather op =>
      return allGather
        { op with
          input := ← f op.input
          out := ← f op.out
          device := ← f op.device }
  | reduceScatter op =>
      return reduceScatter
        { op with
          input := ← f op.input
          out := ← f op.out
          device := ← f op.device }
  | meshShard op =>
      return meshShard
        { op with
          input := ← f op.input
          out := ← f op.out
          device := ← f op.device }
  | concat op =>
      return concat
        { op with
          inputs := ← op.inputs.mapM f
          out := ← f op.out
          memoryConfig := ← op.memoryConfig.mapM f }
  | reshape op => return reshape { op with input := ← f op.input, out := ← f op.out }
  | repeatTensor op =>
      return repeatTensor { op with input := ← f op.input, out := ← f op.out }
  | pad op =>
      return pad
        { op with
          input := ← f op.input
          out := ← f op.out
          memoryConfig := ← op.memoryConfig.mapM f }
  | slice op => return slice { op with input := ← f op.input, out := ← f op.out }
  | maxPool op =>
      return maxPool
        { op with
          input := ← f op.input
          out := ← f op.out
          device := ← f op.device }
  | deallocate op => return deallocate { op with input := ← f op.input }
  | updateCache op =>
      return updateCache
        { op with
          cache := ← f op.cache
          input := ← f op.input
          updateIndex := ← f op.updateIndex }
  | fillCache op =>
      return fillCache { op with cache := ← f op.cache, input := ← f op.input }
  | permute op =>
      return permute
        { op with
          input := ← f op.input
          memoryConfig := ← op.memoryConfig.mapM f
          out := ← f op.out }
  | upsample op =>
      return upsample
        { op with
          input := ← f op.input
          memoryConfig := ← op.memoryConfig.mapM f
          out := ← f op.out }

end Traversal

/-! ## Tags -/

/-- The number of a kind of record, which is also its field number on the wire. -/
def tag {ρ : Type} : OperationRecord ρ → Nat
  | getDevice _ => 1
  | toMemoryConfig _ => 2
  | toLayout _ => 3
  | toDType _ => 4
  | typecast _ => 5
  | toDevice _ => 6
  | fromDevice _ => 7
  | empty _ => 8
  | full _ => 9
  | arange _ => 10
  | zeros _ => 11
  | ones _ => 12
  | elementwise _ => 13
  | linear _ => 14
  | matmul _ => 15
  | cumulativeSum _ => 16
  | reduction _ => 17
  | product _ => 18
  | embedding _ => 19
  | embeddingBackward _ => 20
  | repeatInterleave _ => 21
  | softmax _ => 22
  | transpose _ => 23
  | convolution _ => 24
  | transposedConvolution _ => 25
  | allGather _ => 26
  | reduceScatter _ => 27
  | meshShard _ => 28
  | concat _ => 29
  | reshape _ => 30
  | repeatTensor _ => 31
  | pad _ => 32
  | slice _ => 33
  | maxPool _ => 34
  | deallocate _ => 35
  | updateCache _ => 36
  | fillCache _ => 37
  | permute _ => 38
  | upsample _ => 39

/-- The tags of all kinds of record. -/
def tags : List Nat :=
  (List.range 39).map (· + 1)

/-- The title of a kind of record. -/
def title {ρ : Type} : OperationRecord ρ → String
  | getDevice _ => "GetDevice"
  | toMemoryConfig _ => "ToMemoryConfig"
  | toLayout _ => "ToLayout"
  | toDType _ => "ToDType"
  | typecast _ => "Typecast"
  | toDevice _ => "ToDevice"
  | fromDevice _ => "FromDevice"
  | empty _ => "Empty"
  | full _ => "Full"
  | arange _ => "Arange"
  | zeros _ => "Zeros"
  | ones _ => "Ones"
  | elementwise _ => "Eltwise"
  | linear _ => "Linear"
  | matmul _ => "Matmul"
  | cumulativeSum _ => "MorehCumSum"
  | reduction _ => "Reduction"
  | product _ => "ReductionProd"
  | embedding _ => "Embedding"
  | embeddingBackward _ => "EmbeddingBackward"
  | repeatInterleave _ => "RepeatInterleave"
  | softmax _ => "Softmax"
  | transpose _ => "Transpose"
  | convolution _ => "Conv2d"
  | transposedConvolution _ => "ConvTranspose2d"
  | allGather _ => "AllGather"
  | reduceScatter _ => "ReduceScatter"
  | meshShard _ => "MeshShard"
  | concat _ => "Concat"
  | reshape _ => "Reshape"
  | repeatTensor _ => "Repeat"
  | pad _ => "Pad"
  | slice _ => "Slice"
  | maxPool _ => "MaxPool2d"
  | deallocate _ => "Deallocate"
  | updateCache _ => "UpdateCache"
  | fillCache _ => "FillCache"
  | permute _ => "Permute"
  | upsample _ => "Upsample"

end OperationRecord

end Tilework.Artifact
